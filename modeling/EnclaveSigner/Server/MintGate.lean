import EnclaveSigner.Config
import EnclaveSigner.Lib.History
import EnclaveSigner.Lib.Task
import EnclaveSigner.Proto
import EnclaveSigner.State.ResultCache

/-! # The replay gate of the mint signer

One `Sign` request from EVM to RGB, as a task over the state that concurrent
requests share: the replay guard and the signed results, each behind its lock,
and the clock. A reading of the clock and the lock that uses it are two steps,
as in the source. The checks in between read the node, the keys and other parts
of the enclave, which change on their own; here they read one `world`.

Each request leaves its marks in a history.
-/

namespace EnclaveSigner.Server

open Lib State Proto

/-- The mint signer: its configuration, the limits of its guard and its cache,
    and what it calls outside the gate. -/
structure MintServer (ω : Type) where
  cfg : BridgeConfig
  keccak : Bytes → Word 32
  sha256 : Bytes → Word 32
  /-- The wire bytes of a request. -/
  encode : MintRequest → Bytes
  opReplayGuard : NonceReplayGuard
  signedResults : SignedResultCache
  Authorized : Type
  Source : Type
  Destination : Type
  /-- Refuses while no key is ready. -/
  withKeys : ω → Result Unit
  verifyFundsInDeposit : MintRequest → ω → Result (Option Authorized)
  validateSource : MintRequest → ω → Result Source
  /-- Reads the clock too, against the deadline of the request. -/
  validateDestination : MintRequest → (deadline now : Nat) → ω → Result Destination
  validateRouteProofs : Source → Destination → Result Unit
  bindFundsInRecipient : Option Authorized → Destination → Result Unit
  /-- The signed PSBT, and the number of inputs that were signed. -/
  signPsbtScoped : Bytes → ω → Result (Bytes × Nat)
  writeMessage : SignedPsbtResponse → ω → Result Unit

/-- What a request leaves in the history. -/
inductive MintEvent (ι : Type) where
  /-- The capacity limit of the guard took an entry. -/
  | evicted (key : Nonce) (generation : UInt64)
  /-- A reservation, with the reading that it is recorded under and the clock at
      that moment. -/
  | reserved (request : ι) (reservation : ReplayReservation) (reading clock : Nat)
  /-- The request reaches the PSBT signer. -/
  | signing (request : ι) (clock : Nat)
  /-- The reply is kept for retries. -/
  | stored (request : ι) (response : SignedPsbtResponse)
  /-- The request ends with a reply. -/
  | replied (request : ι) (response : SignedPsbtResponse)
  | rolledBack (request : ι)
  deriving DecidableEq

/-- What concurrent requests share. The newest event is first. -/
structure MintState (ι ω : Type) where
  world : ω
  clock : Nat
  guard : GuardState
  results : ResultCache SignedPsbtResponse
  history : List (MintEvent ι)

variable {ι ω : Type}

def MintState.start (world : ω) (clock : Nat) : MintState ι ω :=
  ⟨world, clock, .empty, .empty, []⟩

def MintState.record (event : MintEvent ι) (s : MintState ι ω) : MintState ι ω :=
  { s with history := event :: s.history }

/-- What changes while the requests run. -/
inductive MintOutside (ω : Type) where
  | wait (elapsed : Nat)
  | world (world : ω)

def MintState.outside (s : MintState ι ω) : MintOutside ω → MintState ι ω
  | .wait elapsed => { s with clock := s.clock + elapsed }
  | .world world => { s with world }

abbrev MintTask (ι ω : Type) := Task (MintState ι ω) EnclaveError

def readClock : MintTask ι ω Nat := .read fun s => .ok s.clock

def ensureTimeLeft (deadline : Nat) (stage : String) : MintTask ι ω Unit := do
  let now ← readClock
  refuse (now ≥ deadline) (EnclaveError.io s!"request deadline passed before {stage}")

namespace MintServer

variable (server : MintServer ω)

/-- The replay key of a request: the deposit that it mints for. -/
def operationKey (req : MintRequest) : Nonce :=
  let lengthPrefixed (bytes : Bytes) : Bytes := natBe 8 bytes.length ++ bytes
  ⟨server.keccak (List.flatten [utf8 "utexo:psbt-op:v1", natBe 8 server.cfg.chainId.toNat,
    server.cfg.bridgeContract.val, lengthPrefixed req.source.txHash,
    lengthPrefixed req.source.fundsInOperationId, lengthPrefixed (utf8 req.destination.assetId)])⟩

def requestDigest (req : MintRequest) : Word 32 := server.sha256 (server.encode req)

/-- Refuse a known replay early, without a record. -/
def precheckOperation (req : MintRequest) : MintTask ι ω Unit :=
  .read fun s =>
    match server.opReplayGuard.check (server.operationKey req) s.clock s.guard with
    | .error .nonceReplay => .error (.crossCheck ("duplicate bridge operation: refusing to sign " ++
        "a replay (soft in-memory guard; Bitcoin lets only one tx spend the right)"))
    | checked => checked

/-- What the lock of the guard covers: the record, with the marks it leaves. -/
def reserveAt (request : ι) (key : Nonce) (now : Nat) (s : MintState ι ω) :
    Result ReplayReservation × MintState ι ω :=
  match server.opReplayGuard.checkAndRecordAt key now s.guard with
  | .ok generation guard =>
      let evicted := server.opReplayGuard.evictedForRoom now s.guard
      (.ok ⟨key, generation⟩, { s with
        guard
        history := .reserved request ⟨key, generation⟩ now s.clock ::
          (evicted.map fun entry => .evicted entry.1 entry.2) ++ s.history })
  | .error .nonceReplay guard =>
      (.error (.crossCheck ("duplicate bridge operation: this (chain, contract, evm_tx_hash, " ++
        "funds_in_operation_id, rgb_asset_id) was already signed recently - refusing to sign a " ++
        "replay (soft in-memory guard; Bitcoin lets only one tx spend the right)")),
        { s with guard })
  | .error error guard => (.error error, { s with guard })

def reserveOperation (request : ι) (req : MintRequest) : MintTask ι ω ReplayReservation := do
  let now ← readClock
  .atomically (server.reserveAt request (server.operationKey req) now)

def rollBack (request : ι) (reservation : ReplayReservation) : MintTask ι ω Unit :=
  .update fun s => .record (.rolledBack request)
    { s with guard := NonceReplayGuard.remove reservation.nonce reservation.generation s.guard }

/-- The PSBT signer. Its failure is handled by the caller, which still has the
    reservation. -/
def handleSignPsbt (request : ι) (destination : RgbDestination) :
    MintTask ι ω (Result SignedPsbtResponse) :=
  .atomically fun s => (.ok ((server.signPsbtScoped destination.psbtBytes s.world).bind
    signedPsbtResponse), s.record (.signing request s.clock))

def storeResult (request : ι) (req : MintRequest) (response : SignedPsbtResponse) :
    MintTask ι ω Unit := do
  let now ← readClock
  .update fun s =>
    let results := server.signedResults.putAt (server.operationKey req) (server.requestDigest req)
      response now s.results
    .record (.stored request response) { s with results }

/-- The checks between the early replay check and the reservation. -/
def validateMint (req : MintRequest) (deadline : Nat) : MintTask ι ω Unit := do
  let authorized ← .read fun s => server.verifyFundsInDeposit req s.world
  ensureTimeLeft deadline "the deposit check"
  let source ← .read fun s => server.validateSource req s.world
  let destination ← .read fun s => server.validateDestination req deadline s.clock s.world
  server.validateRouteProofs source destination
  server.bindFundsInRecipient authorized destination
  ensureTimeLeft deadline "signing"

def signReserved (request : ι) (req : MintRequest) (reservation : ReplayReservation) :
    MintTask ι ω SignedPsbtResponse := do
  match ← server.handleSignPsbt request req.destination with
  | .ok response =>
      server.storeResult request req response
      pure response
  | .error error =>
      rollBack request reservation
      .fail error

/-- A `Sign` request with an EVM source and an RGB destination. The reservation
    is not committed yet. -/
def handleSign (request : ι) (req : MintRequest) (deadline : Nat) :
    MintTask ι ω (SignedPsbtResponse × Option ReplayReservation) := do
  let () ← .read fun s => server.withKeys s.world
  let now ← readClock
  let cached ← .read fun s => .ok (server.signedResults.getAt (server.operationKey req)
    (server.requestDigest req) now s.results)
  match cached with
  | some response =>
      Task.update (.record (.replied request response))
      pure (response, none)
  | none =>
      server.precheckOperation req
      server.validateMint req deadline
      let reservation ← server.reserveOperation request req
      let response ← server.signReserved request req reservation
      Task.update (.record (.replied request response))
      pure (response, some reservation)

/-- The end of a connection: a reservation is committed once the response is
    written, and rolled back if the write fails. -/
def processConnection (request : ι) (req : MintRequest) (deadline : Nat) :
    MintTask ι ω SignedPsbtResponse := do
  let (response, reservation) ← server.handleSign request req deadline
  let written ← .read fun s => .ok (server.writeMessage response s.world)
  match written, reservation with
  | .ok (), _ => pure response
  | .error error, none => .fail error
  | .error error, some reservation =>
      rollBack request reservation
      .fail error

/-- Requests at work from the start of the enclave. -/
def mintRun [DecidableEq ι] (requests : ι → MintRequest) (deadlines : ι → Nat) (world : ω)
    (clock : Nat) (turns : List (ι ⊕ MintOutside ω)) :
    Pool ι (MintState ι ω) EnclaveError SignedPsbtResponse :=
  Pool.run MintState.outside
    ⟨.start world clock, fun i => server.processConnection i (requests i) (deadlines i)⟩ turns

end MintServer

end EnclaveSigner.Server
