import EnclaveSigner.Config.FromEnv
import EnclaveSigner.Lib.Text
import EnclaveSigner.Parent.HeaderPacing
import EnclaveSigner.Spv.Chain

/-! # Header sync

The parent keeps the header chain of the enclave at the tip of one Electrum server.
A step reads the tip of the enclave, compares it with the source and sends the
headers that are missing. On a fork it sends the headers from some way below the
tip. It learns the checkpoint of the enclave from a refusal, and from then on no
repair starts at or below it.
-/

namespace EnclaveSigner.Server

open Lib Bitcoin Spv

structure HeaderStore where
  chain : HeaderChain
  limiter : SubmitRateLimiter

namespace HeaderStore

def handleSubmitHeaders (btc : Crate) (startHeight : BlockHeight) (headers : List Bytes)
    (now : Nat) (store : HeaderStore) : EStateM.Result EnclaveError HeaderStore SubmitOutcome :=
  match SubmitRateLimiter.check ⟨.ofNat headers.length, now⟩ store.limiter with
  | .error e limiter => .error e { store with limiter }
  | .ok _ limiter =>
      let nowUnix := UInt64.ofNat (now / 1000000000)
      match HeaderChain.submitHeaders btc startHeight headers nowUnix store.chain with
      | .error e chain => .error (.spv e.message) ⟨chain, limiter⟩
      | .ok outcome chain => .ok outcome ⟨chain, limiter⟩

def handleGetLastSavedBlock (store : HeaderStore) : BlockHeight × BlockHash :=
  (store.chain.tipHeight, store.chain.tipHash)

end HeaderStore

def MAX_ERROR_TEXT_BYTES : Nat := 1024

/-- The characters that fit into so many bytes. -/
def cutText : (bytes : Nat) → List Char → List Char
  | _, [] => []
  | bytes, c :: rest =>
      if c.utf8Size ≤ bytes then c :: cutText (bytes - c.utf8Size) rest else []

def errorText (e : EnclaveError) : String :=
  let len := (utf8 e.message).length
  if len > MAX_ERROR_TEXT_BYTES then
    String.ofList (cutText MAX_ERROR_TEXT_BYTES e.message.toList) ++ s!"... ({len} bytes)"
  else e.message

end EnclaveSigner.Server

namespace EnclaveSigner.Parent

open Lib Bitcoin Spv Server

/-- Headers above a fork point that a fork repair resends. -/
def REWIND : UInt32 := 99

def BELOW_CHECKPOINT : String := "below checkpoint "

/-- What the status of the sync reports. -/
inductive SyncState where
  | off
  | unconfigured
  | syncing
  | synced
  | stalled
  deriving DecidableEq

/-- The connection to an Electrum server. -/
structure Session where
  /-- `blockchain.headers.subscribe`: the height and the header of the tip. -/
  subscribe : Except String (UInt32 × Header)
  /-- `blockchain.block.headers`: headers from a height, for a number of them. -/
  blockHeaders : UInt32 → UInt32 → Except String (List Header)

namespace Session

def tip (session : Session) : Except String (UInt32 × Header) := session.subscribe

/-- The calls until `count` headers are there or the source has no more. Each call
    but the last adds a header, so that `count` calls are enough. -/
def headersLoop (session : Session) (start count : UInt32) :
    (fuel : Nat) → List Header → Except String (List Header)
  | 0, out => .ok out
  | fuel + 1, out =>
      if out.length < count.toNat then do
        let remaining := count - .ofNat out.length
        let next ← okOr "header height overflows" (checkedAdd32 start (.ofNat out.length))
        let reply ← session.blockHeaders next remaining
        refuse (reply.length > remaining.toNat) "source sent more headers than asked"
        if reply = [] then .ok out else session.headersLoop start count fuel (out ++ reply)
      else .ok out

/-- Up to `count` headers from a height. Fewer when the source ends. -/
def headers (session : Session) (start count : UInt32) : Except String (List Header) := do
  refuse (¬ (1 ≤ count ∧ count ≤ MAX_HEADERS)) s!"bad header count {count}"
  session.headersLoop start count count.toNat []

end Session

section Fetch

variable (btc : Crate)

def checkLinks (start : UInt32) : (i : Nat) → List Header → Except String Unit
  | i, first :: second :: rest => do
      refuse (second.prevBlockhash ≠ first.blockHash btc)
        s!"source header {start.toNat + i + 1} does not link to the one before"
      checkLinks start (i + 1) (second :: rest)
  | _, _ => .ok ()

/-- The headers from `start` on, which link to `prev` if that is known. -/
def fetchBatch (session : Session) (s start : UInt32) (prev : Option BlockHash) :
    Except String (UInt32 × Option (UInt32 × List Header)) := do
  let count := min (s - start + 1) MAX_HEADERS
  let headers ← session.headers start count
  refuse (headers = []) "source sent no headers"
  refuse (prev.any fun hash => headers.head?.map (·.prevBlockhash) != some hash)
    s!"source header {start} does not link to the enclave tip"
  checkLinks btc start 0 headers
  pure (s, some (start, headers))

def headerAtTip (session : Session) (s h : UInt32) (tipHeader : Header) : Except String Header :=
  if s = h then pure tipHeader
  else do
    let found ← session.headers h 1
    okOr "source has no header at the enclave tip" found.head?

/-- On one connection: the source tip, and the batch that the enclave is missing above
    its tip `h`, or nothing if it has all headers. A fork is repaired from
    `rewindTo`. -/
def fetch (connect : Except String Session) (h : UInt32) (hash : BlockHash) (rewindTo : UInt32) :
    Except String (UInt32 × Option (UInt32 × List Header)) := do
  let session ← connect
  let (s, tipHeader) ← session.tip
  refuse (¬ s ≥ h) s!"source tip {s} is below the enclave tip {h}"
  let atH ← headerAtTip session s h tipHeader
  if atH.blockHash btc = hash then
    if s = h then pure (s, none) else fetchBatch btc session s (h + 1) (some hash)
  else do
    refuse (¬ s > h)
      (s!"source header at {h} differs from the enclave; " ++
        "waiting for the source to get ahead")
    refuse (¬ rewindTo ≤ h)
      (s!"source header at {h} differs from the enclave at its checkpoint; " ++
        "the chains do not meet")
    fetchBatch btc session s rewindTo none

end Fetch

def checkpointIn (message : String) : Option UInt32 := do
  let rest ← behindFirst BELOW_CHECKPOINT.toList message.toList
  parseU32 (String.ofList (rest.takeWhile Char.isDigit))

/-- What a step meets: the maximum tip age in the answer to the health probe, which is
    zero if the enclave does not use headers; the source, if there is one, with the
    outcome of connecting; and the enclave clock at the submission. -/
structure StepEnv where
  maxTipAgeSecs : Except String UInt32
  source : Option (Except String Session)
  now : Nat

/-- The checkpoint that the parent has learned, and the enclave. -/
structure SyncWorld where
  floor : Option UInt32
  store : HeaderStore

namespace SyncWorld

variable (btc : Crate)

/-- Where a fork repair starts: some way below the tip, but above the checkpoint. -/
def rewindTo (floor : Option UInt32) (h : UInt32) : UInt32 :=
  max (satSub32 h REWIND) (floor.elim 1 (· + 1))

/-- Send a batch. A refusal may name the checkpoint. -/
def submit (start : UInt32) (headers : List Header) (now : Nat) :
    EStateM String SyncWorld SubmitOutcome := fun world =>
  match world.store.handleSubmitHeaders btc start (headers.map (·.serialize)) now with
  | .ok outcome store => .ok outcome { world with store }
  | .error e store =>
      -- Both kinds of refusal are SPV errors, which have this code.
      .error s!"enclave refused headers (code 3): {errorText e}"
        ⟨(checkpointIn (errorText e)).or world.floor, store⟩

def sendBatch (s start : UInt32) (headers : List Header) (now : Nat) :
    EStateM String SyncWorld SyncState := do
  let len := UInt32.ofNat headers.length
  let lastHeight := start + len - 1
  let lastHash ← okOr "source sent no headers" (headers.getLast?.map (·.blockHash btc))
  let reply ← submit btc start headers now
  refuse (¬ (reply.headersAccepted = len ∧ reply.lastBlockHeight = lastHeight ∧
      reply.lastBlockHash = lastHash))
    (s!"enclave reply does not match the batch {start}..={lastHeight}: " ++
      s!"accepted {reply.headersAccepted}, tip {reply.lastBlockHeight}")
  return if lastHeight ≥ s then .synced else .syncing

/-- One step. The wait for the rate before sending takes time only
    (`Parent.HeaderPacing`). -/
def step (env : StepEnv) : EStateM String SyncWorld SyncState := do
  let maxTipAge ← env.maxTipAgeSecs
  if maxTipAge = 0 then return .off
  else
    match env.source with
    | none => return .unconfigured
    | some connect =>
        let world ← get
        let (h, hash) := world.store.handleGetLastSavedBlock
        let (s, batch) ← fetch btc connect h hash (rewindTo world.floor h)
        match batch with
        | none => return .synced
        | some (start, headers) => sendBatch btc s start headers env.now

end SyncWorld

end EnclaveSigner.Parent
