import EnclaveSigner.Attestation.Document
import EnclaveSigner.Lib.Task
import EnclaveSigner.Server.Keys
import EnclaveSigner.State.Enclave

/-! # The cloning handshake

The handlers of the handshake and the handler of attested keys, as tasks over one
world: the states of all enclaves that run this image, and a history of what their
attestation devices have signed. The parent carries every message, so a request is
any bytes at all. Each use of a lock is a step of its own, as in the source, and a
reservation that is not committed is taken back when its handler fails.

A device signs for the machine it is in. What it signs for other images is told from
outside.
-/

namespace EnclaveSigner.Server

open Lib State Attestation

structure InitiateCloningRequest where
  cloningSecret : String
  clusterPublicKey : Bytes

structure InitiateCloningResponse where
  requesterAttestation : Bytes
  encryptionPubkey : Bytes
  cloningDigest : Bytes

structure GetCloneRequest where
  clusterPublicKey : Bytes
  cloningDigest : Bytes
  encryptionPubkey : Bytes
  requesterAttestation : Bytes

structure GetCloneResponse where
  encryptedSeed : Bytes
  donorPubkey : Bytes
  donorAttestation : Bytes

structure SetCloneRequest where
  encryptedSeed : Bytes
  donorPubkey : Bytes
  donorAttestation : Bytes

/-- The registers of a machine. PCR0 to PCR2 measure the image, and PCR3 the role of the
    parent. -/
structure Machine where
  pcrs : ExpectedPcrs
  pcr3 : Word 48
  others : Pcrs
  deriving DecidableEq

def Machine.registers (machine : Machine) : Pcrs :=
  [(0, machine.pcrs.pcr0.val), (1, machine.pcrs.pcr1.val), (2, machine.pcrs.pcr2.val),
    (3, machine.pcr3.val)] ++ machine.others

def Machine.Measures (machine : Machine) (pcrs : Pcrs) : Prop :=
  pcrs.lookup 0 = some machine.pcrs.pcr0.val ∧ pcrs.lookup 1 = some machine.pcrs.pcr1.val ∧
    pcrs.lookup 2 = some machine.pcrs.pcr2.val

inductive NsmQuery where
  | pcrs
  | pcr3
  | attestation

/-- How the attestation device serves one call: its faults, and the bytes and the time of
    the document that it signs. -/
structure Nsm where
  fault : NsmQuery → Option EnclaveError
  document : Bytes
  timestamp : UInt64

def Nsm.answer {α : Type} (nsm : Nsm) (query : NsmQuery) (value : α) : Result α :=
  match nsm.fault query with
  | some error => .error error
  | none => .ok value

def internalFault {α : Type} (x : Result α) : Result α :=
  x.mapError fun error => .internal error.message

/-- What a call gets beside its request: a nonce or the reason that there is none, the
    secret of a new X25519 keypair, and the device. -/
structure CallInputs where
  nonce : Except String (Word 32)
  ephemeral : Word 32
  nsm : Nsm

/-- A document, signed and in the clear. -/
structure Issued where
  doc : Bytes
  document : AttestationDocument
  deriving DecidableEq

/-- A seed that a donor has sealed: the keys of the donor and its secret, both X25519 keys
    and the ciphertext, and the attestation that the requester was accepted with. -/
structure SealedClone where
  keys : KeyManager
  secret : String
  requesterKey : Word 32
  ephemeral : Word 32
  donorKey : Word 32
  ciphertext : Bytes
  accepted : VerifiedAttestation
  deriving DecidableEq

/-- A seed that a requester has installed: its session and the new keys, what it was
    given, and the attestation that the donor was accepted with. -/
structure InstalledClone where
  session : CloningSession
  keys : KeyManager
  donorKey : Word 32
  ciphertext : Bytes
  accepted : VerifiedAttestation
  deriving DecidableEq

/-- What the enclaves have done in the handshake. -/
inductive CloneEvent (ε : Type) where
  /-- `InitiateCloning` has a session key attested. -/
  | initiated (requester : ε) (session : CloneSession) (target : EvmAddress) (secret : String)
      (issued : Issued)
  /-- `GetClone` has a sealed seed attested. -/
  | sealedFor (donor : ε) (clone : SealedClone) (issued : Issued)
  /-- `GetAttestedPublicKey` has keys or a policy attested. -/
  | attested (enclave : ε) (issued : Issued)
  /-- An image other than those of the enclaves has something attested. -/
  | foreign (issued : Issued)
  /-- `SetClone` goes to Active. -/
  | installed (requester : ε) (clone : InstalledClone)
  deriving DecidableEq

def CloneEvent.issued? {ε : Type} : CloneEvent ε → Option Issued
  | initiated _ _ _ _ issued => some issued
  | sealedFor _ _ issued => some issued
  | attested _ issued => some issued
  | foreign issued => some issued
  | installed _ _ => none

/-- All enclaves of the image, and what has happened. -/
structure CloneWorld (ε : Type) where
  clock : Nat
  state : ε → EnclaveState
  history : List (CloneEvent ε)

namespace CloneWorld

variable {ε : Type}

def record (event : CloneEvent ε) (world : CloneWorld ε) : CloneWorld ε :=
  { world with history := event :: world.history }

def setState [DecidableEq ε] (e : ε) (state : EnclaveState) (world : CloneWorld ε) :
    CloneWorld ε :=
  { world with state := Function.update world.state e state }

end CloneWorld

/-- The enclaves that run this image, with what they call outside it. A document that
    authenticates has been signed before. -/
structure CloneNet (ε : Type) where
  crypto : CloneCrypto
  /-- The EVM address of a seed. -/
  derive : Seed → Except Fault EvmAddress
  replayGuard : NonceReplayGuard
  machine : ε → Machine
  ctx : ε → KeysContext
  /-- The keys that an enclave has from the start. -/
  initially : ε → Option KeyManager
  authenticate : CloneWorld ε → Bytes → Except VerifyError AttestationDocument
  unforgeable : ∀ world doc document, authenticate world doc = .ok document →
    ∃ event ∈ world.history, event.issued? = some ⟨doc, document⟩

abbrev CloneTask (ε : Type) := Task (CloneWorld ε) Fault

def raise {α : Type} (x : Result α) : Except Fault α := x.mapError .error

instance {σ : Type} : MonadLift (Except EnclaveError) (Task σ Fault) where
  monadLift x := .ofExcept (raise x)

def fixedBytes (n : Nat) (name : String) (bytes : Bytes) : Result (Word n) :=
  okOr (.invalidRequest s!"{name} must be {n} bytes, got {bytes.length}") (Word.ofBytes? n bytes)

def freshNonce (inputs : CallInputs) : Result (Word 32) :=
  inputs.nonce.mapError fun e => .internal s!"entropy generation failed: {e}"

namespace CloneNet

section Steps

variable {ε α : Type}

def instantNow : CloneTask ε Nat := .read fun world => .ok world.clock

def ask (e : ε) (view : EnclaveState → Result α) : CloneTask ε α :=
  .read fun world => raise (view (world.state e))

variable [DecidableEq ε]

def onEnclave (e : ε) (work : EnclaveState → Except Fault α × EnclaveState) : CloneTask ε α :=
  .atomically fun world =>
    ((work (world.state e)).1, world.setState e (work (world.state e)).2)

def enterCloning (session : CloningSession) (now : Nat) (state : EnclaveState) :
    Except Fault Unit × EnclaveState :=
  match EnclaveState.enterCloningAt session now state with
  | .ok () state => (.ok (), state)
  | .error fault state => (.error fault, state)

def reserveExportQuota (state : EnclaveState) :
    Except Fault ExportQuotaReservation × EnclaveState :=
  match EnclaveState.reserveExportQuota state with
  | .ok reservation state => (.ok reservation, state)
  | .error error state => (.error (.error error), state)

def commitExport (e : ε) (reservation : ExportQuotaReservation) : CloneTask ε Unit :=
  onEnclave e fun state => (.ok (), (reservation.commit state).2)

def dropExport (e : ε) (reservation : ExportQuotaReservation) : CloneTask ε Unit :=
  onEnclave e fun state => (.ok (), reservation.dropped state)

def releaseNonce (e : ε) (reservation : ReplayReservation) : CloneTask ε Unit :=
  onEnclave e fun state => (.ok (), { state with
    replayGuard :=
      NonceReplayGuard.remove reservation.nonce reservation.generation state.replayGuard })

end Steps

variable {ε : Type} [DecidableEq ε] (net : CloneNet ε)

omit [DecidableEq ε] in
def fromSeed (seed : Seed) : Except Fault KeyManager := do
  let evmAddress ← net.derive seed
  pure ⟨seed, evmAddress⟩

def reserveNonce (nonce : Nonce) (now : Nat) (state : EnclaveState) :
    Except Fault ReplayReservation × EnclaveState :=
  match net.replayGuard.checkAndRecordAt nonce now state.replayGuard with
  | .ok generation replayGuard => (.ok ⟨nonce, generation⟩, { state with replayGuard })
  | .error error replayGuard => (.error (.error error), { state with replayGuard })

/-- What the device signs: the registers of its machine, and what it is asked for. -/
def document (e : ε) (inputs : CallInputs) (request : AttestationRequest) :
    AttestationDocument where
  pcrs := (net.machine e).registers
  timestamp := inputs.nsm.timestamp
  publicKey := request.publicKey
  userData := request.userData
  nonce := some request.nonce.val

def issue (e : ε) (inputs : CallInputs) (request : AttestationRequest)
    (event : Issued → CloneEvent ε) : CloneTask ε Bytes := do
  Task.update (.record (event ⟨inputs.nsm.document, net.document e inputs request⟩))
  pure inputs.nsm.document

def verifyPeerAttestation (doc : Bytes) (expected : ExpectedPcrs) :
    CloneTask ε VerifiedAttestation :=
  .read fun world => raise
    ((verifyAttestation (net.authenticate world) doc expected none).mapError
      VerifyError.toEnclaveError)

def verifyClonePeer (e : ε) (inputs : CallInputs) (doc : Bytes) (expected : ExpectedPcrs) :
    CloneTask ε VerifiedAttestation := do
  let verified ← net.verifyPeerAttestation doc expected
  let ownPcr3 ← inputs.nsm.answer .pcr3 (net.machine e).pcr3
  checkClonePeerPcr3 ownPcr3 verified
  pure verified

def bundle (e : ε) (keys : KeyManager) : PublicKeysResponse :=
  buildPublicKeysResponse (keys.keyInfo (net.ctx e).derived) (net.ctx e).bridgeConfig

def handleInitiateCloning (e : ε) (inputs : CallInputs) (req : InitiateCloningRequest) :
    CloneTask ε InitiateCloningResponse := do
  validateCloningSecret req.cloningSecret
  let clusterPublicKey ← fixedBytes 20 "cluster_public_key" req.clusterPublicKey
  let session := CloneSession.new net.crypto inputs.ephemeral
  let nonce ← freshNonce inputs
  let cloningDigest :=
    makeCloningDigest net.crypto req.cloningSecret session.publicKey clusterPublicKey
  inputs.nsm.answer .attestation ()
  let attestation ← net.issue e inputs
    ⟨nonce, some session.publicKey.val, some cloningDigest.val⟩
    (.initiated e session clusterPublicKey req.cloningSecret)
  let createdAt ← instantNow
  let pending ← CloningSession.newAt session clusterPublicKey req.cloningSecret createdAt
  let now ← instantNow
  onEnclave e (enterCloning pending now)
  pure ⟨attestation, session.publicKey.val, cloningDigest.val⟩

/-- Seal the seed with a new keypair, and have the response attested. `secret` and
    `accepted` go to the history only. -/
def sealSeed (e : ε) (inputs : CallInputs) (encryptionPk : Word 32) (secret : String)
    (accepted : VerifiedAttestation) : CloneTask ε GetCloneResponse := do
  let (encryptedSeed, donorPubkey) ← ask e fun state => state.withActive fun keys =>
    encryptSeedForPeer net.crypto inputs.ephemeral encryptionPk keys.seed
  let donorNonce ← freshNonce inputs
  let keys ← ask e fun state => state.withActive .ok
  let policy ← (net.ctx e).commitmentBytes
  let commitment := cloneCommitment net.crypto.sha256 (net.bundle e keys) policy encryptionPk
    donorPubkey encryptedSeed
  internalFault (inputs.nsm.answer .attestation ())
  let donorAttestation ← net.issue e inputs
    ⟨donorNonce, some donorPubkey.val, some commitment.val⟩
    (.sealedFor e ⟨keys, secret, encryptionPk, inputs.ephemeral, donorPubkey, encryptedSeed,
      accepted⟩)
  pure ⟨encryptedSeed, donorPubkey.val, donorAttestation⟩

def sealReserved (e : ε) (inputs : CallInputs) (encryptionPk : Word 32) (secret : String)
    (verified : VerifiedAttestation) : CloneTask ε GetCloneResponse := do
  let nonce ← okOr (EnclaveError.attestation "attestation nonce has wrong length")
    (Word.ofBytes? 32 verified.nonce)
  let now ← instantNow
  let reservation ← onEnclave e (net.reserveNonce ⟨nonce⟩ now)
  (net.sealSeed e inputs encryptionPk secret verified).onError (releaseNonce e reservation)

def handleGetClone (e : ε) (inputs : CallInputs) (req : GetCloneRequest) :
    CloneTask ε GetCloneResponse := do
  let clusterPk ← fixedBytes 20 "cluster_public_key" req.clusterPublicKey
  let encryptionPk ← fixedBytes 32 "encryption_pubkey" req.encryptionPubkey
  let digest ← fixedBytes 32 "cloning_digest" req.cloningDigest
  let ourEvm ← ask e fun state => state.withActive fun keys => .ok keys.evmAddress
  refuse (clusterPk ≠ ourEvm) (EnclaveError.invalidRequest
    (s!"cluster_public_key {hexEncode clusterPk.val} does not match this enclave's address " ++
      hexEncode ourEvm.val))
  let secret ← ask e fun state => state.withDonorCloningSecret fun secret => do
    refuse (verifyCloningDigest net.crypto secret encryptionPk clusterPk digest = false)
      .digestMismatch
    pure secret
  let expected ← internalFault (inputs.nsm.answer .pcrs (net.machine e).pcrs)
  let verified ← net.verifyClonePeer e inputs req.requesterAttestation expected
  refuse (verified.enclavePubkey ≠ encryptionPk.val) EnclaveError.pubkeyMismatch
  let userData ← okOr
    (EnclaveError.attestation "requester attestation missing user_data (cloning digest)")
    verified.userData
  refuse (userData ≠ digest.val) EnclaveError.digestMismatch
  let reservation ← onEnclave e reserveExportQuota
  let response ← (net.sealReserved e inputs encryptionPk secret verified).onError
    (dropExport e reservation)
  commitExport e reservation
  pure response

/-- What `SetClone` does with the session while the phase is locked. -/
def openClone (e : ε) (req : SetCloneRequest) (donorPubkey : Word 32)
    (verified : VerifiedAttestation) (session : CloningSession) : Except Fault KeyManager := do
  let seed ← raise
    (session.session.decryptSeedFromPeer net.crypto donorPubkey req.encryptedSeed)
  let keys ← net.fromSeed seed
  raise (refuse (keys.evmAddress ≠ session.clusterPublicKey) .identityMismatch)
  let policy ← raise (net.ctx e).commitmentBytes
  let expected := cloneCommitment net.crypto.sha256 (net.bundle e keys) policy
    session.session.publicKey donorPubkey req.encryptedSeed
  raise (verifyCloneCommitment verified.userData expected)
  pure keys

/-- The mark of a state that goes from Cloning to Active. -/
def installs (e : ε) (req : SetCloneRequest) (donorPubkey : Word 32)
    (verified : VerifiedAttestation) : (before after : Phase) → List (CloneEvent ε)
  | .cloning session, .active keys =>
      [.installed e ⟨session, keys, donorPubkey, req.encryptedSeed, verified⟩]
  | _, _ => []

def completeCloning (e : ε) (req : SetCloneRequest) (donorPubkey : Word 32)
    (verified : VerifiedAttestation) : CloneTask ε Unit :=
  .atomically fun world =>
    match EnclaveState.completeCloning (net.openClone e req donorPubkey verified) (world.state e)
      with
    | .ok () state =>
        let marks := installs e req donorPubkey verified (world.state e).phase state.phase
        (.ok (), { world.setState e state with history := marks ++ world.history })
    | .error fault state => (.error fault, world.setState e state)

def handleSetClone (e : ε) (inputs : CallInputs) (req : SetCloneRequest) : CloneTask ε Unit := do
  let donorPubkey ← fixedBytes 32 "donor_pubkey" req.donorPubkey
  let expected ← inputs.nsm.answer .pcrs (net.machine e).pcrs
  let verified ← net.verifyClonePeer e inputs req.donorAttestation expected
  refuse (verified.enclavePubkey ≠ donorPubkey.val) EnclaveError.pubkeyMismatch
  let nonce ← okOr (EnclaveError.attestation "attestation nonce has wrong length")
    (Word.ofBytes? 32 verified.nonce)
  let now ← instantNow
  let reservation ← onEnclave e (net.reserveNonce ⟨nonce⟩ now)
  (net.completeCloning e req donorPubkey verified).onError (releaseNonce e reservation)

def handleGetAttestedPublicKey (e : ε) (inputs : CallInputs) (requestNonce : Bytes) :
    CloneTask ε GetAttestedPublicKeyResponse := do
  let keys ← Task.read fun world => .ok ((world.state e).withActive fun keys =>
    .ok (keys.keyInfo (net.ctx e).derived))
  let (request, publicKeys, attestedPolicy) ←
    attestKeys net.crypto.sha256 (net.ctx e) requestNonce keys
  inputs.nsm.answer .attestation ()
  let attestationDoc ← net.issue e inputs request (.attested e)
  pure { publicKeys, attestationDoc, attestedPolicy }

end CloneNet

inductive CloneRequest where
  | initiateCloning (req : InitiateCloningRequest)
  | getClone (req : GetCloneRequest)
  | setClone (req : SetCloneRequest)
  | getAttestedPublicKey (nonce : Bytes)

inductive CloneResponse where
  | initiateCloning (response : InitiateCloningResponse)
  | getClone (response : GetCloneResponse)
  | setClone
  | getAttestedPublicKey (response : GetAttestedPublicKeyResponse)

/-- A request at one of the enclaves. -/
structure CloneCall (ε : Type) where
  enclave : ε
  inputs : CallInputs
  request : CloneRequest

/-- What happens outside the enclaves. A foreign document is that of an image which none
    of the enclaves runs. -/
inductive CloneOutside {ε : Type} (net : CloneNet ε) where
  | wait (elapsed : Nat)
  | foreign (issued : Issued) (other : ∀ e, ¬ (net.machine e).Measures issued.document.pcrs)

namespace CloneNet

variable {ε : Type} [DecidableEq ε] (net : CloneNet ε)

def handle (call : CloneCall ε) : CloneTask ε CloneResponse :=
  match call.request with
  | .initiateCloning req => do
      let response ← net.handleInitiateCloning call.enclave call.inputs req
      pure (.initiateCloning response)
  | .getClone req => do
      let response ← net.handleGetClone call.enclave call.inputs req
      pure (.getClone response)
  | .setClone req => do
      net.handleSetClone call.enclave call.inputs req
      pure .setClone
  | .getAttestedPublicKey nonce => do
      let response ← net.handleGetAttestedPublicKey call.enclave call.inputs nonce
      pure (.getAttestedPublicKey response)

omit [DecidableEq ε] in
def outside (world : CloneWorld ε) : CloneOutside net → CloneWorld ε
  | .wait elapsed => { world with clock := world.clock + elapsed }
  | .foreign issued _ => world.record (.foreign issued)

/-- Calls at work on one world, in the order of a schedule. -/
def run {ι : Type} [DecidableEq ι] (calls : ι → CloneCall ε) (start : CloneWorld ε)
    (turns : List (ι ⊕ CloneOutside net)) : Pool ι (CloneWorld ε) Fault CloneResponse :=
  Pool.run net.outside ⟨start, fun i => net.handle (calls i)⟩ turns

end CloneNet

end EnclaveSigner.Server
