import EnclaveSigner.Parent.AttestVerify
import EnclaveSigner.Server.CloneSafety

/-! # The cloning handshake over whole runs

Any number of calls at any number of enclaves, in any order of their steps.
-/

namespace EnclaveSigner.Server

open Lib State Attestation Task

namespace CloneNet

variable {ε : Type} (net : CloneNet ε)

/-- Nothing has been signed, and no enclave is in a handshake. -/
structure Starts (world : CloneWorld ε) : Prop where
  history : world.history = []
  active : ∀ e keys, (world.state e).phase = .active keys ↔ net.initially e = some keys
  idle : ∀ e session, (world.state e).phase ≠ .cloning session
  made : ∀ e keys, (world.state e).phase = .active keys → net.fromSeed keys.seed = .ok keys

/-- Key and message of the digest in an event. -/
def maced : CloneEvent ε → List (String × Bytes)
  | .initiated _ session target secret _ => [(secret, session.publicKey.val ++ target.val)]
  | .sealedFor _ clone _ =>
      [(clone.secret, clone.requesterKey.val ++ clone.keys.evmAddress.val)]
  | _ => []

/-- Digests that are equal, of those that occur, have one message and keys that are the
    same to HMAC. -/
def MacsApart (same : String → String → Prop) (history : List (CloneEvent ε)) : Prop :=
  ∀ a ∈ history.flatMap maced, ∀ b ∈ history.flatMap maced,
    net.crypto.hmacSha256 (utf8 a.1) a.2 = net.crypto.hmacSha256 (utf8 b.1) b.2 →
      same a.1 b.1 ∧ a.2 = b.2

/-- The block that HMAC makes of a key. A long key is hashed, and zeros are put at the end. -/
def keyBlock (secret : String) : Bytes :=
  let key := if (utf8 secret).length ≤ 64 then utf8 secret
    else (net.crypto.sha256 (utf8 secret)).val
  key ++ List.replicate (64 - key.length) 0

/-- Two secrets that no digest tells apart, such as one and the same with a zero at its end. -/
def SameBlock (a b : String) : Prop := net.keyBlock a = net.keyBlock b

def transcript (e : ε) (keys : KeyManager) (requester donor : Word 32) (ciphertext : Bytes) :
    List Bytes :=
  match (net.ctx e).commitmentBytes with
  | .ok policy =>
      [cloneTranscript net.crypto.sha256 (net.bundle e keys) policy requester donor ciphertext,
        policy, ciphertext]
  | .error _ => []

def hashed : CloneEvent ε → List Bytes
  | .sealedFor e clone _ =>
      net.transcript e clone.keys clone.requesterKey clone.donorKey clone.ciphertext
  | .installed e clone =>
      net.transcript e clone.keys clone.session.session.publicKey clone.donorKey clone.ciphertext
  | _ => []

/-- No two values that occur have one SHA-256, both sides of X25519 agree, and what is
    sealed can be opened. -/
structure Ideal (history : List (CloneEvent ε)) : Prop where
  sha256 : ∀ a ∈ history.flatMap net.hashed, ∀ b ∈ history.flatMap net.hashed,
    net.crypto.sha256 a = net.crypto.sha256 b → a = b
  agree : ∀ a b, net.crypto.diffieHellman a (net.crypto.x25519 b) =
    net.crypto.diffieHellman b (net.crypto.x25519 a)
  opens : ∀ key nonce plaintext ciphertext,
    net.crypto.encrypt key nonce plaintext = .ok ciphertext →
      net.crypto.decrypt key nonce ciphertext = .ok plaintext

/-- A peer of the donor has made the key of the clone in `InitiateCloning`, with the `same`
    secret as the donor and for its address. -/
structure SealedForPeer (same : String → String → Prop) (world : CloneWorld ε) (donor : ε)
    (clone : SealedClone) (requester : ε) (session : CloneSession) : Prop where
  active : (world.state donor).phase = .active clone.keys
  secret : (world.state donor).donorSecret = some clone.secret
  initiated : ∃ secret issued, same secret clone.secret ∧
    .initiated requester session clone.keys.evmAddress secret issued ∈ world.history
  made : session = .new net.crypto session.secret
  key : session.publicKey = clone.requesterKey
  seed : encryptSeedForPeer net.crypto clone.ephemeral session.publicKey clone.keys.seed =
    .ok (clone.ciphertext, clone.donorKey)
  machine : (net.machine requester).Same (net.machine donor)

/-- An active peer has sealed the keys for this session, under the same policy. -/
structure InstalledFromPeer (world : CloneWorld ε) (requester : ε) (clone : InstalledClone)
    (donor : ε) (source : SealedClone) : Prop where
  installed : (world.state requester).phase = .active clone.keys
  active : (world.state donor).phase = .active clone.keys
  target : clone.keys.evmAddress = clone.session.clusterPublicKey
  sealedFor : ∃ issued, .sealedFor donor source issued ∈ world.history
  key : source.requesterKey = clone.session.session.publicKey
  donorKey : source.donorKey = clone.donorKey
  ciphertext : source.ciphertext = clone.ciphertext
  policy : (net.ctx donor).commitmentBytes = (net.ctx requester).commitmentBytes
  machine : (net.machine donor).Same (net.machine requester)

/-- An enclave with the same image, role and policy has had the keys from the start. -/
def Rooted (e : ε) (keys : KeyManager) : Prop :=
  ∃ origin, net.initially origin = some keys ∧
    (net.machine origin).Same (net.machine e) ∧
    (net.ctx origin).commitmentBytes = (net.ctx e).commitmentBytes

def KeysRooted : CloneEvent ε → Prop
  | .sealedFor donor clone _ => net.Rooted donor clone.keys
  | .installed requester clone => net.Rooted requester clone.keys
  | _ => True

/-- The session key that an event attests. -/
def sessionKey? : CloneEvent ε → Option (Word 32)
  | .initiated _ session _ _ _ => some session.publicKey
  | _ => none

variable {net} {world : CloneWorld ε}

theorem Acquired.rooted {past : List (CloneEvent ε)} {e : ε} {keys : KeyManager}
    (acquired : net.Acquired past e keys) (olds : ∀ event ∈ past, net.KeysRooted event) :
    net.Rooted e keys := by
  rcases acquired with initially | ⟨clone, member, rfl⟩
  · exact ⟨e, initially, ⟨rfl, rfl⟩, rfl⟩
  · exact olds _ member

theorem Starts.inv (starts : net.Starts world) : net.Inv world where
  legal := starts.history ▸ legal_nil
  session e session cloning := absurd cloning (starts.idle e session)
  made := starts.made
  acquired e keys active := .inl ((starts.active e keys).mp active)
  donors := by simp [starts.history]
  requesters := by simp [starts.history]

theorem Ideal.opens_sealed {history : List (CloneEvent ε)} (ideal : net.Ideal history)
    {ephemeral secret donorKey : Word 32} {seed : Seed} {ciphertext : Bytes}
    (done : encryptSeedForPeer net.crypto ephemeral (net.crypto.x25519 secret) seed =
      .ok (ciphertext, donorKey)) :
    (CloneSession.new net.crypto secret).decryptSeedFromPeer net.crypto donorKey ciphertext =
      .ok seed := by
  simp only [encryptSeedForPeer, encryptWithKey, bind_ok, mapError_ok] at done
  obtain ⟨⟨⟩, contributory, _, encrypted, ⟨⟩⟩ := done
  have decrypted := ideal.opens _ _ _ _ encrypted
  rw [ideal.agree] at contributory decrypted
  simp only [CloneSession.decryptSeedFromPeer, CloneSession.new, decryptWithKey, bind_ok,
    mapError_ok, okOr_ok, Word.ofBytes?_eq_some]
  exact ⟨(), contributory, seed.val, decrypted, rfl⟩

theorem transcript_eq {e : ε} {policy : Bytes} (own : (net.ctx e).commitmentBytes = .ok policy)
    (keys : KeyManager) (requester donor : Word 32) (ciphertext : Bytes) :
    net.transcript e keys requester donor ciphertext =
      [cloneTranscript net.crypto.sha256 (net.bundle e keys) policy requester donor ciphertext,
        policy, ciphertext] := by
  rw [transcript, own]

theorem cloneTranscript_inj {sha256 : Bytes → Word 32} {bundle bundle' : PublicKeysResponse}
    {policy policy' ciphertext ciphertext' : Bytes} {requester requester' donor donor' : Word 32}
    (same : cloneTranscript sha256 bundle policy requester donor ciphertext =
      cloneTranscript sha256 bundle' policy' requester' donor' ciphertext') :
    sha256 policy = sha256 policy' ∧ requester = requester' ∧ donor = donor' ∧
      sha256 ciphertext = sha256 ciphertext' := by
  have last {front front' : Bytes} {a b : Word 32} (same : front ++ a.val = front' ++ b.val) :
      front = front' ∧ a = b := by
    have fields := List.append_inj' same ((Word.length_val a).trans (Word.length_val b).symm)
    exact ⟨fields.1, Subtype.ext fields.2⟩
  obtain ⟨same, ciphertexts⟩ := last same
  obtain ⟨same, donors⟩ := last same
  obtain ⟨same, requesters⟩ := last same
  exact ⟨(last same).2, requesters, donors, ciphertexts⟩

section Events

variable (inv : net.Inv world) (ideal : net.Ideal world.history)

include inv

theorem sealedFor_peer {same : String → String → Prop} (macs : net.MacsApart same world.history)
    {donor : ε} {clone : SealedClone} {issued : Issued}
    (member : .sealedFor donor clone issued ∈ world.history) :
    ∃ requester session, net.SealedForPeer same world donor clone requester session := by
  obtain ⟨past, older, sealedTo, -, -, -, requester, session, target, secret, proof, seals⟩ :=
    inv.legal.of_mem member
  have initiated := older seals.initiated
  obtain ⟨_, -, made, -⟩ := inv.legal.of_mem initiated
  obtain ⟨sameSecret, sameMessage⟩ := macs (secret, session.publicKey.val ++ target.val)
    (List.mem_flatMap.mpr ⟨_, initiated, List.mem_cons_self⟩)
    (clone.secret, clone.requesterKey.val ++ clone.keys.evmAddress.val)
    (List.mem_flatMap.mpr ⟨_, member, List.mem_cons_self⟩) seals.digest
  dsimp only at sameMessage
  rw [seals.key] at sameMessage
  obtain rfl := Subtype.ext (List.append_cancel_left sameMessage)
  obtain ⟨active, held⟩ := inv.donors donor clone issued member
  exact ⟨requester, session, active, held, ⟨secret, proof, sameSecret, initiated⟩, made, seals.key,
    seals.key ▸ sealedTo, seals.machine⟩

include ideal

theorem installed_peer {requester : ε} {clone : InstalledClone} {past : List (CloneEvent ε)}
    (member : .installed requester clone ∈ world.history) (older : past ⊆ world.history)
    (admitted : net.Admits past (.installed requester clone)) :
    ∃ donor source issued, .sealedFor donor source issued ∈ past ∧
      net.InstalledFromPeer world requester clone donor source := by
  obtain ⟨⟨_, begun⟩, opened, target, -, donor, source, issued, policy, policy', installs⟩ :=
    admitted
  have sealedFor := older installs.sealedFor
  obtain ⟨_, -, sealedTo, -⟩ := inv.legal.of_mem sealedFor
  have active := (inv.donors donor source issued sealedFor).1
  obtain ⟨_, -, made, -⟩ := inv.legal.of_mem (older begun)
  have installed := (inv.requesters requester clone member).1
  have mine := transcript_eq installs.ownPolicy clone.keys clone.session.session.publicKey
    clone.donorKey clone.ciphertext
  have theirs := transcript_eq installs.donorPolicy source.keys source.requesterKey
    source.donorKey source.ciphertext
  have occurs {bytes : Bytes} : bytes ∈ net.hashed (.installed requester clone) ++
      net.hashed (.sealedFor donor source issued) → bytes ∈ world.history.flatMap net.hashed := by
    intro either
    rcases List.mem_append.mp either with here | there
    · exact List.mem_flatMap.mpr ⟨_, member, here⟩
    · exact List.mem_flatMap.mpr ⟨_, sealedFor, there⟩
  rw [hashed, hashed, mine, theirs] at occurs
  have commitments := List.append_cancel_left (congrArg Subtype.val installs.commitment)
  have transcripts := ideal.sha256 _ (occurs (by simp)) _ (occurs (by simp))
    (Subtype.ext commitments)
  obtain ⟨policies, keys, donorKeys, ciphertexts⟩ := cloneTranscript_inj transcripts
  obtain rfl := ideal.sha256 _ (occurs (by simp)) _ (occurs (by simp)) policies
  have ciphertexts := ideal.sha256 _ (occurs (by simp)) _ (occurs (by simp)) ciphertexts
  rw [keys, made] at sealedTo
  have reopened := ideal.opens_sealed sealedTo
  rw [made, ← donorKeys, ← ciphertexts, reopened] at opened
  have sameKeys : source.keys = clone.keys := by
    have derived := inv.made requester clone.keys installed
    rw [← Except.ok.inj opened, inv.made donor source.keys active] at derived
    exact Except.ok.inj derived
  exact ⟨donor, source, issued, installs.sealedFor, installed, sameKeys ▸ active, target,
    ⟨issued, sealedFor⟩, keys, donorKeys, ciphertexts,
    installs.donorPolicy.trans installs.ownPolicy.symm, installs.machine⟩

theorem active_rooted {e : ε} {keys : KeyManager} (active : (world.state e).phase = .active keys) :
    net.Rooted e keys := by
  have all : ∀ event ∈ world.history, net.KeysRooted event := by
    refine inv.legal.induct fun past event older member admitted olds => ?_
    cases event with
    | sealedFor donor clone issued => exact admitted.2.2.2.1.rooted olds
    | installed requester clone =>
        obtain ⟨donor, source, issued, sealedFor, peer⟩ :=
          installed_peer inv ideal member older admitted
        obtain ⟨origin, initially, machine, policy⟩ := olds _ sealedFor
        have active := (inv.donors donor source issued (older sealedFor)).1
        have same := Phase.active.inj (active.symm.trans peer.active)
        exact ⟨origin, same ▸ initially, ⟨machine.1.trans peer.machine.1,
          machine.2.trans peer.machine.2⟩, policy.trans peer.policy⟩
    | _ => trivial
  exact (inv.acquired e keys active).rooted all

end Events

section Runs

variable [DecidableEq ε]

/-- The answer to a call tells what is in the history. -/
def Recorded (call : CloneCall ε) (world : CloneWorld ε) : CloneResponse → Prop
  | .getClone response => ∃ req clone issued, call.request = .getClone req ∧
      .sealedFor call.enclave clone issued ∈ world.history ∧
      clone.requesterKey.val = req.encryptionPubkey ∧
      response = ⟨clone.ciphertext, clone.donorKey.val, issued.doc⟩
  | .setClone => ∃ req clone, call.request = .setClone req ∧
      .installed call.enclave clone ∈ world.history ∧ clone.donorKey.val = req.donorPubkey ∧
      clone.ciphertext = req.encryptedSeed
  | _ => True

theorem handle_safe (call : CloneCall ε) :
    net.Safe (net.handle call)
      (fun response later => ∀ world, later world → Recorded call world response)
      fun _ => True := by
  obtain ⟨e, inputs, request⟩ := call
  cases request with
  | initiateCloning req =>
      exact (handleInitiateCloning_safe req).bind fun _ _ _ _ _ _ _ => trivial
  | getAttestedPublicKey nonce =>
      exact (handleGetAttestedPublicKey_safe nonce).bind fun _ _ _ _ _ _ _ => trivial
  | getClone req =>
      refine (handleGetClone_safe req).bind ?_
      rintro response later later' weaker ⟨encryptionPk, fixed, exported⟩ world there
      obtain ⟨clone, issued, member, rfl, same⟩ := exported world (weaker world there)
      exact ⟨req, clone, issued, rfl, member, fixed.symm, same⟩
  | setClone req =>
      refine (handleSetClone_safe req).bind ?_
      rintro _ later later' weaker ⟨clone, donorKey, ciphertext, installed⟩ world there
      exact ⟨req, clone, rfl, installed world (weaker world there), donorKey, ciphertext⟩

theorem run_kept {ι : Type} [DecidableEq ι] (calls : ι → CloneCall ε) {start : CloneWorld ε}
    (starts : net.Starts start) (turns : List (ι ⊕ CloneOutside net)) :
    (net.run calls start turns).Kept net.Inv (fun _ => Grows) net.outside fun i response later =>
      ∀ world, later world → Recorded (calls i) world response := by
  refine Pool.Kept.run ⟨starts.inv, fun i => ⟨fun _ => True, stable_true, trivial, ?_⟩⟩
    (fun _ call inv => inv.outside call) turns
  refine (handle_safe (calls i)).imp (fun _ _ => id) ?_ (fun _ => id) ?_
  · rintro before after (⟨_, -, grows⟩ | ⟨call, rfl⟩)
    · exact grows
    · exact outside_grows before call
  · exact fun response later later' weaker recorded world there =>
      recorded world (weaker world there)

/-- In every schedule, a seed leaves a donor only for a key that a peer with its secret
    made for it, a requester installs only the keys of an active peer, from a ciphertext
    for its own session, and attested keys serve in neither step. -/
theorem clone_handshake_is_safe {ι : Type} [DecidableEq ι] (calls : ι → CloneCall ε)
    (start : CloneWorld ε) (starts : net.Starts start) (turns : List (ι ⊕ CloneOutside net))
    (ideal : net.Ideal (net.run calls start turns).shared.history)
    (macs : net.MacsApart (· = ·) (net.run calls start turns).shared.history) :
    let world := (net.run calls start turns).shared
    (∀ i response, (net.run calls start turns).task i = .done response →
      Recorded (calls i) world response) ∧
    (∀ donor clone issued, .sealedFor donor clone issued ∈ world.history →
      ∃ requester session, net.SealedForPeer (· = ·) world donor clone requester session) ∧
    (∀ requester clone, .installed requester clone ∈ world.history →
      ∃ donor source, net.InstalledFromPeer world requester clone donor source) ∧
    ∀ e issued, .attested e issued ∈ world.history →
      (∀ donor clone proof, .sealedFor donor clone proof ∈ world.history →
        ¬ Accepts issued.document clone.accepted) ∧
      ∀ requester clone, .installed requester clone ∈ world.history →
        ¬ Accepts issued.document clone.accepted := by
  have kept := run_kept calls starts turns
  have inv := kept.here
  refine ⟨fun i response finished => ?_, fun donor clone issued => sealedFor_peer inv macs,
    fun requester clone member => ?_, fun e issued member => ⟨?_, ?_⟩⟩
  · obtain ⟨holds, -, here, meets⟩ := kept.rest i
    rw [finished] at meets
    exact meets _ here
  · obtain ⟨past, older, admitted⟩ := inv.legal.of_mem member
    obtain ⟨donor, source, -, -, peer⟩ := installed_peer inv ideal member older admitted
    exact ⟨donor, source, peer⟩
  · intro donor clone proof sealedFor
    obtain ⟨_, -, _, _, keyed, _⟩ := inv.legal.of_mem sealedFor
    exact attested_unfit inv member keyed
  · intro requester clone installed
    obtain ⟨_, -, _, _, _, keyed, _⟩ := inv.legal.of_mem installed
    exact attested_unfit inv member keyed

/-- In every schedule, the keys of an active enclave are those of one that was active from
    the start, and both have the same image, role and policy. -/
theorem keys_stay_in_their_image {ι : Type} [DecidableEq ι] (calls : ι → CloneCall ε)
    (start : CloneWorld ε) (starts : net.Starts start) (turns : List (ι ⊕ CloneOutside net))
    (ideal : net.Ideal (net.run calls start turns).shared.history) (e : ε) (keys : KeyManager)
    (active : ((net.run calls start turns).shared.state e).phase = .active keys) :
    ∃ origin, (start.state origin).phase = .active keys ∧
      (net.machine origin).Same (net.machine e) ∧
      (net.ctx origin).commitmentBytes = (net.ctx e).commitmentBytes := by
  obtain ⟨origin, initially, same⟩ := active_rooted (run_kept calls starts turns).here ideal active
  exact ⟨origin, (starts.active origin keys).mpr initially, same⟩

/-- Where no two sessions have one key, both ends of a handshake agree: the donor sealed
    for this enclave and this session, and to HMAC the clone has the secret of the donor. -/
theorem clone_peers_agree {ι : Type} [DecidableEq ι] (calls : ι → CloneCall ε)
    (start : CloneWorld ε) (starts : net.Starts start) (turns : List (ι ⊕ CloneOutside net))
    (ideal : net.Ideal (net.run calls start turns).shared.history)
    (macs : net.MacsApart net.SameBlock (net.run calls start turns).shared.history)
    (fresh : ∀ a ∈ (net.run calls start turns).shared.history,
      ∀ b ∈ (net.run calls start turns).shared.history,
        (sessionKey? a).isSome → sessionKey? a = sessionKey? b → a = b)
    (requester : ε) (clone : InstalledClone)
    (member : .installed requester clone ∈ (net.run calls start turns).shared.history) :
    let world := (net.run calls start turns).shared
    ∃ donor source, net.InstalledFromPeer world requester clone donor source ∧
      net.SealedForPeer net.SameBlock world donor source requester clone.session.session ∧
      (world.state requester).donorSecret.map net.keyBlock
        = (world.state donor).donorSecret.map net.keyBlock ∧
      (world.state donor).donorSecret.isSome := by
  have inv := (run_kept calls starts turns).here
  obtain ⟨past, older, admitted⟩ := inv.legal.of_mem member
  obtain ⟨donor, source, issued, sealedFor, peer⟩ := installed_peer inv ideal member older admitted
  obtain ⟨other, session, found⟩ := sealedFor_peer inv macs (older sealedFor)
  obtain ⟨_, begun⟩ := admitted.1
  obtain ⟨_, _, sameBlock, initiated⟩ := found.initiated
  have same := fresh _ initiated _ (older begun) rfl
    (congrArg some (found.key.trans peer.key))
  injection same with sameEnclave sameSession sameTarget sameSecret
  refine ⟨donor, source, peer, sameEnclave ▸ sameSession ▸ found, ?_, by rw [found.secret]; rfl⟩
  rw [(inv.requesters requester clone member).2, found.secret, ← sameSecret]
  exact congrArg some sameBlock

end Runs

section Sample

/-! A donor, a requester and the development policy. The parent also asks the donor for
its attested keys. -/

open Parent

def requesterKey : Word 32 :=
  .ofNatBe 32 0xce8d3ad1ccb633ec7b70c17814a5c76ecd029685050d344745ba05870e587d59

def donorKey : Word 32 :=
  .ofNatBe 32 0x5dfedd3b6bd47f6fa28ee15d969d5bb0ea53774d488bdaf9df1c6e0124b3ef22

def sampleCiphertext : Bytes := natBe 80
  0x0c91de2d1a2dc6db1e294fdf05ef25fa6f58777faf56a95895b16ec67bbc714b18228a99929fb702ad505388df1fa3c08dd8a9ba36c58b296b5f9343c7dd9ad10715807512954de6491740c25368c390

def sharedSecret : Word 32 :=
  .ofNatBe 32 0x7c425a51f6a7f2e60012b0a34dd6511017807708b502ee66a2a247f171fda96c

def symmetricKey : Word 32 :=
  .ofNatBe 32 0x30dfb4f3d8220b3b9e0c74b265f2c284acfe0060dbe3bb8ed0949bba6f8a7f0f

def donorPassphrase : String := "correct horse battery staple 2026"

def handshakeSha256 : Bytes → Word 32 :=
  let inner := tableHash [
    (canonicalPubkeyBundle sampleBundle, .ofNatBe 32
      0xbe8ab24460b33343c4aea630199720ca11128a92bdc38fc64096521303a37621),
    (AttestedPolicy.development.toBytes, .ofNatBe 32
      0x47dc540c94ceb704a23875c11273e16bb0b8a87aed84de911f2133568115f254),
    (sampleCiphertext, .ofNatBe 32
      0xb2ec9efa821a62a613d72e230543bfab51f78cf167467dc072d3a6b367b60dd3),
    (keyedPreimage sampleBundle AttestedPolicy.development.toBytes, .ofNatBe 32
      0x3b034f02d45856a2182c166d710906e910496c7f5e85ac6a9e7f9bbf061358b2)]
  fun bytes =>
    if bytes = cloneTranscript inner sampleBundle AttestedPolicy.development.toBytes requesterKey
      donorKey sampleCiphertext then
      .ofNatBe 32 0x30ffa1728a8ec320bb72e42e06330a50d99b254efb9165b424efc7a56d9ed7c4
    else inner bytes

def handshakeX25519 (secret : Word 32) : Word 32 :=
  tableHash [(List.replicate 32 2, requesterKey), (List.replicate 32 3, donorKey)] secret.val

def handshakeCrypto : CloneCrypto where
  hmacSha256 := fun key message => tableHash [
    (utf8 donorPassphrase ++ requesterKey.val ++ sampleKeyManager.evmAddress.val,
      .ofNatBe 32 0xf32c9c4afd6ec4a43ad1a6c33b323ee770d04caadea60688d352d2721d49cac6)]
    (key ++ message)
  sha256 := handshakeSha256
  x25519 := handshakeX25519
  diffieHellman := fun secret peer =>
    if handshakeX25519 secret = requesterKey ∧ peer = donorKey ∨
        handshakeX25519 secret = donorKey ∧ peer = requesterKey then sharedSecret
    else .zero 32
  wasContributory := fun shared => shared ≠ .zero 32
  hkdfSha256 := fun salt shared info => tableHash [
    (HKDF_SALT ++ sharedSecret.val ++ HKDF_INFO ++ donorKey.val ++ requesterKey.val, symmetricKey)]
    (salt ++ shared ++ info)
  encrypt := fun key nonce plaintext =>
    if key = symmetricKey ∧ nonce = ZERO_NONCE ∧ plaintext = sampleKeyManager.seed.val then
      .ok sampleCiphertext
    else .error "aead::Error"
  decrypt := fun key nonce ciphertext =>
    if key = symmetricKey ∧ nonce = ZERO_NONCE ∧ ciphertext = sampleCiphertext then
      .ok sampleKeyManager.seed.val
    else .error "aead::Error"

def handshakeNet : CloneNet Bool where
  crypto := handshakeCrypto
  derive := fun _ => .ok sampleKeyManager.evmAddress
  replayGuard := ⟨16, 600000⟩
  machine := fun _ => ⟨⟨.fill 48 1, .fill 48 2, .fill 48 3⟩, .fill 48 4, []⟩
  ctx := fun _ => sampleKeysContext
  initially := fun e => if e then none else some sampleKeyManager
  authenticate := fun world doc =>
    match (world.history.filterMap CloneEvent.issued?).find? (·.doc = doc) with
    | some issued => .ok issued.document
    | none => .error (.attestation "COSE signature verification failed")
  unforgeable := by
    intro world doc document authentic
    split at authentic <;> cases authentic
    rename_i issued found
    obtain ⟨event, member, same⟩ := List.mem_filterMap.mp (List.mem_of_find?_eq_some found)
    have named := List.find?_some found
    exact ⟨event, member, by simpa [← of_decide_eq_true named] using same⟩

def handshakeStart : CloneWorld Bool where
  clock := 0
  state := fun
    | false => ((EnclaveState.new 0).setPhase (.active sampleKeyManager)).setDonorSecret
        donorPassphrase
    | true => .new 0
  history := []

def handshakeCalls (i : Fin 4) : CloneCall Bool :=
  let inputs (secret document : UInt8) : CallInputs :=
    ⟨.ok (.fill 32 document), .fill 32 secret, fun _ => none, [0xD2, document], 1⟩
  let digest := handshakeCrypto.hmacSha256 (utf8 donorPassphrase)
    (requesterKey.val ++ sampleKeyManager.evmAddress.val)
  match i with
  | 0 => ⟨true, inputs 2 10, .initiateCloning
      ⟨donorPassphrase, sampleKeyManager.evmAddress.val⟩⟩
  | 1 => ⟨false, inputs 0 11, .getAttestedPublicKey (List.replicate 32 7)⟩
  | 2 => ⟨false, inputs 3 12, .getClone
      ⟨sampleKeyManager.evmAddress.val, digest.val, requesterKey.val, [0xD2, 10]⟩⟩
  | 3 => ⟨true, inputs 0 13, .setClone ⟨sampleCiphertext, donorKey.val, [0xD2, 12]⟩⟩

def handshakeTurns : List (Fin 4 ⊕ CloneOutside handshakeNet) :=
  [.inl 1] ++ List.replicate 4 (.inl 0) ++ List.replicate 5 (.inl 2) ++ [.inr (.wait 20), .inl 1] ++
    List.replicate 5 (.inl 2) ++ List.replicate 4 (.inl 3)

theorem handshakeRun_ideal : handshakeNet.Ideal
    (handshakeNet.run handshakeCalls handshakeStart handshakeTurns).shared.history where
  sha256 := by decide +kernel
  agree := fun _ _ => if_congr (by tauto) rfl rfl
  opens := by
    intro key nonce plaintext ciphertext encrypted
    dsimp only [handshakeNet, handshakeCrypto] at encrypted ⊢
    split_ifs at encrypted with known
    cases encrypted
    rw [if_pos ⟨known.1, known.2.1, rfl⟩, known.2.2]

theorem handshakeRun_macs : handshakeNet.MacsApart (· = ·)
    (handshakeNet.run handshakeCalls handshakeStart handshakeTurns).shared.history := by
  unfold MacsApart
  decide +kernel

theorem handshakeStart_starts : handshakeNet.Starts handshakeStart where
  history := rfl
  active e keys := by
    cases e
    · exact ⟨fun same => congrArg some (Phase.active.inj same),
        fun same => congrArg Phase.active (Option.some.inj same)⟩
    · exact ⟨nofun, nofun⟩
  idle e session cloning := by cases e <;> cases cloning
  made e keys active := by
    cases e <;> cases active
    rfl

def lastInstalled : List (CloneEvent Bool) → Bool
  | .installed true _ :: _ => true
  | _ => false

def holdsSampleKeys : Phase → Bool
  | .active keys => keys = sampleKeyManager
  | _ => false

theorem handshakeRun_installed : ∃ clone, .installed true clone ∈
    (handshakeNet.run handshakeCalls handshakeStart handshakeTurns).shared.history := by
  have last : lastInstalled (handshakeNet.run handshakeCalls handshakeStart
      handshakeTurns).shared.history = true := by decide +kernel
  generalize (handshakeNet.run handshakeCalls handshakeStart handshakeTurns).shared.history =
    history at last ⊢
  unfold lastInstalled at last
  split at last
  · exact ⟨_, List.mem_cons_self⟩
  · cases last

/-- The requester ends with the keys of the donor. -/
theorem clone_handshake_is_safe_two_enclaves : ∃ clone donor source,
    handshakeNet.InstalledFromPeer
      (handshakeNet.run handshakeCalls handshakeStart handshakeTurns).shared true clone donor
      source := by
  obtain ⟨-, -, installed, -⟩ := clone_handshake_is_safe handshakeCalls handshakeStart
    handshakeStart_starts handshakeTurns handshakeRun_ideal handshakeRun_macs
  obtain ⟨clone, member⟩ := handshakeRun_installed
  exact ⟨clone, installed true clone member⟩

theorem keys_stay_in_their_image_requester : ∃ origin,
    (handshakeStart.state origin).phase = .active sampleKeyManager ∧
      (handshakeNet.machine origin).Same (handshakeNet.machine true) ∧
      (handshakeNet.ctx origin).commitmentBytes = (handshakeNet.ctx true).commitmentBytes := by
  refine keys_stay_in_their_image handshakeCalls handshakeStart handshakeStart_starts
    handshakeTurns handshakeRun_ideal true sampleKeyManager ?_
  generalize ended : ((handshakeNet.run handshakeCalls handshakeStart handshakeTurns).shared.state
    true).phase = phase
  have last : holdsSampleKeys ((handshakeNet.run handshakeCalls handshakeStart
      handshakeTurns).shared.state true).phase = true := by decide +kernel
  rw [ended] at last
  unfold holdsSampleKeys at last
  split at last
  · exact congrArg Phase.active (of_decide_eq_true last)
  · cases last

theorem clone_peers_agree_two_enclaves : ∃ clone donor source,
    handshakeNet.SealedForPeer handshakeNet.SameBlock
      (handshakeNet.run handshakeCalls handshakeStart handshakeTurns).shared donor source true
      clone := by
  obtain ⟨clone, member⟩ := handshakeRun_installed
  have macs : handshakeNet.MacsApart handshakeNet.SameBlock _ := fun a first b second equal =>
    (handshakeRun_macs a first b second equal).imp_left (congrArg handshakeNet.keyBlock)
  obtain ⟨donor, source, -, sealedFor, -⟩ := clone_peers_agree handshakeCalls handshakeStart
    handshakeStart_starts handshakeTurns handshakeRun_ideal macs (by decide +kernel) true clone member
  exact ⟨_, donor, source, sealedFor⟩

end Sample

end CloneNet

end EnclaveSigner.Server
