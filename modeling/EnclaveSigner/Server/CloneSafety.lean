import EnclaveSigner.Lib.History
import EnclaveSigner.Server.Cloning

/-! # Safety of the cloning handshake

Three kinds of documents are signed by the same device, and only the lengths of their
fields and the hashes in them tell one from another. The history of the enclaves obeys
a law in every schedule.
-/

namespace EnclaveSigner.Server

open Lib State EnclaveState Attestation Task

/-- Two machines with one image and one role. -/
def Machine.Same (a b : Machine) : Prop := a.pcrs = b.pcrs ∧ a.pcr3 = b.pcr3

/-- The attestation is the verified form of the document. -/
structure Accepts (document : AttestationDocument) (verified : VerifiedAttestation) : Prop where
  key : document.publicKey = some verified.enclavePubkey
  registers : document.pcrs = verified.pcrs
  data : document.userData = verified.userData

namespace CloneNet

variable {ε : Type} (net : CloneNet ε)

/-- The device of `e` has signed a document with this key and these data. -/
structure Signs (e : ε) (issued : Issued) (key : Option Bytes) (data : Option Bytes) : Prop where
  registers : issued.document.pcrs = (net.machine e).registers
  key : issued.document.publicKey = key
  data : issued.document.userData = data

def commitment (e : ε) (keys : KeyManager) (policy : Bytes) (requester donor : Word 32)
    (ciphertext : Bytes) : Word 36 :=
  cloneCommitment net.crypto.sha256 (net.bundle e keys) policy requester donor ciphertext

/-- What a donor had seen when it sealed its seed. -/
structure SealsTo (past : List (CloneEvent ε)) (donor : ε) (clone : SealedClone)
    (requester : ε) (session : CloneSession) (target : EvmAddress) (secret : String)
    (issued : Issued) : Prop where
  initiated : .initiated requester session target secret issued ∈ past
  accepts : Accepts issued.document clone.accepted
  key : session.publicKey = clone.requesterKey
  digest : makeCloningDigest net.crypto secret session.publicKey target =
    makeCloningDigest net.crypto clone.secret clone.requesterKey clone.keys.evmAddress
  machine : (net.machine requester).Same (net.machine donor)

structure InstallsFrom (past : List (CloneEvent ε)) (requester : ε) (clone : InstalledClone)
    (donor : ε) (seed : SealedClone) (issued : Issued) (policy policy' : Bytes) : Prop where
  sealedFor : .sealedFor donor seed issued ∈ past
  accepts : Accepts issued.document clone.accepted
  donorPolicy : (net.ctx donor).commitmentBytes = .ok policy
  ownPolicy : (net.ctx requester).commitmentBytes = .ok policy'
  commitment : net.commitment donor seed.keys policy seed.requesterKey seed.donorKey
      seed.ciphertext =
    net.commitment requester clone.keys policy' clone.session.session.publicKey clone.donorKey
      clone.ciphertext
  machine : (net.machine donor).Same (net.machine requester)

def Opened (past : List (CloneEvent ε)) (e : ε) (session : CloningSession) : Prop :=
  ∃ issued, .initiated e session.session session.clusterPublicKey session.donorCloningSecret issued
    ∈ past

/-- Where the keys of an active enclave come from. -/
def Acquired (past : List (CloneEvent ε)) (e : ε) (keys : KeyManager) : Prop :=
  net.initially e = some keys ∨ ∃ clone, .installed e clone ∈ past ∧ clone.keys = keys

/-- What must have happened before each event, and what it signs. -/
def Admits (past : List (CloneEvent ε)) : CloneEvent ε → Prop
  | .initiated e session target secret issued =>
      session = .new net.crypto session.secret ∧
        net.Signs e issued (some session.publicKey.val)
          (some (makeCloningDigest net.crypto secret session.publicKey target).val)
  | .sealedFor e clone issued =>
      encryptSeedForPeer net.crypto clone.ephemeral clone.requesterKey clone.keys.seed =
          .ok (clone.ciphertext, clone.donorKey) ∧
        (∃ policy, (net.ctx e).commitmentBytes = .ok policy ∧
          net.Signs e issued (some clone.donorKey.val) (some (net.commitment e clone.keys policy
            clone.requesterKey clone.donorKey clone.ciphertext).val)) ∧
        clone.accepted.enclavePubkey = clone.requesterKey.val ∧ net.Acquired past e clone.keys ∧
        ∃ requester session target secret proof,
          net.SealsTo past e clone requester session target secret proof
  | .attested e issued => ∃ key data, net.Signs e issued key data ∧
      ∀ bytes, key = some bytes → bytes.length = 64
  | .foreign issued => ∀ e, ¬ (net.machine e).Measures issued.document.pcrs
  | .installed e clone =>
      Opened past e clone.session ∧
        clone.session.session.decryptSeedFromPeer net.crypto clone.donorKey clone.ciphertext =
          .ok clone.keys.seed ∧
        clone.keys.evmAddress = clone.session.clusterPublicKey ∧
        clone.accepted.enclavePubkey = clone.donorKey.val ∧
        ∃ donor seed issued policy policy',
          net.InstallsFrom past e clone donor seed issued policy policy'

/-- The enclave is active with the keys, and has the secret. -/
def Donor (e : ε) (keys : KeyManager) (secret : String) (world : CloneWorld ε) : Prop :=
  (world.state e).phase = .active keys ∧ (world.state e).donorSecret = some secret

/-- The invariant of the network. -/
structure Inv (world : CloneWorld ε) : Prop where
  legal : Legal net.Admits world.history
  session : ∀ e session, (world.state e).phase = .cloning session → Opened world.history e session
  made : ∀ e keys, (world.state e).phase = .active keys → net.fromSeed keys.seed = .ok keys
  acquired : ∀ e keys, (world.state e).phase = .active keys → net.Acquired world.history e keys
  donors : ∀ e clone issued, .sealedFor e clone issued ∈ world.history →
    Donor e clone.keys clone.secret world
  requesters : ∀ e clone, .installed e clone ∈ world.history →
    Donor e clone.keys clone.session.donorCloningSecret world

/-- What every step keeps: the history, and the keys and the secret of an active enclave. -/
structure Grows (before after : CloneWorld ε) : Prop where
  history : before.history ⊆ after.history
  active : ∀ e keys, (before.state e).phase = .active keys →
    (after.state e).phase = .active keys ∧
      (after.state e).donorSecret = (before.state e).donorSecret

variable {net} {world : CloneWorld ε}

theorem Grows.refl (world : CloneWorld ε) : Grows world world :=
  ⟨List.Subset.refl _, fun _ _ active => ⟨active, rfl⟩⟩

theorem Donor.unchanged {after : CloneWorld ε} {e : ε} {keys : KeyManager} {secret : String}
    (donor : Donor e keys secret world)
    (same : Unchanged (world.state e) (after.state e)) : Donor e keys secret after :=
  ⟨same.1.trans donor.1, same.2.trans donor.2⟩

theorem Acquired.mono {past later : List (CloneEvent ε)} {e : ε} {keys : KeyManager}
    (acquired : net.Acquired past e keys) (sub : past ⊆ later) : net.Acquired later e keys :=
  acquired.imp_right fun ⟨clone, member, same⟩ => ⟨clone, sub member, same⟩

theorem Opened.mono {past later : List (CloneEvent ε)} {e : ε} {session : CloningSession}
    (opened : Opened past e session) (sub : past ⊆ later) : Opened later e session :=
  opened.imp fun _ member => sub member

theorem Inv.record (inv : net.Inv world) {event : CloneEvent ε}
    (admitted : net.Admits world.history event)
    (donor : ∀ e clone issued, event = .sealedFor e clone issued →
      Donor e clone.keys clone.secret world)
    (plain : ∀ e clone, event ≠ .installed e clone) :
    net.Inv (world.record event) ∧ Grows world (world.record event) := by
  have kept := List.subset_cons_self event world.history
  refine ⟨⟨inv.legal.cons admitted, fun e session cloning => (inv.session e session cloning).mono kept,
    inv.made, fun e keys active => (inv.acquired e keys active).mono kept, ?_, ?_⟩,
    ⟨kept, fun _ _ active => ⟨active, rfl⟩⟩⟩
  · intro e clone issued member
    rcases List.mem_cons.mp member with same | older
    · exact donor e clone issued same.symm
    · exact inv.donors e clone issued older
  · intro e clone member
    rcases List.mem_cons.mp member with same | older
    · exact absurd same.symm (plain e clone)
    · exact inv.requesters e clone older

theorem Inv.outside (inv : net.Inv world) (call : CloneOutside net) :
    net.Inv (net.outside world call) := by
  cases call with
  | wait elapsed =>
      exact ⟨inv.legal, inv.session, inv.made, inv.acquired, inv.donors, inv.requesters⟩
  | foreign issued other =>
      have admitted : net.Admits world.history (.foreign issued) := other
      exact (inv.record admitted nofun nofun).1

theorem outside_grows (world : CloneWorld ε) (call : CloneOutside net) :
    Grows world (net.outside world call) := by
  cases call with
  | wait elapsed => exact ⟨List.Subset.refl _, fun _ _ active => ⟨active, rfl⟩⟩
  | foreign issued other =>
      exact ⟨List.subset_cons_self _ _, fun _ _ active => ⟨active, rfl⟩⟩

def signed? : CloneEvent ε → Option (ε × Issued)
  | .initiated e _ _ _ issued => some (e, issued)
  | .sealedFor e _ issued => some (e, issued)
  | .attested e issued => some (e, issued)
  | _ => none

/-- A peer of `e` has signed the document of the attestation. -/
def Vouched (net : CloneNet ε) (e : ε) (verified : VerifiedAttestation)
    (history : List (CloneEvent ε)) : Prop :=
  ∃ event ∈ history, ∃ peer issued, signed? event = some (peer, issued) ∧
    Accepts issued.document verified ∧ (net.machine peer).Same (net.machine e)

theorem Inv.vouched (inv : net.Inv world) {e : ε} {doc : Bytes} {verified : VerifiedAttestation}
    (passed : verifyAttestation (net.authenticate world) doc (net.machine e).pcrs none =
      .ok verified)
    (role : checkClonePeerPcr3 (net.machine e).pcr3 verified = .ok ()) :
    net.Vouched e verified world.history := by
  obtain ⟨document, authentic, pcr0, pcr1, pcr2, key, registers, data, -⟩ :=
    verifyAttestation_ok passed
  obtain ⟨event, member, issued⟩ := net.unforgeable _ _ _ authentic
  obtain ⟨past, -, admitted⟩ := inv.legal.of_mem member
  simp only [checkClonePeerPcr3, bind_ok, okOr_ok, refuse_ok, not_not] at role
  obtain ⟨-, -, pcr3, there, rfl⟩ := role
  have finish : ∀ peer, signed? event = some (peer, ⟨doc, document⟩) →
      document.pcrs = (net.machine peer).registers → net.Vouched e verified world.history := by
    intro peer signed own
    rw [← registers] at there
    rw [own] at pcr0 pcr1 pcr2 there
    refine ⟨event, member, peer, _, signed, ⟨key, registers, data⟩, ?_,
      Subtype.ext (Option.some.inj there)⟩
    have same0 := Subtype.ext (Option.some.inj pcr0)
    have same1 := Subtype.ext (Option.some.inj pcr1)
    have same2 := Subtype.ext (Option.some.inj pcr2)
    have same := congr (congr (congrArg ExpectedPcrs.mk same0) same1) same2
    exact same
  cases event with
  | initiated => cases issued; exact finish _ rfl admitted.2.registers
  | sealedFor => cases issued; exact finish _ rfl admitted.2.1.choose_spec.2.registers
  | attested => cases issued; exact finish _ rfl admitted.choose_spec.choose_spec.1.registers
  | foreign => cases issued; exact absurd ⟨pcr0, pcr1, pcr2⟩ (admitted e)
  | installed => cases issued

theorem attested_unfit (inv : net.Inv world) {e : ε} {issued : Issued}
    (member : .attested e issued ∈ world.history) {verified : VerifiedAttestation} {key : Word 32}
    (keyed : verified.enclavePubkey = key.val) : ¬ Accepts issued.document verified := by
  intro accepts
  obtain ⟨_, -, _, _, signs, long⟩ := inv.legal.of_mem member
  have lengths := long key.val (signs.key.symm.trans (accepts.key.trans (congrArg some keyed)))
  rw [Word.length_val] at lengths
  omega

theorem Inv.initiated (inv : net.Inv world) {e : ε} {verified : VerifiedAttestation}
    (vouched : net.Vouched e verified world.history) {key digest : Word 32}
    (keyed : verified.enclavePubkey = key.val) (data : verified.userData = some digest.val) :
    ∃ requester session target secret issued,
      .initiated requester session target secret issued ∈ world.history ∧
      Accepts issued.document verified ∧ session.publicKey = key ∧
      makeCloningDigest net.crypto secret session.publicKey target = digest ∧
      (net.machine requester).Same (net.machine e) := by
  obtain ⟨event, member, peer, issued, signed, accepts, machine⟩ := vouched
  obtain ⟨past, -, admitted⟩ := inv.legal.of_mem member
  have key' := accepts.key.trans (congrArg some keyed)
  have data' := accepts.data.trans data
  cases event with
  | initiated requester session target secret issued =>
      cases signed
      rw [admitted.2.key] at key'
      rw [admitted.2.data] at data'
      exact ⟨_, _, _, _, _, member, accepts, Subtype.ext (Option.some.inj key'),
        Subtype.ext (Option.some.inj data'), machine⟩
  | sealedFor donor clone issued =>
      cases signed
      obtain ⟨policy, -, signs⟩ := admitted.2.1
      rw [signs.data] at data'
      have lengths := congrArg List.length (Option.some.inj data')
      rw [Word.length_val, Word.length_val] at lengths
      omega
  | attested enclave issued =>
      cases signed
      exact absurd accepts (attested_unfit inv member keyed)
  | foreign | installed => cases signed

theorem Inv.sealedFor (inv : net.Inv world) {e : ε} {verified : VerifiedAttestation}
    (vouched : net.Vouched e verified world.history) {key : Word 32} {expected : Word 36}
    (keyed : verified.enclavePubkey = key.val) (data : verified.userData = some expected.val) :
    ∃ donor clone issued policy, .sealedFor donor clone issued ∈ world.history ∧
      Accepts issued.document verified ∧ (net.ctx donor).commitmentBytes = .ok policy ∧
      net.commitment donor clone.keys policy clone.requesterKey clone.donorKey clone.ciphertext =
        expected ∧ (net.machine donor).Same (net.machine e) := by
  obtain ⟨event, member, peer, issued, signed, accepts, machine⟩ := vouched
  obtain ⟨past, -, admitted⟩ := inv.legal.of_mem member
  have data' := accepts.data.trans data
  cases event with
  | initiated requester session target secret issued =>
      cases signed
      rw [admitted.2.data] at data'
      have lengths := congrArg List.length (Option.some.inj data')
      rw [Word.length_val, Word.length_val] at lengths
      omega
  | sealedFor donor clone issued =>
      cases signed
      obtain ⟨policy, own, signs⟩ := admitted.2.1
      rw [signs.data] at data'
      exact ⟨_, _, _, _, member, accepts, own, Subtype.ext (Option.some.inj data'), machine⟩
  | attested enclave issued =>
      cases signed
      exact absurd accepts (attested_unfit inv member keyed)
  | foreign | installed => cases signed

section Rules

/-! The steps of the handlers, next to others that let the world grow. -/

variable {α β : Type} {holds : CloneWorld ε → Prop} {post : β → (CloneWorld ε → Prop) → Prop}
  {e : ε}

variable (net) in
abbrev Safe (task : CloneTask ε β) (post : β → (CloneWorld ε → Prop) → Prop)
    (holds : CloneWorld ε → Prop) : Prop :=
  task.Meets net.Inv Grows Grows post holds

variable (net) in
abbrev Lasts (holds : CloneWorld ε → Prop) : Prop := Stable net.Inv Grows holds

theorem raise_ok {x : Result α} {value : α} : raise x = .ok value ↔ x = .ok value :=
  mapError_ok

theorem safe_check_bind {x : Result α} {f : α → CloneTask ε β} :
    net.Safe ((liftM x : CloneTask ε α) >>= f) post holds ↔
      ∀ value, x = .ok value → net.Safe (f value) post holds := by
  refine meets_bind.trans (meets_ofExcept.trans ?_)
  exact forall_congr' fun value => imp_congr_left raise_ok

theorem safe_ask_bind {view : EnclaveState → Result α} {f : α → CloneTask ε β}
    (rest : ∀ found value, net.Inv found → holds found → view (found.state e) = .ok value →
      ∃ later, net.Lasts later ∧ later found ∧ net.Safe (f value) post later) :
    net.Safe (ask e view >>= f) post holds :=
  meets_read_bind Grows.refl fun found value here there viewed =>
    rest found value here there (raise_ok.mp viewed)

theorem safe_now_bind {f : Nat → CloneTask ε β} (lasts : net.Lasts holds)
    (rest : ∀ now, net.Safe (f now) post holds) : net.Safe (instantNow >>= f) post holds :=
  meets_check_bind Grows.refl lasts rest

theorem answer_ok {nsm : Nsm} {query : NsmQuery} {value answer : α}
    (answered : nsm.answer query value = .ok answer) : answer = value := by
  unfold Nsm.answer at answered
  split at answered <;> cases answered
  rfl

theorem safe_peer_bind {inputs : CallInputs} {doc : Bytes} {f : VerifiedAttestation → CloneTask ε β}
    (lasts : net.Lasts holds)
    (rest : ∀ verified later, net.Lasts later →
      (∀ world, later world → holds world ∧ net.Vouched e verified world.history) →
      net.Safe (f verified) post later) :
    net.Safe (net.verifyClonePeer e inputs doc (net.machine e).pcrs >>= f) post holds := by
  refine meets_bind.mpr (meets_read_bind Grows.refl fun found verified inv here passed => ?_)
  have passed := mapError_ok.mp (raise_ok.mp passed)
  -- The role is checked after the read, and the document stays signed until then.
  let later : CloneWorld ε → Prop := fun world => holds world ∧
    (checkClonePeerPcr3 (net.machine e).pcr3 verified = .ok () →
      net.Vouched e verified world.history)
  have stays : net.Lasts later := by
    rintro before after inv grows ⟨here, vouched⟩
    refine ⟨lasts before after inv grows here, fun role => ?_⟩
    obtain ⟨event, member, rest⟩ := vouched role
    exact ⟨event, grows.history member, rest⟩
  refine ⟨later, stays, ⟨here, inv.vouched passed⟩, ?_⟩
  refine safe_check_bind.mpr fun pcr3 own => safe_check_bind.mpr fun _ role => ?_
  rw [answer_ok own] at role
  exact rest verified later stays fun world there => ⟨there.1, there.2 role⟩

theorem reserveNonce_quiet (nonce : Nonce) (now : Nat) (state : EnclaveState) :
    Unchanged state (net.reserveNonce nonce now state).2 := by
  unfold reserveNonce
  split <;> exact ⟨rfl, rfl⟩

theorem safe_issue_bind {inputs : CallInputs} {request : AttestationRequest}
    {event : Issued → CloneEvent ε} {f : Bytes → CloneTask ε β} (lasts : net.Lasts holds)
    (good : ∀ world, net.Inv world → holds world →
      let new := event ⟨inputs.nsm.document, net.document e inputs request⟩
      net.Admits world.history new ∧ (∀ e clone, new ≠ .installed e clone) ∧
        ∀ e clone issued, new = .sealedFor e clone issued →
          Donor e clone.keys clone.secret world)
    (rest : ∀ later, net.Lasts later → (∀ world, later world → holds world ∧
        event ⟨inputs.nsm.document, net.document e inputs request⟩ ∈ world.history) →
      net.Safe (f inputs.nsm.document) post later) :
    net.Safe (net.issue e inputs request event >>= f) post holds := by
  refine meets_bind.mpr (meets_update_bind.mpr fun found here there => ?_)
  obtain ⟨admitted, plain, donor⟩ := good found here there
  obtain ⟨inv, grows⟩ := here.record admitted donor plain
  have stays : net.Lasts fun world => holds world ∧
      event ⟨inputs.nsm.document, net.document e inputs request⟩ ∈ world.history :=
    Stable.and lasts fun _ _ _ grows member => grows.history member
  exact ⟨inv, grows, _, stays, ⟨lasts _ _ here grows there, List.mem_cons_self⟩,
    rest _ stays fun _ => id⟩

variable [DecidableEq ε]

theorem setState_self (state : EnclaveState) : (world.setState e state).state e = state :=
  Function.update_self ..

theorem setState_of_ne {other : ε} (different : other ≠ e) (state : EnclaveState) :
    (world.setState e state).state other = world.state other := Function.update_of_ne different ..

theorem Inv.quiet (inv : net.Inv world) {state : EnclaveState}
    (same : Unchanged (world.state e) state) :
    net.Inv (world.setState e state) ∧ Grows world (world.setState e state) := by
  have all : ∀ other,
      Unchanged (world.state other) ((world.setState e state).state other) := by
    intro other
    by_cases own : other = e
    · rw [own, setState_self]
      exact same
    · rw [setState_of_ne own]
      exact .refl _
  refine ⟨⟨inv.legal, fun other session cloning => ?_,
    fun other keys active => inv.made other keys ((all other).1 ▸ active),
    fun other keys active => inv.acquired other keys ((all other).1 ▸ active), ?_, ?_⟩,
    ⟨List.Subset.refl _, ?_⟩⟩
  · exact inv.session other session ((all other).1 ▸ cloning)
  · intro other clone issued member
    exact (inv.donors other clone issued member).unchanged (all other)
  · intro other clone member
    exact (inv.requesters other clone member).unchanged (all other)
  · intro other keys active
    rw [(all other).1, (all other).2]
    exact ⟨active, rfl⟩

theorem Inv.setState (inv : net.Inv world) {state : EnclaveState} (marks : List (CloneEvent ε))
    (legal : Legal net.Admits (marks ++ world.history))
    (before : ∀ keys, (world.state e).phase ≠ .active keys)
    (session : ∀ session, state.phase = .cloning session → Opened world.history e session)
    (made : ∀ keys, state.phase = .active keys →
      net.fromSeed keys.seed = .ok keys ∧ net.Acquired marks e keys)
    (installed : ∀ event ∈ marks, ∃ clone, event = .installed e clone ∧
      state.phase = .active clone.keys ∧
        state.donorSecret = some clone.session.donorCloningSecret) :
    let after := { world.setState e state with history := marks ++ world.history }
    net.Inv after ∧ Grows world after := by
  have older := List.subset_append_right marks world.history
  have others : ∀ {other keys}, (world.state other).phase = .active keys →
      Unchanged (world.state other) ((world.setState e state).state other) := by
    intro other keys active
    rw [setState_of_ne (by rintro rfl; exact before keys active)]
    exact .refl _
  -- Every enclave but `e` is as it was.
  have cases : ∀ other, ((world.setState e state).state other = state ∧ other = e) ∨
      (world.setState e state).state other = world.state other := by
    intro other
    by_cases own : other = e
    · exact .inl ⟨own ▸ setState_self state, own⟩
    · exact .inr (setState_of_ne own state)
  refine ⟨⟨legal, ?_, ?_, ?_, ?_, ?_⟩, ⟨older, ?_⟩⟩
  · intro other found cloning
    rcases cases other with ⟨here, rfl⟩ | there
    · exact (session found (here ▸ cloning)).mono older
    · exact (inv.session other found (there ▸ cloning)).mono older
  · intro other keys active
    rcases cases other with ⟨here, -⟩ | there
    · exact (made keys (here ▸ active)).1
    · exact inv.made other keys (there ▸ active)
  · intro other keys active
    rcases cases other with ⟨here, rfl⟩ | there
    · exact (made keys (here ▸ active)).2.mono (List.subset_append_left _ _)
    · exact (inv.acquired other keys (there ▸ active)).mono older
  · intro other clone issued member
    have member : .sealedFor other clone issued ∈ world.history := by
      refine (List.mem_append.mp member).resolve_left fun new => ?_
      obtain ⟨_, impossible, -⟩ := installed _ new
      cases impossible
    have donor := inv.donors other clone issued member
    exact donor.unchanged (others donor.1)
  · intro other clone member
    rcases List.mem_append.mp member with new | old
    · obtain ⟨_, ⟨⟩, active, secret⟩ := installed _ new
      exact ⟨(congrArg EnclaveState.phase (setState_self state)).trans active,
        (congrArg EnclaveState.donorSecret (setState_self state)).trans secret⟩
    · have requester := inv.requesters other clone old
      exact requester.unchanged (others requester.1)
  · intro other keys active
    exact ⟨(others active).1.trans active, (others active).2⟩

theorem safe_quiet_bind {work : EnclaveState → Except Fault α × EnclaveState}
    {f : α → CloneTask ε β}
    (quiet : ∀ state, Unchanged state (work state).2) (lasts : net.Lasts holds)
    (rest : ∀ value, net.Safe (f value) post holds) :
    net.Safe (onEnclave e work >>= f) post holds := by
  refine meets_bind.mpr (meets_atomically.mpr fun found here there => ?_)
  obtain ⟨inv, grows⟩ := here.quiet (quiet (found.state e))
  exact ⟨inv, grows, holds, lasts, lasts _ _ here grows there, fun value _ => rest value⟩

theorem safe_cleanup {work : EnclaveState → Except Fault Unit × EnclaveState}
    (quiet : ∀ state, Unchanged state (work state).2) (there : CloneWorld ε → Prop) :
    net.Safe (onEnclave e work) (fun _ _ => True) there := by
  refine meets_atomically.mpr fun found here _ => ?_
  obtain ⟨inv, grows⟩ := here.quiet (quiet (found.state e))
  exact ⟨inv, grows, fun _ => True, stable_true, trivial, fun _ _ => trivial⟩

theorem dropped_quiet (reservation : ExportQuotaReservation) (state : EnclaveState) :
    Unchanged state (reservation.dropped state) := by
  unfold ExportQuotaReservation.dropped
  split <;> exact ⟨rfl, rfl⟩

theorem reserveExportQuota_quiet (state : EnclaveState) :
    Unchanged state (reserveExportQuota state).2 := by
  unfold reserveExportQuota EnclaveState.reserveExportQuota
  dsimp only
  split_ifs <;> exact ⟨rfl, rfl⟩

end Rules

section Handlers

variable {e : ε} {inputs : CallInputs} {holds : CloneWorld ε → Prop}

theorem openClone_ok {req : SetCloneRequest} {donorPubkey : Word 32}
    {verified : VerifiedAttestation} {session : CloningSession} {keys : KeyManager}
    (done : net.openClone e req donorPubkey verified session = .ok keys) :
    session.session.decryptSeedFromPeer net.crypto donorPubkey req.encryptedSeed =
        .ok keys.seed ∧ net.fromSeed keys.seed = .ok keys ∧
      keys.evmAddress = session.clusterPublicKey ∧
      ∃ policy, (net.ctx e).commitmentBytes = .ok policy ∧
        verified.userData = some (net.commitment e keys policy session.session.publicKey
          donorPubkey req.encryptedSeed).val := by
  simp only [openClone, verifyCloneCommitment, bind_ok, raise_ok, refuse_ok, not_not] at done
  obtain ⟨seed, opened, _, derived, _, address, policy, committed, _, data, ⟨⟩⟩ := done
  obtain ⟨_, _, same⟩ := bind_ok.mp derived
  obtain rfl : seed = keys.seed := congrArg KeyManager.seed (Except.ok.inj same)
  exact ⟨opened, derived, address, policy, committed, data⟩

theorem withActive_ok {α : Type} {state : EnclaveState} {f : KeyManager → Result α}
    {value : α} (done : state.withActive f = .ok value) :
    ∃ keys, state.phase = .active keys ∧ f keys = .ok value := by
  obtain ⟨phase, locked, done⟩ := bind_ok.mp done
  unfold Mutex.lock at locked
  split at locked <;> cases locked
  split at done
  · exact ⟨_, ‹_›, done⟩
  · cases done

theorem withDonorCloningSecret_ok {α : Type} {state : EnclaveState}
    {f : String → Result α} {value : α}
    (done : state.withDonorCloningSecret f = .ok value) :
    ∃ secret, state.donorSecret = some secret ∧ f secret = .ok value := by
  obtain ⟨found, locked, done⟩ := bind_ok.mp done
  unfold Mutex.lock at locked
  split at locked <;> cases locked
  split at done
  · exact ⟨_, ‹_›, done⟩
  · cases done

theorem attestKeys_key {sha256 : Bytes → Word 32} {ctx : KeysContext} {nonce : Bytes}
    {keys : Result KeyInfo} {request : AttestationRequest}
    {answer : Option PublicKeysResponse × Bytes}
    (attested : attestKeys sha256 ctx nonce keys = .ok (request, answer)) :
    ∀ bytes, request.publicKey = some bytes → bytes.length = 64 := by
  obtain ⟨_, -, attested⟩ := bind_ok.mp attested
  obtain ⟨_, -, attested⟩ := bind_ok.mp attested
  split at attested <;> cases attested
  · rintro _ ⟨⟩
    exact Word.length_val _
  · nofun

theorem handleGetAttestedPublicKey_safe (nonce : Bytes) :
    net.Safe (net.handleGetAttestedPublicKey e inputs nonce) (fun _ _ => True) fun _ => True := by
  refine meets_check_bind Grows.refl stable_true fun keys => ?_
  refine safe_check_bind.mpr fun ⟨request, _, _⟩ attested => safe_check_bind.mpr fun _ _ => ?_
  refine safe_issue_bind stable_true (fun _ _ _ => ⟨?_, nofun, nofun⟩) fun _ _ _ => trivial
  exact ⟨_, _, ⟨rfl, rfl, rfl⟩, attestKeys_key attested⟩

/-- A response is in the history with the key that its seed is sealed to. -/
def Exported (e : ε) (encryptionPk : Word 32) (response : GetCloneResponse)
    (world : CloneWorld ε) : Prop :=
  ∃ clone issued, .sealedFor e clone issued ∈ world.history ∧ clone.requesterKey = encryptionPk ∧
    response = ⟨clone.ciphertext, clone.donorKey.val, issued.doc⟩

theorem sealSeed_safe {encryptionPk digest : Word 32} {secret : String} {keys : KeyManager}
    {accepted : VerifiedAttestation} (lasts : net.Lasts holds)
    (donor : ∀ world, holds world → Donor e keys secret world ∧
      net.Vouched e accepted world.history)
    (keyed : accepted.enclavePubkey = encryptionPk.val)
    (data : accepted.userData = some digest.val)
    (same : makeCloningDigest net.crypto secret encryptionPk keys.evmAddress = digest)
    {post : GetCloneResponse → (CloneWorld ε → Prop) → Prop}
    (rest : ∀ response later, net.Lasts later →
      (∀ world, later world → Exported e encryptionPk response world) → post response later) :
    net.Safe (net.sealSeed e inputs encryptionPk secret accepted) post holds := by
  refine safe_ask_bind fun found ⟨encryptedSeed, donorPubkey⟩ _ here viewed =>
    ⟨holds, lasts, here, ?_⟩
  obtain ⟨own, active, encrypted⟩ := withActive_ok viewed
  obtain rfl : keys = own := Phase.active.inj ((donor found here).1.1.symm.trans active)
  refine safe_check_bind.mpr fun nonce _ => ?_
  refine safe_ask_bind fun found own _ here viewed => ⟨holds, lasts, here, ?_⟩
  obtain ⟨_, active, ⟨⟩⟩ := withActive_ok viewed
  obtain rfl : keys = own := Phase.active.inj ((donor found here).1.1.symm.trans active)
  refine safe_check_bind.mpr fun policy ownPolicy => safe_check_bind.mpr fun _ _ => ?_
  refine safe_issue_bind lasts (fun world inv here => ⟨?_, nofun, ?_⟩)
    fun later stays exported => ?_
  · obtain ⟨requester, session, target, secret', proof, initiated, accepts, key, mac, machine⟩ :=
      inv.initiated (donor world here).2 keyed data
    exact ⟨encrypted, ⟨policy, ownPolicy, rfl, rfl, rfl⟩, keyed,
      inv.acquired e keys (donor world here).1.1, requester, session, target,
      secret', proof, initiated, accepts, key, mac.trans same.symm, machine⟩
  · rintro _ _ _ ⟨⟩
    exact (donor world here).1
  · exact rest _ later stays fun world there => ⟨_, _, (exported world there).2, rfl, rfl⟩

variable [DecidableEq ε]

theorem handleInitiateCloning_safe (req : InitiateCloningRequest) :
    net.Safe (net.handleInitiateCloning e inputs req) (fun _ _ => True) fun _ => True := by
  refine safe_check_bind.mpr fun _ _ => safe_check_bind.mpr fun target _ => ?_
  refine safe_check_bind.mpr fun nonce _ => safe_check_bind.mpr fun _ _ => ?_
  refine safe_issue_bind stable_true (fun _ _ _ => ⟨⟨rfl, rfl, rfl, rfl⟩, nofun, nofun⟩)
    fun later lasts signed => ?_
  refine safe_now_bind lasts fun createdAt => safe_check_bind.mpr fun pending made => ?_
  refine safe_now_bind lasts fun now => ?_
  refine meets_bind.mpr (meets_atomically.mpr fun found inv there => ?_)
  have opened : Opened found.history e pending := by
    unfold CloningSession.newAt at made
    split at made <;> cases made
    exact ⟨_, (signed found there).2⟩
  have step : net.Inv (found.setState e (enterCloning pending now (found.state e)).2) ∧
      Grows found (found.setState e (enterCloning pending now (found.state e)).2) := by
    unfold enterCloning
    cases entered : EnclaveState.enterCloningAt pending now (found.state e) with
    | error fault after => exact inv.quiet (enterCloningAt_restores _ _ entered)
    | ok _ after =>
        obtain ⟨before, rfl⟩ := enterCloningAt_ok entered
        refine inv.setState [] inv.legal (fun keys active => ?_) (fun session same => ?_) nofun
          nofun
        · rcases before with initial | ⟨existing, cloning, -⟩
          · rw [active] at initial
            cases initial
          · rw [active] at cloning
            cases cloning
        · cases same
          exact opened
  exact ⟨step.1, step.2, fun _ => True, stable_true, trivial, fun _ _ => trivial⟩

theorem handleGetClone_safe (req : GetCloneRequest) :
    net.Safe (net.handleGetClone e inputs req) (fun response later => ∃ encryptionPk,
      req.encryptionPubkey = encryptionPk.val ∧
        ∀ world, later world → Exported e encryptionPk response world) fun _ => True := by
  refine safe_check_bind.mpr fun clusterPk _ => safe_check_bind.mpr fun encryptionPk fixed => ?_
  refine safe_check_bind.mpr fun digest _ => ?_
  refine safe_ask_bind fun found ourEvm _ _ viewed => ?_
  obtain ⟨keys, active, ⟨⟩⟩ := withActive_ok viewed
  refine ⟨fun world => (world.state e).phase = .active keys,
    fun _ _ _ grows active => (grows.active e keys active).1, active, ?_⟩
  refine safe_check_bind.mpr fun _ address => ?_
  obtain rfl : clusterPk = keys.evmAddress := by simpa using address
  refine safe_ask_bind fun found secret _ active viewed => ?_
  obtain ⟨_, held, checked⟩ := withDonorCloningSecret_ok viewed
  simp only [bind_ok, refuse_ok, verifyCloningDigest, decide_eq_false_iff_not, not_not] at checked
  obtain ⟨_, mac, ⟨⟩⟩ := checked
  have stays : net.Lasts (Donor e keys secret) := by
    rintro _ _ _ grows ⟨active, held⟩
    exact ⟨(grows.active e keys active).1, (grows.active e keys active).2.trans held⟩
  refine ⟨Donor e keys secret, stays, ⟨active, held⟩, ?_⟩
  refine safe_check_bind.mpr fun expected own => ?_
  obtain rfl := answer_ok (mapError_ok.mp own)
  refine safe_peer_bind stays fun verified later lasts donor => ?_
  refine safe_check_bind.mpr fun _ keyed => safe_check_bind.mpr fun userData there => ?_
  refine safe_check_bind.mpr fun _ data => ?_
  rw [refuse_ok, not_not] at keyed data
  refine safe_quiet_bind reserveExportQuota_quiet lasts fun reservation => ?_
  refine meets_bind.mpr (meets_onError (safe_cleanup (dropped_quiet reservation)) ?_)
  refine safe_check_bind.mpr fun nonce _ => safe_now_bind lasts fun now => ?_
  refine safe_quiet_bind (reserveNonce_quiet _ _) lasts fun nonceReservation => ?_
  refine meets_onError (safe_cleanup fun _ => ⟨rfl, rfl⟩) ?_
  refine sealSeed_safe lasts donor keyed ((okOr_ok.mp there).trans (congrArg some data)) mac
    fun response later lasts exported => ?_
  refine safe_quiet_bind (fun _ => ⟨rfl, rfl⟩) lasts fun _ => ?_
  exact ⟨encryptionPk, Word.ofBytes?_eq_some.mp (okOr_ok.mp fixed), exported⟩

theorem completeCloning_safe {req : SetCloneRequest} {donorPubkey : Word 32}
    {verified : VerifiedAttestation}
    (donor : ∀ world, holds world → net.Vouched e verified world.history)
    (keyed : verified.enclavePubkey = donorPubkey.val) :
    net.Safe (net.completeCloning e req donorPubkey verified) (fun _ later => ∃ clone,
      clone.donorKey = donorPubkey ∧ clone.ciphertext = req.encryptedSeed ∧
        ∀ world, later world → .installed e clone ∈ world.history) holds := by
  refine meets_atomically.mpr fun found inv here => ?_
  cases completed : EnclaveState.completeCloning (net.openClone e req donorPubkey verified)
      (found.state e) with
  | error fault after =>
      obtain ⟨inv, grows⟩ := inv.quiet (completeCloning_restores _ completed)
      exact ⟨inv, grows, fun _ => True, stable_true, trivial, nofun⟩
  | ok _ after =>
      obtain ⟨session, keys, cloning, opened, rfl⟩ := completeCloning_ok completed
      obtain ⟨decrypted, made, address, policy, own, data⟩ := openClone_ok opened
      obtain ⟨peer, seed, issued, policy', sealedFor, accepts, theirs, same, machine⟩ :=
        inv.sealedFor (donor found here) keyed data
      let after :=
        ((found.state e).setDonorSecret session.donorCloningSecret).setPhase (.active keys)
      have before : ∀ keys, (found.state e).phase ≠ .active keys := by simp [cloning]
      let clone : InstalledClone := ⟨session, keys, donorPubkey, req.encryptedSeed, verified⟩
      have admitted : net.Admits found.history (.installed e clone) :=
        ⟨inv.session e session cloning, decrypted, address, keyed, peer, seed, issued, policy',
          policy, sealedFor, accepts, theirs, own, same, machine⟩
      have active : ∀ own, after.phase = .active own → net.fromSeed own.seed = .ok own ∧
          net.Acquired [.installed e clone] e own := by
        rintro _ ⟨⟩
        exact ⟨made, .inr ⟨clone, List.mem_cons_self, rfl⟩⟩
      obtain ⟨last, grows⟩ : net.Inv { found.setState e after with
          history := [.installed e clone] ++ found.history } ∧ _ :=
        inv.setState _ (inv.legal.cons admitted) before nofun active
          fun _ new => ⟨clone, List.mem_singleton.mp new, rfl, rfl⟩
      have marked : installs e req donorPubkey verified (found.state e).phase after.phase =
          [.installed e clone] := by rw [cloning]; rfl
      dsimp only
      rw [marked]
      exact ⟨last, grows, fun world => .installed e clone ∈ world.history,
        fun _ _ _ grows member => grows.history member, List.mem_cons_self,
        fun _ _ => ⟨clone, rfl, rfl, fun _ => id⟩⟩

theorem handleSetClone_safe (req : SetCloneRequest) :
    net.Safe (net.handleSetClone e inputs req) (fun _ later => ∃ clone,
      clone.donorKey.val = req.donorPubkey ∧ clone.ciphertext = req.encryptedSeed ∧
        ∀ world, later world → .installed e clone ∈ world.history) fun _ => True := by
  refine safe_check_bind.mpr fun donorPubkey fixed => safe_check_bind.mpr fun expected own => ?_
  obtain rfl := answer_ok own
  refine safe_peer_bind stable_true fun verified later lasts donor => ?_
  refine safe_check_bind.mpr fun _ keyed => safe_check_bind.mpr fun nonce _ => ?_
  rw [refuse_ok, not_not] at keyed
  refine safe_now_bind lasts fun now => ?_
  refine safe_quiet_bind (reserveNonce_quiet _ _) lasts fun reservation => ?_
  refine meets_onError (safe_cleanup fun _ => ⟨rfl, rfl⟩) ?_
  refine (completeCloning_safe (fun world there => (donor world there).2) keyed).weaken
    (fun _ => id) ?_
  rintro _ later later' weaker ⟨clone, rfl, ciphertext, installed⟩
  exact ⟨clone, (Word.ofBytes?_eq_some.mp (okOr_ok.mp fixed)).symm, ciphertext,
    fun world there => installed world (weaker world there)⟩

end Handlers

end CloneNet

end EnclaveSigner.Server
