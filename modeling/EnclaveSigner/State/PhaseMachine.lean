import Mathlib.Logic.Function.Basic
import EnclaveSigner.State.Enclave

/-! # Phase machine

Any number of calls change the lifecycle phase of one enclave. A local
initialization and the steps of the cloning handshake are one hold of the lock
each. A KMS recovery takes the lock three times: to reserve the initialization,
to activate the keys, and in the drop guard of the reservation. In between other
calls run.
-/

namespace EnclaveSigner.State

open Lib EnclaveState

def RECOVERY_TIMEOUT : Nat := 25 * 1000

/-- A KMS recovery: its deadline, its readings of the clock and what loading the
    keys from the seed source ends in, if there is a source. -/
structure Recovery where
  deadline : Nat
  calledAt : Nat
  armedAt : Nat
  activatedAt : Nat
  source : Option (Nat → Except Fault KeyManager)

namespace Recovery

variable (recovery : Recovery)

def cutoff : Nat := min recovery.deadline (recovery.calledAt + RECOVERY_TIMEOUT)

def prepare : Result (Nat → Except Fault KeyManager) := do
  EnclaveState.remainingUntil recovery.cutoff recovery.armedAt
  okOr (.invalidRequest "KMS persistence requires a configured seed source") recovery.source

end Recovery

/-- A call that changes the phase. -/
inductive Operation where
  | initializeFromEntropy (entropy : Word 32)
  | initializeFromMnemonic (mnemonic : String)
  | initializeFromSeed (seed : Seed)
  | initializeFromPersistence (recovery : Recovery)
  | enterCloning (session : CloningSession) (now : Nat)
  | completeCloning (f : CloningSession → Except Fault KeyManager)
  | setDonorCloningSecret (secret : String)

/-- How far a call is. -/
inductive Stage where
  | ready
  /-- The initialization is reserved, and the keys are being loaded. -/
  | recovering
  /-- The call has its result. The drop guard has not run yet. -/
  | releasing (result : Except Fault Unit)
  | returned (result : Except Fault Unit)

/-- The reservation of a KMS recovery is alive. -/
def Stage.outstanding : Stage → Bool
  | recovering => true
  | releasing _ => true
  | _ => false

/-- The call returns an error, or it will once its reservation is released. -/
def Stage.failing : Stage → Bool
  | releasing (.error _) => true
  | returned (.error _) => true
  | _ => false

/-- What the reservation of a recovery says of the phase. -/
def Stage.Fits : Stage → Phase → Prop
  | recovering, phase => phase = .initializing
  | releasing (.error _), phase => phase = .initializing
  | releasing (.ok _), phase => ∃ keys, phase = .active keys
  | _, _ => True

/-- Run one hold of the lock and go on with its result. -/
def perform (action : Locked Unit) (next : Except Fault Unit → Stage) (state : EnclaveState) :
    Stage × EnclaveState :=
  match action state with
  | .ok () state => (next (.ok ()), state)
  | .error fault state => (next (.error fault), state)

def Recovery.advance (recovery : Recovery) : Stage → EnclaveState → Stage × EnclaveState
  | .ready, state =>
      match recovery.prepare with
      | .error error => (.returned (.error (.error error)), state)
      | .ok _ =>
          perform reserveInitialization
            (fun | .ok () => .recovering | .error fault => .returned (.error fault)) state
  | .recovering, state =>
      match recovery.source with
      | none => (.recovering, state)
      | some load =>
          match load recovery.cutoff with
          | .ok manager =>
              perform (activateRecovered manager recovery.cutoff recovery.activatedAt)
                .releasing state
          | .error fault => (.releasing (.error fault), state)
  | .releasing result, state => (.returned result, state.dropSeedInitialization)
  | .returned result, state => (.returned result, state)

/-- The one hold of the lock of every other call. -/
def Operation.locked (maker : KeyMaker) : Operation → Locked Unit
  | initializeFromEntropy entropy => EnclaveState.initializeFromEntropy maker entropy
  | initializeFromMnemonic mnemonic => EnclaveState.initializeFromMnemonic maker mnemonic
  | initializeFromSeed seed => EnclaveState.initializeFromSeed maker seed
  | initializeFromPersistence _ => pure ()
  | enterCloning session now => enterCloningAt session now
  | completeCloning f => EnclaveState.completeCloning f
  | setDonorCloningSecret secret => EnclaveState.setDonorCloningSecret secret

def Operation.advance (maker : KeyMaker) (op : Operation) (stage : Stage) (state : EnclaveState) :
    Stage × EnclaveState :=
  match op, stage with
  | .initializeFromPersistence recovery, stage => recovery.advance stage state
  | op, .ready => perform (op.locked maker) .returned state
  | _, stage => (stage, state)

/-- The calls around the state. -/
structure Lifecycle (ι : Type) where
  state : EnclaveState
  stage : ι → Stage

section Run

variable {ι : Type} [DecidableEq ι] (maker : KeyMaker) (ops : ι → Operation)

/-- No call has started. -/
def Lifecycle.start (state : EnclaveState) : Lifecycle ι := ⟨state, fun _ => .ready⟩

/-- One hold of the lock by a call. -/
def Lifecycle.step (l : Lifecycle ι) (i : ι) : Lifecycle ι :=
  let (stage, state) := (ops i).advance maker (l.stage i) l.state
  ⟨state, Function.update l.stage i stage⟩

/-- The calls after a schedule. -/
def Lifecycle.run (l : Lifecycle ι) (turns : List ι) : Lifecycle ι :=
  turns.foldl (Lifecycle.step maker ops) l

end Run

def Operation.makes (maker : KeyMaker) : Operation → Option (Except Fault KeyManager)
  | initializeFromEntropy entropy => some (maker.generate entropy)
  | initializeFromMnemonic mnemonic => some (maker.fromMnemonic mnemonic)
  | initializeFromSeed seed => some (maker.fromSeed seed)
  | _ => none

/-- The documented transitions, each with the call that makes it. -/
inductive Phase.Moves (maker : KeyMaker) : Operation → Phase → Phase → Prop where
  | stay {op phase} : Moves maker op phase phase
  | initialized {op keys} (made : op.makes maker = some (.ok keys)) :
      Moves maker op .initial (.active keys)
  | reserve {recovery} : Moves maker (.initializeFromPersistence recovery) .initial .initializing
  | recover {recovery load keys} (configured : recovery.source = some load)
      (loaded : load recovery.cutoff = .ok keys) :
      Moves maker (.initializeFromPersistence recovery) .initializing (.active keys)
  | release {recovery} : Moves maker (.initializeFromPersistence recovery) .initializing .initial
  | enter {session now} : Moves maker (.enterCloning session now) .initial (.cloning session)
  | replace {session now existing} (expired : existing.isExpired now = true) :
      Moves maker (.enterCloning session now) (.cloning existing) (.cloning session)
  | complete {f session keys} (verified : f session = .ok keys) :
      Moves maker (.completeCloning f) (.cloning session) (.active keys)

theorem Phase.Moves.active {maker : KeyMaker} {op : Operation} {keys : KeyManager} {phase : Phase}
    (moves : Moves maker op (.active keys) phase) : phase = .active keys := by
  cases moves with
  | stay => rfl

theorem Stage.Fits.taken {stage : Stage} {phase : Phase} (fits : stage.Fits phase)
    (outstanding : stage.outstanding = true) :
    phase = .initializing ∨ ∃ keys, phase = .active keys := by
  cases stage with
  | recovering => exact .inl fits
  | releasing result =>
      cases result with
      | error fault => exact .inl fits
      | ok done => exact .inr fits
  | ready => cases outstanding
  | returned result => cases outstanding

theorem Stage.fits_of_settled {stage : Stage} {phase : Phase}
    (settled : stage.outstanding = false) : stage.Fits phase := by
  cases stage with
  | recovering => cases settled
  | releasing result => cases settled
  | ready => trivial
  | returned result => trivial

/-- Everything that one step of a call can do. -/
inductive Advances (maker : KeyMaker) :
    Operation → Stage → EnclaveState → Stage → EnclaveState → Prop where
  | idle {op stage state} : Advances maker op stage state stage state
  | refused {op before after fault} (same : Unchanged before after) :
      Advances maker op .ready before (.returned (.error fault)) after
  | initialized {op state keys} (made : op.makes maker = some (.ok keys))
      (initial : state.phase = .initial) :
      Advances maker op .ready state (.returned (.ok ())) (state.setPhase (.active keys))
  | entered {session now state}
      (free : state.phase = .initial ∨
        ∃ existing, state.phase = .cloning existing ∧ existing.isExpired now = true) :
      Advances maker (.enterCloning session now) .ready state (.returned (.ok ()))
        (state.setPhase (.cloning session))
  | completed {f session keys state} (cloning : state.phase = .cloning session)
      (verified : f session = .ok keys) :
      Advances maker (.completeCloning f) .ready state (.returned (.ok ()))
        ((state.setDonorSecret session.donorCloningSecret).setPhase (.active keys))
  | installed {secret state} (valid : validateCloningSecret secret = .ok ()) :
      Advances maker (.setDonorCloningSecret secret) .ready state (.returned (.ok ()))
        (state.setDonorSecret secret)
  | reserved {recovery state} (initial : state.phase = .initial) :
      Advances maker (.initializeFromPersistence recovery) .ready state .recovering
        (state.setPhase .initializing)
  | activated {recovery load keys state} (initializing : state.phase = .initializing)
      (configured : recovery.source = some load) (loaded : load recovery.cutoff = .ok keys) :
      Advances maker (.initializeFromPersistence recovery) .recovering state (.releasing (.ok ()))
        (state.setPhase (.active keys))
  | failed {recovery fault before after} (same : Unchanged before after) :
      Advances maker (.initializeFromPersistence recovery) .recovering before
        (.releasing (.error fault)) after
  | released {recovery result state} :
      Advances maker (.initializeFromPersistence recovery) (.releasing result) state
        (.returned result) state.dropSeedInitialization

section Steps

variable {maker : KeyMaker} {state : EnclaveState}

theorem Recovery.advance_advances (recovery : Recovery) (stage : Stage) (state : EnclaveState) :
    Advances maker (.initializeFromPersistence recovery) stage state
      (recovery.advance stage state).1 (recovery.advance stage state).2 := by
  cases stage with
  | ready =>
      rw [Recovery.advance]
      split
      · exact .refused (.refl _)
      · unfold perform
        cases done : reserveInitialization state with
        | error fault after => exact .refused (reserveInitialization_restores done)
        | ok _ after =>
            obtain ⟨initial, rfl⟩ := reserveInitialization_ok done
            exact .reserved initial
  | recovering =>
      rw [Recovery.advance]
      split
      · exact .idle
      · rename_i load configured
        split
        · rename_i manager loaded
          unfold perform
          cases done : activateRecovered manager recovery.cutoff recovery.activatedAt state with
          | error fault after => exact .failed (activateRecovered_restores _ _ _ done)
          | ok _ after =>
              obtain ⟨initializing, rfl⟩ := activateRecovered_ok done
              exact .activated initializing configured loaded
        · exact .failed (.refl _)
  | releasing result => exact .released
  | returned result => exact .idle

theorem perform_advances {op : Operation} {action : Locked Unit} (restores : Restores action)
    (good : ∀ after, action state = .ok () after →
      Advances maker op .ready state (.returned (.ok ())) after) :
    Advances maker op .ready state (perform action .returned state).1
      (perform action .returned state).2 := by
  unfold perform
  cases done : action state with
  | error fault after => exact .refused (restores done)
  | ok _ after => exact good after done

theorem initializeWith_advances {op : Operation} {keys : Except Fault KeyManager}
    (makes : op.makes maker = some keys) :
    Advances maker op .ready state (perform (initializeWith keys) .returned state).1
      (perform (initializeWith keys) .returned state).2 := by
  refine perform_advances (initializeWith_restores _) fun after done => ?_
  obtain ⟨manager, rfl, initial, rfl⟩ := initializeWith_ok done
  exact .initialized makes initial

theorem Operation.advance_advances (maker : KeyMaker) (op : Operation) (stage : Stage) (state : EnclaveState) :
    Advances maker op stage state (op.advance maker stage state).1
      (op.advance maker stage state).2 := by
  cases op with
  | initializeFromPersistence recovery => exact recovery.advance_advances stage state
  | initializeFromEntropy entropy =>
      cases stage with
      | ready => exact initializeWith_advances rfl
      | _ => exact .idle
  | initializeFromMnemonic mnemonic =>
      cases stage with
      | ready => exact initializeWith_advances rfl
      | _ => exact .idle
  | initializeFromSeed seed =>
      cases stage with
      | ready => exact initializeWith_advances rfl
      | _ => exact .idle
  | enterCloning session now =>
      cases stage with
      | ready =>
          refine perform_advances (enterCloningAt_restores session now) fun after done => ?_
          obtain ⟨free, rfl⟩ := enterCloningAt_ok done
          exact .entered free
      | _ => exact .idle
  | completeCloning f =>
      cases stage with
      | ready =>
          refine perform_advances (completeCloning_restores f) fun after done => ?_
          obtain ⟨session, manager, cloning, verified, rfl⟩ := completeCloning_ok done
          exact .completed cloning verified
      | _ => exact .idle
  | setDonorCloningSecret secret =>
      cases stage with
      | ready =>
          refine perform_advances (setDonorCloningSecret_restores secret) fun after done => ?_
          obtain ⟨valid, rfl⟩ := setDonorCloningSecret_ok done
          exact .installed valid
      | _ => exact .idle

end Steps

/-! What follows of one step, from what a step can do. -/

namespace Advances

variable {maker : KeyMaker} {op : Operation} {stage stage' : Stage} {before after : EnclaveState}

theorem phase_dropSeedInitialization (state : EnclaveState) :
    (state.phase = .initializing ∧ state.dropSeedInitialization = state.setPhase .initial) ∨
      (state.phase ≠ .initializing ∧ state.dropSeedInitialization = state) := by
  unfold dropSeedInitialization
  split
  · rename_i initializing
    exact .inl ⟨initializing, rfl⟩
  · rename_i other
    exact .inr ⟨other, rfl⟩

theorem moves (advances : Advances maker op stage before stage' after) :
    Phase.Moves maker op before.phase after.phase := by
  cases advances with
  | idle => exact .stay
  | refused same =>
      rw [same.1]
      exact .stay
  | initialized made initial =>
      rw [initial]
      exact .initialized made
  | entered free =>
      obtain initial | ⟨existing, cloning, expired⟩ := free
      · rw [initial]
        exact .enter
      · rw [cloning]
        exact .replace expired
  | completed cloning verified =>
      rw [cloning]
      exact .complete verified
  | installed valid => exact .stay
  | reserved initial =>
      rw [initial]
      exact .reserve
  | activated initializing configured loaded =>
      rw [initializing]
      exact .recover configured loaded
  | failed same =>
      rw [same.1]
      exact .stay
  | released =>
      obtain ⟨initializing, dropped⟩ | ⟨-, dropped⟩ := phase_dropSeedInitialization before
      · rw [dropped, initializing]
        exact .release
      · rw [dropped]
        exact .stay

theorem donorSecret_cases (advances : Advances maker op stage before stage' after) :
    after.donorSecret = before.donorSecret ∨
    (∃ f session keys, op = .completeCloning f ∧ before.phase = .cloning session ∧
      f session = .ok keys ∧ after.phase = .active keys ∧
      after.donorSecret = some session.donorCloningSecret) ∨
    ∃ secret, op = .setDonorCloningSecret secret ∧ validateCloningSecret secret = .ok () ∧
      after.donorSecret = some secret := by
  cases advances with
  | idle => exact .inl rfl
  | refused same => exact .inl same.2
  | initialized made initial => exact .inl rfl
  | entered free => exact .inl rfl
  | completed cloning verified => exact .inr (.inl ⟨_, _, _, rfl, cloning, verified, rfl, rfl⟩)
  | installed valid => exact .inr (.inr ⟨_, rfl, valid, rfl⟩)
  | reserved initial => exact .inl rfl
  | activated initializing configured loaded => exact .inl rfl
  | failed same => exact .inl same.2
  | released =>
      obtain ⟨-, dropped⟩ | ⟨-, dropped⟩ := phase_dropSeedInitialization before
      · rw [dropped]
        exact .inl rfl
      · rw [dropped]
        exact .inl rfl

theorem of_failing (advances : Advances maker op stage before stage' after)
    (failing : stage'.failing = true) :
    Unchanged before after ∨
      ((∃ recovery, op = .initializeFromPersistence recovery) ∧
        before.phase = .initializing ∧ after.phase = .initial ∧
        after.donorSecret = before.donorSecret) := by
  cases advances with
  | idle => exact .inl (.refl _)
  | refused same => exact .inl same
  | failed same => exact .inl same
  | released =>
      obtain ⟨initializing, dropped⟩ | ⟨-, dropped⟩ := phase_dropSeedInitialization before
      · rw [dropped]
        exact .inr ⟨⟨_, rfl⟩, initializing, rfl, rfl⟩
      · rw [dropped]
        exact .inl (.refl _)
  | initialized made initial => cases failing
  | entered free => cases failing
  | completed cloning verified => cases failing
  | installed valid => cases failing
  | reserved initial => cases failing
  | activated initializing configured loaded => cases failing

theorem outstanding_cases (advances : Advances maker op stage before stage' after)
    (outstanding : stage'.outstanding = true) :
    stage.outstanding = true ∨ before.phase = .initial := by
  cases advances with
  | idle => exact .inl outstanding
  | reserved initial => exact .inr initial
  | activated initializing configured loaded => exact .inl rfl
  | failed same => exact .inl rfl
  | refused same => cases outstanding
  | initialized made initial => cases outstanding
  | entered free => cases outstanding
  | completed cloning verified => cases outstanding
  | installed valid => cases outstanding
  | released => cases outstanding

theorem fits (advances : Advances maker op stage before stage' after)
    (here : stage.Fits before.phase) : stage'.Fits after.phase := by
  cases advances with
  | idle => exact here
  | reserved initial => rfl
  | activated initializing configured loaded => exact ⟨_, rfl⟩
  | failed same => exact same.1.trans here
  | refused same => trivial
  | initialized made initial => trivial
  | entered free => trivial
  | completed cloning verified => trivial
  | installed valid => trivial
  | released => trivial

theorem phase_eq (advances : Advances maker op stage before stage' after)
    (settled : stage.outstanding = false)
    (taken : before.phase = .initializing ∨ ∃ keys, before.phase = .active keys) :
    after.phase = before.phase := by
  have free : ∀ phase, before.phase = phase →
      phase ≠ .initial ∧ ∀ session, phase ≠ .cloning session := by
    rintro phase rfl
    obtain initializing | ⟨keys, active⟩ := taken
    · rw [initializing]
      exact ⟨nofun, nofun⟩
    · rw [active]
      exact ⟨nofun, nofun⟩
  cases advances with
  | idle => rfl
  | refused same => exact same.1
  | installed valid => rfl
  | initialized made initial => exact absurd rfl (free _ initial).1
  | entered initialOrExpired =>
      obtain initial | ⟨existing, cloning, -⟩ := initialOrExpired
      · exact absurd rfl (free _ initial).1
      · exact absurd rfl ((free _ cloning).2 existing)
  | completed cloning verified => exact absurd rfl ((free _ cloning).2 _)
  | reserved initial => exact absurd rfl (free _ initial).1
  | activated initializing configured loaded => cases settled
  | failed same => cases settled
  | released => cases settled

end Advances

section Runs

variable {ι : Type} [DecidableEq ι] {maker : KeyMaker} {ops : ι → Operation} {l : Lifecycle ι}

theorem Lifecycle.step_advances (maker : KeyMaker) (ops : ι → Operation) (l : Lifecycle ι) (i : ι) :
    Advances maker (ops i) (l.stage i) l.state ((l.step maker ops i).stage i)
      (l.step maker ops i).state := by
  have advances := (ops i).advance_advances maker (l.stage i) l.state
  simp only [Lifecycle.step, Function.update_self]
  exact advances

theorem Lifecycle.step_stage_of_ne {i j : ι} (other : j ≠ i) :
    (l.step maker ops i).stage j = l.stage j := by
  simp only [Lifecycle.step, Function.update_of_ne other]

/-- At most one recovery is outstanding, and it has the phase to itself. -/
structure Lifecycle.Reserved (l : Lifecycle ι) : Prop where
  single : ∀ i j, (l.stage i).outstanding = true → (l.stage j).outstanding = true → i = j
  fits : ∀ i, (l.stage i).Fits l.state.phase

theorem Lifecycle.Reserved.step (reserved : l.Reserved) (i : ι) :
    (l.step maker ops i).Reserved := by
  have advances := l.step_advances maker ops i
  -- A call that has become outstanding was so before, or nobody was.
  have single : ∀ j, ((l.step maker ops i).stage i).outstanding = true →
      (l.stage j).outstanding = true → j = i := by
    intro j now held
    obtain before | initial := advances.outstanding_cases now
    · exact reserved.single j i held before
    · have taken := (reserved.fits j).taken held
      rw [initial] at taken
      obtain initializing | ⟨keys, active⟩ := taken
      · cases initializing
      · cases active
  refine ⟨fun j k heldJ heldK => ?_, fun j => ?_⟩
  · by_cases ownJ : j = i
    · by_cases ownK : k = i
      · rw [ownJ, ownK]
      · subst ownJ
        rw [step_stage_of_ne ownK] at heldK
        exact (single k heldJ heldK).symm
    · rw [step_stage_of_ne ownJ] at heldJ
      by_cases ownK : k = i
      · subst ownK
        exact single j heldK heldJ
      · rw [step_stage_of_ne ownK] at heldK
        exact reserved.single j k heldJ heldK
  · by_cases own : j = i
    · subst own
      exact advances.fits (reserved.fits j)
    · rw [step_stage_of_ne own]
      cases held : (l.stage j).outstanding with
      | false => exact Stage.fits_of_settled held
      | true =>
          have settled : (l.stage i).outstanding = false := by
            cases other : (l.stage i).outstanding with
            | false => rfl
            | true => exact absurd (reserved.single j i held other) own
          rw [advances.phase_eq settled ((reserved.fits j).taken held)]
          exact reserved.fits j

theorem Lifecycle.Reserved.run (reserved : l.Reserved) (turns : List ι) :
    (l.run maker ops turns).Reserved := by
  induction turns generalizing l with
  | nil => exact reserved
  | cons i turns ih => exact ih (reserved.step i)

theorem Lifecycle.run_active {keys : KeyManager} (active : l.state.phase = .active keys)
    (turns : List ι) : (l.run maker ops turns).state.phase = .active keys := by
  induction turns generalizing l with
  | nil => exact active
  | cons i turns ih =>
      have moved := (l.step_advances maker ops i).moves
      rw [active] at moved
      exact ih moved.active

omit [DecidableEq ι] in
theorem Lifecycle.reserved_start (state : EnclaveState) : (start state : Lifecycle ι).Reserved :=
  ⟨nofun, fun _ => trivial⟩

/-- The drop guard of a recovery that has failed. -/
theorem Lifecycle.Reserved.release (reserved : l.Reserved) {i : ι} {recovery : Recovery}
    {fault : Fault} (persistence : ops i = .initializeFromPersistence recovery)
    (failed : l.stage i = .releasing (.error fault)) :
    l.state.phase = .initializing ∧
      (l.step maker ops i).stage i = .returned (.error fault) ∧
      (l.step maker ops i).state = l.state.setPhase .initial := by
  have initializing : l.state.phase = .initializing := by
    have fits := reserved.fits i
    rw [failed] at fits
    exact fits
  simp only [Lifecycle.step, persistence, failed, Operation.advance, Recovery.advance,
    Function.update_self, dropSeedInitialization, initializing, and_self]

/-- At any point of any schedule of any calls: the next step moves the phase as
    documented, the active keys stay, at most one KMS recovery is outstanding, its
    drop guard only leaves Initializing, a step that ends a call in error changes
    nothing but a reservation it releases, a recovery that fails goes back from
    Initializing to Initial before it returns, and the donor secret comes from a
    completed session or from a checked call. -/
theorem phase_machine (maker : KeyMaker) (seedExportHardCap : UInt64) (ops : ι → Operation)
    (turns : List ι) (i : ι) :
    let l := (Lifecycle.start (.new seedExportHardCap)).run maker ops turns
    let next := l.step maker ops i
    Phase.Moves maker (ops i) l.state.phase next.state.phase ∧
    (∀ keys more, l.state.phase = .active keys →
      (l.run maker ops more).state.phase = .active keys) ∧
    (∀ j k, (l.stage j).outstanding = true → (l.stage k).outstanding = true → j = k) ∧
    (∀ state : EnclaveState, state.phase ≠ .initializing → state.dropSeedInitialization = state) ∧
    ((next.stage i).failing = true → Unchanged l.state next.state ∨
      ((∃ recovery, ops i = .initializeFromPersistence recovery) ∧
        l.state.phase = .initializing ∧ next.state.phase = .initial ∧
        next.state.donorSecret = l.state.donorSecret)) ∧
    (∀ recovery fault, ops i = .initializeFromPersistence recovery →
      l.stage i = .releasing (.error fault) → l.state.phase = .initializing ∧
        next.stage i = .returned (.error fault) ∧ next.state = l.state.setPhase .initial) ∧
    (next.state.donorSecret = l.state.donorSecret ∨
      (∃ f session keys, ops i = .completeCloning f ∧ l.state.phase = .cloning session ∧
        f session = .ok keys ∧ next.state.phase = .active keys ∧
        next.state.donorSecret = some session.donorCloningSecret) ∨
      ∃ secret, ops i = .setDonorCloningSecret secret ∧ validateCloningSecret secret = .ok () ∧
        next.state.donorSecret = some secret) := by
  intro l next
  have advances := l.step_advances maker ops i
  have reserved : l.Reserved := (Lifecycle.reserved_start _).run turns
  refine ⟨advances.moves, fun keys more active => Lifecycle.run_active active more,
    reserved.single, fun state other => ?_, advances.of_failing,
    fun recovery fault persistence failed => reserved.release persistence failed,
    advances.donorSecret_cases⟩
  obtain ⟨initializing, -⟩ | ⟨-, dropped⟩ := Advances.phase_dropSeedInitialization state
  · exact absurd initializing other
  · exact dropped

end Runs

/-! Two recoveries overlap. The first one fails, and a third one succeeds. -/

def sampleManager : KeyManager :=
  ⟨.fill 64 1, Word.ofNatBe 20 0xb0acc6da31231890c315d8288db5224ca441cc8f⟩

def sampleMaker : KeyMaker where
  generate _ := .error (.error (.invalidKey "not derived"))
  fromMnemonic _ := .error (.error (.invalidKey "not derived"))
  fromSeed seed :=
    if seed = sampleManager.seed then .ok sampleManager
    else .error (.error (.invalidKey "not derived"))

def sampleOps : Fin 4 → Operation
  | 0 => .initializeFromPersistence ⟨20000, 0, 0, 500,
      some fun _ => .error (.error (.custody "KMS" .unavailable))⟩
  | 1 => .initializeFromPersistence ⟨20000, 100, 100, 600, some fun _ => .ok sampleManager⟩
  | 2 => .initializeFromPersistence ⟨30000, 1000, 1000, 2000, some fun _ => .ok sampleManager⟩
  | 3 => .setDonorCloningSecret "0123456789abcdef0123456789abcdef"

def sampleLifecycle (turns : List (Fin 4)) : Lifecycle (Fin 4) :=
  (Lifecycle.start (.new 0)).run sampleMaker sampleOps turns

theorem phase_machine_overlap :
    (sampleLifecycle [0, 1]).stage 1 =
      .returned (.error (.error (.notReady "initializing"))) ∧
    (sampleLifecycle [0, 1, 0, 0]).state.phase = .initial ∧
    (sampleLifecycle [0, 1, 0, 0, 2, 2, 2, 3]).state.phase = .active sampleManager ∧
    (∃ secret, (sampleLifecycle [0, 1, 0, 0, 2, 2, 2, 3]).state.donorSecret = some secret) := by
  have released := (phase_machine sampleMaker 0 sampleOps [0, 1, 0] 0).2.2.2.2.2.1 _ _ rfl rfl
  have activated := (phase_machine sampleMaker 0 sampleOps [0, 1, 0, 0, 2, 2] 2).2.1
    sampleManager [2, 3] rfl
  have credential := (phase_machine sampleMaker 0 sampleOps [0, 1, 0, 0, 2, 2, 2] 3).2.2.2.2.2.2
  refine ⟨rfl, congrArg phase released.2.2, activated, ?_⟩
  obtain same | ⟨f, session, keys, impossible, -⟩ | ⟨secret, -, -, installed⟩ := credential
  · cases same
  · cases impossible
  · exact ⟨secret, installed⟩

end EnclaveSigner.State
