import EnclaveSigner.Cloning
import EnclaveSigner.State.ReplayGuard

/-! # Enclave state

The lifecycle phase with the keys it guards, the donor credential, the guard for
the nonces of peer attestations and the counters of seed exports. The phase and
the credential have a lock each. A panic inside a lock poisons it, and every
later use of a poisoned lock is an error.

Instants are numbers of clock ticks, a millisecond each.
-/

namespace EnclaveSigner.State

open Lib

/-- How an operation ends that does not return a value. -/
inductive Fault where
  | error (error : EnclaveError)
  | panic
  deriving DecidableEq, Repr

instance {σ : Type} : MonadLift (Except EnclaveError) (EStateM Fault σ) where
  monadLift x := fun state =>
    match x with
    | .ok value => .ok value state
    | .error e => .error (.error e) state

structure Mutex (α : Type) where
  value : α
  poisoned : Bool := false

def Mutex.lock {α : Type} (mutex : Mutex α) : Result α :=
  if mutex.poisoned then
    .error (.internal "lock poisoned: poisoned lock: another task failed inside")
  else .ok mutex.value

def CLONING_SESSION_TTL : Nat := 5 * 60 * 1000

/-- Requester state between the initiation of cloning and its end. The pending
    donor credential has passed its check. -/
structure CloningSession where
  session : CloneSession
  clusterPublicKey : EvmAddress
  donorCloningSecret : String
  createdAt : Nat
  validated : validateCloningSecret donorCloningSecret = .ok ()
  deriving DecidableEq

def CloningSession.newAt (session : CloneSession) (clusterPublicKey : EvmAddress)
    (donorCloningSecret : String) (createdAt : Nat) : Result CloningSession :=
  match validated : validateCloningSecret donorCloningSecret with
  | .error error => .error error
  | .ok () => .ok { session, clusterPublicKey, donorCloningSecret, createdAt, validated }

def CloningSession.isExpired (session : CloningSession) (now : Nat) : Bool :=
  now - session.createdAt ≥ CLONING_SESSION_TTL

/-- The lifecycle phase. -/
inductive Phase where
  /-- No keys, waiting for a request to initialise. -/
  | initial
  /-- KMS seed recovery holds the initialization reservation. -/
  | initializing
  /-- Cloning handshake in progress. -/
  | cloning (session : CloningSession)
  /-- Keys loaded, ready to sign. -/
  | active (keys : KeyManager)

def Phase.name : Phase → String
  | initial => "initial"
  | initializing => "initializing"
  | cloning _ => "cloning"
  | active _ => "active"

/-- The state that the handlers share. -/
structure EnclaveState where
  inner : Mutex Phase
  donorCloningSecret : Mutex (Option String)
  replayGuard : GuardState
  /-- Successful exports. -/
  seedExportCount : UInt64
  /-- Successful exports plus exports in progress. -/
  seedExportSlots : UInt64
  /-- Zero disables the limit. -/
  seedExportHardCap : UInt64

namespace EnclaveState

/-- The state at boot. -/
def new (seedExportHardCap : UInt64) : EnclaveState where
  inner := ⟨.initial, false⟩
  donorCloningSecret := ⟨none, false⟩
  replayGuard := .empty
  seedExportCount := 0
  seedExportSlots := 0
  seedExportHardCap

def phase (state : EnclaveState) : Phase := state.inner.value

def donorSecret (state : EnclaveState) : Option String := state.donorCloningSecret.value

def setPhase (phase : Phase) (state : EnclaveState) : EnclaveState :=
  { state with inner := { state.inner with value := phase } }

def setDonorSecret (secret : String) (state : EnclaveState) : EnclaveState :=
  { state with donorCloningSecret := { state.donorCloningSecret with value := some secret } }

def poisonPhase (state : EnclaveState) : EnclaveState :=
  { state with inner := { state.inner with poisoned := true } }

/-- An operation on the state, in one hold of its locks. -/
abbrev Locked := EStateM Fault EnclaveState

def lockPhase : Locked Phase := do
  let state ← get
  state.inner.lock

/-- Run what another module does while the phase is locked. -/
def holdingPhase {α : Type} (x : Except Fault α) : Locked α := fun state =>
  match x with
  | .ok value => .ok value state
  | .error .panic => .error .panic state.poisonPhase
  | .error (.error e) => .error (.error e) state

end EnclaveState

def ensureInitial : Phase → Result Unit
  | .initial => .ok ()
  | .initializing => .error (.notReady Phase.initializing.name)
  | _ => .error .alreadyInitialized

/-- An export slot, held until sealing and attestation both succeed. -/
structure ExportQuotaReservation where
  reserved : Bool
  deriving DecidableEq

/-- The ways to make keys: from entropy, from a mnemonic and from a raw seed. -/
structure KeyMaker where
  generate : Word 32 → Except Fault KeyManager
  fromMnemonic : String → Except Fault KeyManager
  fromSeed : Seed → Except Fault KeyManager

namespace EnclaveState

variable (maker : KeyMaker)

/-- Go from Initial to Active with the keys that are made under the lock. -/
def initializeWith (keys : Except Fault KeyManager) : Locked Unit := do
  let guard ← lockPhase
  ensureInitial guard
  let manager ← holdingPhase keys
  modify (setPhase (.active manager))

def initializeFromEntropy (entropy : Word 32) : Locked Unit :=
  initializeWith (maker.generate entropy)

def initializeFromMnemonic (mnemonic : String) : Locked Unit :=
  initializeWith (maker.fromMnemonic mnemonic)

def initializeFromSeed (seed : Seed) : Locked Unit :=
  initializeWith (maker.fromSeed seed)

def enterCloningAt (session : CloningSession) (now : Nat) : Locked Unit := do
  match ← lockPhase with
  | .initial => modify (setPhase (.cloning session))
  | .cloning existing =>
      if existing.isExpired now then modify (setPhase (.cloning session))
      else throw (.error .alreadyInitialized)
  | _ => throw (.error .alreadyInitialized)

/-- Complete the handshake: both locks are held before either value changes. -/
def completeCloning (f : CloningSession → Except Fault KeyManager) : Locked Unit := do
  match ← lockPhase with
  | .cloning session =>
      let manager ← holdingPhase (f session)
      let state ← get
      let _ ← state.donorCloningSecret.lock
      modify (setDonorSecret session.donorCloningSecret)
      modify (setPhase (.active manager))
  | other => throw (.error (.notReady other.name))

def setDonorCloningSecret (secret : String) : Locked Unit := do
  validateCloningSecret secret
  let state ← get
  let _ ← state.donorCloningSecret.lock
  modify (setDonorSecret secret)

def withDonorCloningSecret {α : Type} (f : String → Result α)
    (state : EnclaveState) : Result α := do
  match ← state.donorCloningSecret.lock with
  | some secret => f secret
  | none => .error (.notReady "donor cloning secret not configured")

def withActive {α : Type} (f : KeyManager → Result α) (state : EnclaveState) :
    Result α := do
  match ← state.inner.lock with
  | .active manager => f manager
  | _ => .error .keyNotInitialized

def reserveInitialization : Locked Unit := do
  let guard ← lockPhase
  ensureInitial guard
  modify (setPhase .initializing)

def remainingUntil (deadline now : Nat) : Result Unit :=
  refuse (deadline - now = 0) (.io "request deadline exceeded")

def activateRecovered (manager : KeyManager) (deadline now : Nat) : Locked Unit := do
  let guard ← lockPhase
  remainingUntil deadline now
  match guard with
  | .initializing => modify (setPhase (.active manager))
  | other => throw (.error (.notReady other.name))

/-- Reserve an export slot before the seed is encrypted. The limit counts
    successful exports and exports in progress. -/
def reserveExportQuota : EStateM EnclaveError EnclaveState ExportQuotaReservation := fun state =>
  let cap := state.seedExportHardCap
  if cap > 0 then
    let used := state.seedExportSlots
    if used < cap then .ok ⟨true⟩ { state with seedExportSlots := used + 1 }
    else .error (.exportCapReached used cap) state
  else .ok ⟨false⟩ state

def recordSeedExport (state : EnclaveState) : UInt64 × EnclaveState :=
  let count := state.seedExportCount + 1
  (count, { state with seedExportCount := count })

/-- The drop guard of a reservation. -/
def dropSeedInitialization (state : EnclaveState) : EnclaveState :=
  match state.phase with
  | .initializing => state.setPhase .initial
  | _ => state

end EnclaveState

namespace ExportQuotaReservation

/-- A successful export keeps its slot. The drop that follows finds nothing
    reserved. -/
def commit (_reservation : ExportQuotaReservation) (state : EnclaveState) :
    UInt64 × EnclaveState :=
  state.recordSeedExport

def dropped (reservation : ExportQuotaReservation) (state : EnclaveState) : EnclaveState :=
  if reservation.reserved then { state with seedExportSlots := state.seedExportSlots - 1 }
  else state

end ExportQuotaReservation

/-! What an operation has found when it succeeds, and that it changes nothing
that matters when it fails. -/

section Locks

variable {α β σ : Type} {state after : EnclaveState} {fault : Fault}

theorem liftFault_ok {x : Result α} {s s' : σ} {a : α} :
    (liftM x : EStateM Fault σ α) s = .ok a s' ↔ x = .ok a ∧ s' = s := by
  cases x with
  | error e => exact ⟨nofun, nofun⟩
  | ok value =>
      constructor
      · rintro ⟨⟩
        exact ⟨rfl, rfl⟩
      · rintro ⟨⟨⟩, rfl⟩
        rfl

theorem ensureInitial_ok {phase : Phase} {u : Unit} (passed : ensureInitial phase = .ok u) :
    phase = .initial := by
  cases phase with
  | initial => rfl
  | initializing => cases passed
  | cloning session => cases passed
  | active keys => cases passed

namespace EnclaveState

/-- Neither the phase, with its session or keys, nor the donor secret changed. -/
def Unchanged (before after : EnclaveState) : Prop :=
  after.phase = before.phase ∧ after.donorSecret = before.donorSecret

theorem Unchanged.refl (state : EnclaveState) : Unchanged state state := ⟨rfl, rfl⟩

/-- The operation does not change the state when it succeeds. -/
def Reads (x : Locked α) : Prop := ∀ {state value after}, x state = .ok value after → after = state

/-- The operation changes nothing that matters when it fails. -/
def Restores (x : Locked α) : Prop :=
  ∀ {state fault after}, x state = .error fault after → Unchanged state after

theorem Restores.bind {x : Locked α} {f : α → Locked β} (reads : Reads x) (first : Restores x)
    (rest : ∀ value, Restores (f value)) : Restores (x >>= f) := by
  intro state fault after failed
  rcases run_bind_error.mp failed with early | ⟨value, middle, read, late⟩
  · exact first early
  · cases reads read
    exact rest value late

theorem Restores.update {change : EnclaveState → EnclaveState} :
    Restores (modify change : Locked Unit) := nofun

theorem Restores.refused {error : EnclaveError} : Restores (throw (.error error) : Locked α) := by
  intro state fault after failed
  cases failed
  exact .refl _

theorem reads_lift (x : Result α) : Reads (liftM x : Locked α) :=
  fun done => (liftFault_ok.mp done).2

theorem restores_lift (x : Result α) : Restores (liftM x : Locked α) := by
  intro state fault after failed
  cases x with
  | ok value => cases failed
  | error e =>
      cases failed
      exact .refl _

theorem reads_get : Reads (get : Locked EnclaveState) := by
  intro state value after done
  cases done
  rfl

theorem restores_get : Restores (get : Locked EnclaveState) := nofun

theorem lockPhase_ok {phase : Phase} (locked : lockPhase state = .ok phase after) :
    phase = state.phase ∧ after = state := by
  obtain ⟨found, middle, ⟨⟩, locked⟩ := run_bind_ok.mp locked
  obtain ⟨passed, rfl⟩ := liftFault_ok.mp locked
  unfold Mutex.lock at passed
  split at passed
  · cases passed
  · cases passed
    exact ⟨rfl, rfl⟩

theorem reads_lockPhase : Reads lockPhase := fun locked => (lockPhase_ok locked).2

theorem restores_lockPhase : Restores lockPhase :=
  Restores.bind reads_get restores_get fun _ => restores_lift _

theorem holdingPhase_ok {x : Except Fault α} {value : α}
    (done : holdingPhase x state = .ok value after) : x = .ok value ∧ after = state := by
  unfold holdingPhase at done
  split at done
  · cases done
    exact ⟨rfl, rfl⟩
  · cases done
  · cases done

theorem reads_holdingPhase (x : Except Fault α) : Reads (holdingPhase x) :=
  fun done => (holdingPhase_ok done).2

theorem restores_holdingPhase (x : Except Fault α) : Restores (holdingPhase x) := by
  intro state fault after failed
  unfold holdingPhase at failed
  split at failed
  · cases failed
  · cases failed
    exact ⟨rfl, rfl⟩
  · cases failed
    exact .refl _

theorem initializeWith_ok {keys : Except Fault KeyManager}
    (done : initializeWith keys state = .ok () after) :
    ∃ manager, keys = .ok manager ∧ state.phase = .initial ∧
      after = state.setPhase (.active manager) := by
  obtain ⟨guard, _, locked, rest⟩ := run_bind_ok.mp done
  obtain ⟨rfl, rfl⟩ := lockPhase_ok locked
  obtain ⟨⟨⟩, _, checked, next⟩ := run_bind_ok.mp rest
  obtain ⟨initial, rfl⟩ := liftFault_ok.mp checked
  obtain ⟨manager, _, made, last⟩ := run_bind_ok.mp next
  obtain ⟨rfl, rfl⟩ := holdingPhase_ok made
  cases last
  exact ⟨manager, rfl, ensureInitial_ok initial, rfl⟩

theorem initializeWith_restores (keys : Except Fault KeyManager) :
    Restores (initializeWith keys) :=
  Restores.bind reads_lockPhase restores_lockPhase fun _ =>
    Restores.bind (reads_lift _) (restores_lift _) fun _ =>
      Restores.bind (reads_holdingPhase _) (restores_holdingPhase _) fun _ => Restores.update

theorem enterCloningAt_ok {session : CloningSession} {now : Nat}
    (done : enterCloningAt session now state = .ok () after) :
    (state.phase = .initial ∨
      ∃ existing, state.phase = .cloning existing ∧ existing.isExpired now = true) ∧
    after = state.setPhase (.cloning session) := by
  obtain ⟨guard, _, locked, rest⟩ := run_bind_ok.mp done
  obtain ⟨found, rfl⟩ := lockPhase_ok locked
  cases guard with
  | initial =>
      cases rest
      exact ⟨.inl found.symm, rfl⟩
  | cloning existing =>
      dsimp only at rest
      split at rest
      · rename_i expired
        cases rest
        exact ⟨.inr ⟨existing, found.symm, expired⟩, rfl⟩
      · cases rest
  | initializing => cases rest
  | active keys => cases rest

theorem enterCloningAt_restores (session : CloningSession) (now : Nat) :
    Restores (enterCloningAt session now) := by
  refine Restores.bind reads_lockPhase restores_lockPhase fun guard => ?_
  split
  · exact Restores.update
  · split
    · exact Restores.update
    · exact Restores.refused
  · exact Restores.refused

theorem completeCloning_ok {f : CloningSession → Except Fault KeyManager}
    (done : completeCloning f state = .ok () after) :
    ∃ session manager, state.phase = .cloning session ∧ f session = .ok manager ∧
      after = (state.setDonorSecret session.donorCloningSecret).setPhase (.active manager) := by
  obtain ⟨guard, _, locked, rest⟩ := run_bind_ok.mp done
  obtain ⟨found, rfl⟩ := lockPhase_ok locked
  cases guard with
  | cloning session =>
      obtain ⟨manager, _, made, next⟩ := run_bind_ok.mp rest
      obtain ⟨verified, rfl⟩ := holdingPhase_ok made
      obtain ⟨_, _, ⟨⟩, last⟩ := run_bind_ok.mp next
      obtain ⟨_, _, credential, final⟩ := run_bind_ok.mp last
      obtain ⟨-, rfl⟩ := liftFault_ok.mp credential
      cases final
      exact ⟨session, manager, found.symm, verified, rfl⟩
  | initial => cases rest
  | initializing => cases rest
  | active keys => cases rest

theorem completeCloning_restores (f : CloningSession → Except Fault KeyManager) :
    Restores (completeCloning f) := by
  refine Restores.bind reads_lockPhase restores_lockPhase fun guard => ?_
  split
  · refine Restores.bind (reads_holdingPhase _) (restores_holdingPhase _) fun manager => ?_
    refine Restores.bind reads_get restores_get fun state => ?_
    refine Restores.bind (reads_lift _) (restores_lift _) fun _ => ?_
    nofun
  · exact Restores.refused

theorem setDonorCloningSecret_ok {secret : String}
    (done : setDonorCloningSecret secret state = .ok () after) :
    validateCloningSecret secret = .ok () ∧ after = state.setDonorSecret secret := by
  obtain ⟨⟨⟩, _, checked, rest⟩ := run_bind_ok.mp done
  obtain ⟨valid, rfl⟩ := liftFault_ok.mp checked
  obtain ⟨_, _, ⟨⟩, next⟩ := run_bind_ok.mp rest
  obtain ⟨_, _, credential, last⟩ := run_bind_ok.mp next
  obtain ⟨-, rfl⟩ := liftFault_ok.mp credential
  cases last
  exact ⟨valid, rfl⟩

theorem setDonorCloningSecret_restores (secret : String) :
    Restores (setDonorCloningSecret secret) :=
  Restores.bind (reads_lift _) (restores_lift _) fun _ =>
    Restores.bind reads_get restores_get fun _ =>
      Restores.bind (reads_lift _) (restores_lift _) fun _ => Restores.update

theorem reserveInitialization_ok (done : reserveInitialization state = .ok () after) :
    state.phase = .initial ∧ after = state.setPhase .initializing := by
  obtain ⟨guard, _, locked, rest⟩ := run_bind_ok.mp done
  obtain ⟨rfl, rfl⟩ := lockPhase_ok locked
  obtain ⟨⟨⟩, _, checked, next⟩ := run_bind_ok.mp rest
  obtain ⟨initial, rfl⟩ := liftFault_ok.mp checked
  cases next
  exact ⟨ensureInitial_ok initial, rfl⟩

theorem reserveInitialization_restores : Restores reserveInitialization :=
  Restores.bind reads_lockPhase restores_lockPhase fun _ =>
    Restores.bind (reads_lift _) (restores_lift _) fun _ => Restores.update

theorem activateRecovered_ok {manager : KeyManager} {deadline now : Nat}
    (done : activateRecovered manager deadline now state = .ok () after) :
    state.phase = .initializing ∧ after = state.setPhase (.active manager) := by
  obtain ⟨guard, _, locked, rest⟩ := run_bind_ok.mp done
  obtain ⟨found, rfl⟩ := lockPhase_ok locked
  obtain ⟨⟨⟩, _, checked, next⟩ := run_bind_ok.mp rest
  obtain ⟨-, rfl⟩ := liftFault_ok.mp checked
  cases guard with
  | initializing =>
      cases next
      exact ⟨found.symm, rfl⟩
  | initial => cases next
  | cloning session => cases next
  | active keys => cases next

theorem activateRecovered_restores (manager : KeyManager) (deadline now : Nat) :
    Restores (activateRecovered manager deadline now) := by
  refine Restores.bind reads_lockPhase restores_lockPhase fun guard => ?_
  refine Restores.bind (reads_lift _) (restores_lift _) fun _ => ?_
  split
  · exact Restores.update
  · exact Restores.refused

end EnclaveState

end Locks

end EnclaveSigner.State
