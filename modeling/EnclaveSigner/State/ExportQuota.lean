import Mathlib.Algebra.BigOperators.Fin
import EnclaveSigner.State.Enclave

/-! # Export quota

Any number of `GetClone` calls reserve an export slot, and later commit it or
drop it. With a limit, the slots in use are the exports made and the reservations
in flight.
-/

namespace EnclaveSigner.State

open Lib EnclaveState

/-- How far a `GetClone` call is. -/
inductive ExportCall where
  | waiting
  | holding (reservation : ExportQuotaReservation)
  | refused (error : EnclaveError)
  | exported (count : UInt64)
  /-- The call failed after its reservation. -/
  | released
  deriving DecidableEq

def ExportCall.exports : ExportCall → Nat
  | exported _ => 1
  | _ => 0

def ExportCall.held : ExportCall → Nat
  | holding _ => 1
  | _ => 0

/-- The call has returned. -/
def ExportCall.settled : ExportCall → Bool
  | waiting => false
  | holding _ => false
  | _ => true

/-- The calls around the counters. -/
structure Exports (ι : Type) where
  state : EnclaveState
  call : ι → ExportCall

/-- A step of a call. -/
inductive ExportStep (ι : Type) where
  | reserve (i : ι)
  | commit (i : ι)
  | dropped (i : ι)

namespace Exports

variable {ι : Type} [DecidableEq ι]

/-- No call has started. -/
def start (state : EnclaveState) : Exports ι := ⟨state, fun _ => .waiting⟩

def goes (e : Exports ι) (i : ι) (state : EnclaveState) (now : ExportCall) : Exports ι :=
  ⟨state, Function.update e.call i now⟩

def step (e : Exports ι) : ExportStep ι → Exports ι
  | .reserve i =>
      match e.call i with
      | .waiting =>
          match reserveExportQuota e.state with
          | .ok reservation state => e.goes i state (.holding reservation)
          | .error error state => e.goes i state (.refused error)
      | _ => e
  | .commit i =>
      match e.call i with
      | .holding reservation =>
          let (count, state) := reservation.commit e.state
          e.goes i state (.exported count)
      | _ => e
  | .dropped i =>
      match e.call i with
      | .holding reservation => e.goes i (reservation.dropped e.state) .released
      | _ => e

/-- The calls after a schedule of steps. -/
def run (e : Exports ι) (steps : List (ExportStep ι)) : Exports ι := steps.foldl step e

theorem call_goes_self (e : Exports ι) (i : ι) (state : EnclaveState) (now : ExportCall) :
    (e.goes i state now).call i = now :=
  Function.update_self ..

theorem call_goes_of_ne {i j : ι} (other : j ≠ i) (e : Exports ι) (state : EnclaveState)
    (now : ExportCall) : (e.goes i state now).call j = e.call j :=
  Function.update_of_ne other ..

section Steps

variable {e : Exports ι} {i : ι} {reservation : ExportQuotaReservation}

theorem reserveExportQuota_eq {state : EnclaveState} (limited : 0 < state.seedExportHardCap) :
    reserveExportQuota state =
      if state.seedExportSlots < state.seedExportHardCap then
        .ok ⟨true⟩ { state with seedExportSlots := state.seedExportSlots + 1 }
      else
        .error (.exportCapReached state.seedExportSlots state.seedExportHardCap) state :=
  if_pos limited

theorem step_reserve_room (limited : 0 < e.state.seedExportHardCap) (waiting : e.call i = .waiting)
    (room : e.state.seedExportSlots < e.state.seedExportHardCap) :
    e.step (.reserve i) =
      e.goes i { e.state with seedExportSlots := e.state.seedExportSlots + 1 } (.holding ⟨true⟩) := by
  simp only [step, waiting, reserveExportQuota_eq limited, if_pos room]

theorem step_reserve_full (limited : 0 < e.state.seedExportHardCap) (waiting : e.call i = .waiting)
    (full : ¬ e.state.seedExportSlots < e.state.seedExportHardCap) :
    e.step (.reserve i) = e.goes i e.state
      (.refused (.exportCapReached e.state.seedExportSlots e.state.seedExportHardCap)) := by
  simp only [step, waiting, reserveExportQuota_eq limited, if_neg full]

theorem step_commit (holding : e.call i = .holding reservation) :
    e.step (.commit i) =
      e.goes i { e.state with seedExportCount := e.state.seedExportCount + 1 }
        (.exported (e.state.seedExportCount + 1)) := by
  simp only [step, holding]
  rfl

theorem step_dropped (holding : e.call i = .holding reservation) :
    e.step (.dropped i) = e.goes i (reservation.dropped e.state) .released := by
  simp only [step, holding]

theorem step_cases (e : Exports ι) (s : ExportStep ι) :
    e.step s = e ∨ (∃ i, s = .reserve i ∧ e.call i = .waiting) ∨
      ∃ i reservation, e.call i = .holding reservation ∧ (s = .commit i ∨ s = .dropped i) := by
  cases s with
  | reserve i =>
      cases found : e.call i with
      | waiting => exact .inr (.inl ⟨i, rfl, found⟩)
      | _ => simp only [step, found, true_or]
  | commit i =>
      cases found : e.call i with
      | holding reservation => exact .inr (.inr ⟨i, reservation, found, .inl rfl⟩)
      | _ => simp only [step, found, true_or]
  | dropped i =>
      cases found : e.call i with
      | holding reservation => exact .inr (.inr ⟨i, reservation, found, .inr rfl⟩)
      | _ => simp only [step, found, true_or]

theorem dropped_frame (reservation : ExportQuotaReservation) (state : EnclaveState) :
    (reservation.dropped state).seedExportHardCap = state.seedExportHardCap ∧
      (reservation.dropped state).seedExportCount = state.seedExportCount := by
  unfold ExportQuotaReservation.dropped
  split
  · exact ⟨rfl, rfl⟩
  · exact ⟨rfl, rfl⟩

theorem step_settled (settled : (e.call i).settled = true) (s : ExportStep ι) :
    (e.step s).call i = e.call i := by
  have other : ∀ {j now state}, (e.call j).settled = false →
      (e.goes j state now).call i = e.call i := by
    intro j now state unsettled
    refine call_goes_of_ne (fun same => ?_) ..
    rw [← same, settled] at unsettled
    cases unsettled
  obtain same | ⟨j, rfl, waiting⟩ | ⟨j, reservation, holding, rfl | rfl⟩ := e.step_cases s
  · rw [same]
  · have unsettled : (e.call j).settled = false := by rw [waiting]; rfl
    simp only [step, waiting]
    split
    · exact other unsettled
    · exact other unsettled
  · rw [step_commit holding]
    exact other (by rw [holding]; rfl)
  · rw [step_dropped holding]
    exact other (by rw [holding]; rfl)

theorem run_settled (settled : (e.call i).settled = true) (steps : List (ExportStep ι)) :
    (e.run steps).call i = e.call i := by
  induction steps generalizing e with
  | nil => rfl
  | cons s steps ih =>
      have here := step_settled settled s
      exact (ih (here ▸ settled)).trans here

end Steps

section Counts

variable [Fintype ι]

/-- How many exports were committed. -/
def committed (e : Exports ι) : Nat := ∑ i, (e.call i).exports

/-- The reservations that are neither committed nor dropped. -/
def inFlight (e : Exports ι) : Nat := ∑ i, (e.call i).held

theorem sum_goes (weight : ExportCall → Nat) (e : Exports ι) (i : ι) (state : EnclaveState)
    (now : ExportCall) :
    (∑ j, weight ((e.goes i state now).call j)) + weight (e.call i) =
      (∑ j, weight (e.call j)) + weight now := by
  have others : ∑ j ∈ Finset.univ.erase i, weight ((e.goes i state now).call j) =
      ∑ j ∈ Finset.univ.erase i, weight (e.call j) := by
    refine Finset.sum_congr rfl fun j other => ?_
    rw [call_goes_of_ne (Finset.ne_of_mem_erase other)]
  rw [← Finset.add_sum_erase _ (fun j => weight ((e.goes i state now).call j)) (Finset.mem_univ i),
    ← Finset.add_sum_erase _ (fun j => weight (e.call j)) (Finset.mem_univ i), others,
    call_goes_self]
  omega

structure Counted (cap : UInt64) (e : Exports ι) : Prop where
  limit : e.state.seedExportHardCap = cap
  slots : e.state.seedExportSlots.toNat = e.committed + e.inFlight
  count : e.state.seedExportCount.toNat = e.committed
  bound : e.committed + e.inFlight ≤ cap.toNat
  reserved : ∀ i reservation, e.call i = .holding reservation → reservation.reserved = true

variable {cap : UInt64} {e : Exports ι} {i : ι} {reservation : ExportQuotaReservation}

theorem inFlight_pos (holding : e.call i = .holding reservation) : 0 < e.inFlight := by
  rw [inFlight, ← Finset.add_sum_erase _ _ (Finset.mem_univ i), holding]
  exact Nat.lt_add_right _ Nat.one_pos

theorem Counted.goes {state : EnclaveState} {now : ExportCall} (counted : e.Counted cap)
    (limit : state.seedExportHardCap = cap)
    (slots : state.seedExportSlots.toNat + ((e.call i).exports + (e.call i).held) =
      e.state.seedExportSlots.toNat + (now.exports + now.held))
    (count : state.seedExportCount.toNat + (e.call i).exports =
      e.state.seedExportCount.toNat + now.exports)
    (bound : state.seedExportSlots.toNat ≤ cap.toNat)
    (reserved : ∀ reservation, now = .holding reservation → reservation.reserved = true) :
    (e.goes i state now).Counted cap := by
  have committed := sum_goes ExportCall.exports e i state now
  have inFlight := sum_goes ExportCall.held e i state now
  have slotsBefore := counted.slots
  have countBefore := counted.count
  simp only [Exports.committed, Exports.inFlight] at slotsBefore countBefore
  have slotsAfter : state.seedExportSlots.toNat =
      (e.goes i state now).committed + (e.goes i state now).inFlight := by
    simp only [Exports.committed, Exports.inFlight]
    omega
  refine ⟨limit, slotsAfter, ?_, slotsAfter ▸ bound, fun j reservation holding => ?_⟩
  · simp only [Exports.committed]
    change state.seedExportCount.toNat = _
    omega
  · by_cases own : j = i
    · subst own
      rw [call_goes_self] at holding
      exact reserved reservation holding
    · rw [call_goes_of_ne own] at holding
      exact counted.reserved j reservation holding

theorem Counted.reserve (counted : e.Counted cap) (limited : 0 < cap)
    (waiting : e.call i = .waiting) : (e.step (.reserve i)).Counted cap := by
  have limit := counted.limit
  have slots := counted.slots
  have bound := counted.bound
  by_cases room : e.state.seedExportSlots < e.state.seedExportHardCap
  · rw [step_reserve_room (limit ▸ limited) waiting room]
    rw [limit, UInt64.lt_iff_toNat_lt] at room
    have more : (e.state.seedExportSlots + 1).toNat = e.state.seedExportSlots.toNat + 1 := by
      have small := cap.toNat_lt
      rw [UInt64.toNat_add, UInt64.toNat_one]
      omega
    refine counted.goes limit ?_ ?_ ?_ ?_
    · rw [waiting, more]
      rfl
    · rw [waiting]
      rfl
    · rw [more]
      exact room
    · rintro reservation ⟨⟩
      rfl
  · rw [step_reserve_full (limit ▸ limited) waiting room]
    refine counted.goes limit ?_ ?_ (slots ▸ bound) nofun
    · rw [waiting]
      rfl
    · rw [waiting]
      rfl

theorem Counted.toNat_commit (counted : e.Counted cap)
    (holding : e.call i = .holding reservation) :
    (e.state.seedExportCount + 1).toNat = e.state.seedExportCount.toNat + 1 := by
  have small := cap.toNat_lt
  have bound := counted.bound
  have count := counted.count
  have held := inFlight_pos holding
  rw [UInt64.toNat_add, UInt64.toNat_one]
  omega

theorem Counted.commit (counted : e.Counted cap) (holding : e.call i = .holding reservation) :
    (e.step (.commit i)).Counted cap := by
  have more := counted.toNat_commit holding
  rw [step_commit holding]
  refine counted.goes counted.limit ?_ ?_ (counted.slots ▸ counted.bound) nofun
  · rw [holding]
    rfl
  · rw [holding, more]
    rfl

theorem Counted.toNat_dropped (counted : e.Counted cap)
    (holding : e.call i = .holding reservation) :
    (reservation.dropped e.state).seedExportSlots.toNat + 1 = e.state.seedExportSlots.toNat := by
  have held := inFlight_pos holding
  have slots := counted.slots
  rw [ExportQuotaReservation.dropped, if_pos (counted.reserved i reservation holding)]
  have taken : (1 : UInt64) ≤ e.state.seedExportSlots := by
    rw [UInt64.le_iff_toNat_le, UInt64.toNat_one]
    omega
  change (e.state.seedExportSlots - 1).toNat + 1 = _
  rw [UInt64.toNat_sub_of_le _ _ taken, UInt64.toNat_one]
  omega

theorem Counted.dropped (counted : e.Counted cap) (holding : e.call i = .holding reservation) :
    (e.step (.dropped i)).Counted cap := by
  have released := counted.toNat_dropped holding
  have slots := counted.slots
  have bound := counted.bound
  have other := dropped_frame reservation e.state
  rw [step_dropped holding]
  refine counted.goes (other.1.trans counted.limit) ?_ ?_ (by omega) nofun
  · rw [holding]
    exact released
  · rw [holding, other.2]
    rfl

theorem Counted.step (counted : e.Counted cap) (limited : 0 < cap) (s : ExportStep ι) :
    (e.step s).Counted cap := by
  obtain same | ⟨i, rfl, waiting⟩ | ⟨i, reservation, holding, rfl | rfl⟩ := e.step_cases s
  · rwa [same]
  · exact counted.reserve limited waiting
  · exact counted.commit holding
  · exact counted.dropped holding

theorem Counted.run (counted : e.Counted cap) (limited : 0 < cap) (steps : List (ExportStep ι)) :
    (e.run steps).Counted cap := by
  induction steps generalizing e with
  | nil => exact counted
  | cons s steps ih => exact ih (counted.step limited s)

omit [DecidableEq ι] in
theorem counted_start (cap : UInt64) : (start (.new cap) : Exports ι).Counted cap where
  limit := rfl
  slots := by simp [committed, inFlight, start, ExportCall.exports, ExportCall.held, new]
  count := by simp [committed, start, ExportCall.exports, new]
  bound := by simp [committed, inFlight, start, ExportCall.exports, ExportCall.held]
  reserved := nofun

/-- With a limit, after any steps of any number of calls: the slots are the
    exports made and the reservations in flight, and no more than the limit. A
    reservation keeps its slot when it commits and gives back one when it is
    dropped, after which the call is over. It is refused only at the limit. -/
theorem export_quota (cap : UInt64) (limited : 0 < cap) (steps : List (ExportStep ι)) :
    let e : Exports ι := (start (.new cap)).run steps
    e.state.seedExportSlots.toNat = e.committed + e.inFlight ∧
    e.state.seedExportCount.toNat = e.committed ∧
    e.committed + e.inFlight ≤ cap.toNat ∧
    (∀ i reservation, e.call i = .holding reservation →
      (e.step (.commit i)).state.seedExportSlots = e.state.seedExportSlots ∧
      (e.step (.commit i)).state.seedExportCount.toNat = e.state.seedExportCount.toNat + 1 ∧
      ((e.step (.commit i)).call i).settled = true ∧
      (e.step (.dropped i)).state.seedExportSlots.toNat + 1 = e.state.seedExportSlots.toNat ∧
      (e.step (.dropped i)).state.seedExportCount = e.state.seedExportCount ∧
      ((e.step (.dropped i)).call i).settled = true) ∧
    (∀ i more, (e.call i).settled = true → (e.run more).call i = e.call i) ∧
    ∀ i error, e.call i = .waiting → (e.step (.reserve i)).call i = .refused error →
      e.committed + e.inFlight = cap.toNat := by
  intro e
  have counted : e.Counted cap := (counted_start cap).run limited steps
  refine ⟨counted.slots, counted.count, counted.bound, fun i reservation holding => ?_,
    fun i more settled => run_settled settled more, fun i error waiting refused => ?_⟩
  · rw [step_commit holding, step_dropped holding, call_goes_self, call_goes_self]
    exact ⟨rfl, counted.toNat_commit holding, rfl, counted.toNat_dropped holding,
      (dropped_frame reservation e.state).2, rfl⟩
  · have limit := counted.limit
    have slots := counted.slots
    have bound := counted.bound
    by_cases room : e.state.seedExportSlots < e.state.seedExportHardCap
    · rw [step_reserve_room (limit ▸ limited) waiting room, call_goes_self] at refused
      cases refused
    · rw [limit, UInt64.lt_iff_toNat_lt] at room
      omega

def sampleExports (steps : List (ExportStep (Fin 3))) : Exports (Fin 3) :=
  (start (.new 2)).run steps

theorem export_quota_overlap :
    (sampleExports [.reserve 0, .reserve 1]).inFlight = 2 ∧
    (sampleExports [.reserve 0, .reserve 1, .dropped 1, .reserve 2, .commit 2, .dropped 2]).call 2 =
      .exported 1 ∧
    (sampleExports [.reserve 0, .reserve 1, .dropped 1, .reserve 2,
      .commit 2]).state.seedExportSlots.toNat = 2 := by
  have full := (export_quota (ι := Fin 3) 2 (by decide) [.reserve 0, .reserve 1]).2.2.2.2.2 2
    (.exportCapReached 2 2) rfl rfl
  have settled := (export_quota (ι := Fin 3) 2 (by decide)
    [.reserve 0, .reserve 1, .dropped 1, .reserve 2, .commit 2]).2.2.2.2.1 2 [.dropped 2] rfl
  have slots := (export_quota (ι := Fin 3) 2 (by decide)
    [.reserve 0, .reserve 1, .dropped 1, .reserve 2, .commit 2]).1
  refine ⟨?_, settled, slots.trans ?_⟩
  · have none : (sampleExports [.reserve 0, .reserve 1]).committed = 0 := by decide +kernel
    change (sampleExports [.reserve 0, .reserve 1]).committed + _ = _ at full
    rw [none, Nat.zero_add] at full
    exact full
  · decide +kernel

end Counts

end Exports

end EnclaveSigner.State
