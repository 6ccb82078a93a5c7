import EnclaveSigner.Error
import EnclaveSigner.Lib.Calls
import EnclaveSigner.Lib.Checks
import EnclaveSigner.Lib.Window

/-! # Refill rate limit

A rights refill has no deposit behind it, so the enclave admits only so many in
any sliding hour. The limit keeps the times of the refills that it admitted.
Instants are in nanoseconds.
-/

namespace EnclaveSigner.State

open Lib

def MAX_REFILLS_PER_HOUR : Nat := 12

structure RefillRateLimit where
  admitted : List Nat
  deriving DecidableEq

namespace RefillRateLimit

def WINDOW : Nat := 60 * 60 * 1000000000

def empty : RefillRateLimit := ⟨[]⟩

def limitReached : EnclaveError :=
  .crossCheck (s!"rights refill rate limit: {MAX_REFILLS_PER_HOUR} refills in the last hour - " ++
    "retry later")

/-- Admit one refill at `now`, or refuse it. A refused one does not count. -/
def admitAt (now : Nat) : EStateM EnclaveError RefillRateLimit Unit := do
  modify fun limit => ⟨limit.admitted.dropWhile fun t => decide (now - t ≥ WINDOW)⟩
  let limit ← get
  refuse (limit.admitted.length ≥ MAX_REFILLS_PER_HOUR) limitReached
  set (⟨limit.admitted ++ [now]⟩ : RefillRateLimit)

/-- The answer to a call at `now` that follows others on a fresh limit. -/
def answer (calls : List Nat) (now : Nat) : Result Unit :=
  answerAfter admitAt .empty calls now

/-- The times of the admitted refills. -/
def admissions (calls : List Nat) : List Nat := succeeded admitAt .empty calls

/-- The admissions later than an hour before `now`. -/
def recent (calls : List Nat) (now : Nat) : List Nat :=
  (admissions calls).filter fun t => decide (now < t + WINDOW)

theorem admit_eq (now : Nat) (limit : RefillRateLimit) :
    admitAt now limit =
      let left := limit.admitted.dropWhile fun t => decide (now - t ≥ WINDOW)
      if left.length ≥ MAX_REFILLS_PER_HOUR then .error limitReached ⟨left⟩
      else .ok () ⟨left ++ [now]⟩ := by
  dsimp only
  split
  · rename_i full
    have refused : refuse _ limitReached = .error limitReached := if_pos full
    exact run_bind_error.mpr (.inr ⟨_, _, rfl, run_bind_error.mpr (.inr ⟨_, _, rfl,
      run_bind_error.mpr (.inl (lift_error.mpr ⟨refused, rfl⟩))⟩)⟩)
  · rename_i room
    have admitted : refuse _ limitReached = .ok () := if_neg room
    exact run_bind_ok.mpr ⟨_, _, rfl, run_bind_ok.mpr ⟨_, _, rfl,
      run_bind_ok.mpr ⟨_, _, lift_ok.mpr ⟨admitted, rfl⟩, rfl⟩⟩⟩

variable {calls : List Nat} {now : Nat}

theorem dropWhile_expired {times : List Nat} (inOrder : times.Pairwise (· ≤ ·)) :
    (times.dropWhile fun t => decide (now - t ≥ WINDOW))
      = times.filter fun t => decide (now < t + WINDOW) := by
  have falling : times.Pairwise fun earlier later =>
      decide (now - later ≥ WINDOW) = true → decide (now - earlier ≥ WINDOW) = true := by
    refine inOrder.imp fun below expired => ?_
    simp only [decide_eq_true_eq] at expired ⊢
    omega
  rw [dropWhile_eq_filter falling]
  refine List.filter_congr fun t _ => ?_
  rw [← decide_not, decide_eq_decide, WINDOW]
  omega

theorem recent_inOrder (inOrder : calls.Pairwise (· ≤ ·)) : (recent calls now).Pairwise (· ≤ ·) :=
  (inOrder.sublist succeeded_sublist).filter _

theorem filter_recent {last : Nat} (later : last ≤ now) :
    (recent calls last).filter (fun t => decide (now < t + WINDOW)) = recent calls now := by
  rw [recent, List.filter_filter]
  refine List.filter_congr fun t _ => ?_
  rw [← Bool.decide_and, decide_eq_decide]
  omega

theorem kept_eq_recent (inOrder : calls.Pairwise (· ≤ ·)) (last : ∀ t ∈ calls, t ≤ now) :
    ((stateAfter admitAt .empty calls).admitted.dropWhile fun t => decide (now - t ≥ WINDOW))
      = recent calls now := by
  induction calls using List.reverseRecOn generalizing now with
  | nil => rfl
  | append_singleton earlier call ih =>
      obtain ⟨earlierInOrder, -, below⟩ := List.pairwise_append.mp inOrder
      have before : ∀ t ∈ earlier, t ≤ call := fun t member => below t member call (by simp)
      have kept := ih earlierInOrder before
      have callLast : call ≤ now := last call (by simp)
      rw [stateAfter_concat, recent, admissions, succeeded_concat, answerAfter, admit_eq, kept]
      dsimp only
      split
      · rw [stateOf, dropWhile_expired (recent_inOrder earlierInOrder), filter_recent callLast]
        simp [answerOf, Except.isOk, Except.toBool, recent, admissions]
      · have sorted : (recent earlier call ++ [call]).Pairwise (· ≤ ·) := by
          refine List.pairwise_append.mpr ⟨recent_inOrder earlierInOrder, by simp, ?_⟩
          intro t member other own
          rw [List.mem_singleton.mp own]
          exact before t ((succeeded_sublist.subset) (List.mem_of_mem_filter member))
        rw [stateOf, dropWhile_expired sorted, List.filter_append, filter_recent callLast]
        simp [answerOf, Except.isOk, Except.toBool, recent, admissions, List.filter_append]

theorem answer_eq (inOrder : calls.Pairwise (· ≤ ·)) (last : ∀ t ∈ calls, t ≤ now) :
    answer calls now =
      if (recent calls now).length ≥ MAX_REFILLS_PER_HOUR then .error limitReached
      else .ok () := by
  rw [answer, answerAfter, admit_eq, kept_eq_recent inOrder last]
  dsimp only
  split
  · rfl
  · rfl

theorem admissions_concat (inOrder : (calls ++ [now]).Pairwise (· ≤ ·)) :
    admissions (calls ++ [now]) = admissions calls ++
      if (recent calls now).length ≥ MAX_REFILLS_PER_HOUR then [] else [now] := by
  obtain ⟨earlier, -, below⟩ := List.pairwise_append.mp inOrder
  have same := answer_eq earlier fun t member => below t member now (by simp)
  rw [answer] at same
  rw [admissions, succeeded_concat, same, ← admissions]
  split
  · simp [Except.isOk, Except.toBool]
  · simp [Except.isOk, Except.toBool]

theorem length_recent : (recent calls now).length
    = total (fun _ => 1) (fun t => decide (now < t + WINDOW)) (admissions calls) := by
  rw [total_one, List.countP_eq_length_filter, recent]

theorem admissions_paced (inOrder : calls.Pairwise (· ≤ ·)) :
    Paced id (fun _ => 1) WINDOW MAX_REFILLS_PER_HOUR (admissions calls) := by
  induction calls using List.reverseRecOn with
  | nil => exact paced_nil
  | append_singleton earlier call ih =>
      have paced := ih (List.pairwise_append.mp inOrder).1
      rw [admissions_concat inOrder]
      split
      · rwa [List.append_nil]
      · rename_i room
        refine paced.concat ?_
        rw [length_recent] at room
        change total _ (fun t => decide (call < t + WINDOW)) _ + 1 ≤ _
        omega

theorem length_recent_le (inOrder : calls.Pairwise (· ≤ ·)) (last : ∀ t ∈ calls, t ≤ now) :
    (recent calls now).length ≤ MAX_REFILLS_PER_HOUR := by
  refine le_trans ?_ ((admissions_paced inOrder).total_le (now + 1 - WINDOW))
  rw [length_recent]
  refine total_mono fun t member within => ?_
  have before := last t (succeeded_sublist.subset member)
  simp only [decide_eq_true_eq, id] at within ⊢
  omega

theorem admissions_without_refused {before between : List Nat}
    (inOrder : (before ++ now :: between).Pairwise (· ≤ ·)) (refused : answer before now ≠ .ok ()) :
    admissions (before ++ now :: between) = admissions (before ++ between) := by
  induction between using List.reverseRecOn with
  | nil =>
      obtain ⟨earlier, -, below⟩ := List.pairwise_append.mp inOrder
      rw [answer_eq earlier fun t member => below t member now (by simp)] at refused
      rw [admissions_concat inOrder, List.append_nil, if_pos, List.append_nil]
      by_contra room
      exact refused (if_neg room)
  | append_singleton between next ih =>
      rw [← List.cons_append, ← List.append_assoc] at inOrder ⊢
      rw [← List.append_assoc]
      have shorter : (before ++ between ++ [next]).Pairwise (· ≤ ·) :=
        inOrder.sublist (by simp)
      have same := ih (List.pairwise_append.mp inOrder).1
      rw [admissions_concat inOrder, admissions_concat shorter, recent, recent, same]

/-- In any hour at most `MAX_REFILLS_PER_HOUR` refills are admitted. A call is
    refused exactly when as many were admitted in the hour before it, and a refused
    call makes no difference to the calls after it. -/
theorem refill_rate_is_a_sliding_hour (calls : List Nat) (inOrder : calls.Pairwise (· ≤ ·)) :
    (∀ start, (admissions calls).countP (fun t => decide (start ≤ t ∧ t < start + WINDOW))
      ≤ MAX_REFILLS_PER_HOUR) ∧
    ∀ before now later, calls = before ++ now :: later →
      (answer before now ≠ .ok () ↔
        (admissions before).countP (fun t => decide (now < t + WINDOW)) = MAX_REFILLS_PER_HOUR) ∧
      (answer before now ≠ .ok () → ∀ between next rest, later = between ++ next :: rest →
        answer (before ++ now :: between) next = answer (before ++ between) next) := by
  constructor
  · intro start
    rw [← total_one]
    exact (admissions_paced inOrder).total_le start
  · rintro before now later rfl
    obtain ⟨earlier, -, below⟩ := List.pairwise_append.mp inOrder
    have last : ∀ t ∈ before, t ≤ now := fun t member => below t member now (by simp)
    refine ⟨?_, ?_⟩
    · have atMost := length_recent_le earlier last
      rw [answer_eq earlier last, List.countP_eq_length_filter]
      change _ ↔ (recent before now).length = _
      split
      · simp; omega
      · simp; omega
    · rintro refused between next rest rfl
      have upTo : (before ++ now :: between ++ [next]).Pairwise (· ≤ ·) :=
        inOrder.sublist (by simp)
      have without : (before ++ between ++ [next]).Pairwise (· ≤ ·) := upTo.sublist (by simp)
      obtain ⟨inOrder, -, below⟩ := List.pairwise_append.mp upTo
      obtain ⟨inOrder', -, below'⟩ := List.pairwise_append.mp without
      rw [answer_eq inOrder fun t member => below t member next (by simp),
        answer_eq inOrder' fun t member => below' t member next (by simp), recent, recent,
        admissions_without_refused inOrder refused]

/-- Thirteen calls in one hour, of which the last is refused. -/
theorem refill_rate_is_a_sliding_hour_thirteen :
    (List.range 13).Pairwise (· ≤ ·) ∧ answer (List.range 12) 12 ≠ .ok () ∧
      (admissions (List.range 13)).countP (fun t => decide (0 ≤ t ∧ t < 0 + WINDOW)) ≤ 12 := by
  have inOrder : (List.range 13).Pairwise (· ≤ ·) := by decide
  obtain ⟨inHour, each⟩ := refill_rate_is_a_sliding_hour (List.range 13) inOrder
  have full := (each (List.range 12) 12 [] rfl).1
  exact ⟨inOrder, full.mpr (by decide +kernel), inHour 0⟩

end RefillRateLimit

end EnclaveSigner.State
