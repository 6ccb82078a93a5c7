import EnclaveSigner.Error
import EnclaveSigner.Lib.Calls
import EnclaveSigner.Lib.Checks
import EnclaveSigner.Lib.MachineInt
import EnclaveSigner.Lib.Window

/-! # Submit rate limit

The total rate limit of `SubmitHeaders` across calls. A window starts with the
first call after the one before has ended, and counts every header submitted in
it, also those of refused calls. An interval of the length of a window meets at
most two windows. Times are in nanoseconds.
-/

namespace EnclaveSigner.Server

open Lib

def MAX_HEADERS_PER_RATE_WINDOW : UInt64 := 100000

def RATE_LIMIT_WINDOW : Nat := 60 * 1000000000

/-- The window, and the headers counted in it. -/
structure SubmitRateLimiter where
  windowStart : Option Nat
  headersInWindow : UInt64
  deriving DecidableEq

/-- A call with its time. -/
structure SubmitCheck where
  count : UInt64
  now : Nat

namespace SubmitRateLimiter

def default : SubmitRateLimiter := ⟨none, 0⟩

/-- A new window starts after the length of one, or if the clock goes back. -/
def reset (limiter : SubmitRateLimiter) (now : Nat) : Bool :=
  match limiter.windowStart with
  | none => true
  | some start => if start ≤ now then decide (now - start ≥ RATE_LIMIT_WINDOW) else true

def counted (limiter : SubmitRateLimiter) (call : SubmitCheck) : SubmitRateLimiter :=
  let limiter := if limiter.reset call.now then ⟨some call.now, 0⟩ else limiter
  { limiter with headersInWindow := satAdd64 limiter.headersInWindow call.count }

def tooMany (limiter : SubmitRateLimiter) : EnclaveError :=
  .spv (s!"SubmitHeaders rate limit exceeded: {limiter.headersInWindow} headers " ++
    s!"within {RATE_LIMIT_WINDOW / 1000000000}s (max {MAX_HEADERS_PER_RATE_WINDOW})")

/-- Add the headers of a call. It is refused above the budget of the window. -/
def check (call : SubmitCheck) : EStateM EnclaveError SubmitRateLimiter Unit := do
  modify fun limiter => limiter.counted call
  let limiter ← get
  refuse (limiter.headersInWindow > MAX_HEADERS_PER_RATE_WINDOW) limiter.tooMany

variable {limiter : SubmitRateLimiter} {calls : List SubmitCheck} {call : SubmitCheck}

theorem check_eq : check call limiter =
    if (limiter.counted call).headersInWindow > MAX_HEADERS_PER_RATE_WINDOW then
      .error (tooMany (limiter.counted call)) (limiter.counted call)
    else .ok () (limiter.counted call) := by
  split
  · rename_i above
    have refused : refuse _ (tooMany (limiter.counted call)) = .error _ := if_pos above
    exact run_bind_error.mpr (.inr ⟨_, _, rfl, run_bind_error.mpr (.inr ⟨_, _, rfl,
      lift_error.mpr ⟨refused, rfl⟩⟩)⟩)
  · rename_i within
    have passed : refuse _ (tooMany (limiter.counted call)) = .ok () := if_neg within
    exact run_bind_ok.mpr ⟨_, _, rfl, run_bind_ok.mpr ⟨_, _, rfl, lift_ok.mpr ⟨passed, rfl⟩⟩⟩

/-- The headers of the calls inside. -/
def headers (inside : SubmitCheck → Bool) (calls : List SubmitCheck) : Nat :=
  total (fun call => call.count.toNat) inside calls

def after (calls : List SubmitCheck) : SubmitRateLimiter := stateAfter check .default calls

/-- The answer to a call after other calls. -/
def answer (calls : List SubmitCheck) (next : SubmitCheck) : Result Unit :=
  answerAfter check .default calls next

/-- The calls that were admitted. -/
def admitted (calls : List SubmitCheck) : List SubmitCheck := succeeded check .default calls

theorem after_concat : after (calls ++ [call]) = (after calls).counted call := by
  rw [after, stateAfter_concat, check_eq]
  split
  · rfl
  · rfl

theorem answer_eq_ok : answer calls call = .ok () ↔
    ((after calls).counted call).headersInWindow ≤ MAX_HEADERS_PER_RATE_WINDOW := by
  rw [answer, answerAfter, check_eq, ← UInt64.not_lt]
  split
  · rename_i above
    exact ⟨nofun, fun within => absurd above within⟩
  · rename_i within
    exact ⟨fun _ => within, fun _ => rfl⟩

theorem admitted_concat : admitted (calls ++ [call]) = admitted calls ++
    if ((after calls).counted call).headersInWindow ≤ MAX_HEADERS_PER_RATE_WINDOW then [call]
    else [] := by
  rw [admitted, succeeded_concat, ← admitted]
  congr 1
  by_cases within : ((after calls).counted call).headersInWindow ≤ MAX_HEADERS_PER_RATE_WINDOW
  · have passed : answerAfter check .default calls call = .ok () := answer_eq_ok.mpr within
    rw [passed, if_pos within]
    rfl
  · cases answered : answerAfter check .default calls call with
    | ok => exact absurd (answer_eq_ok.mp answered) within
    | error e =>
        rw [if_neg within]
        rfl

theorem mem_of_admitted (member : call ∈ admitted calls) : call ∈ calls :=
  succeeded_sublist.subset member

theorem headers_admitted_concat (inside : SubmitCheck → Bool) :
    headers inside (admitted (calls ++ [call])) = headers inside (admitted calls) +
      if ((after calls).counted call).headersInWindow ≤ MAX_HEADERS_PER_RATE_WINDOW ∧ inside call
      then call.count.toNat else 0 := by
  rw [admitted_concat, headers, total_append]
  split
  · rename_i within
    rw [total_singleton]
    simp only [within, true_and]
    rfl
  · rename_i above
    rw [if_neg fun both => above both.1]
    rfl

/-- The limiter after some calls, in a window that began at `start`. -/
structure InWindow (start : Nat) (calls : List SubmitCheck) : Prop where
  windowStart : (after calls).windowStart = some start
  began : ∃ call ∈ calls, call.now = start
  within : ∀ call ∈ calls, call.now < start + RATE_LIMIT_WINDOW
  counts : (after calls).headersInWindow.toNat
    ≤ headers (fun call => decide (start ≤ call.now)) calls
  current : headers (fun call => decide (start ≤ call.now)) (admitted calls)
    ≤ min (after calls).headersInWindow.toNat MAX_HEADERS_PER_RATE_WINDOW.toNat
  earlier : headers (fun call => decide (call.now < start ∧ start < call.now + RATE_LIMIT_WINDOW))
    (admitted calls) ≤ MAX_HEADERS_PER_RATE_WINDOW.toNat

theorem InWindow.started (reset : (after calls).reset call.now = true)
    (before : ∀ other ∈ calls, other.now < call.now)
    (recent : headers (fun other => decide (call.now < other.now + RATE_LIMIT_WINDOW))
      (admitted calls) ≤ MAX_HEADERS_PER_RATE_WINDOW.toNat) :
    InWindow call.now (calls ++ [call]) := by
  have counted : (after calls).counted call = ⟨some call.now, satAdd64 0 call.count⟩ := by
    rw [SubmitRateLimiter.counted, reset]
    rfl
  have value : (satAdd64 0 call.count).toNat = call.count.toNat := by
    have := call.count.toNat_lt
    rw [toNat_satAdd64, UInt64.toNat_zero]
    omega
  refine ⟨?_, ⟨call, by simp, rfl⟩, ?_, ?_, ?_, ?_⟩
  · rw [after_concat, counted]
  · intro other member
    have positive : 0 < RATE_LIMIT_WINDOW := by decide
    rcases List.mem_append.mp member with older | own
    · have := before other older
      omega
    · rw [List.mem_singleton.mp own]
      omega
  · rw [after_concat, counted, headers, total_append, total_singleton]
    simp only [value, le_refl, decide_true, if_true]
    omega
  · have nothing : headers (fun other => decide (call.now ≤ other.now)) (admitted calls) = 0 :=
      total_eq_zero fun other member => by simpa using before other (mem_of_admitted member)
    rw [headers_admitted_concat, after_concat, nothing, counted]
    simp only [UInt64.le_iff_toNat_le, value]
    split
    · omega
    · omega
  · rw [headers_admitted_concat]
    simp only [lt_irrefl, false_and, decide_false, Bool.false_eq_true, and_false, if_false,
      Nat.add_zero]
    refine le_trans (total_mono fun other _ held => ?_) recent
    simp only [decide_eq_true_eq] at held ⊢
    exact held.2

theorem InWindow.continued {start : Nat} (window : InWindow start calls) (later : start ≤ call.now)
    (open_still : call.now < start + RATE_LIMIT_WINDOW) : InWindow start (calls ++ [call]) := by
  have same : (after calls).reset call.now = false := by
    rw [reset, window.windowStart]
    simp only [later, if_true, decide_eq_false_iff_not]
    omega
  have counted : (after calls).counted call
      = ⟨some start, satAdd64 (after calls).headersInWindow call.count⟩ := by
    rw [SubmitRateLimiter.counted, same]
    simp [window.windowStart]
  have value := toNat_satAdd64 (after calls).headersInWindow call.count
  have limit : MAX_HEADERS_PER_RATE_WINDOW.toNat < 2 ^ 64 - 1 := by decide
  obtain ⟨first, member, began⟩ := window.began
  refine ⟨?_, ⟨first, List.mem_append_left _ member, began⟩, ?_, ?_, ?_, ?_⟩
  · rw [after_concat, counted]
  · intro other member
    rcases List.mem_append.mp member with older | own
    · exact window.within other older
    · rwa [List.mem_singleton.mp own]
  · have counts := window.counts
    rw [headers] at counts
    rw [after_concat, counted, headers, total_append, total_singleton]
    simp only [value, later, decide_true, if_true]
    omega
  · have current := window.current
    have small := (after calls).headersInWindow.toNat_lt
    rw [headers_admitted_concat, after_concat, counted]
    simp only [UInt64.le_iff_toNat_le, value, later, decide_true, and_true]
    split
    · omega
    · omega
  · have earlier := window.earlier
    rw [headers_admitted_concat]
    rwa [if_neg, Nat.add_zero]
    simp only [decide_eq_true_eq]
    omega

def InOrder (calls : List SubmitCheck) : Prop :=
  calls.Pairwise fun earlier later => earlier.now ≤ later.now

theorem exists_inWindow (inOrder : InOrder (calls ++ [call])) :
    ∃ start, InWindow start (calls ++ [call]) := by
  induction calls using List.reverseRecOn generalizing call with
  | nil => exact ⟨call.now, InWindow.started rfl (by simp) (Nat.zero_le _)⟩
  | append_singleton earlier last ih =>
      obtain ⟨before, -, below⟩ := List.pairwise_append.mp inOrder
      obtain ⟨start, window⟩ := ih before
      have later : start ≤ call.now := by
        obtain ⟨first, member, rfl⟩ := window.began
        exact below first member call (by simp)
      by_cases inside : call.now < start + RATE_LIMIT_WINDOW
      · exact ⟨start, window.continued later inside⟩
      · refine ⟨call.now, InWindow.started ?_ ?_ ?_⟩
        · rw [reset, window.windowStart]
          simp only [later, if_true, decide_eq_true_eq]
          omega
        · intro other member
          have := window.within other member
          omega
        · refine le_trans (total_mono fun other _ recent => ?_)
            (window.current.trans (min_le_right _ _))
          simp only [decide_eq_true_eq] at recent ⊢
          omega

theorem headers_admitted_le (inOrder : InOrder calls) (start : Nat) :
    headers (fun call => decide (start ≤ call.now ∧ call.now < start + RATE_LIMIT_WINDOW))
      (admitted calls) ≤ 2 * MAX_HEADERS_PER_RATE_WINDOW.toNat := by
  induction calls using List.reverseRecOn with
  | nil => exact Nat.zero_le _
  | append_singleton earlier call ih =>
      by_cases inside : start ≤ call.now ∧ call.now < start + RATE_LIMIT_WINDOW
      · obtain ⟨began, window⟩ := exists_inWindow inOrder
        have later : began ≤ call.now := by
          obtain ⟨first, member, rfl⟩ := window.began
          rcases List.mem_append.mp member with older | own
          · exact (List.pairwise_append.mp inOrder).2.2 first older call (by simp)
          · rw [List.mem_singleton.mp own]
        have both := Nat.add_le_add (window.current.trans (min_le_right _ _)) window.earlier
        rw [← Nat.two_mul] at both
        refine le_trans (total_le_add fun other _ held => ?_) both
        simp only [decide_eq_true_eq] at held ⊢
        omega
      · rw [headers_admitted_concat, if_neg (by simpa using fun _ => inside)]
        exact ih (List.pairwise_append.mp inOrder).1

theorem over_budget_of_refused (inOrder : InOrder (calls ++ [call]))
    (refused : answer calls call ≠ .ok ()) :
    ∃ start, MAX_HEADERS_PER_RATE_WINDOW.toNat
      < headers (fun other => decide (start ≤ other.now ∧ other.now < start + RATE_LIMIT_WINDOW))
        (calls ++ [call]) := by
  obtain ⟨start, window⟩ := exists_inWindow inOrder
  refine ⟨start, ?_⟩
  rw [Ne, answer_eq_ok, ← after_concat, UInt64.not_le, UInt64.lt_iff_toNat_lt] at refused
  refine refused.trans_le (window.counts.trans (total_mono fun other member held => ?_))
  have := window.within other member
  simp only [decide_eq_true_eq] at held ⊢
  exact ⟨held, this⟩

end SubmitRateLimiter

end EnclaveSigner.Server
