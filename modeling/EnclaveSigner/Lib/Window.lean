import Mathlib.Algebra.GroupWithZero.Nat
import Mathlib.Algebra.Order.BigOperators.Group.List
import Mathlib.Data.List.Induction
import Mathlib.Data.List.TakeWhile

/-! # Time windows

Items happen at times and have weights. A log is paced when each item, at its own
time, still fitted under a limit together with the items of the window before it.
Then no interval of the length of a window holds more than the limit.
-/

namespace EnclaveSigner.Lib

variable {α : Type}

/-- Where a test can only turn false along a list, the items that pass it come
    first. -/
theorem filter_append_filter_not {test : α → Bool} {items : List α}
    (falling : items.Pairwise fun earlier later => test later → test earlier) :
    items.filter test ++ items.filter (fun item => !test item) = items := by
  induction falling with
  | nil => rfl
  | @cons first rest below _ ih =>
      cases held : test first with
      | true => simpa [held] using ih
      | false =>
          have none_left : ∀ item ∈ rest, test item = false := by
            intro item member
            by_contra later
            exact absurd (below item member (by simpa using later)) (by simp [held])
          have noneHeld : rest.filter test = [] :=
            List.filter_eq_nil_iff.mpr fun item member => by simp [none_left item member]
          rw [List.filter_cons_of_neg (by simp [held]), noneHeld, List.nil_append]
          refine List.filter_eq_self.mpr fun item member => ?_
          rcases List.mem_cons.mp member with rfl | later
          · simp [held]
          · simp [none_left item later]

/-- Dropping from the front is then the same as filtering. -/
theorem dropWhile_eq_filter {test : α → Bool} {items : List α}
    (falling : items.Pairwise fun earlier later => test later → test earlier) :
    items.dropWhile test = items.filter fun item => !test item := by
  have first : ∀ item ∈ items.filter test, test item = true :=
    fun item member => List.of_mem_filter member
  have rest : (items.filter fun item => !test item).dropWhile test
      = items.filter fun item => !test item := by
    rw [List.dropWhile_eq_self_iff]
    intro nonempty
    have member := List.getElem_mem nonempty
    simpa using List.of_mem_filter member
  conv_lhs => rw [← filter_append_filter_not falling]
  rw [List.dropWhile_append_of_pos first, rest]

def total (weight : α → Nat) (inside : α → Bool) (items : List α) : Nat :=
  ((items.filter inside).map weight).sum

section Total

variable {weight : α → Nat} {inside outside : α → Bool} {items more : List α}

theorem total_append :
    total weight inside (items ++ more) = total weight inside items + total weight inside more := by
  simp [total]

theorem total_singleton {item : α} :
    total weight inside [item] = if inside item then weight item else 0 := by
  cases held : inside item with
  | true => simp [total, held]
  | false => simp [total, held]

theorem total_map {β : Type} {f : β → α} {sources : List β} :
    total weight inside (sources.map f) = total (weight ∘ f) (inside ∘ f) sources := by
  simp [total, List.filter_map]

theorem total_one : total (fun _ => 1) inside items = items.countP inside := by
  simp [total, List.countP_eq_length_filter]

theorem total_le_add {other : α → Bool}
    (either : ∀ item ∈ items, inside item → outside item ∨ other item) :
    total weight inside items ≤ total weight outside items + total weight other items := by
  induction items with
  | nil => exact le_rfl
  | cons item rest ih =>
      have tail := ih fun other member => either other (List.mem_cons_of_mem item member)
      have head := either item List.mem_cons_self
      rw [← List.singleton_append, total_append, total_append, total_append, total_singleton,
        total_singleton, total_singleton]
      split
      · rename_i held
        rcases head held with first | second
        · rw [if_pos first]
          omega
        · rw [if_pos second]
          omega
      · omega

theorem total_eq_zero (none_in : ∀ item ∈ items, inside item = false) :
    total weight inside items = 0 := by
  rw [total, List.filter_eq_nil_iff.mpr fun item member => by simp [none_in item member]]
  rfl

theorem total_mono (wider : ∀ item ∈ items, inside item → outside item) :
    total weight inside items ≤ total weight outside items := by
  have both : total weight inside items
      ≤ total weight outside items + total weight (fun _ => false) items :=
    total_le_add fun item member held => .inl (wider item member held)
  rwa [total_eq_zero fun _ _ => rfl, Nat.add_zero] at both

end Total

variable {time weight : α → Nat} {window limit : Nat} {items : List α} {item : α}

/-- Each item fitted under the limit together with the items of the window before
    it. -/
def Paced (time weight : α → Nat) (window limit : Nat) (items : List α) : Prop :=
  ∀ before item after, items = before ++ item :: after →
    total weight (fun other => decide (time item < time other + window)) before + weight item
      ≤ limit

theorem paced_nil : Paced time weight window limit [] :=
  fun _ _ _ same => absurd same (by simp)

theorem Paced.left {more : List α} (paced : Paced time weight window limit (items ++ more)) :
    Paced time weight window limit items :=
  fun before other after same =>
    paced before other (after ++ more) (by rw [same, List.append_assoc, List.cons_append])

theorem Paced.concat (paced : Paced time weight window limit items)
    (fits : total weight (fun other => decide (time item < time other + window)) items
      + weight item ≤ limit) :
    Paced time weight window limit (items ++ [item]) := by
  intro before other after same
  rcases List.eq_nil_or_concat after with rfl | ⟨rest, last, rfl⟩
  · obtain ⟨rfl, ⟨⟩⟩ := List.append_inj' same rfl
    exact fits
  · rw [List.concat_eq_append, ← List.cons_append, ← List.append_assoc] at same
    exact paced before other rest (List.append_inj' same rfl).1

/-- No interval of the length of the window holds more than the limit. -/
theorem Paced.total_le (paced : Paced time weight window limit items) (start : Nat) :
    total weight (fun item => decide (start ≤ time item ∧ time item < start + window)) items
      ≤ limit := by
  induction items using List.reverseRecOn with
  | nil => exact Nat.zero_le _
  | append_singleton earlier last ih =>
      have others := ih paced.left
      rw [total_append, total_singleton]
      split
      · rename_i held
        simp only [decide_eq_true_eq] at held
        -- what else is inside the interval was in the window of the last item
        have fits := paced earlier last [] rfl
        have inside : ∀ other ∈ earlier,
            decide (start ≤ time other ∧ time other < start + window) = true →
              decide (time last < time other + window) = true := by
          intro other _ within
          simp only [decide_eq_true_eq] at within ⊢
          omega
        have wider : total weight _ earlier ≤ total weight _ earlier := total_mono inside
        omega
      · exact others

theorem Paced.of_map {β : Type} {f : β → α} {sources : List β}
    (paced : Paced time weight window limit (sources.map f)) :
    Paced (time ∘ f) (weight ∘ f) window limit sources := by
  rintro before source after rfl
  have fits := paced (before.map f) (f source) (after.map f) (by simp)
  rwa [total_map] at fits

/-- Items that arrive within a window of their time: an interval of arrivals holds
    at most what two intervals of times hold. -/
theorem Paced.total_arrived_le (paced : Paced time weight window limit items) {arrival : α → Nat}
    (soon : ∀ item ∈ items, time item ≤ arrival item ∧ arrival item ≤ time item + window)
    (start : Nat) :
    total weight (fun item => decide (start ≤ arrival item ∧ arrival item < start + window)) items
      ≤ limit + limit := by
  have first := paced.total_le (start - window)
  have second := paced.total_le start
  refine le_trans (total_le_add fun item member held => ?_) (Nat.add_le_add first second)
  obtain ⟨sent, arrived⟩ := soon item member
  simp only [decide_eq_true_eq] at held ⊢
  omega

end EnclaveSigner.Lib
