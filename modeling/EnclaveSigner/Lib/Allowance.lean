import Mathlib.Algebra.BigOperators.Group.Finset.Piecewise
import Mathlib.Algebra.GroupWithZero.Nat
import Mathlib.Algebra.Order.BigOperators.Group.Finset

/-! # Amounts set off against allowances

Items carry an amount under a key, and each key has an allowance. In their order
the items use up the allowance of their key, and what exceeds it is left. The
order does not matter in the end: a key covers the smaller of its allowance and
of the amounts under it.
-/

namespace EnclaveSigner.Lib

variable {κ : Type} [DecidableEq κ]

/-- The sum of the amounts under a key. -/
def amountAt (items : List (κ × Nat)) (key : κ) : Nat :=
  ((items.filter (·.1 = key)).map Prod.snd).sum

def uncovered (room : κ → Nat) : List (κ × Nat) → Nat
  | [] => 0
  | (key, amount) :: rest =>
      let exempt := min amount (room key)
      (amount - exempt) + uncovered (Function.update room key (room key - exempt)) rest

def covered (keys : Finset κ) (room : κ → Nat) (items : List (κ × Nat)) : Nat :=
  ∑ key ∈ keys, min (amountAt items key) (room key)

theorem amountAt_cons (key other : κ) (amount : Nat) (rest : List (κ × Nat)) :
    amountAt ((key, amount) :: rest) other
      = (if key = other then amount else 0) + amountAt rest other := by
  unfold amountAt
  rw [List.filter_cons]
  by_cases same : key = other
  · simp [same]
  · simp [same]

theorem amountAt_perm {items moved : List (κ × Nat)} (perm : items.Perm moved) :
    amountAt items = amountAt moved := by
  funext key
  exact ((perm.filter _).map Prod.snd).sum_eq

theorem amountAt_filter (keep : κ → Prop) [DecidablePred keep] (items : List (κ × Nat)) (key : κ) :
    amountAt (items.filter fun item => keep item.1) key
      = if keep key then amountAt items key else 0 := by
  induction items with
  | nil => simp [amountAt]
  | cons item rest ih =>
      obtain ⟨other, amount⟩ := item
      rw [List.filter_cons, amountAt_cons]
      by_cases same : other = key
      · subst same
        by_cases kept : keep other
        · simp only [kept, decide_true, if_true, amountAt_cons, ih]
        · simp only [kept, decide_false, Bool.false_eq_true, if_false, ih]
      · rw [if_neg same, Nat.zero_add, ← ih]
        split
        · rw [amountAt_cons, if_neg same, Nat.zero_add]
        · rfl

/-- One item takes from the allowance of its key what the key covers less
    afterwards. -/
theorem covered_cons {keys : Finset κ} {key : κ} (member : key ∈ keys) (room : κ → Nat)
    (amount : Nat) (rest : List (κ × Nat)) :
    covered keys room ((key, amount) :: rest) = min amount (room key) +
      covered keys (Function.update room key (room key - min amount (room key))) rest := by
  unfold covered
  rw [← Finset.add_sum_erase _ _ member, ← Finset.add_sum_erase _ _ member]
  have others : ∀ other ∈ keys.erase key,
      min (amountAt ((key, amount) :: rest) other) (room other)
        = min (amountAt rest other)
          (Function.update room key (room key - min amount (room key)) other) := by
    intro other inside
    have different := Finset.ne_of_mem_erase inside
    rw [amountAt_cons, if_neg different.symm, Nat.zero_add, Function.update_of_ne different]
  rw [Finset.sum_congr rfl others, amountAt_cons, if_pos rfl, Function.update_self]
  omega

theorem covered_cons_foreign {keys : Finset κ} {key : κ} {room : κ → Nat} (none_left : room key = 0)
    (amount : Nat) (rest : List (κ × Nat)) :
    covered keys room ((key, amount) :: rest) = covered keys room rest := by
  refine Finset.sum_congr rfl fun other _ => ?_
  rw [amountAt_cons]
  split
  · rename_i same
    rw [← same, none_left, Nat.min_zero, Nat.min_zero]
  · rw [Nat.zero_add]

/-- Covered and uncovered amounts make up the whole, if no key outside `keys` has
    an allowance. -/
theorem uncovered_add_covered {keys : Finset κ} {room : κ → Nat}
    (outside : ∀ key ∉ keys, room key = 0) (items : List (κ × Nat)) :
    uncovered room items + covered keys room items = (items.map Prod.snd).sum := by
  induction items generalizing room with
  | nil => simp [uncovered, covered, amountAt]
  | cons item rest ih =>
      obtain ⟨key, amount⟩ := item
      rw [List.map_cons, List.sum_cons]
      by_cases member : key ∈ keys
      · have step : ∀ other ∉ keys,
            Function.update room key (room key - min amount (room key)) other = 0 := by
          intro other foreign
          have different : other ≠ key := fun same => foreign (same ▸ member)
          rw [Function.update_of_ne different, outside other foreign]
        have rest_eq := ih step
        rw [covered_cons member, uncovered]
        omega
      · have none_left := outside key member
        have same : Function.update room key (room key - min amount (room key)) = room := by
          rw [none_left, Nat.zero_sub, ← none_left, Function.update_eq_self]
        have rest_eq := ih outside
        rw [covered_cons_foreign none_left, uncovered, same, none_left, Nat.min_zero, Nat.sub_zero]
        omega

end EnclaveSigner.Lib
