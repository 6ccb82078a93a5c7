import Mathlib.Data.List.Destutter
import Mathlib.Data.List.Sort
import EnclaveSigner.Lib.Bytes

/-! # Ascending lists

A set of values has one list that is sorted and repeats nothing. Sorting and
dropping repetitions finds it, whatever list of the values it starts from.
-/

namespace EnclaveSigner.Lib

section

variable {α : Type} (le : α → α → Prop)

/-- Sorted, with no repetition. -/
def Ascending (items : List α) : Prop := items.Pairwise fun a b => le a b ∧ a ≠ b

instance Ascending.decidable [DecidableRel le] [DecidableEq α] (items : List α) :
    Decidable (Ascending le items) :=
  inferInstanceAs (Decidable (items.Pairwise fun a b => le a b ∧ a ≠ b))

def sortDedup [DecidableRel le] [DecidableEq α] (items : List α) : List α :=
  (items.insertionSort le).destutter (· ≠ ·)

variable {le} {items others : List α}

theorem Ascending.sorted (ascending : Ascending le items) : items.Pairwise le :=
  ascending.imp And.left

theorem Ascending.nodup (ascending : Ascending le items) : items.Nodup :=
  ascending.imp And.right

/-- Two ascending lists of the same values are the same list. -/
theorem Ascending.eq_of_mem_iff [Std.Antisymm le] (left : Ascending le items)
    (right : Ascending le others) (same : ∀ a, a ∈ items ↔ a ∈ others) : items = others := by
  have perm : items.Perm others := (List.perm_ext_iff_of_nodup left.nodup right.nodup).mpr same
  exact perm.eq_of_pairwise (fun a b _ _ ab ba => Std.Antisymm.antisymm a b ab ba)
    left.sorted right.sorted

/-- It is enough that each value is not at or below the one before it. -/
theorem isChain_iff_ascending [Std.Total le] [IsTrans α le] [Std.Antisymm le] :
    items.IsChain (fun a b => ¬ le b a) ↔ Ascending le items := by
  have strict : ∀ a b, (le a b ∧ a ≠ b) ↔ ¬ le b a := by
    intro a b
    constructor
    · rintro ⟨ab, different⟩ ba
      exact different (Std.Antisymm.antisymm a b ab ba)
    · intro not_ba
      refine ⟨(Std.Total.total a b).resolve_right not_ba, ?_⟩
      rintro rfl
      exact not_ba ((Std.Total.total a a).elim id id)
  have trans : Trans (fun a b => ¬ le b a) (fun a b => ¬ le b a) (fun a b => ¬ le b a) := by
    refine ⟨fun {a b c} not_ba not_cb ca => ?_⟩
    have bc := (Std.Total.total b c).resolve_right not_cb
    exact not_ba (IsTrans.trans _ _ _ bc ca)
  rw [List.isChain_iff_pairwise, Ascending]
  simp only [strict]

variable [DecidableRel le] [DecidableEq α]

theorem sortDedup_eq_dedup [Std.Total le] [IsTrans α le] [Std.Antisymm le] (items : List α) :
    sortDedup le items = (items.insertionSort le).dedup :=
  (List.pairwise_insertionSort le items).destutter_eq_dedup

theorem mem_sortDedup [Std.Total le] [IsTrans α le] [Std.Antisymm le] {a : α} :
    a ∈ sortDedup le items ↔ a ∈ items := by
  rw [sortDedup_eq_dedup, List.mem_dedup, List.mem_insertionSort]

theorem sortDedup_ascending [Std.Total le] [IsTrans α le] [Std.Antisymm le] (items : List α) :
    Ascending le (sortDedup le items) := by
  rw [sortDedup_eq_dedup]
  have sorted := (List.pairwise_insertionSort le items).sublist (List.dedup_sublist _)
  exact sorted.and (List.nodup_dedup _)

theorem Ascending.sortDedup_eq (ascending : Ascending le items) : sortDedup le items = items := by
  rw [sortDedup, ascending.sorted.insertionSort_eq]
  exact List.destutter_of_isChain _ _ ascending.nodup.isChain

theorem sortDedup_length_le (items : List α) : (sortDedup le items).length ≤ items.length := by
  have shorter := (List.destutter_sublist (· ≠ ·) (items.insertionSort le)).length_le
  rwa [List.length_insertionSort] at shorter

end

namespace Word

variable {n : Nat}

/-- The order of byte arrays of one length, which is that of the numbers they
    spell. -/
def le (a b : Word n) : Prop := ofBe a.val ≤ ofBe b.val

instance decidableLe : DecidableRel (le (n := n)) := fun a b =>
  inferInstanceAs (Decidable (ofBe a.val ≤ ofBe b.val))

instance totalLe : Std.Total (le (n := n)) := ⟨fun a b => Nat.le_total (ofBe a.val) (ofBe b.val)⟩

instance transLe : IsTrans (Word n) le := ⟨fun _ _ _ ab bc => Nat.le_trans ab bc⟩

theorem ofBe_injective {a b : Word n} (same : ofBe a.val = ofBe b.val) : a = b :=
  Subtype.ext (ofBe_inj (a.property.trans b.property.symm) same)

instance antisymmLe : Std.Antisymm (le (n := n)) :=
  ⟨fun _ _ ab ba => ofBe_injective (Nat.le_antisymm ab ba)⟩

end Word

end EnclaveSigner.Lib
