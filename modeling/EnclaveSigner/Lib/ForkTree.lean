import Mathlib.Logic.Relation
import Mathlib.Order.Basic

/-! # Block trees

Blocks with parents form a tree, and a chain is what lies below its tip. Two
blocks of one chain are in line, the lower one below the other. A changing chain
is a tip at each moment. Where no block comes back to it, a block that is on it
at two moments is on it at every moment between, together with all its ancestors.
-/

namespace EnclaveSigner.Lib

/-- Blocks with their parents. A parent is one lower. -/
structure ForkTree (β : Type) where
  parent : β → Option β
  height : β → Nat
  height_parent : ∀ block above, parent block = some above → height block = height above + 1

namespace ForkTree

variable {β : Type} (tree : ForkTree β)

/-- The first block is the second, its parent, the parent of that, and so on. -/
def Ancestor (old recent : β) : Prop :=
  Relation.ReflTransGen (fun block above => tree.parent block = some above) recent old

variable {tree} {a b c tip : β}

theorem Ancestor.trans (ab : tree.Ancestor a b) (bc : tree.Ancestor b c) : tree.Ancestor a c :=
  Relation.ReflTransGen.trans bc ab

theorem Ancestor.height_le (below : tree.Ancestor a b) : tree.height a ≤ tree.height b := by
  unfold Ancestor at below
  induction below with
  | refl => exact Nat.le_refl _
  | tail _ step ih =>
      have height := tree.height_parent _ _ step
      omega

theorem Ancestor.eq_of_height_le (below : tree.Ancestor a b)
    (high : tree.height b ≤ tree.height a) : a = b := by
  rcases Relation.ReflTransGen.cases_head below with same | ⟨above, step, rest⟩
  · exact same.symm
  · have height := tree.height_parent _ _ step
    have le : tree.height a ≤ tree.height above := Ancestor.height_le rest
    omega

/-- Two blocks of one chain are in line. -/
theorem Ancestor.of_height_le (left : tree.Ancestor a tip) (right : tree.Ancestor b tip)
    (low : tree.height a ≤ tree.height b) : tree.Ancestor a b := by
  have unique : Relator.RightUnique fun block above => tree.parent block = some above := by
    intro block above other first second
    exact Option.some.inj (first.symm.trans second)
  rcases Relation.ReflTransGen.total_of_right_unique unique left right with above | below
  · have same : b = a := Ancestor.eq_of_height_le above low
    rw [same]
    exact Relation.ReflTransGen.refl
  · exact below

section History

variable {ν : Type} [Preorder ν] {tips : ν → β}

def Canonical (tree : ForkTree β) (tips : ν → β) (moment : ν) (block : β) : Prop :=
  tree.Ancestor block (tips moment)

/-- A block that leaves the chain stays out of it. -/
def NeverReturns (tree : ForkTree β) (tips : ν → β) : Prop :=
  ∀ first middle last block, first ≤ middle → middle ≤ last →
    tree.Canonical tips first block → tree.Canonical tips last block →
      tree.Canonical tips middle block

/-- A block on the chain at a moment is below a head that was on it before and
    is on it later, and then it is on the chain later too. -/
theorem NeverReturns.below_head (never : tree.NeverReturns tips) {first middle last : ν}
    {head block : β} (before : first ≤ middle) (after : middle ≤ last)
    (read : tree.Canonical tips first head) (kept : tree.Canonical tips last head)
    (found : tree.Canonical tips middle block) (low : tree.height block ≤ tree.height head) :
    tree.Ancestor block head ∧ tree.Canonical tips last block := by
  have between := never first middle last head before after read kept
  have below : tree.Ancestor block head := Ancestor.of_height_le found between low
  exact ⟨below, below.trans kept⟩

end History

end ForkTree

end EnclaveSigner.Lib
