import Mathlib.Algebra.Group.Nat.Even
import Mathlib.Data.List.Basic
import Mathlib.Data.Nat.Bitwise
import Mathlib.Data.Set.Function

/-! # Merkle trees with a duplicated last node

A level is padded to even length with its own last node, and neighbours are
joined and hashed to the next level. A proof climbs from a leaf: each bit of the
position says on which side the sibling stands. `hash` maps joined nodes to a
node, and leaves are hashes of items of the same type as joined nodes. That is
how a leaf can be mistaken for an inner node.
-/

namespace EnclaveSigner.Lib.MerkleTree

variable {α β : Type}

def padOdd (level : List α) : List α :=
  if level.length % 2 = 1 then level ++ level.getLast?.toList else level

def joinPairs (join : α → α → β) : List α → List β
  | a :: b :: rest => join a b :: joinPairs join rest
  | _ => []

def levelInputs (join : α → α → β) (level : List α) : List β := joinPairs join (padOdd level)

section

variable (hash : β → α) (join : α → α → β)

def levelUp (level : List α) : List α := (levelInputs join level).map hash

def levelAt (leaves : List α) (k : Nat) : List α := (levelUp hash join)^[k] leaves

def rootWithin : Nat → List α → Option α
  | _, [] => none
  | _, [root] => some root
  | 0, _ => none
  | fuel + 1, level => rootWithin fuel (levelUp hash join level)

/-- The root over the leaves. Each level is shorter, so as many levels as leaves
    are enough. -/
def merkleRoot (leaves : List α) : Option α := rootWithin hash join leaves.length leaves

/-- What is hashed to build the tree from a level on. -/
def inputsWithin : Nat → List α → List β
  | 0, _ => []
  | fuel + 1, level =>
      if level.length ≤ 1 then []
      else levelInputs join level ++ inputsWithin fuel (levelUp hash join level)

def treeInputs (leaves : List α) : List β := inputsWithin hash join leaves.length leaves

def branchWithin : Nat → List α → Nat → List α
  | 0, _, _ => []
  | fuel + 1, level, pos =>
      if level.length ≤ 1 then []
      else (padOdd level)[pos ^^^ 1]?.toList
        ++ branchWithin fuel (levelUp hash join level) (pos / 2)

def branch (leaves : List α) (pos : Nat) : List α :=
  branchWithin hash join leaves.length leaves pos

def joinAt (pos : Nat) (node sibling : α) : β :=
  if pos % 2 = 0 then join node sibling else join sibling node

def climb : Nat → α → List α → α
  | _, node, [] => node
  | pos, node, sibling :: path => climb (pos / 2) (hash (joinAt join pos node sibling)) path

def climbInputs : Nat → α → List α → List β
  | _, _, [] => []
  | pos, node, sibling :: path =>
      joinAt join pos node sibling
        :: climbInputs (pos / 2) (hash (joinAt join pos node sibling)) path

def climbNodes : Nat → α → List α → List α
  | _, _, [] => []
  | pos, node, sibling :: path =>
      node :: climbNodes (pos / 2) (hash (joinAt join pos node sibling)) path

end

section Levels

variable {hash : β → α} {join : α → α → β}

theorem padOdd_length (level : List α) :
    (padOdd level).length = level.length + level.length % 2 := by
  unfold padOdd
  split
  · rename_i odd
    cases last : level.getLast? with
    | none =>
        rw [List.getLast?_eq_none_iff.mp last] at odd
        cases odd
    | some node => simp [odd]
  · omega

theorem mem_of_mem_padOdd {level : List α} {node : α} (member : node ∈ padOdd level) :
    node ∈ level := by
  unfold padOdd at member
  split at member
  · rcases List.mem_append.mp member with inside | last
    · exact inside
    · exact List.mem_of_getLast? (by simpa using last)
  · exact member

theorem joinPairs_length : ∀ level : List α, (joinPairs join level).length = level.length / 2
  | [] => by simp [joinPairs]
  | [_] => by simp [joinPairs]
  | a :: b :: rest => by
      simp only [joinPairs, List.length_cons, joinPairs_length rest]
      omega

theorem joinPairs_getElem? : ∀ (level : List α) (i : Nat) (a b : α),
    level[2 * i]? = some a → level[2 * i + 1]? = some b →
      (joinPairs join level)[i]? = some (join a b)
  | [], _, _, _, left, _ => by cases left
  | [_], i, _, _, _, right => by cases i <;> cases right
  | x :: y :: rest, 0, a, b, left, right => by
      cases left
      cases right
      rfl
  | x :: y :: rest, i + 1, a, b, left, right => joinPairs_getElem? rest i a b left right

theorem mem_joinPairs : ∀ {level : List α} {input : β}, input ∈ joinPairs join level →
    ∃ a ∈ level, ∃ b ∈ level, input = join a b
  | [], _, member => by cases member
  | [_], _, member => by cases member
  | x :: y :: rest, input, member => by
      rcases List.mem_cons.mp member with rfl | later
      · exact ⟨x, by simp, y, by simp, rfl⟩
      · obtain ⟨a, ha, b, hb, same⟩ := mem_joinPairs later
        exact ⟨a, by simp [ha], b, by simp [hb], same⟩

theorem levelUp_length (hash : β → α) (join : α → α → β) (level : List α) :
    (levelUp hash join level).length = (level.length + 1) / 2 := by
  rw [levelUp, List.length_map, levelInputs, joinPairs_length, padOdd_length]
  omega

/-- An inner node is the hash of two nodes of the level below. -/
theorem mem_levelUp {level : List α} {node : α} (member : node ∈ levelUp hash join level) :
    ∃ a ∈ level, ∃ b ∈ level, join a b ∈ levelInputs join level ∧ node = hash (join a b) := by
  obtain ⟨input, inside, rfl⟩ := List.mem_map.mp member
  obtain ⟨a, ha, b, hb, rfl⟩ := mem_joinPairs inside
  exact ⟨a, mem_of_mem_padOdd ha, b, mem_of_mem_padOdd hb, inside, rfl⟩

theorem levelAt_succ (leaves : List α) (k : Nat) :
    levelAt hash join leaves (k + 1) = levelUp hash join (levelAt hash join leaves k) :=
  Function.iterate_succ_apply' _ _ _

theorem levelAt_levelUp (level : List α) (k : Nat) :
    levelAt hash join (levelUp hash join level) k = levelAt hash join level (k + 1) :=
  (Function.iterate_succ_apply _ _ _).symm

/-- The root is alone on its level, and the tree was built through every level
    below. -/
theorem rootWithin_level {fuel : Nat} {level : List α} {root : α}
    (found : rootWithin hash join fuel level = some root) :
    ∃ k, levelAt hash join level k = [root] ∧
      ∀ j < k, ∀ input ∈ levelInputs join (levelAt hash join level j),
        input ∈ inputsWithin hash join fuel level := by
  induction fuel generalizing level with
  | zero =>
      match level, found with
      | [node], found =>
          cases found
          exact ⟨0, rfl, fun j below => absurd below (Nat.not_lt_zero j)⟩
  | succ fuel ih =>
      match level, found with
      | [node], found =>
          cases found
          exact ⟨0, rfl, fun j below => absurd below (Nat.not_lt_zero j)⟩
      | a :: b :: rest, found =>
          obtain ⟨k, top, covered⟩ := ih found
          refine ⟨k + 1, by rw [← levelAt_levelUp]; exact top, ?_⟩
          intro j below input inside
          rw [inputsWithin, if_neg (by simp), List.mem_append]
          cases j with
          | zero => exact .inl inside
          | succ j =>
              rw [← levelAt_levelUp] at inside
              exact .inr (covered j (by omega) input inside)

end Levels

section Soundness

variable {hash : β → α} {join : α → α → β} {hashed : Set β} {leaves : List α}

theorem mem_climbInputs {path : List α} {pos : Nat} {node : α} {input : β}
    (member : input ∈ climbInputs hash join pos node path) : ∃ a b, input = join a b := by
  induction path generalizing pos node with
  | nil => cases member
  | cons sibling path ih =>
      rcases List.mem_cons.mp member with rfl | later
      · unfold joinAt
        split
        · exact ⟨node, sibling, rfl⟩
        · exact ⟨sibling, node, rfl⟩
      · exact ih later

/-- A climb that ends on a level of the tree starts on a level of the tree. -/
theorem climb_from_level (collisionFree : Set.InjOn hash hashed)
    (joinInjective : ∀ {a b c d}, join a b = join c d → a = c ∧ b = d) {items : List β}
    (leavesAre : leaves = items.map hash) (itemsHashed : ∀ item ∈ items, item ∈ hashed)
    {top : Nat} (treeHashed : ∀ j < top, ∀ input ∈ levelInputs join (levelAt hash join leaves j),
      input ∈ hashed)
    {path : List α} {pos : Nat} {node : α}
    (pathHashed : ∀ input ∈ climbInputs hash join pos node path, input ∈ hashed)
    (noItem : ∀ input ∈ climbInputs hash join pos node path, input ∉ items)
    {k : Nat} (low : k ≤ top)
    (ends : climb hash join pos node path ∈ levelAt hash join leaves k) :
    ∃ m ≤ top, node ∈ levelAt hash join leaves m := by
  induction path generalizing pos node with
  | nil => exact ⟨k, low, ends⟩
  | cons sibling path ih =>
      simp only [climbInputs, List.mem_cons, forall_eq_or_imp] at pathHashed noItem
      obtain ⟨m, bound, parent⟩ := ih pathHashed.2 noItem.2 ends
      cases m with
      | zero =>
          -- The parent would be a leaf, so the join just hashed would be an item.
          rw [levelAt, Function.iterate_zero_apply, leavesAre] at parent
          obtain ⟨item, inside, same⟩ := List.mem_map.mp parent
          have confused := collisionFree (itemsHashed item inside) pathHashed.1 same
          exact absurd (confused ▸ inside) noItem.1
      | succ m =>
          rw [levelAt_succ] at parent
          obtain ⟨a, ha, b, hb, inside, same⟩ := mem_levelUp parent
          have joined := collisionFree pathHashed.1 (treeHashed m (by omega) _ inside) same
          refine ⟨m, by omega, ?_⟩
          unfold joinAt at joined
          split at joined
          · obtain ⟨left, -⟩ := joinInjective joined
            rw [left]
            exact ha
          · obtain ⟨-, right⟩ := joinInjective joined
            rw [right]
            exact hb

/-- A climb to the root of the tree over `items`, from the hash of a value that
    is no join, over no join that is an item, starts at one of the items. -/
theorem mem_of_climb_eq_root (collisionFree : Set.InjOn hash hashed)
    (joinInjective : ∀ {a b c d}, join a b = join c d → a = c ∧ b = d) {items : List β}
    (itemsHashed : ∀ item ∈ items, item ∈ hashed)
    (treeHashed : ∀ input ∈ treeInputs hash join (items.map hash), input ∈ hashed)
    {root : α} (rootIs : merkleRoot hash join (items.map hash) = some root)
    {value : β} (valueHashed : value ∈ hashed) (noJoin : ∀ a b, value ≠ join a b)
    {path : List α} {pos : Nat}
    (pathHashed : ∀ input ∈ climbInputs hash join pos (hash value) path, input ∈ hashed)
    (noItem : ∀ input ∈ climbInputs hash join pos (hash value) path, input ∉ items)
    (reaches : climb hash join pos (hash value) path = root) : value ∈ items := by
  obtain ⟨top, alone, covered⟩ := rootWithin_level rootIs
  have treeHashed : ∀ j < top,
      ∀ input ∈ levelInputs join (levelAt hash join (items.map hash) j), input ∈ hashed :=
    fun j below input inside => treeHashed input (covered j below input inside)
  have ends : climb hash join pos (hash value) path ∈ levelAt hash join (items.map hash) top := by
    rw [reaches, alone]
    exact List.mem_singleton_self root
  obtain ⟨m, bound, starts⟩ := climb_from_level collisionFree joinInjective rfl itemsHashed
    treeHashed pathHashed noItem (Nat.le_refl top) ends
  cases m with
  | zero =>
      obtain ⟨item, inside, same⟩ := List.mem_map.mp starts
      rw [← collisionFree (itemsHashed item inside) valueHashed same]
      exact inside
  | succ m =>
      rw [levelAt_succ] at starts
      obtain ⟨a, -, b, -, inside, same⟩ := mem_levelUp starts
      exact absurd (collisionFree valueHashed (treeHashed m (by omega) _ inside) same)
        (noJoin a b)

end Soundness

section Completeness

variable {hash : β → α} {join : α → α → β}

theorem padOdd_getElem? {level : List α} {pos : Nat} (inside : pos < level.length) :
    (padOdd level)[pos]? = level[pos]? := by
  unfold padOdd
  split
  · exact List.getElem?_append_left inside
  · rfl

/-- The parent of a node is the hash of its join with its sibling. -/
theorem levelUp_getElem? (hash : β → α) (join : α → α → β) {level : List α} {pos : Nat}
    {node : α}
    (found : level[pos]? = some node) :
    ∃ sibling, (padOdd level)[pos ^^^ 1]? = some sibling ∧
      (levelUp hash join level)[pos / 2]? = some (hash (joinAt join pos node sibling)) := by
  have inside := (List.getElem?_eq_some_iff.mp found).1
  have padded := padOdd_length level
  have atPos : (padOdd level)[pos]? = some node := by rw [padOdd_getElem? inside, found]
  have partner : pos ^^^ 1 < (padOdd level).length := by
    rcases Nat.even_or_odd pos with even | odd
    · rw [Nat.xor_one_of_even even]
      have parity := Nat.even_iff.mp even
      omega
    · rw [Nat.xor_one_of_odd odd]
      omega
  obtain ⟨sibling, atPartner⟩ : ∃ sibling, (padOdd level)[pos ^^^ 1]? = some sibling :=
    ⟨_, List.getElem?_eq_getElem partner⟩
  refine ⟨sibling, atPartner, ?_⟩
  rw [levelUp, List.getElem?_map, levelInputs, joinAt]
  rcases Nat.even_or_odd pos with even | odd
  · have parity := Nat.even_iff.mp even
    have half : 2 * (pos / 2) = pos := by omega
    rw [Nat.xor_one_of_even even] at atPartner
    rw [joinPairs_getElem? _ (pos / 2) node sibling (by rw [half]; exact atPos)
      (by rw [half]; exact atPartner), if_pos parity, Option.map_some]
  · have parity := Nat.odd_iff.mp odd
    have half : 2 * (pos / 2) = pos - 1 := by omega
    have next : pos - 1 + 1 = pos := by omega
    rw [Nat.xor_one_of_odd odd] at atPartner
    rw [joinPairs_getElem? _ (pos / 2) sibling node (by rw [half]; exact atPartner)
      (by rw [half, next]; exact atPos), if_neg (by omega), Option.map_some]

theorem climb_single {fuel pos : Nat} {node only root : α} (found : [only][pos]? = some node)
    (rootIs : rootWithin hash join fuel [only] = some root) :
    climb hash join pos node (branchWithin hash join fuel [only] pos) = root ∧
      pos < 2 ^ (branchWithin hash join fuel [only] pos).length := by
  have inside := (List.getElem?_eq_some_iff.mp found).1
  have first : pos = 0 := by simpa using inside
  have branch : branchWithin hash join fuel [only] pos = [] := by
    cases fuel with
    | zero => rfl
    | succ fuel => rfl
  have root_eq : rootWithin hash join fuel [only] = some only := by
    cases fuel with
    | zero => rfl
    | succ fuel => rfl
  subst first
  rw [root_eq] at rootIs
  cases rootIs
  cases found
  rw [branch]
  exact ⟨rfl, Nat.zero_lt_one⟩

/-- The honest branch climbs from a leaf to the root, with a sibling for each
    bit of the position. -/
theorem climb_branchWithin {fuel : Nat} {level : List α} {pos : Nat} {node root : α}
    (found : level[pos]? = some node) (rootIs : rootWithin hash join fuel level = some root) :
    climb hash join pos node (branchWithin hash join fuel level pos) = root ∧
      pos < 2 ^ (branchWithin hash join fuel level pos).length := by
  induction fuel generalizing level pos node with
  | zero =>
      match level, found, rootIs with
      | [only], found, rootIs => exact climb_single found rootIs
  | succ fuel ih =>
      match level, found, rootIs with
      | [only], found, rootIs => exact climb_single found rootIs
      | a :: b :: rest, found, rootIs =>
          obtain ⟨sibling, partner, parent⟩ := levelUp_getElem? hash join found
          obtain ⟨climbs, bits⟩ := ih parent rootIs
          rw [branchWithin, if_neg (by simp), partner, Option.toList_some, List.singleton_append]
          refine ⟨climbs, ?_⟩
          rw [List.length_cons, Nat.pow_succ]
          omega

theorem rootWithin_isSome (hash : β → α) (join : α → α → β) {fuel : Nat} {level : List α}
    (nonempty : level ≠ [])
    (enough : level.length ≤ fuel) : ∃ root, rootWithin hash join fuel level = some root := by
  induction fuel generalizing level with
  | zero => exact absurd (List.length_eq_zero_iff.mp (Nat.le_zero.mp enough)) nonempty
  | succ fuel ih =>
      match level, nonempty, enough with
      | [only], _, _ => exact ⟨only, rfl⟩
      | a :: b :: rest, _, enough =>
          have length := levelUp_length hash join (a :: b :: rest)
          rw [List.length_cons, List.length_cons] at length enough
          have shorter : levelUp hash join (a :: b :: rest) ≠ [] := by
            intro empty
            rw [empty, List.length_nil] at length
            omega
          exact ih shorter (by omega)

theorem branchWithin_length {fuel depth : Nat} {level : List α} {pos : Nat}
    (small : level.length ≤ 2 ^ depth) :
    (branchWithin hash join fuel level pos).length ≤ depth := by
  induction fuel generalizing depth level pos with
  | zero => exact Nat.zero_le depth
  | succ fuel ih =>
      rw [branchWithin]
      split
      · exact Nat.zero_le depth
      · rename_i tall
        cases depth with
        | zero => omega
        | succ depth =>
            have half : (levelUp hash join level).length ≤ 2 ^ depth := by
              rw [levelUp_length]
              rw [Nat.pow_succ] at small
              omega
            have rest : (branchWithin hash join fuel (levelUp hash join level) (pos / 2)).length
                ≤ depth := ih half
            have one : (padOdd level)[pos ^^^ 1]?.toList.length ≤ 1 := by
              cases (padOdd level)[pos ^^^ 1]? with
              | none => exact Nat.zero_le 1
              | some sibling => exact Nat.le_refl 1
            rw [List.length_append]
            omega

/-- Two climbs over the same siblings to the same root start at the same node
    and position, if on one of them no node equals its sibling. -/
theorem climb_unique {hashed : Set β} (collisionFree : Set.InjOn hash hashed)
    (joinInjective : ∀ {a b c d}, join a b = join c d → a = c ∧ b = d)
    {path : List α} {p q : Nat} {a b : α}
    (left : ∀ input ∈ climbInputs hash join p a path, input ∈ hashed)
    (right : ∀ input ∈ climbInputs hash join q b path, input ∈ hashed)
    (distinct : ∀ step ∈ (climbNodes hash join p a path).zip path, step.1 ≠ step.2)
    (same : climb hash join p a path = climb hash join q b path) :
    a = b ∧ p % 2 ^ path.length = q % 2 ^ path.length := by
  induction path generalizing p q a b with
  | nil => exact ⟨same, by simp [Nat.mod_one]⟩
  | cons sibling path ih =>
      simp only [climbInputs, climbNodes, List.zip_cons_cons, List.mem_cons,
        forall_eq_or_imp] at left right distinct
      obtain ⟨parents, bits⟩ := ih left.2 right.2 distinct.2 same
      have joined := collisionFree left.1 right.1 parents
      have sameBit : p % 2 = q % 2 ∧ a = b := by
        unfold joinAt at joined
        split_ifs at joined with hp hq hq
        · exact ⟨by omega, (joinInjective joined).1⟩
        · exact absurd (joinInjective joined).1 distinct.1
        · exact absurd (joinInjective joined).2 distinct.1
        · exact ⟨by omega, (joinInjective joined).2⟩
      refine ⟨sameBit.2, ?_⟩
      have pbits := Nat.mod_mul (a := 2) (b := 2 ^ path.length) (x := p)
      have qbits := Nat.mod_mul (a := 2) (b := 2 ^ path.length) (x := q)
      rw [List.length_cons, Nat.pow_succ', pbits, qbits, sameBit.1, bits]

end Completeness

end EnclaveSigner.Lib.MerkleTree
