import Mathlib.Algebra.BigOperators.Group.Finset.Basic
import Mathlib.Data.Finset.Insert
import Mathlib.Logic.Relation
import Mathlib.Tactic.Common

/-! # The steps of a depth-first walk

A walk pops a node from its stack, and pushes the successors of a node the first
time it pops it. Each pop is a step and each push is one. A budget may stop the
walk. The number of steps is fixed by the nodes that the start reaches: one, and
two for each edge out of these nodes.
-/

namespace EnclaveSigner.Lib.DepthFirst

variable {ν : Type} [DecidableEq ν] (next : ν → List ν)

/-- A walk with this stack and these visited nodes, after `steps` steps, ends after
    `result` steps. -/
inductive Walk (budget : Nat) :
    (stack : List ν) → (visited : Finset ν) → (steps result : Nat) → Prop where
  | done {visited steps} : Walk budget [] visited steps steps
  | stop {node stack visited steps} (above : budget < steps + 1) :
      Walk budget (node :: stack) visited steps (steps + 1)
  | skip {node stack visited steps result} (again : node ∈ visited)
      (rest : Walk budget stack visited (steps + 1) result) :
      Walk budget (node :: stack) visited steps result
  | visit {node stack visited steps result} (fresh : node ∉ visited)
      (rest : Walk budget ((next node).reverse ++ stack) (insert node visited)
        (steps + 1 + (next node).length) result) :
      Walk budget (node :: stack) visited steps result

/-- The nodes that a walk from `start` can come to. -/
def Reach (start node : ν) : Prop := Relation.ReflTransGen (fun a b => b ∈ next a) start node

/-- A node that is visited, or will be popped. -/
def Found (stack : List ν) (visited : Finset ν) (node : ν) : Prop := node ∈ visited ∨ node ∈ stack

/-- What holds between two steps of a walk from `start`: it has come to nodes of
    `reach` only, and has found the successors of all that it visited. -/
structure Front (reach : Finset ν) (start : ν) (stack : List ν) (visited : Finset ν) : Prop where
  stacked : ∀ node ∈ stack, node ∈ reach
  subset : visited ⊆ reach
  started : Found stack visited start
  closed : ∀ node ∈ visited, ∀ successor ∈ next node, Found stack visited successor

/-- The steps that a walk still takes: a pop for each node on the stack, and a push
    and a pop for each edge out of a node that it has yet to visit. -/
def remaining (reach : Finset ν) (stack : List ν) (visited : Finset ν) : Nat :=
  stack.length + 2 * ∑ node ∈ reach \ visited, (next node).length

variable {next} {reach visited : Finset ν} {start node : ν} {stack : List ν}

omit [DecidableEq ν] in
theorem Found.skip {other : ν} (found : Found (node :: stack) visited other)
    (again : node ∈ visited) : Found stack visited other := by
  rcases found with done | ahead
  · exact .inl done
  · rcases List.mem_cons.mp ahead with rfl | later
    · exact .inl again
    · exact .inr later

theorem Found.visit {other : ν} {pushed : List ν} (found : Found (node :: stack) visited other) :
    Found (pushed ++ stack) (insert node visited) other := by
  rcases found with done | ahead
  · exact .inl (Finset.mem_insert_of_mem done)
  · rcases List.mem_cons.mp ahead with rfl | later
    · exact .inl (Finset.mem_insert_self _ _)
    · exact .inr (List.mem_append_right _ later)

omit [DecidableEq ν] in
theorem Front.skip (front : Front next reach start (node :: stack) visited)
    (again : node ∈ visited) : Front next reach start stack visited where
  stacked other later := front.stacked other (List.mem_cons_of_mem node later)
  subset := front.subset
  started := front.started.skip again
  closed other inside successor edge := (front.closed other inside successor edge).skip again

theorem Front.visit (front : Front next reach start (node :: stack) visited)
    (onward : ∀ successor ∈ next node, successor ∈ reach) :
    Front next reach start ((next node).reverse ++ stack) (insert node visited) where
  stacked other ahead := by
    rcases List.mem_append.mp ahead with pushed | later
    · exact onward other (List.mem_reverse.mp pushed)
    · exact front.stacked other (List.mem_cons_of_mem node later)
  subset := Finset.insert_subset (front.stacked node List.mem_cons_self) front.subset
  started := front.started.visit
  closed other inside successor edge := by
    rcases Finset.mem_insert.mp inside with rfl | before
    · exact .inr (List.mem_append_left _ (List.mem_reverse.mpr edge))
    · exact (front.closed other before successor edge).visit

omit [DecidableEq ν] in
/-- With nothing left on the stack the walk has visited all it can reach. -/
theorem Front.complete (front : Front next reach start [] visited)
    (reached : ∀ node ∈ reach, Reach next start node) : visited = reach := by
  have all : ∀ node, Reach next start node → node ∈ visited := by
    intro node path
    induction path with
    | refl => exact front.started.resolve_right List.not_mem_nil
    | tail _ edge ih => exact (front.closed _ ih _ edge).resolve_right List.not_mem_nil
  exact Finset.Subset.antisymm front.subset fun node member => all node (reached node member)

/-- A first visit takes its pop and its pushes out of what remains. -/
theorem remaining_visit (inside : node ∈ reach) (fresh : node ∉ visited) :
    1 + (next node).length + remaining next reach ((next node).reverse ++ stack)
      (insert node visited) = remaining next reach (node :: stack) visited := by
  have member : node ∈ reach \ visited := Finset.mem_sdiff.mpr ⟨inside, fresh⟩
  have split := Finset.add_sum_erase _ (fun v => (next v).length) member
  rw [remaining, remaining, Finset.sdiff_insert, ← split, List.length_append, List.length_reverse,
    List.length_cons]
  omega

/-- A walk ends after all the steps that remain, or its budget stops it before. -/
theorem Walk.steps_eq {budget steps result : Nat}
    (walk : Walk next budget stack visited steps result)
    (front : Front next reach start stack visited)
    (reached : ∀ node, node ∈ reach ↔ Reach next start node) :
    result = steps + remaining next reach stack visited ∨
      budget < result ∧ result ≤ steps + remaining next reach stack visited := by
  induction walk with
  | done =>
      rw [front.complete fun node => (reached node).mp, remaining, Finset.sdiff_self]
      exact .inl rfl
  | stop above =>
      refine .inr ⟨above, ?_⟩
      rw [remaining, List.length_cons]
      omega
  | skip again rest ih =>
      have later := ih (front.skip again)
      rw [remaining, List.length_cons]
      rw [remaining] at later
      omega
  | @visit node stack visited steps result fresh rest ih =>
      have inside := front.stacked node List.mem_cons_self
      have onward : ∀ successor ∈ next node, successor ∈ reach := fun successor edge =>
        (reached successor).mpr (((reached node).mp inside).tail edge)
      have later := ih (front.visit onward)
      have split := @remaining_visit _ _ next reach visited node stack inside fresh
      omega

/-- A whole walk takes one step, and two for each edge out of a node that it
    reaches. -/
theorem Walk.steps_from_start {budget result : Nat}
    (walk : Walk next budget [start] ∅ 0 result)
    (reached : ∀ node, node ∈ reach ↔ Reach next start node) :
    result = 1 + 2 * ∑ node ∈ reach, (next node).length ∨
      budget < result ∧ result ≤ 1 + 2 * ∑ node ∈ reach, (next node).length := by
  have front : Front next reach start [start] ∅ := {
    stacked := fun node member => by
      rw [List.mem_singleton.mp member, reached]
      exact .refl
    subset := Finset.empty_subset reach
    started := .inr List.mem_cons_self
    closed := fun node member => absurd member (Finset.notMem_empty node) }
  have total := walk.steps_eq front reached
  rwa [remaining, Finset.sdiff_empty, List.length_singleton, Nat.zero_add] at total

end EnclaveSigner.Lib.DepthFirst
