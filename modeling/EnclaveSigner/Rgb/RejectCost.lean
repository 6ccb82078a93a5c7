import Mathlib.Algebra.Order.BigOperators.Group.Finset
import Mathlib.Data.Finset.Prod
import Mathlib.Order.Interval.Finset.Nat
import EnclaveSigner.Rgb.RejectWalk

/-! # The count is exact

The count of the reject walks against the walks themselves, one from every origin
and each to its end. Sharing walks between origins and stopping them early changes
the count only above the cap.
-/

namespace EnclaveSigner.Rgb

open Lib DepthFirst

namespace OpGraph

section Walking

variable {graph : OpGraph} {walk : UInt32} {budget : Nat}

def marked (walk : UInt32) (seen : List UInt32) : Finset Nat :=
  {node ∈ Finset.range seen.length | seen.getD node 0 = walk}

theorem marked_set {seen : List UInt32} {node : Nat} (inside : node < seen.length) :
    marked walk (seen.set node walk) = insert node (marked walk seen) := by
  ext other
  simp only [marked, Finset.mem_filter, Finset.mem_range, Finset.mem_insert, List.length_set,
    List.getD_eq_getElem?_getD, List.getElem?_set]
  by_cases same : node = other
  · subst same
    simp [inside]
  · simp [same, Ne.symm same]

/-- The marks after a walk: those before it, or its number. -/
structure MarkedBy (walk : UInt32) (seen after : List UInt32) : Prop where
  size : after.length = seen.length
  marks : ∀ node, after.getD node 0 = seen.getD node 0 ∨ after.getD node 0 = walk

theorem MarkedBy.refl (seen : List UInt32) : MarkedBy walk seen seen := ⟨rfl, fun _ => .inl rfl⟩

theorem MarkedBy.of_set {seen after : List UInt32} {node : Nat}
    (marked : MarkedBy walk (seen.set node walk) after) : MarkedBy walk seen after where
  size := by rw [marked.size, List.length_set]
  marks other := by
    rcases marked.marks other with same | new
    · rw [same, List.getD_eq_getElem?_getD, List.getElem?_set, List.getD_eq_getElem?_getD]
      split
      · split
        · exact .inr rfl
        · rename_i outside
          rw [List.getElem?_eq_none (by omega)]
          exact .inl rfl
      · exact .inl rfl
    · exact .inr new

theorem walkLoop_spec (rows : ∀ node, ∀ successor ∈ graph.parentsOf node,
      successor < graph.parents.length)
    {fuel steps : Nat} {stack : List Nat} {seen : List UInt32}
    (size : seen.length = graph.parents.length) (stacked : ∀ node ∈ stack, node < seen.length)
    (enough : remaining graph.parentsOf (Finset.range graph.parents.length) stack
      (marked walk seen) ≤ fuel) :
    Walk graph.parentsOf budget stack (marked walk seen) steps
        (graph.walkLoop walk budget fuel stack seen steps).1 ∧
      MarkedBy walk seen (graph.walkLoop walk budget fuel stack seen steps).2 := by
  induction fuel generalizing stack seen steps with
  | zero =>
      rw [remaining] at enough
      rw [List.length_eq_zero_iff.mp (show stack.length = 0 by omega)]
      exact ⟨.done, .refl seen⟩
  | succ fuel ih =>
      cases stack with
      | nil => exact ⟨.done, .refl seen⟩
      | cons node stack =>
          have inside := stacked node List.mem_cons_self
          have below : ∀ other ∈ stack, other < seen.length := fun other later =>
            stacked other (List.mem_cons_of_mem node later)
          have marked_iff : node ∈ marked walk seen ↔ seen.getD node 0 = walk := by
            rw [marked, Finset.mem_filter, Finset.mem_range, and_iff_right inside]
          unfold walkLoop
          by_cases above : steps + 1 > budget
          · rw [if_pos above]
            exact ⟨.stop above, .refl seen⟩
          rw [if_neg above]
          by_cases again : seen.getD node 0 = walk
          · rw [if_pos again]
            rw [remaining, List.length_cons] at enough
            obtain ⟨rest, after⟩ := @ih (steps + 1) stack seen size below
              (by rw [remaining]; omega)
            exact ⟨.skip (marked_iff.mpr again) rest, after⟩
          · rw [if_neg again]
            have fresh : node ∉ marked walk seen := fun member => again (marked_iff.mp member)
            have split := @remaining_visit _ _ graph.parentsOf
              (Finset.range graph.parents.length) (marked walk seen) node stack
              (Finset.mem_range.mpr (size ▸ inside)) fresh
            rw [← marked_set inside] at split
            obtain ⟨rest, after⟩ := @ih (steps + 1 + (graph.parentsOf node).length)
              ((graph.parentsOf node).reverse ++ stack) (seen.set node walk)
              (by rw [List.length_set, size])
              (fun other member => by
                rw [List.length_set]
                rcases List.mem_append.mp member with pushed | later
                · exact size ▸ rows node other (List.mem_reverse.mp pushed)
                · exact below other later)
              (by omega)
            rw [marked_set inside] at rest
            exact ⟨.visit fresh rest, after.of_set⟩

theorem walkSteps_spec {ids : List OpId} {known : List KnownTransition} {start : Nat} {op : OpId}
    {seen : List UInt32} (holds : graph.Holds ids (inputsOf known))
    (named : ids[start]? = some op) (size : seen.length = graph.parents.length)
    (unmarked : marked walk seen = ∅) :
    ((graph.walkSteps start walk seen budget).1 = 1 + 2 * reachedInputs known op ∨
      budget < (graph.walkSteps start walk seen budget).1 ∧
        (graph.walkSteps start walk seen budget).1 ≤ 1 + 2 * reachedInputs known op) ∧
      MarkedBy walk seen (graph.walkSteps start walk seen budget).2 := by
  obtain ⟨reach, mem_reach, sum⟩ := holds.sum_reached named
  have start_inside : start < seen.length := by
    rw [size, holds.size]
    exact (List.getElem?_eq_some_iff.mp named).1
  have enough : remaining graph.parentsOf (Finset.range graph.parents.length) [start]
      (marked walk seen) ≤ 1 + 2 * ∑ node ∈ Finset.range graph.parents.length,
        (graph.parentsOf node).length := by
    rw [unmarked, remaining, Finset.sdiff_empty, List.length_singleton]
  obtain ⟨walked, after⟩ := @walkLoop_spec graph walk budget holds.successor_lt _ 0 [start] seen size
    (fun node member => List.mem_singleton.mp member ▸ start_inside) enough
  rw [unmarked] at walked
  have steps := walked.steps_from_start mem_reach
  rw [sum] at steps
  exact ⟨steps, after⟩

end Walking

end OpGraph

section Groups

theorem groupOrigins_eq (graph : OpGraph) (groups : List (Nat × Nat)) (origins : List Opout) :
    groupOrigins graph groups origins =
      ((graph.nodes (origins.map (·.op))).1.foldl addOrigin groups,
        (graph.nodes (origins.map (·.op))).2) := by
  induction origins generalizing graph groups with
  | nil => rfl
  | cons origin origins ih => exact ih (graph.node origin.op).2 _

theorem sum_addOrigin (cost : Nat → Nat) (groups : List (Nat × Nat)) (node : Nat) :
    ((addOrigin groups node).map fun group => group.2 * cost group.1).sum =
      (groups.map fun group => group.2 * cost group.1).sum + cost node := by
  induction groups with
  | nil => simp [addOrigin]
  | cons group rest ih =>
      obtain ⟨key, count⟩ := group
      rw [addOrigin]
      split
      · simp only [List.map_cons, List.sum_cons, Nat.one_mul]
        omega
      split
      · rename_i same
        subst same
        simp only [List.map_cons, List.sum_cons, Nat.add_mul, Nat.one_mul]
        omega
      · simp only [List.map_cons, List.sum_cons, ih]
        omega

theorem sum_foldl_addOrigin (cost : Nat → Nat) (nodes : List Nat) (groups : List (Nat × Nat)) :
    ((nodes.foldl addOrigin groups).map fun group => group.2 * cost group.1).sum =
      (groups.map fun group => group.2 * cost group.1).sum + (nodes.map cost).sum := by
  induction nodes generalizing groups with
  | nil => rfl
  | cons node nodes ih =>
      rw [List.foldl_cons, ih, sum_addOrigin, List.map_cons, List.sum_cons, Nat.add_assoc]

theorem mem_addOrigin {groups : List (Nat × Nat)} {node : Nat} {group : Nat × Nat}
    (member : group ∈ addOrigin groups node) :
    0 < group.2 ∧ group.1 = node ∨ group ∈ groups := by
  induction groups with
  | nil => simp_all [addOrigin]
  | cons first rest ih =>
      obtain ⟨key, count⟩ := first
      rw [addOrigin] at member
      split at member
      · rcases List.mem_cons.mp member with rfl | later
        · exact .inl ⟨Nat.one_pos, rfl⟩
        · exact .inr later
      split at member
      · rename_i same
        rcases List.mem_cons.mp member with rfl | later
        · exact .inl ⟨Nat.succ_pos count, same.symm⟩
        · exact .inr (List.mem_cons_of_mem _ later)
      · rcases List.mem_cons.mp member with rfl | later
        · exact .inr List.mem_cons_self
        · rcases ih later with new | old
          · exact .inl new
          · exact .inr (List.mem_cons_of_mem _ old)

structure Grouped (nodes : List Nat) (groups : List (Nat × Nat)) : Prop where
  ascending : groups.Pairwise fun a b => a.1 < b.1
  positive : ∀ group ∈ groups, 0 < group.2
  node_mem : ∀ group ∈ groups, group.1 ∈ nodes

theorem addOrigin_ascending {groups : List (Nat × Nat)} (node : Nat)
    (ascending : groups.Pairwise fun a b => a.1 < b.1) :
    (addOrigin groups node).Pairwise fun a b => a.1 < b.1 := by
  induction groups with
  | nil => exact List.pairwise_singleton _ _
  | cons first rest ih =>
      obtain ⟨key, count⟩ := first
      obtain ⟨above, sorted⟩ := List.pairwise_cons.mp ascending
      rw [addOrigin]
      split
      · rename_i before
        refine List.pairwise_cons.mpr ⟨fun group member => ?_, ascending⟩
        rcases List.mem_cons.mp member with rfl | later
        · exact before
        · exact before.trans (above group later)
      split
      · exact List.pairwise_cons.mpr ⟨above, sorted⟩
      · rename_i not_before not_same
        refine List.pairwise_cons.mpr ⟨fun group member => ?_, ih sorted⟩
        rcases mem_addOrigin member with ⟨-, same⟩ | old
        · change key < group.1
          omega
        · exact above group old

theorem foldl_addOrigin_grouped (nodes : List Nat) : Grouped nodes (nodes.foldl addOrigin []) := by
  induction nodes using List.reverseRecOn with
  | nil => exact ⟨List.Pairwise.nil, fun _ member => absurd member List.not_mem_nil,
      fun _ member => absurd member List.not_mem_nil⟩
  | append_singleton nodes last ih =>
      rw [List.foldl_append, List.foldl_cons, List.foldl_nil]
      refine ⟨addOrigin_ascending last ih.ascending, fun group member => ?_, fun group member => ?_⟩
      · rcases mem_addOrigin member with new | old
        · exact new.1
        · exact ih.positive group old
      · rcases mem_addOrigin member with new | old
        · exact List.mem_append_right _ (List.mem_singleton.mpr new.2)
        · exact List.mem_append_left _ (ih.node_mem group old)

end Groups

section Totals

variable {cap total count steps exact : Nat}

theorem saturating_le (n : Nat) : saturating n ≤ n := Nat.min_le_left _ _

theorem saturating_add (a b : Nat) : saturating (saturating a + b) = saturating (a + b) := by
  unfold saturating
  omega

theorem total_eq (within : total ≤ cap) (machine : cap ≤ 2 ^ 64 - 1) (positive : 0 < count)
    (walked : steps = exact ∨
      saturating ((cap - total) / count + 1) < steps ∧ steps ≤ exact)
    (fits : saturating (total + saturating (count * steps)) ≤ cap) :
    saturating (total + saturating (count * steps)) = saturating (total + count * exact) := by
  rcases walked with rfl | ⟨above, most⟩
  · unfold saturating
    omega
  · have more : count * steps ≤ count * exact := Nat.mul_le_mul_left count most
    have least : steps ≤ count * steps := Nat.le_mul_of_pos_left steps positive
    unfold saturating at *
    by_cases stopped : (cap - total) / count + 1 < steps
    · have past : cap - total < count * steps := by
        have := Nat.div_lt_iff_lt_mul positive |>.mp (show (cap - total) / count < steps by omega)
        rwa [Nat.mul_comm] at this
      omega
    · omega

theorem total_le (walked : steps ≤ exact) :
    saturating (total + saturating (count * steps)) ≤ total + count * exact := by
  have more : count * steps ≤ count * exact := Nat.mul_le_mul_left count walked
  unfold saturating
  omega

end Totals

section Walks

variable {graph : OpGraph} {ids : List OpId} {known : List KnownTransition} {cap : Nat}

noncomputable def stepsFrom (known : List KnownTransition) (ids : List OpId) (node : Nat) : Nat :=
  1 + 2 * (ids[node]?.map (reachedInputs known)).getD 0

theorem addWalks_spec (holds : graph.Holds ids (inputsOf known)) (machine : cap ≤ 2 ^ 64 - 1)
    {groups : List (Nat × Nat)} {walk : UInt32} {seen : List UInt32} {total : Nat}
    (named : ∀ group ∈ groups, ∃ op, ids[group.1]? = some op)
    (positive : ∀ group ∈ groups, 0 < group.2) (size : seen.length = graph.parents.length)
    (earlier : ∀ node, (seen.getD node 0).toNat < walk.toNat)
    (walks : walk.toNat + groups.length < 2 ^ 32 ∨ walk.toNat ≤ total + 1 ∧ cap + 2 < 2 ^ 32)
    (within : total ≤ cap) :
    let exact := total + (groups.map fun group => group.2 * stepsFrom known ids group.1).sum
    let result := addWalks graph cap walk seen total groups
    result ≤ cap ∧ result = saturating exact ∨ cap < result ∧ result ≤ exact := by
  induction groups generalizing walk seen total with
  | nil =>
      refine .inl ⟨within, ?_⟩
      change total = saturating (total + 0)
      unfold saturating
      omega
  | cons group rest ih =>
      obtain ⟨node, count⟩ := group
      obtain ⟨op, found⟩ := named _ List.mem_cons_self
      have unmarked : OpGraph.marked walk seen = ∅ := by
        refine Finset.filter_eq_empty_iff.mpr fun other _ same => ?_
        have := earlier other
        rw [same] at this
        exact lt_irrefl _ this
      obtain ⟨walked, after⟩ := @OpGraph.walkSteps_spec graph walk
        (saturating ((cap - total) / count + 1)) ids known node op seen holds found size unmarked
      have whole : stepsFrom known ids node = 1 + 2 * reachedInputs known op := by
        rw [stepsFrom, found]
        rfl
      rw [← whole] at walked
      intro exact result
      have step : result = _ := addWalks.eq_2 graph cap walk seen total node count rest
      generalize ran : graph.walkSteps node walk seen (saturating ((cap - total) / count + 1))
        = steps at walked after step
      obtain ⟨steps, marks⟩ := steps
      have total_exact : exact = total + count * stepsFrom known ids node
          + (rest.map fun group => group.2 * stepsFrom known ids group.1).sum := by
        change total + ((_ :: _ : List (Nat × Nat)).map _).sum = _
        rw [List.map_cons, List.sum_cons, Nat.add_assoc]
      have counted := positive _ List.mem_cons_self
      simp only at walked after step counted
      have atMost : steps ≤ stepsFrom known ids node := by
        rcases walked with same | stopped
        · exact same.le
        · exact stopped.2
      split at step
      · rename_i above
        refine .inr ⟨step ▸ above, ?_⟩
        have bound := @total_le total count steps _ atMost
        omega
      · rename_i fits
        rw [not_lt] at fits
        have same := total_eq within machine counted walked fits
        rw [same] at step fits
        have no_wrap : (walk + 1).toNat = walk.toNat + 1 := toNat_add32 (by
          rw [List.length_cons] at walks
          change walk.toNat + 1 < 2 ^ 32
          omega)
        have later := @ih (walk + 1) marks _ (fun group member => named group (.tail _ member))
          (fun group member => positive group (.tail _ member)) (after.size.trans size)
          (fun other => by
            have before := earlier other
            rcases after.marks other with old | new
            · rw [old]
              omega
            · rw [new]
              omega)
          (by
            rw [List.length_cons] at walks
            have progress : 0 < count * stepsFrom known ids node :=
              Nat.mul_pos counted (by rw [whole]; omega)
            rw [no_wrap]
            unfold saturating at fits ⊢
            omega) fits
        rw [← step] at later
        have bound := saturating_le (total + count * stepsFrom known ids node)
        simp only [saturating_add, ← total_exact] at later
        rcases later with done | ⟨above, most⟩
        · exact .inl done
        · exact .inr ⟨above, by omega⟩

end Walks

theorem addWalks_le_max (graph : OpGraph) (cap : Nat) (groups : List (Nat × Nat)) (walk : UInt32)
    (seen : List UInt32) {total : Nat} (machine : total ≤ 2 ^ 64 - 1) :
    addWalks graph cap walk seen total groups ≤ 2 ^ 64 - 1 := by
  induction groups generalizing walk seen total with
  | nil => exact machine
  | cons group rest ih =>
      have small (n : Nat) : saturating n ≤ 2 ^ 64 - 1 := Nat.min_le_right _ _
      simp only [addWalks]
      split
      · exact small _
      · exact ih _ _ (small _)

theorem rejectWalkCost_le_max (transfer : Transfer) (terminal : List OpId) (cap : UInt64) :
    rejectWalkCost transfer terminal cap ≤ 2 ^ 64 - 1 :=
  addWalks_le_max _ _ _ _ _ (Nat.zero_le _)

/-- The operations that the reject walks start from. -/
def originOperations (transfer : Transfer) (terminal : List OpId) : List OpId :=
  ((rejectCheckOrigins transfer terminal).map (·.op)).dedup

theorem Grouped.length_le {graph : OpGraph} {ids ops : List OpId} {nodes : List Nat}
    {groups : List (Nat × Nat)} (grouped : Grouped nodes groups) (indexed : graph.Indexed ids)
    (named : OpGraph.Named ids nodes ops) : groups.length ≤ ops.dedup.length := by
  have name_mem : ∀ group ∈ groups, ids[group.1]? ∈ ops.map some := fun group member =>
    named ▸ List.mem_map_of_mem (grouped.node_mem group member)
  have distinct : (groups.map fun group => ids[group.1]?).Nodup := by
    refine List.pairwise_map.mpr (grouped.ascending.imp_of_mem fun left right below same => ?_)
    obtain ⟨op, -, name⟩ := List.mem_map.mp (name_mem _ left)
    exact below.ne (indexed.node_unique name.symm (same.symm.trans name.symm))
  have subset : (groups.map fun group => ids[group.1]?) ⊆ ops.dedup.map some := by
    intro name member
    obtain ⟨group, inside, rfl⟩ := List.mem_map.mp member
    obtain ⟨op, listed, same⟩ := List.mem_map.mp (name_mem group inside)
    exact same ▸ List.mem_map_of_mem (List.mem_dedup.mpr listed)
  have fewer := (List.subperm_of_subset distinct subset).length_le
  rwa [List.length_map, List.length_map] at fewer

theorem sum_stepsFrom {known : List KnownTransition} {ids ops : List OpId} {nodes : List Nat}
    (named : OpGraph.Named ids nodes ops) :
    (nodes.map (stepsFrom known ids)).sum =
      (ops.map fun op => 1 + 2 * reachedInputs known op).sum := by
  have steps : nodes.map (stepsFrom known ids) = (nodes.map (ids[·]?)).map
      fun name => 1 + 2 * (name.map (reachedInputs known)).getD 0 := by
    rw [List.map_map]
    rfl
  rw [steps, named, List.map_map]
  rfl

theorem addWalks_exact {graph : OpGraph} {ids ops : List OpId} {known : List KnownTransition}
    {nodes : List Nat} {cap : Nat} (holds : graph.Holds ids (inputsOf known))
    (named : OpGraph.Named ids nodes ops) (machine : cap ≤ 2 ^ 64 - 1)
    (counted : min ops.dedup.length (cap + 1) < 2 ^ 32 - 1) :
    let exact := (ops.map fun op => 1 + 2 * reachedInputs known op).sum
    let result := addWalks graph cap 1 (List.replicate graph.parents.length 0) 0
      (nodes.foldl addOrigin [])
    result ≤ cap ∧ result = saturating exact ∨ cap < result ∧ result ≤ exact := by
  have grouped := foldl_addOrigin_grouped nodes
  have fewer := grouped.length_le holds.toIndexed named
  have result := @addWalks_spec graph ids known cap holds machine (nodes.foldl addOrigin []) 1
    (List.replicate graph.parents.length 0) 0
    (fun group member => by
      have listed : ids[group.1]? ∈ ops.map some :=
        named ▸ List.mem_map_of_mem (grouped.node_mem group member)
      obtain ⟨op, -, found⟩ := List.mem_map.mp listed
      exact ⟨op, found.symm⟩)
    grouped.positive List.length_replicate
    (fun node => by
      rw [List.getD_eq_getElem?_getD, List.getElem?_replicate]
      split <;> decide)
    (by
      change 1 + _ < _ ∨ 1 ≤ 0 + 1 ∧ _
      omega)
    (Nat.zero_le cap)
  simp only [sum_foldl_addOrigin, List.map_nil, List.sum_nil, Nat.zero_add,
    sum_stepsFrom named] at result
  exact result

theorem rejectWalkCost_spec (transfer : Transfer) (terminal : List OpId) (cap : UInt64)
    (counted : min (originOperations transfer terminal).length (cap.toNat + 1) < 2 ^ 32 - 1) :
    rejectWalkCost transfer terminal cap ≤ cap.toNat ∧
        rejectWalkCost transfer terminal cap = saturating (exactCost transfer terminal) ∨
      cap.toNat < rejectWalkCost transfer terminal cap ∧
        rejectWalkCost transfer terminal cap ≤ exactCost transfer terminal := by
  obtain ⟨short, built⟩ := OpGraph.foldl_addKnown_holds (knownTransitions transfer)
  obtain ⟨ids, longer, indexed, named, same⟩ := OpGraph.nodes_spec built.toIndexed
    ((rejectCheckOrigins transfer terminal).map (·.op))
  have bound := cap.toNat_lt
  have walked := addWalks_exact (built.mono longer indexed same) named (by omega) counted
  rw [List.map_map] at walked
  rw [rejectWalkCost, groupOrigins_eq]
  exact walked

/-- The count against the exact cost: it is within the cap exactly if the cost is, or
    if the cap is the largest integer, and then it is the cost, or that integer for a
    cost above it. `counted` keeps the numbers of the walks in 32 bits; no more walks
    run than operations have origins, and no more than the cap and one. -/
theorem reject_walk_cost_is_exact (transfer : Transfer) (terminal : List OpId) (cap : UInt64)
    (counted : min (originOperations transfer terminal).length (cap.toNat + 1) < 2 ^ 32 - 1) :
    (rejectWalkCost transfer terminal cap ≤ cap.toNat ↔
      exactCost transfer terminal ≤ cap.toNat ∨ cap.toNat = 2 ^ 64 - 1) ∧
    (rejectWalkCost transfer terminal cap ≤ cap.toNat →
      rejectWalkCost transfer terminal cap = min (exactCost transfer terminal) (2 ^ 64 - 1)) := by
  have bound := cap.toNat_lt
  have machine := rejectWalkCost_le_max transfer terminal cap
  rcases rejectWalkCost_spec transfer terminal cap counted with ⟨within, same⟩ | ⟨above, most⟩
  · refine ⟨⟨fun _ => ?_, fun _ => within⟩, fun _ => same⟩
    rw [same, saturating] at within
    omega
  · refine ⟨⟨fun within => ?_, fun small => ?_⟩, fun within => ?_⟩
    all_goals omega

section History

def historyId (place : Nat) : OpId := .ofNatBe 32 place

/-- The operation at a place of a history spends so many outputs of the one before,
    and makes so many outputs of each of some types. -/
def historyOperation (inputs types outputs place : Nat) : KnownTransition where
  opid := historyId place
  transition := {
    contractId := .zero 32
    transitionType := 0
    metadata := []
    globals := []
    inputs := (List.range inputs).map fun no => ⟨historyId (place - 1), 0, .ofNat no⟩
    assignments := (List.range types).map fun ty =>
      (.ofNat ty, .declarative (List.replicate outputs (.concealed (.zero 32)))) }

def historyTransfer (known : List KnownTransition) : Transfer where
  genesis := ⟨.zero 32, "", []⟩
  bundles := known.map fun k =>
    ⟨⟨2, ⟨[], Bitcoin.length_nil_lt⟩, ⟨[], Bitcoin.length_nil_lt⟩, 0⟩, ⟨[], [k]⟩⟩

/-- Four operations in a line, and two outputs of the last: seven steps from its
    input, and nine from each output. -/
theorem reject_walk_cost_is_exact_line :
    let transfer := historyTransfer ((List.range 4).map fun i => historyOperation 1 1 2 (i + 1))
    rejectWalkCost transfer [historyId 4] 100 = 25 ∧
      rejectWalkCost transfer [historyId 4] 100
        = min (exactCost transfer [historyId 4]) (2 ^ 64 - 1) := by
  intro transfer
  have counted : rejectWalkCost transfer [historyId 4] 100 = 25 := by decide +kernel
  refine ⟨counted, (reject_walk_cost_is_exact transfer [historyId 4] 100 ?_).2 ?_⟩
  · exact lt_of_le_of_lt (Nat.min_le_right _ _) (by decide)
  · rw [counted]
    decide

def longHistory (length inputs : Nat) (types : Nat → Nat) (outputs : Nat) :
    List KnownTransition :=
  (List.range length).map fun i => historyOperation inputs (types (i + 1)) outputs (i + 1)

variable {length inputs outputs : Nat} {types : Nat → Nat}

theorem historyId_inj {a b : Nat} (left : a < 256 ^ 32) (right : b < 256 ^ 32)
    (same : historyId a = historyId b) : a = b :=
  natBe_inj left right (congrArg Subtype.val same)

theorem mem_longHistory {known : KnownTransition} :
    known ∈ longHistory length inputs types outputs ↔
      ∃ place, 1 ≤ place ∧ place ≤ length ∧
        historyOperation inputs (types place) outputs place = known := by
  simp only [longHistory, List.mem_map, List.mem_range]
  constructor
  · rintro ⟨i, inside, rfl⟩
    exact ⟨i + 1, by omega, by omega, rfl⟩
  · rintro ⟨place, first, last, rfl⟩
    exact ⟨place - 1, by omega, by rw [Nat.sub_add_cancel first]⟩

theorem inputsOf_longHistory (small : length < 256 ^ 32) {place : Nat} (first : 1 ≤ place)
    (last : place ≤ length) :
    inputsOf (longHistory length inputs types outputs) (historyId place) =
      List.replicate inputs (historyId (place - 1)) := by
  have found : (longHistory length inputs types outputs).reverse.find?
      (fun k => k.opid = historyId place) =
        some (historyOperation inputs (types place) outputs place) := by
    cases search : (longHistory length inputs types outputs).reverse.find?
        (fun k => k.opid = historyId place) with
    | none =>
        rw [List.find?_eq_none] at search
        have missing := search _ (List.mem_reverse.mpr (mem_longHistory.mpr ⟨place, first, last, rfl⟩))
        exact absurd (decide_eq_true rfl) missing
    | some known =>
        have matched := List.find?_some search
        rw [decide_eq_true_eq] at matched
        obtain ⟨other, -, bound, rfl⟩ :=
          mem_longHistory.mp (List.mem_reverse.mp (List.mem_of_find?_eq_some search))
        rw [historyId_inj (by omega) (by omega) matched]
  rw [inputsOf, found]
  change ((List.range inputs).map _).map _ = _
  rw [List.map_map, List.eq_replicate_iff, List.length_map, List.length_range]
  exact ⟨rfl, by simp⟩

theorem reach_longHistory (small : length < 256 ^ 32) (some_inputs : 0 < inputs) {back : Nat}
    (inside : back < length) :
    Reach (inputsOf (longHistory length inputs types outputs)) (historyId length)
      (historyId (length - back)) := by
  induction back with
  | zero => exact .refl
  | succ back ih =>
      refine (ih (by omega)).tail ?_
      rw [inputsOf_longHistory small (by omega) (Nat.sub_le length back)]
      exact List.mem_replicate.mpr ⟨by omega, by rw [Nat.sub_sub]⟩

theorem card_mul_le_sum {α β : Type} [DecidableEq β] {s : Finset α} {t : Finset β} {f : α → β}
    (injective : Set.InjOn f s) (inside : ∀ a ∈ s, f a ∈ t) (cost : β → Nat) {least : Nat}
    (each : ∀ a ∈ s, least ≤ cost (f a)) : s.card * least ≤ ∑ b ∈ t, cost b := by
  calc s.card * least
      ≤ ∑ a ∈ s, cost (f a) := Finset.card_nsmul_le_sum s _ _ each
    _ = ∑ b ∈ s.image f, cost b := (Finset.sum_image injective).symm
    _ ≤ ∑ b ∈ t, cost b := Finset.sum_le_sum_of_subset (Finset.image_subset_iff.mpr inside)

theorem le_reachedInputs_longHistory (small : length < 256 ^ 32) (some_inputs : 0 < inputs) :
    length * inputs ≤
      reachedInputs (longHistory length inputs types outputs) (historyId length) := by
  classical
  have injective : Set.InjOn historyId (Finset.Icc 1 length) := by
    intro a left b right same
    rw [Finset.coe_Icc, Set.mem_Icc] at left right
    exact historyId_inj (by omega) (by omega) same
  calc length * inputs
      = (Finset.Icc 1 length).card * inputs := by rw [Nat.card_Icc, Nat.add_sub_cancel]
    _ ≤ _ := card_mul_le_sum injective (fun place inside => ?_) _ fun place inside => ?_
  · rw [Finset.mem_Icc] at inside
    refine Finset.mem_filter.mpr ⟨List.mem_toFinset.mpr (List.mem_map.mpr
      ⟨_, mem_longHistory.mpr ⟨place, inside.1, inside.2, rfl⟩, rfl⟩), ?_⟩
    have path := @reach_longHistory length inputs outputs types small some_inputs (length - place)
      (by omega)
    rwa [Nat.sub_sub_self inside.2] at path
  · rw [Finset.mem_Icc] at inside
    rw [inputsOf_longHistory small inside.1 inside.2, List.length_replicate]

theorem knownTransitions_historyTransfer (known : List KnownTransition) :
    knownTransitions (historyTransfer known) = known := by
  simp [knownTransitions, historyTransfer, List.flatMap_map]

theorem output_mem_origins (nonempty : 1 ≤ length) (fits : outputs < 2 ^ 16) {ty no : Nat}
    (typed : ty < types length) (numbered : no < outputs) :
    (⟨historyId length, .ofNat ty, .ofNat no⟩ : Opout) ∈ rejectCheckOrigins
      (historyTransfer (longHistory length inputs types outputs)) [historyId length] := by
  rw [rejectCheckOrigins, knownTransitions_historyTransfer, List.mem_insertionSort, List.mem_dedup,
    List.mem_flatMap]
  refine ⟨historyOperation inputs (types length) outputs length, List.mem_filter.mpr
    ⟨mem_longHistory.mpr ⟨length, nonempty, le_refl _, rfl⟩, ?_⟩, ?_⟩
  · exact List.contains_iff_mem.mpr (List.mem_singleton.mpr rfl)
  · refine List.mem_append_right _ (List.mem_flatMap.mpr
      ⟨_, List.mem_map.mpr ⟨ty, List.mem_range.mpr typed, rfl⟩, ?_⟩)
    refine List.mem_map.mpr ⟨no, List.mem_range.mpr ?_, rfl⟩
    rw [TypedAssigns.lenU16, TypedAssigns.length, List.length_replicate, UInt16.toNat_ofNat',
      Nat.mod_eq_of_lt fits]
    exact numbered

theorem le_exactCost_longHistory (small : length < 256 ^ 32) (nonempty : 1 ≤ length)
    (some_inputs : 0 < inputs) (fits : outputs < 2 ^ 16) (few : types length < 2 ^ 16) :
    types length * outputs * (1 + 2 * (length * inputs)) ≤ exactCost
      (historyTransfer (longHistory length inputs types outputs)) [historyId length] := by
  have injective : Set.InjOn
      (fun p : Nat × Nat => (⟨historyId length, .ofNat p.1, .ofNat p.2⟩ : Opout))
      (Finset.range (types length) ×ˢ Finset.range outputs : Finset (Nat × Nat)) := by
    intro a left b right same
    rw [Finset.mem_coe, Finset.mem_product, Finset.mem_range, Finset.mem_range] at left right
    have ty := congrArg UInt16.toNat (Opout.mk.inj same).2.1
    have no := congrArg UInt16.toNat (Opout.mk.inj same).2.2
    rw [UInt16.toNat_ofNat', UInt16.toNat_ofNat'] at ty no
    exact Prod.ext (by omega) (by omega)
  have nodup : (rejectCheckOrigins (historyTransfer (longHistory length inputs types outputs))
      [historyId length]).Nodup :=
    (List.perm_insertionSort _ _).nodup_iff.mpr (List.nodup_dedup _)
  have count : types length * outputs
      = (Finset.range (types length) ×ˢ Finset.range outputs).card := by
    rw [Finset.card_product, Finset.card_range, Finset.card_range]
  have each := @le_reachedInputs_longHistory length inputs outputs types small some_inputs
  rw [exactCost, knownTransitions_historyTransfer, ← List.sum_toFinset _ nodup, count]
  refine card_mul_le_sum injective (fun place inside => ?_) _ fun place _ => ?_
  · rw [Finset.mem_product, Finset.mem_range, Finset.mem_range] at inside
    exact List.mem_toFinset.mpr (output_mem_origins nonempty fits inside.1 inside.2)
  · simp only
    omega

/-- In a history of sixteen million operations each spends 65535 outputs of the one
    before, and the last makes 65535 of each of 255 types. Its exact cost is above the
    largest integer, where the count stays. -/
theorem reject_walk_cost_saturates :
    let length := 2 ^ 24
    let transfer := historyTransfer
      (longHistory length 65535 (fun place => if place = length then 255 else 1) 65535)
    rejectWalkCost transfer [historyId length] 0xFFFFFFFFFFFFFFFF ≤ 2 ^ 64 - 1 ∧
      ¬ exactCost transfer [historyId length] ≤ 2 ^ 64 - 1 := by
  intro length transfer
  have cost := @le_exactCost_longHistory length 65535 65535
    (fun place => if place = length then 255 else 1) (by decide) (by decide) (by decide)
    (by decide) (by rw [if_pos rfl]; decide)
  rw [if_pos rfl] at cost
  refine ⟨rejectWalkCost_le_max transfer [historyId length] _, fun small => ?_⟩
  have total : 2 ^ 64 - 1 < 255 * 65535 * (1 + 2 * (length * 65535)) := by decide
  exact absurd (total.trans_le (cost.trans small)) (lt_irrefl _)

end History

end EnclaveSigner.Rgb
