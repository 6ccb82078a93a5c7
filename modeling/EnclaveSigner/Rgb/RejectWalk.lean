import Mathlib.Data.List.Sort
import EnclaveSigner.Lib.DepthFirst
import EnclaveSigner.Rgb.Mint

/-! # The cost of the reject walk

For a listed asset rgb-lib walks the operations of a transfer from every input and
output of its terminal operations. The enclave counts the steps of these walks
before they run, and refuses a transfer with too many. Origins of one operation
share a walk, and a walk stops once it alone passes the cap.
-/

namespace EnclaveSigner.Rgb

open Lib DepthFirst

def knownTransitions (transfer : Transfer) : List KnownTransition :=
  transfer.bundles.flatMap (·.bundle.knownTransitions)

/-- The order of opouts in a set: by operation, then by type, then by number. -/
def Opout.le (a b : Opout) : Prop :=
  ofBe a.op.val < ofBe b.op.val ∨
    a.op = b.op ∧ (a.ty < b.ty ∨ a.ty = b.ty ∧ a.no ≤ b.no)

instance : DecidableRel Opout.le := fun a b =>
  inferInstanceAs (Decidable (ofBe a.op.val < ofBe b.op.val ∨
    a.op = b.op ∧ (a.ty < b.ty ∨ a.ty = b.ty ∧ a.no ≤ b.no)))

def TypedAssigns.lenU16 (assigns : TypedAssigns) : UInt16 := .ofNat assigns.length

def checkedOpouts (known : KnownTransition) : List Opout :=
  known.transition.inputs ++ known.transition.assignments.flatMap fun (ty, assigns) =>
    (List.range assigns.lenU16.toNat).map fun no => ⟨known.opid, ty, .ofNat no⟩

/-- The inputs and outputs of the terminal operations. `terminal` is the answer of
    `Transfer::terminal_ops`. -/
def rejectCheckOrigins (transfer : Transfer) (terminal : List OpId) : List Opout :=
  (((knownTransitions transfer).filter fun known => terminal.contains known.opid).flatMap
    checkedOpouts).dedup.insertionSort Opout.le

/-- The operations by node, and the nodes of the operations that each spends from. -/
structure OpGraph where
  index : List (OpId × Nat)
  parents : List (List Nat)

namespace OpGraph

def node (graph : OpGraph) (op : OpId) : Nat × OpGraph :=
  match graph.index.lookup op with
  | some node => (node, graph)
  | none =>
      (graph.parents.length,
        ⟨(op, graph.parents.length) :: graph.index, graph.parents ++ [[]]⟩)

def nodes (graph : OpGraph) : List OpId → List Nat × OpGraph
  | [] => ([], graph)
  | op :: ops =>
      let (first, graph) := graph.node op
      let (others, graph) := graph.nodes ops
      (first :: others, graph)

def addKnown (graph : OpGraph) (known : KnownTransition) : OpGraph :=
  let (node, graph) := graph.node known.opid
  let (inputs, graph) := graph.nodes (known.transition.inputs.map (·.op))
  { graph with parents := graph.parents.set node inputs }

def empty : OpGraph := ⟨[], []⟩

def of (transfer : Transfer) : OpGraph := (knownTransitions transfer).foldl addKnown empty

def parentsOf (graph : OpGraph) (node : Nat) : List Nat := graph.parents.getD node []

/-- The loop of a walk, with the top of the stack first, and what it leaves in
    `seen`. -/
def walkLoop (graph : OpGraph) (walk : UInt32) (budget : Nat) :
    (fuel : Nat) → (stack : List Nat) → (seen : List UInt32) → (steps : Nat) → Nat × List UInt32
  | 0, _, seen, steps => (steps, seen)
  | _ + 1, [], seen, steps => (steps, seen)
  | fuel + 1, node :: stack, seen, steps =>
      if steps + 1 > budget then (steps + 1, seen)
      else if seen.getD node 0 = walk then graph.walkLoop walk budget fuel stack seen (steps + 1)
      else
        graph.walkLoop walk budget fuel ((graph.parentsOf node).reverse ++ stack)
          (seen.set node walk) (steps + 1 + (graph.parentsOf node).length)

/-- The steps of one depth-first walk from `start`: each node popped and each opout
    it spends. Stops past `budget`. No walk takes more than two turns for each
    opout, and one. -/
def walkSteps (graph : OpGraph) (start : Nat) (walk : UInt32) (seen : List UInt32)
    (budget : Nat) : Nat × List UInt32 :=
  let opouts := ∑ node ∈ Finset.range graph.parents.length, (graph.parentsOf node).length
  graph.walkLoop walk budget (1 + 2 * opouts) [start] seen 0

end OpGraph

/-- A sum or a product of machine integers that stays at the largest. -/
def saturating (n : Nat) : Nat := min n (2 ^ 64 - 1)

def addOrigin : List (Nat × Nat) → Nat → List (Nat × Nat)
  | [], node => [(node, 1)]
  | (key, count) :: rest, node =>
      if node < key then (node, 1) :: (key, count) :: rest
      else if node = key then (key, count + 1) :: rest
      else (key, count) :: addOrigin rest node

def groupOrigins : OpGraph → List (Nat × Nat) → List Opout → List (Nat × Nat) × OpGraph
  | graph, groups, [] => (groups, graph)
  | graph, groups, origin :: rest =>
      let (node, graph) := graph.node origin.op
      groupOrigins graph (addOrigin groups node) rest

/-- The loop over the groups. The walks count in 32 bits. -/
def addWalks (graph : OpGraph) (cap : Nat) :
    (walk : UInt32) → (seen : List UInt32) → (total : Nat) → List (Nat × Nat) → Nat
  | _, _, total, [] => total
  | walk, seen, total, (node, count) :: rest =>
      let budget := saturating ((cap - total) / count + 1)
      let (steps, seen) := graph.walkSteps node walk seen budget
      let total := saturating (total + saturating (count * steps))
      if total > cap then total else addWalks graph cap (walk + 1) seen total rest

/-- The steps of the walks from all origins, counted up to just past `cap`. -/
def rejectWalkCost (transfer : Transfer) (terminal : List OpId) (cap : UInt64) : Nat :=
  let origins := rejectCheckOrigins transfer terminal
  let (groups, graph) := groupOrigins (OpGraph.of transfer) [] origins
  addWalks graph cap.toNat 1 (List.replicate graph.parents.length 0) 0 groups

/-- The operations that an operation spends from: the inputs of the last known
    transition with its id. -/
def inputsOf (known : List KnownTransition) (op : OpId) : List OpId :=
  (known.reverse.find? fun k => k.opid = op).elim [] fun k => k.transition.inputs.map (·.op)

theorem inputsOf_concat (known : List KnownTransition) (last : KnownTransition) (op : OpId) :
    inputsOf (known ++ [last]) op =
      if last.opid = op then last.transition.inputs.map (·.op) else inputsOf known op := by
  rw [inputsOf, List.reverse_append, List.reverse_singleton, List.singleton_append,
    List.find?_cons]
  split <;> simp_all [inputsOf]

theorem inputsOf_unknown {known : List KnownTransition} {op : OpId}
    (unknown : op ∉ known.map (·.opid)) : inputsOf known op = [] := by
  have absent : known.reverse.find? (fun k => k.opid = op) = none := by
    rw [List.find?_eq_none]
    intro k member
    rw [decide_eq_true_eq]
    rintro rfl
    exact unknown (List.mem_map_of_mem (List.mem_reverse.mp member))
  rw [inputsOf, absent]
  rfl

namespace OpGraph

section Building

variable {graph : OpGraph} {ids : List OpId} {op : OpId}

/-- The nodes of a graph are the positions in a list of distinct operations. -/
structure Indexed (graph : OpGraph) (ids : List OpId) : Prop where
  nodup : ids.Nodup
  lookup : ∀ op node, graph.index.lookup op = some node ↔ ids[node]? = some op
  size : graph.parents.length = ids.length

/-- The nodes `row` are those of the operations `ops`. -/
def Named (ids : List OpId) (row : List Nat) (ops : List OpId) : Prop :=
  row.map (ids[·]?) = ops.map some

theorem Named.mono {longer : List OpId} {row : List Nat} {ops : List OpId}
    (named : Named ids row ops) (extends_ : ids <+: longer) : Named longer row ops := by
  obtain ⟨more, rfl⟩ := extends_
  unfold Named at *
  rw [← named]
  refine List.map_congr_left fun node member => ?_
  have inside : ids[node]? ∈ ops.map some := named ▸ List.mem_map_of_mem member
  obtain ⟨op, -, found⟩ := List.mem_map.mp inside
  rw [← found]
  exact List.getElem?_append_left (List.getElem?_eq_some_iff.mp found.symm).1 ▸ found.symm

theorem Indexed.empty : OpGraph.empty.Indexed [] where
  nodup := List.nodup_nil
  lookup op node := by simp [OpGraph.empty]
  size := rfl

theorem getElem?_concat_iff {node : Nat} {other : OpId} :
    (ids ++ [op])[node]? = some other ↔ ids[node]? = some other ∨ node = ids.length ∧ op = other := by
  rcases lt_trichotomy node ids.length with before | rfl | after
  · rw [List.getElem?_append_left before]
    have different : node ≠ ids.length := by omega
    simp [different]
  · simp
  · rw [List.getElem?_eq_none (by simp; omega), List.getElem?_eq_none (by omega)]
    have different : node ≠ ids.length := by omega
    simp [different]

theorem Indexed.concat (indexed : graph.Indexed ids) (new : graph.index.lookup op = none) :
    Indexed ⟨(op, graph.parents.length) :: graph.index, graph.parents ++ [[]]⟩ (ids ++ [op]) := by
  have absent : op ∉ ids := by
    intro member
    obtain ⟨node, found⟩ := List.mem_iff_getElem?.mp member
    rw [(indexed.lookup op node).mpr found] at new
    cases new
  refine ⟨?_, fun other node => ?_, ?_⟩
  · rw [← List.concat_eq_append]
    exact indexed.nodup.concat absent
  · rw [getElem?_concat_iff, List.lookup_cons, indexed.size]
    by_cases same : other = op
    · subst same
      have nowhere : ids[node]? ≠ some other := fun found =>
        absent (List.mem_of_getElem? found)
      simp [nowhere, eq_comm]
    · have different : (other == op) = false := beq_eq_false_iff_ne.mpr same
      rw [different, indexed.lookup]
      simp [Ne.symm same]
  · rw [List.length_append, List.length_append, indexed.size]
    rfl

theorem parentsOf_concat (index : List (OpId × Nat)) (node : Nat) :
    parentsOf ⟨index, graph.parents ++ [[]]⟩ node = graph.parentsOf node := by
  simp only [parentsOf, List.getD_eq_getElem?_getD]
  rcases lt_trichotomy node graph.parents.length with before | rfl | after
  · rw [List.getElem?_append_left before]
  · simp
  · rw [List.getElem?_eq_none (by simp; omega), List.getElem?_eq_none (by omega)]

theorem node_spec (indexed : graph.Indexed ids) (op : OpId) :
    ∃ longer, ids <+: longer ∧ (graph.node op).2.Indexed longer ∧
      longer[(graph.node op).1]? = some op ∧
      ∀ node, (graph.node op).2.parentsOf node = graph.parentsOf node := by
  cases found : graph.index.lookup op with
  | some node =>
      have same : graph.node op = (node, graph) := by rw [OpGraph.node, found]
      rw [same]
      exact ⟨ids, List.prefix_refl ids, indexed, (indexed.lookup op node).mp found, fun _ => rfl⟩
  | none =>
      refine ⟨ids ++ [op], List.prefix_append ids [op], ?_⟩
      rw [OpGraph.node, found]
      refine ⟨indexed.concat found, ?_, parentsOf_concat _⟩
      exact getElem?_concat_iff.mpr (.inr ⟨indexed.size, rfl⟩)

theorem nodes_spec (indexed : graph.Indexed ids) (ops : List OpId) :
    ∃ longer, ids <+: longer ∧ (graph.nodes ops).2.Indexed longer ∧
      Named longer (graph.nodes ops).1 ops ∧
      ∀ node, (graph.nodes ops).2.parentsOf node = graph.parentsOf node := by
  induction ops generalizing graph ids with
  | nil => exact ⟨ids, List.prefix_refl ids, indexed, rfl, fun _ => rfl⟩
  | cons op ops ih =>
      obtain ⟨middle, grown, first, named, same⟩ := node_spec indexed op
      obtain ⟨longer, more, rest, others, still⟩ := ih first
      refine ⟨longer, grown.trans more, rest, ?_, fun node => (still node).trans (same node)⟩
      have kept : Named longer [(graph.node op).1] [op] :=
        Named.mono (by rw [Named, List.map_singleton, named, List.map_singleton]) more
      rw [Named, List.map_singleton, List.map_singleton] at kept
      rw [Named, nodes, List.map_cons, List.map_cons, (List.cons.inj kept).1]
      exact congrArg _ others

/-- The graph holds the inputs of each of its operations, and any other operation
    has none. -/
structure Holds (graph : OpGraph) (ids : List OpId) (inputs : OpId → List OpId) : Prop
    extends graph.Indexed ids where
  rows : ∀ node op, ids[node]? = some op → Named ids (graph.parentsOf node) (inputs op)
  others : ∀ op, op ∉ ids → inputs op = []

variable {inputs : OpId → List OpId}

theorem Indexed.node_unique (indexed : graph.Indexed ids) {a b : Nat} (left : ids[a]? = some op)
    (right : ids[b]? = some op) : a = b :=
  (List.getElem?_inj (List.getElem?_eq_some_iff.mp left).1 indexed.nodup).mp
    (left.trans right.symm)

theorem getElem?_of_extends {longer : List OpId} (extends_ : ids <+: longer) {node : Nat}
    (named : ids[node]? = some op) : longer[node]? = some op := by
  obtain ⟨more, rfl⟩ := extends_
  rwa [List.getElem?_append_left (List.getElem?_eq_some_iff.mp named).1]

theorem Holds.mono {grown : OpGraph} {longer : List OpId} (holds : graph.Holds ids inputs)
    (extends_ : ids <+: longer) (indexed : grown.Indexed longer)
    (same : ∀ node, grown.parentsOf node = graph.parentsOf node) : grown.Holds longer inputs where
  toIndexed := indexed
  rows node op named := by
    rw [same]
    by_cases member : op ∈ ids
    · obtain ⟨old, found⟩ := List.mem_iff_getElem?.mp member
      rw [indexed.node_unique named (getElem?_of_extends extends_ found)]
      exact (holds.rows old op found).mono extends_
    · -- A new name is at a node past the rows.
      have past : graph.parents.length ≤ node := by
        by_contra inside
        rw [holds.size, not_le] at inside
        obtain ⟨more, rfl⟩ := extends_
        rw [List.getElem?_append_left inside] at named
        exact member (List.mem_of_getElem? named)
      rw [holds.others op member, parentsOf, List.getD_eq_getElem?_getD, List.getElem?_eq_none past]
      rfl
  others op absent := holds.others op fun member => absent (extends_.subset member)

theorem Holds.set {node : Nat} {row : List Nat} {ops : List OpId}
    (holds : graph.Holds ids inputs) (named : ids[node]? = some op) (inputs_ : Named ids row ops) :
    Holds { graph with parents := graph.parents.set node row } ids
      fun other => if op = other then ops else inputs other where
  nodup := holds.nodup
  lookup := holds.lookup
  size := by
    rw [← holds.size]
    exact List.length_set
  rows other name found := by
    have inside : node < graph.parents.length := by
      rw [holds.size]
      exact (List.getElem?_eq_some_iff.mp named).1
    rw [parentsOf, List.getD_eq_getElem?_getD, List.getElem?_set]
    by_cases same : node = other
    · subst same
      rw [if_pos rfl, if_pos inside, Option.getD_some,
        if_pos (Option.some.inj (named.symm.trans found))]
      exact inputs_
    · have different : op ≠ name := by
        rintro rfl
        exact same (holds.node_unique named found)
      rw [if_neg same, if_neg different, ← List.getD_eq_getElem?_getD]
      exact holds.rows other name found
  others other absent := by
    have different : op ≠ other := by
      rintro rfl
      exact absent (List.mem_of_getElem? named)
    rw [if_neg different]
    exact holds.others other absent

theorem foldl_addKnown_holds (known : List KnownTransition) :
    ∃ ids, (known.foldl addKnown OpGraph.empty).Holds ids (inputsOf known) := by
  induction known using List.reverseRecOn with
  | nil => exact ⟨[], Indexed.empty, fun _ _ named => (by cases named), fun _ _ => rfl⟩
  | append_singleton known last ih =>
      obtain ⟨ids, holds⟩ := ih
      obtain ⟨middle, first, indexed, named, same⟩ := node_spec holds.toIndexed last.opid
      obtain ⟨longer, second, again, row, still⟩ :=
        nodes_spec indexed (last.transition.inputs.map (·.op))
      have grown := holds.mono (first.trans second) again
        fun node => (still node).trans (same node)
      rw [List.foldl_append, List.foldl_cons, List.foldl_nil, funext (inputsOf_concat known last)]
      exact ⟨longer, grown.set (getElem?_of_extends second named) row⟩

end Building

end OpGraph

open Classical in
noncomputable def reachedInputs (known : List KnownTransition) (op : OpId) : Nat :=
  ∑ other ∈ (known.map (·.opid)).toFinset with Reach (inputsOf known) op other,
    (inputsOf known other).length

/-- The steps of the walks from all origins, one by one and to their ends. -/
noncomputable def exactCost (transfer : Transfer) (terminal : List OpId) : Nat :=
  ((rejectCheckOrigins transfer terminal).map fun origin =>
    1 + 2 * reachedInputs (knownTransitions transfer) origin.op).sum

namespace OpGraph

section Reaching

variable {graph : OpGraph} {ids : List OpId} {inputs : OpId → List OpId} {start node : Nat}
  {op other : OpId}

theorem Holds.successor_lt (holds : graph.Holds ids inputs) (node successor : Nat)
    (edge : successor ∈ graph.parentsOf node) : successor < graph.parents.length := by
  rw [holds.size]
  cases found : ids[node]? with
  | none =>
      rw [List.getElem?_eq_none_iff, ← holds.size] at found
      rw [parentsOf, List.getD_eq_getElem?_getD, List.getElem?_eq_none found] at edge
      cases edge
  | some op =>
      have inside : ids[successor]? ∈ (inputs op).map some :=
        holds.rows node op found ▸ List.mem_map_of_mem edge
      obtain ⟨_, -, same⟩ := List.mem_map.mp inside
      exact (List.getElem?_eq_some_iff.mp same.symm).1

theorem Holds.reach_op (holds : graph.Holds ids inputs) (named : ids[start]? = some op)
    (path : Reach graph.parentsOf start node) :
    ∃ other, ids[node]? = some other ∧ Reach inputs op other := by
  induction path with
  | refl => exact ⟨op, named, .refl⟩
  | @tail a b _ edge ih =>
      obtain ⟨middle, found, reached⟩ := ih
      have row := holds.rows a middle found
      have inside : ids[b]? ∈ (inputs middle).map some := row ▸ List.mem_map_of_mem edge
      obtain ⟨last, member, same⟩ := List.mem_map.mp inside
      exact ⟨last, same.symm, reached.tail member⟩

theorem Holds.reach_node (holds : graph.Holds ids inputs) (named : ids[start]? = some op)
    (path : Reach inputs op other) :
    ∃ node, ids[node]? = some other ∧ Reach graph.parentsOf start node := by
  induction path with
  | refl => exact ⟨start, named, .refl⟩
  | @tail a b _ edge ih =>
      obtain ⟨middle, found, reached⟩ := ih
      have row := holds.rows middle a found
      have inside : some b ∈ (graph.parentsOf middle).map (ids[·]?) :=
        row ▸ List.mem_map_of_mem edge
      obtain ⟨last, member, same⟩ := List.mem_map.mp inside
      exact ⟨last, same, reached.tail member⟩

theorem Holds.sum_reached {known : List KnownTransition} (holds : graph.Holds ids (inputsOf known))
    (named : ids[start]? = some op) :
    ∃ reach : Finset Nat, (∀ node, node ∈ reach ↔ Reach graph.parentsOf start node) ∧
      ∑ node ∈ reach, (graph.parentsOf node).length = reachedInputs known op := by
  classical
  let reach := {node ∈ Finset.range ids.length | Reach graph.parentsOf start node}
  let name : Nat → OpId := fun node => ids[node]?.getD op
  have mem_reach (node : Nat) : node ∈ reach ↔ Reach graph.parentsOf start node := by
    rw [Finset.mem_filter, Finset.mem_range, and_iff_right_iff_imp]
    intro path
    obtain ⟨_, found, -⟩ := holds.reach_op named path
    exact (List.getElem?_eq_some_iff.mp found).1
  have found (node : Nat) (member : node ∈ reach) : ids[node]? = some (name node) ∧
      Reach (inputsOf known) op (name node) := by
    obtain ⟨other, found, path⟩ := holds.reach_op named ((mem_reach node).mp member)
    have same : name node = other := by
      change ids[node]?.getD op = other
      rw [found, Option.getD_some]
    exact ⟨same ▸ found, same ▸ path⟩
  have injective : Set.InjOn name reach := by
    intro a left b right same
    exact holds.node_unique (found a left).1 (same ▸ (found b right).1)
  refine ⟨reach, mem_reach, ?_⟩
  have rows : ∑ node ∈ reach, (graph.parentsOf node).length
      = ∑ other ∈ reach.image name, (inputsOf known other).length := by
    rw [Finset.sum_image injective]
    refine Finset.sum_congr rfl fun node member => ?_
    have row := congrArg List.length (holds.rows node _ (found node member).1)
    rwa [List.length_map, List.length_map] at row
  rw [rows]
  refine (Finset.sum_subset (fun other member => ?_) fun other member unknown => ?_).symm
  · obtain ⟨-, path⟩ := Finset.mem_filter.mp member
    obtain ⟨node, at_node, reached⟩ := holds.reach_node named path
    have inside := (mem_reach node).mpr reached
    refine Finset.mem_image.mpr ⟨node, inside, ?_⟩
    exact Option.some.inj ((found node inside).1.symm.trans at_node)
  · obtain ⟨node, inside, rfl⟩ := Finset.mem_image.mp member
    rw [inputsOf_unknown, List.length_nil]
    intro listed
    exact unknown (Finset.mem_filter.mpr ⟨List.mem_toFinset.mpr listed, (found node inside).2⟩)

end Reaching

end OpGraph

end EnclaveSigner.Rgb
