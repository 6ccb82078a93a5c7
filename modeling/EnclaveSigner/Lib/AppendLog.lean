import Mathlib.Data.List.AList
import Mathlib.Data.List.Induction
import Mathlib.Order.Lattice

/-! # Append-only logs

A log keeps each entry with the time at which it was appended, so that what it
held at one time is a prefix of what it holds at any later one. A map that is
collected from such entries keeps the last one of each key.
-/

namespace EnclaveSigner.Lib

structure AppendLog (τ α : Type) [LinearOrder τ] where
  entries : List (τ × α)
  ordered : entries.Pairwise fun earlier later => earlier.1 ≤ later.1

namespace AppendLog

variable {τ α : Type} [LinearOrder τ] (log : AppendLog τ α)

def asOf (time : τ) : List α := (log.entries.filter (·.1 ≤ time)).map Prod.snd

def between (after upTo : τ) : List α :=
  (log.entries.filter fun entry => after < entry.1 ∧ entry.1 ≤ upTo).map Prod.snd

theorem mem_between {after upTo : τ} {item : α} :
    item ∈ log.between after upTo ↔ ∃ time, (time, item) ∈ log.entries ∧ after < time ∧
      time ≤ upTo := by
  simp [between, and_assoc]

theorem filter_split {entries : List (τ × α)}
    (ordered : entries.Pairwise fun earlier later => earlier.1 ≤ later.1) {early late : τ}
    (le : early ≤ late) :
    entries.filter (·.1 ≤ late) = entries.filter (·.1 ≤ early)
      ++ entries.filter fun entry => early < entry.1 ∧ entry.1 ≤ late := by
  induction entries with
  | nil => rfl
  | cons entry rest ih =>
      obtain ⟨above, sorted⟩ := List.pairwise_cons.mp ordered
      by_cases old : entry.1 ≤ early
      · simp [old, old.trans le, not_lt.mpr old, ih sorted]
      · -- Every entry after a late one is late too.
        have none : rest.filter (·.1 ≤ early) = [] := by
          rw [List.filter_eq_nil_iff]
          intro other member
          simpa using (not_le.mp old).trans_le (above other member)
        have rest_eq := ih sorted
        rw [none, List.nil_append] at rest_eq
        by_cases recent : entry.1 ≤ late
        · simp [old, recent, not_le.mp old, none, rest_eq]
        · simp [old, recent, none, rest_eq]

theorem asOf_eq_append {early late : τ} (le : early ≤ late) :
    log.asOf late = log.asOf early ++ log.between early late := by
  rw [asOf, filter_split log.ordered le, List.map_append]
  rfl

end AppendLog

section Latest

variable {κ β : Type} [DecidableEq κ]

def lastFor (key : κ) (pairs : List (κ × β)) : Option β :=
  ((pairs.filter (·.1 = key)).getLast?).map Prod.snd

/-- A map of the pairs, where a later pair takes the place of an earlier one. -/
def collectLatest (pairs : List (κ × β)) : AList fun _ : κ => β :=
  pairs.foldl (fun map pair => map.insert pair.1 pair.2) ∅

theorem lookup_collectLatest (key : κ) (pairs : List (κ × β)) :
    (collectLatest pairs).lookup key = lastFor key pairs := by
  induction pairs using List.reverseRecOn with
  | nil => rfl
  | append_singleton pairs last ih =>
      rw [collectLatest, List.foldl_append, lastFor, List.filter_append]
      by_cases same : last.1 = key
      · subst same
        simp [AList.lookup_insert]
      · have other : key ≠ last.1 := fun eq => same eq.symm
        simp only [List.foldl_cons, List.foldl_nil, AList.lookup_insert_ne other, same,
          decide_false, Bool.false_eq_true, not_false_eq_true, List.filter_cons_of_neg,
          List.filter_nil, List.append_nil]
        exact ih

theorem mem_collectLatest {key : κ} {value : β} {pairs : List (κ × β)} :
    ⟨key, value⟩ ∈ (collectLatest pairs).entries ↔ lastFor key pairs = some value := by
  rw [← AList.mem_lookup_iff, lookup_collectLatest]
  rfl

end Latest

end EnclaveSigner.Lib
