import Mathlib.Data.Finset.Dedup
import Mathlib.Data.Finset.Insert
import EnclaveSigner.Lib.AppendLog
import EnclaveSigner.Config

/-! # Reject list decisions

Each entry of an asset's reject list rejects or allows one operation output.
The last finalized entry of an output decides. An entry that is not finalized
counts at once where it rejects, and not at all where it allows.
-/

namespace EnclaveSigner.Rgb

open Lib

/-- An operation output. -/
structure OpoutKey where
  op : Word 32
  ty : UInt16
  no : UInt16
  deriving DecidableEq

structure RejectListContract where
  chainId : UInt64
  address : Address
  deriving DecidableEq

/-- An entry rejects or allows an output. -/
structure RejectListEntry where
  opout : OpoutKey
  reject : Bool
  deriving DecidableEq

def RejectListEntry.pair (entry : RejectListEntry) : OpoutKey × Bool := (entry.opout, entry.reject)

/-- The outputs that a list rejects, and those that it allows. -/
structure Decisions where
  reject : Finset OpoutKey
  allow : Finset OpoutKey
  deriving DecidableEq

/-- One round of the loop over the latest finalized entries. -/
def Decisions.record (out : Decisions) (opout : OpoutKey) (rejected : Bool) : Decisions :=
  if rejected then { out with reject := insert opout out.reject }
  else if opout ∉ out.reject then { out with allow := insert opout out.allow }
  else out

/-- The decisions of the entries, the first `finalized` of which are final. -/
def decisions (entries : List RejectListEntry) (finalized : Nat) : Decisions :=
  let split := entries.splitAt (min finalized entries.length)
  let latest := collectLatest (split.1.map RejectListEntry.pair)
  let out := ⟨((split.2.filter (·.reject)).map (·.opout)).toFinset, ∅⟩
  latest.entries.foldl (fun out entry => out.record entry.1 entry.2) out

section Loop

variable {opout : OpoutKey}

theorem mem_reject_foldl (latest : List (Sigma fun _ : OpoutKey => Bool)) (out : Decisions) :
    opout ∈ (latest.foldl (fun out entry => out.record entry.1 entry.2) out).reject ↔
      opout ∈ out.reject ∨ ⟨opout, true⟩ ∈ latest := by
  induction latest generalizing out with
  | nil => simp
  | cons entry rest ih =>
      obtain ⟨other, rejected⟩ := entry
      rw [List.foldl_cons, ih, List.mem_cons]
      cases rejected with
      | true => simp [Decisions.record, or_assoc, or_left_comm]
      | false =>
          by_cases held : other ∈ out.reject
          · simp [Decisions.record, held]
          · simp [Decisions.record, held]

theorem mem_allow_foldl {latest : List (Sigma fun _ : OpoutKey => Bool)}
    (once : latest.NodupKeys) (out : Decisions) :
    opout ∈ (latest.foldl (fun out entry => out.record entry.1 entry.2) out).allow ↔
      opout ∈ out.allow ∨ (⟨opout, false⟩ ∈ latest ∧ opout ∉ out.reject) := by
  induction latest generalizing out with
  | nil => simp
  | cons entry rest ih =>
      obtain ⟨other, rejected⟩ := entry
      obtain ⟨fresh, once⟩ := List.nodupKeys_cons.mp once
      rw [List.foldl_cons, ih once, List.mem_cons]
      have distinct : ⟨opout, false⟩ ∈ rest → opout ≠ other := by
        rintro member rfl
        have key : opout ∈ rest.keys := List.mem_keys_of_mem member
        exact fresh key
      cases rejected with
      | true =>
          simp only [Decisions.record, if_true, Finset.mem_insert, Sigma.mk.injEq, heq_eq_eq,
            Bool.false_eq_true, and_false, false_or, not_or]
          constructor
          · rintro (allowed | ⟨member, -, free⟩)
            · exact .inl allowed
            · exact .inr ⟨member, free⟩
          · rintro (allowed | ⟨member, free⟩)
            · exact .inl allowed
            · exact .inr ⟨member, distinct member, free⟩
      | false =>
          simp only [Decisions.record, Bool.false_eq_true, if_false, Sigma.mk.injEq, heq_eq_eq,
            and_true]
          by_cases held : other ∈ out.reject
          · rw [if_neg (not_not_intro held)]
            constructor
            · rintro (allowed | ⟨member, free⟩)
              · exact .inl allowed
              · exact .inr ⟨.inr member, free⟩
            · rintro (allowed | ⟨rfl | member, free⟩)
              · exact .inl allowed
              · exact absurd held free
              · exact .inr ⟨member, free⟩
          · rw [if_pos held, Finset.mem_insert]
            constructor
            · rintro ((rfl | allowed) | ⟨member, free⟩)
              · exact .inr ⟨.inl rfl, held⟩
              · exact .inl allowed
              · exact .inr ⟨.inr member, free⟩
            · rintro (allowed | ⟨rfl | member, free⟩)
              · exact .inl (.inr allowed)
              · exact .inl (.inl rfl)
              · exact .inr ⟨member, free⟩

end Loop

section Decided

variable {settled pending : List RejectListEntry} {opout : OpoutKey}

def lastDecision (opout : OpoutKey) (entries : List RejectListEntry) : Option Bool :=
  lastFor opout (entries.map RejectListEntry.pair)

theorem splitAt_settled :
    (settled ++ pending).splitAt (min settled.length (settled ++ pending).length)
      = (settled, pending) := by
  rw [List.length_append, Nat.min_eq_left (Nat.le_add_right _ _), List.splitAt_eq, List.take_left,
    List.drop_left]

theorem mem_pending_rejects :
    opout ∈ ((pending.filter (·.reject)).map (·.opout)).toFinset ↔ ⟨opout, true⟩ ∈ pending := by
  rw [List.mem_toFinset, List.mem_map]
  constructor
  · rintro ⟨entry, member, rfl⟩
    obtain ⟨member, rejects⟩ := List.mem_filter.mp member
    rwa [← rejects]
  · intro member
    exact ⟨_, List.mem_filter.mpr ⟨member, rfl⟩, rfl⟩

theorem mem_reject_decisions :
    opout ∈ (decisions (settled ++ pending) settled.length).reject ↔
      ⟨opout, true⟩ ∈ pending ∨ lastDecision opout settled = some true := by
  rw [decisions, mem_reject_foldl, mem_collectLatest, splitAt_settled, mem_pending_rejects]
  rfl

theorem mem_allow_decisions :
    opout ∈ (decisions (settled ++ pending) settled.length).allow ↔
      lastDecision opout settled = some false ∧ ⟨opout, true⟩ ∉ pending := by
  rw [decisions, mem_allow_foldl (AList.nodupKeys _), mem_collectLatest, splitAt_settled,
    mem_pending_rejects]
  simp [lastDecision]

theorem decisions_eq_split {entries : List RejectListEntry} {finalized : Nat}
    (inside : finalized ≤ entries.length) :
    decisions entries finalized
      = decisions (entries.take finalized ++ entries.drop finalized)
          (entries.take finalized).length := by
  rw [List.take_append_drop, List.length_take_of_le inside]

end Decided

end EnclaveSigner.Rgb
