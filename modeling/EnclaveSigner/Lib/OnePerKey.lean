import Mathlib.Data.Finset.Card

/-! # Sets that hold at most one value for each key

A set of pairs holds the values of its keys. Entries leave it by their keys, and new
entries come with keys of their own. Then no key gets a second value, and the size of
the set follows from how many keys went.
-/

namespace EnclaveSigner.Lib

variable {κ ν : Type} [DecidableEq κ] [DecidableEq ν] {held news : Finset (κ × ν)}
  {gone : κ → Prop} [DecidablePred gone]

/-- No key has two values. -/
def OnePerKey (held : Finset (κ × ν)) : Prop := Set.InjOn Prod.fst (held : Set (κ × ν))

/-- The entries whose keys are not gone, and the new ones. -/
def exchange (held : Finset (κ × ν)) (gone : κ → Prop) [DecidablePred gone]
    (news : Finset (κ × ν)) : Finset (κ × ν) :=
  held.filter (fun entry => ¬ gone entry.1) ∪ news

theorem mem_exchange {entry : κ × ν} :
    entry ∈ exchange held gone news ↔ entry ∈ held ∧ ¬ gone entry.1 ∨ entry ∈ news := by
  rw [exchange, Finset.mem_union, Finset.mem_filter]

theorem OnePerKey.exchange (one : OnePerKey held) (oneNew : OnePerKey news)
    (fresh : ∀ old ∈ held, ∀ new ∈ news, old.1 ≠ new.1) : OnePerKey (exchange held gone news) := by
  intro a memberA b memberB same
  rcases mem_exchange.mp memberA with ⟨oldA, -⟩ | newA <;>
    rcases mem_exchange.mp memberB with ⟨oldB, -⟩ | newB
  · exact one oldA oldB same
  · exact absurd same (fresh a oldA b newB)
  · exact absurd same.symm (fresh b oldB a newA)
  · exact oneNew newA newB same

/-- What goes and what comes make up the change in size. -/
theorem card_exchange (fresh : ∀ old ∈ held, ∀ new ∈ news, old.1 ≠ new.1) :
    (exchange held gone news).card + (held.filter fun entry => gone entry.1).card =
      held.card + news.card := by
  have apart : Disjoint (held.filter fun entry => ¬ gone entry.1) news := by
    rw [Finset.disjoint_left]
    intro entry old new
    exact fresh entry (Finset.mem_filter.mp old).1 entry new rfl
  have parts := Finset.card_filter_add_card_filter_not (s := held) fun entry => gone entry.1
  rw [exchange, Finset.card_union_of_disjoint apart]
  omega

omit [DecidableEq ν] in
/-- No more entries go than there are keys to go. -/
theorem OnePerKey.card_gone_le (one : OnePerKey held) {keys : List κ}
    (among : ∀ key, gone key → key ∈ keys) :
    (held.filter fun entry => gone entry.1).card ≤ keys.length := by
  have distinct : Set.InjOn Prod.fst ((held.filter fun entry => gone entry.1) : Set (κ × ν)) := by
    apply Set.InjOn.mono _ one
    intro entry member
    exact (Finset.mem_filter.mp member).1
  rw [← Finset.card_image_of_injOn distinct]
  apply le_trans (Finset.card_le_card _) (List.toFinset_card_le keys)
  intro key member
  obtain ⟨entry, listed, rfl⟩ := Finset.mem_image.mp member
  exact List.mem_toFinset.mpr (among _ (Finset.mem_filter.mp listed).2)

end EnclaveSigner.Lib
