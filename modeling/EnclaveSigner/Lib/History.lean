import Mathlib.Data.List.Basic

/-! # Histories

A history lists what has happened, the newest first. A law says of each event
what must have happened before it. A history is legal when every event in it
obeyed the law at its own time, so facts about the order of events follow from
the law alone.
-/

namespace EnclaveSigner.Lib

variable {ω : Type} {admits : List ω → ω → Prop} {event : ω} {past history : List ω}

/-- Every event was admitted by what had happened before it. -/
def Legal (admits : List ω → ω → Prop) (history : List ω) : Prop :=
  ∀ later event past, history = later ++ event :: past → admits past event

theorem legal_nil : Legal admits [] :=
  fun _ _ _ same => absurd same.symm (List.append_ne_nil_of_right_ne_nil _ (List.cons_ne_nil _ _))

theorem Legal.cons (legal : Legal admits past) (admitted : admits past event) :
    Legal admits (event :: past) := by
  intro later other before same
  rcases List.cons_eq_append_iff.mp same with ⟨-, whole⟩ | ⟨rest, -, tail⟩
  · obtain ⟨rfl, rfl⟩ := List.cons.inj whole
    exact admitted
  · exact legal rest other before tail

theorem Legal.of_mem (legal : Legal admits history) (member : event ∈ history) :
    ∃ past ⊆ history, admits past event := by
  obtain ⟨later, past, rfl⟩ := List.append_of_mem member
  refine ⟨past, fun _ older => ?_, legal later event past rfl⟩
  exact List.mem_append_right _ (List.mem_cons_of_mem _ older)

/-- What the law passes on from the past of an event to the event, all events have. -/
theorem Legal.induct {has : ω → Prop} (legal : Legal admits history)
    (step : ∀ past event, past ⊆ history → event ∈ history → admits past event →
      (∀ older ∈ past, has older) → has event) : ∀ event ∈ history, has event := by
  suffices all : ∀ later past, history = later ++ past → ∀ event ∈ past, has event from
    all [] history rfl
  intro later past
  induction past generalizing later with
  | nil => intro _ event member; cases member
  | cons event past ih =>
      intro whole
      have olds := ih (later ++ [event]) (by simpa using whole)
      refine List.forall_mem_cons.mpr ⟨step past event ?_ ?_ (legal later event past whole) olds, olds⟩
      · exact fun _ older => whole ▸ List.mem_append_right _ (List.mem_cons_of_mem _ older)
      · exact whole ▸ List.mem_append_right _ List.mem_cons_self

theorem Legal.append (legal : Legal admits past) {news : List ω}
    (free : ∀ event ∈ news, ∀ past, admits past event) : Legal admits (news ++ past) := by
  induction news with
  | nil => exact legal
  | cons event news ih =>
      exact (ih fun other member => free other (List.mem_cons_of_mem _ member)).cons
        (free event List.mem_cons_self _)

end EnclaveSigner.Lib
