import Mathlib.Data.List.Induction

/-! # Sequences of calls

A stateful object answers one call after another. What a call answers depends on
the calls before it, so a fact about every answer is proved of a call that
follows any sequence.
-/

namespace EnclaveSigner.Lib

section Answers

variable {κ ε σ α : Type}

def stateOf : EStateM.Result ε σ α → σ
  | .ok _ s => s
  | .error _ s => s

def answerOf : EStateM.Result ε σ α → Except ε α
  | .ok a _ => .ok a
  | .error e _ => .error e

variable (call : κ → EStateM ε σ α)

def stateAfter (s : σ) (calls : List κ) : σ := calls.foldl (fun s c => stateOf (call c s)) s

/-- The answer to a call after other calls. -/
def answerAfter (s : σ) (calls : List κ) (next : κ) : Except ε α :=
  answerOf (call next (stateAfter call s calls))

def succeeded (s : σ) : List κ → List κ
  | [] => []
  | c :: rest =>
      let after := succeeded (stateOf (call c s)) rest
      if (answerOf (call c s)).isOk then c :: after else after

variable {call} {s : σ} {calls : List κ} {next : κ}

theorem stateAfter_concat :
    stateAfter call s (calls ++ [next]) = stateOf (call next (stateAfter call s calls)) := by
  simp [stateAfter]

theorem succeeded_concat :
    succeeded call s (calls ++ [next]) = succeeded call s calls ++
      if (answerAfter call s calls next).isOk then [next] else [] := by
  induction calls generalizing s with
  | nil => rfl
  | cons c rest ih =>
      simp only [List.cons_append, succeeded, ih]
      split
      · rfl
      · rfl

theorem succeeded_sublist : (succeeded call s calls).Sublist calls := by
  induction calls generalizing s with
  | nil => exact .slnil
  | cons c rest ih =>
      simp only [succeeded]
      split
      · exact ih.cons_cons c
      · exact ih.cons c

end Answers

section Since

variable {κ : Type} {start stays : List κ → κ → Prop} {calls : List κ} {next : κ}

/-- `start` held of some call, and `stays` of every call since. Both see the calls
    before their own. -/
def Since (start stays : List κ → κ → Prop) (calls : List κ) : Prop :=
  ∃ before call later, calls = before ++ call :: later ∧ start before call ∧
    ∀ between other rest, later = between ++ other :: rest →
      stays (before ++ call :: between) other

theorem not_since_nil : ¬ Since start stays [] := by
  rintro ⟨before, call, later, same, -⟩
  simp at same

theorem since_concat :
    Since start stays (calls ++ [next]) ↔
      start calls next ∨ Since start stays calls ∧ stays calls next := by
  constructor
  · rintro ⟨before, call, later, same, started, stayed⟩
    rcases List.eq_nil_or_concat later with rfl | ⟨rest, last, rfl⟩
    · obtain ⟨rfl, ⟨⟩⟩ := List.append_inj' same rfl
      exact .inl started
    · rw [List.concat_eq_append, ← List.cons_append, ← List.append_assoc] at same
      obtain ⟨rfl, ⟨⟩⟩ := List.append_inj' same rfl
      refine .inr ⟨⟨before, call, rest, rfl, started, ?_⟩, stayed rest next [] (by simp)⟩
      intro between other others split
      exact stayed between other (others ++ [next]) (by simp [split])
  · rintro (started | ⟨⟨before, call, later, rfl, started, stayed⟩, last⟩)
    · exact ⟨calls, next, [], rfl, started, by simp⟩
    · refine ⟨before, call, later ++ [next], by simp, started, ?_⟩
      intro between other rest split
      rcases List.eq_nil_or_concat rest with rfl | ⟨others, final, rfl⟩
      · obtain ⟨rfl, ⟨⟩⟩ := List.append_inj' split rfl
        exact last
      · rw [List.concat_eq_append, ← List.cons_append, ← List.append_assoc] at split
        exact stayed between other others (List.append_inj' split rfl).1

end Since

end EnclaveSigner.Lib
