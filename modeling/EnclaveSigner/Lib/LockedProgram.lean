import Mathlib.Data.List.Induction

/-! # Programs around a lock

A worker computes, and now and then takes the one lock of a shared object to
read it. Others change the object whenever the lock is free. A program is kept
as a tree, so that the moment of each effect is visible: an event that the
worker emits is logged with the object as it is then. `Upholds` is the rule set
for such programs.
-/

namespace EnclaveSigner.Lib

inductive Program (σ ω ε α : Type) where
  | done (value : α)
  | fail (error : ε)
  /-- Wait for the lock, and go on with the object as it is then. -/
  | lock (next : σ → Program σ ω ε α)
  | unlock (next : Program σ ω ε α)
  | emit (event : ω) (next : Program σ ω ε α)

namespace Program

variable {σ ω ε α β κ : Type}

def bind : Program σ ω ε α → (α → Program σ ω ε β) → Program σ ω ε β
  | done value, f => f value
  | fail error, _ => fail error
  | lock next, f => lock fun shared => (next shared).bind f
  | unlock next, f => unlock (next.bind f)
  | emit event next, f => emit event (next.bind f)

instance : Monad (Program σ ω ε) where
  pure := done
  bind := bind

def ofExcept : Except ε α → Program σ ω ε α
  | .ok value => done value
  | .error error => fail error

instance : MonadLift (Except ε) (Program σ ω ε) where
  monadLift := ofExcept

/-- A check of the object under the lock, which is given back in any case. -/
def locked (check : σ → Except ε α) : Program σ ω ε α :=
  lock fun shared => unlock (ofExcept (check shared))

end Program

/-- A worker at work: the object, whether the worker holds the lock, the rest of
    its program, and the events so far with the object at each. -/
structure Worker (σ ω ε α : Type) where
  shared : σ
  holds : Bool
  program : Program σ ω ε α
  log : List (ω × σ)

namespace Worker

variable {σ ω ε α κ : Type}

/-- The worker makes its next step. An error gives the lock back, and a lock that
    the worker already holds is never given a second time. -/
def step (w : Worker σ ω ε α) : Worker σ ω ε α :=
  match w.program with
  | .done _ => w
  | .fail _ => { w with holds := false }
  | .lock next => if w.holds then w else { w with holds := true, program := next w.shared }
  | .unlock next => { w with holds := false, program := next }
  | .emit event next => { w with program := next, log := w.log ++ [(event, w.shared)] }

/-- One turn of a schedule: a step of the worker, or a call of somebody else,
    which has to wait while the worker holds the lock. -/
def turn (apply : σ → κ → σ) (w : Worker σ ω ε α) : Option κ → Worker σ ω ε α
  | none => w.step
  | some call => if w.holds then w else { w with shared := apply w.shared call }

def run (apply : σ → κ → σ) (w : Worker σ ω ε α) (turns : List (Option κ)) : Worker σ ω ε α :=
  turns.foldl (turn apply) w

def start (shared : σ) (program : Program σ ω ε α) : Worker σ ω ε α := ⟨shared, false, program, []⟩

end Worker

namespace Program

variable {σ ω ε α β : Type} (found : σ → Prop) (promise : ω → σ → Prop)

/-- Every event of the program meets the promise, and its value meets `post`.
    `held` is the object while the worker holds the lock. Without the lock the
    worker may find any object that meets `found`. -/
def Upholds : Program σ ω ε α → Option σ → (α → Option σ → Prop) → Prop
  | done value, held, post => post value held
  | fail _, _, _ => True
  | lock next, _, post => ∀ shared, found shared → (next shared).Upholds (some shared) post
  | unlock next, _, post => next.Upholds none post
  | emit event next, held, post =>
      (∀ shared, held.elim (found shared) (shared = ·) → promise event shared) ∧
        next.Upholds held post

variable {found promise}

theorem upholds_bind {program : Program σ ω ε α} {f : α → Program σ ω ε β} {held : Option σ}
    {post : β → Option σ → Prop} :
    (program >>= f).Upholds found promise held post ↔
      program.Upholds found promise held
        fun value held => (f value).Upholds found promise held post := by
  change (program.bind f).Upholds found promise held post ↔ _
  induction program generalizing held with
  | done value => exact Iff.rfl
  | fail error => exact Iff.rfl
  | lock next ih => exact forall_congr' fun shared => imp_congr_right fun _ => ih shared
  | unlock next ih => exact ih
  | emit event next ih => exact and_congr_right fun _ => ih

theorem upholds_ofExcept {x : Except ε α} {held : Option σ} {post : α → Option σ → Prop} :
    (ofExcept x : Program σ ω ε α).Upholds found promise held post ↔
      ∀ value, x = .ok value → post value held := by
  cases x with
  | error error => exact ⟨fun _ _ => nofun, fun _ => trivial⟩
  | ok value =>
      constructor
      · rintro holds _ ⟨⟩
        exact holds
      · intro holds
        exact holds value rfl

theorem upholds_lift_bind {x : Except ε α} {f : α → Program σ ω ε β} {held : Option σ}
    {post : β → Option σ → Prop} :
    ((liftM x : Program σ ω ε α) >>= f).Upholds found promise held post ↔
      ∀ value, x = .ok value → (f value).Upholds found promise held post :=
  upholds_bind.trans upholds_ofExcept

theorem upholds_locked_bind {check : σ → Except ε α} {f : α → Program σ ω ε β}
    {held : Option σ} {post : β → Option σ → Prop} :
    ((locked check : Program σ ω ε α) >>= f).Upholds found promise held post ↔
      ∀ shared, found shared → ∀ value, check shared = .ok value →
        (f value).Upholds found promise none post :=
  upholds_bind.trans (forall_congr' fun _ => imp_congr_right fun _ => upholds_ofExcept)

/-- Some course of the others lets the program end with `value`. -/
def Yields : Program σ ω ε α → α → Prop
  | done result, value => result = value
  | fail _, _ => False
  | lock next, value => ∃ shared, (next shared).Yields value
  | unlock next, value => next.Yields value
  | emit _ next, value => next.Yields value

theorem yields_bind {program : Program σ ω ε α} {f : α → Program σ ω ε β} {value : β} :
    (program >>= f).Yields value ↔ ∃ middle, program.Yields middle ∧ (f middle).Yields value := by
  change (program.bind f).Yields value ↔ _
  induction program with
  | done result =>
      constructor
      · intro ends
        exact ⟨result, rfl, ends⟩
      · rintro ⟨_, rfl, ends⟩
        exact ends
  | fail error => exact ⟨nofun, nofun⟩
  | lock next ih =>
      constructor
      · rintro ⟨shared, ends⟩
        obtain ⟨middle, first, later⟩ := (ih shared).mp ends
        exact ⟨middle, ⟨shared, first⟩, later⟩
      · rintro ⟨middle, ⟨shared, first⟩, later⟩
        exact ⟨shared, (ih shared).mpr ⟨middle, first, later⟩⟩
  | unlock next ih => exact ih
  | emit event next ih => exact ih

theorem yields_ofExcept {x : Except ε α} {value : α} :
    (ofExcept x : Program σ ω ε α).Yields value ↔ x = .ok value := by
  cases x with
  | error error => exact ⟨nofun, nofun⟩
  | ok result =>
      constructor
      · rintro rfl
        rfl
      · rintro ⟨⟩
        exact rfl

theorem yields_lift_bind {x : Except ε α} {f : α → Program σ ω ε β} {value : β} :
    ((liftM x : Program σ ω ε α) >>= f).Yields value ↔
      ∃ middle, x = .ok middle ∧ (f middle).Yields value :=
  yields_bind.trans (exists_congr fun _ => and_congr_left fun _ => yields_ofExcept)

end Program

namespace Worker

variable {σ ω ε α κ : Type} {found : σ → Prop} {promise : ω → σ → Prop}
  {apply : σ → κ → σ} {w : Worker σ ω ε α}

/-- What is logged meets the promise, and the rest of the program will. While
    the worker holds the lock, the object is the one that it found. -/
structure Keeps (found : σ → Prop) (promise : ω → σ → Prop) (w : Worker σ ω ε α) : Prop where
  logged : ∀ entry ∈ w.log, promise entry.1 entry.2
  rest : w.program.Upholds found promise (if w.holds then some w.shared else none)
    fun _ _ => True

theorem Keeps.step (keeps : w.Keeps found promise) (here : found w.shared) :
    w.step.Keeps found promise := by
  obtain ⟨shared, holds, program, log⟩ := w
  have rest := keeps.rest
  cases program with
  | done value => exact keeps
  | fail error => exact ⟨keeps.logged, trivial⟩
  | lock next =>
      cases holds with
      | true => exact keeps
      | false => exact ⟨keeps.logged, rest shared here⟩
  | unlock next => exact ⟨keeps.logged, rest⟩
  | emit event next =>
      refine ⟨fun entry member => ?_, rest.2⟩
      rcases List.mem_append.mp member with older | newer
      · exact keeps.logged entry older
      · rw [List.mem_singleton.mp newer]
        apply rest.1
        cases holds with
        | true => exact rfl
        | false => exact here

theorem Keeps.turn (keeps : w.Keeps found promise) (here : found w.shared) (turn : Option κ) :
    (w.turn apply turn).Keeps found promise := by
  cases turn with
  | none => exact keeps.step here
  | some call =>
      rw [Worker.turn]
      split
      · exact keeps
      · rename_i free
        have rest := keeps.rest
        rw [if_neg free] at rest
        exact ⟨keeps.logged, by rw [if_neg free]; exact rest⟩

/-- If every object that the schedule passes through is one the worker may find,
    then every event of the run meets the promise. -/
theorem Keeps.run (keeps : w.Keeps found promise) {turns : List (Option κ)}
    (seen : ∀ before, before <+: turns → found (w.run apply before).shared) :
    (w.run apply turns).Keeps found promise := by
  induction turns using List.reverseRecOn with
  | nil => exact keeps
  | append_singleton turns last ih =>
      have before := ih fun before inside => seen before (inside.trans (List.prefix_append _ _))
      have here := seen turns (List.prefix_append _ _)
      rw [Worker.run, List.foldl_append]
      exact before.turn here last

theorem step_shared : w.step.shared = w.shared := by
  unfold step
  split
  · rfl
  · rfl
  · split
    · rfl
    · rfl
  · rfl
  · rfl

/-- What the calls of the others keep, every schedule keeps. -/
theorem run_shared {inv : σ → Prop} (keep : ∀ shared call, inv shared → inv (apply shared call))
    (here : inv w.shared) (turns : List (Option κ)) : inv (w.run apply turns).shared := by
  induction turns generalizing w with
  | nil => exact here
  | cons turn turns ih =>
      apply ih
      cases turn with
      | none => exact step_shared.symm ▸ here
      | some call =>
          rw [Worker.turn]
          split
          · exact here
          · exact keep w.shared call here

theorem yields_of_turn {value : α} {turn : Option κ}
    (ends : (w.turn apply turn).program.Yields value) : w.program.Yields value := by
  obtain ⟨shared, holds, program, log⟩ := w
  cases turn with
  | none =>
      cases program with
      | done result => exact ends
      | fail error => exact ends
      | lock next =>
          cases holds with
          | true => exact ends
          | false => exact ⟨shared, ends⟩
      | unlock next => exact ends
      | emit event next => exact ends
  | some call =>
      cases holds with
      | true => exact ends
      | false => exact ends

theorem yields_of_run {value : α} {turns : List (Option κ)}
    (ends : (w.run apply turns).program = .done value) : w.program.Yields value := by
  induction turns generalizing w with
  | nil =>
      change w.program = _ at ends
      rw [ends]
      exact rfl
  | cons turn turns ih => exact yields_of_turn (ih ends)

theorem start_keeps {shared : σ} {program : Program σ ω ε α}
    (upholds : program.Upholds found promise none fun _ _ => True) :
    (start shared program).Keeps found promise where
  logged := fun _ member => absurd member List.not_mem_nil
  rest := upholds

end Worker

namespace Program

variable {σ ω ε α β : Type}

/-- The same program, which remembers the object that each lock has given it. An
    event and the result carry what is remembered by then. -/
def traced (reads : List σ) : Program σ ω ε α → Program σ (List σ × ω) ε (List σ × α)
  | done value => done (reads, value)
  | fail error => fail error
  | lock next => lock fun shared => (next shared).traced (reads ++ [shared])
  | unlock next => unlock (next.traced reads)
  | emit event next => emit (reads, event) (next.traced reads)

theorem traced_bind (reads : List σ) (program : Program σ ω ε α) (f : α → Program σ ω ε β) :
    (program >>= f).traced reads
      = program.traced reads >>= fun result => (f result.2).traced result.1 := by
  change (program.bind f).traced reads
    = (program.traced reads).bind fun result => (f result.2).traced result.1
  induction program generalizing reads with
  | done value => rfl
  | fail error => rfl
  | lock next ih => exact congrArg lock (funext fun shared => ih shared (reads ++ [shared]))
  | unlock next ih => exact congrArg unlock (ih reads)
  | emit event next ih => exact congrArg (emit (reads, event)) (ih reads)

variable {found : σ → Prop} {promise : List σ × ω → σ → Prop} {reads : List σ}

theorem upholds_traced_ofExcept {x : Except ε α} {held : Option σ}
    {post : List σ × α → Option σ → Prop} :
    ((ofExcept x : Program σ ω ε α).traced reads).Upholds found promise held post ↔
      ∀ value, x = .ok value → post (reads, value) held := by
  cases x with
  | error error => exact ⟨fun _ _ => nofun, fun _ => trivial⟩
  | ok value =>
      constructor
      · rintro holds _ ⟨⟩
        exact holds
      · intro holds
        exact holds value rfl

theorem upholds_traced_bind {program : Program σ ω ε α} {f : α → Program σ ω ε β}
    {held : Option σ} {post : List σ × β → Option σ → Prop} :
    ((program >>= f).traced reads).Upholds found promise held post ↔
      (program.traced reads).Upholds found promise held
        fun result held => ((f result.2).traced result.1).Upholds found promise held post := by
  rw [traced_bind]
  exact upholds_bind

theorem upholds_traced_lift_bind {x : Except ε α} {f : α → Program σ ω ε β} {held : Option σ}
    {post : List σ × β → Option σ → Prop} :
    (((liftM x : Program σ ω ε α) >>= f).traced reads).Upholds found promise held post ↔
      ∀ value, x = .ok value → ((f value).traced reads).Upholds found promise held post :=
  upholds_traced_bind.trans upholds_traced_ofExcept

theorem upholds_traced_locked_bind {check : σ → Except ε α} {f : α → Program σ ω ε β}
    {held : Option σ} {post : List σ × β → Option σ → Prop} :
    (((locked check : Program σ ω ε α) >>= f).traced reads).Upholds found promise held post ↔
      ∀ shared, found shared → ∀ value, check shared = .ok value →
        ((f value).traced (reads ++ [shared])).Upholds found promise none post :=
  upholds_traced_bind.trans
    (forall_congr' fun _ => imp_congr_right fun _ => upholds_traced_ofExcept)

end Program

namespace Worker

variable {σ ω ε α κ : Type} {apply : σ → κ → σ} {w : Worker σ ω ε α}
  {v : Worker σ (List σ × ω) ε (List σ × α)}

/-- The worker `v` is `w` with its reads remembered. -/
structure Traces (v : Worker σ (List σ × ω) ε (List σ × α)) (w : Worker σ ω ε α) : Prop where
  shared : v.shared = w.shared
  holds : v.holds = w.holds
  program : ∃ reads, v.program = w.program.traced reads
  log : v.log.map (fun entry => (entry.1.2, entry.2)) = w.log

theorem Traces.step (traces : v.Traces w) : v.step.Traces w.step := by
  obtain ⟨shared, holds, program, log⟩ := w
  obtain ⟨shared', holds', program', log'⟩ := v
  obtain ⟨sameShared, sameHolds, ⟨reads, sameProgram⟩, sameLog⟩ := traces
  dsimp only at sameShared sameHolds sameProgram sameLog
  subst sameShared sameHolds sameProgram sameLog
  cases program with
  | done value => exact ⟨rfl, rfl, ⟨reads, rfl⟩, rfl⟩
  | fail error => exact ⟨rfl, rfl, ⟨reads, rfl⟩, rfl⟩
  | lock next =>
      cases holds' with
      | true => exact ⟨rfl, rfl, ⟨reads, rfl⟩, rfl⟩
      | false => exact ⟨rfl, rfl, ⟨reads ++ [shared'], rfl⟩, rfl⟩
  | unlock next => exact ⟨rfl, rfl, ⟨reads, rfl⟩, rfl⟩
  | emit event next => exact ⟨rfl, rfl, ⟨reads, rfl⟩, List.map_append⟩

theorem Traces.turn (traces : v.Traces w) (turn : Option κ) :
    (v.turn apply turn).Traces (w.turn apply turn) := by
  cases turn with
  | none => exact traces.step
  | some call =>
      simp only [Worker.turn, traces.holds]
      split
      · exact traces
      · exact ⟨congrArg (apply · call) traces.shared, rfl, traces.program, traces.log⟩

theorem Traces.run (traces : v.Traces w) (turns : List (Option κ)) :
    (v.run apply turns).Traces (w.run apply turns) := by
  induction turns generalizing v w with
  | nil => exact traces
  | cons turn turns ih => exact ih (traces.turn turn)

theorem start_traces {shared : σ} {program : Program σ ω ε α} :
    (start shared (program.traced [])).Traces (start shared program) :=
  ⟨rfl, rfl, ⟨[], rfl⟩, rfl⟩

end Worker

end EnclaveSigner.Lib
