import Mathlib.Logic.Function.Basic

/-! # Tasks over a shared object

Any number of workers share one object, and each runs a task: a tree of atomic
steps. A schedule interleaves the steps of the workers with what happens outside
of them. `Meets` is a rely-guarantee rule set for tasks.
-/

namespace EnclaveSigner.Lib

/-- What one worker does to an object `σ`, one atomic step at a time. -/
inductive Task (σ ε α : Type) where
  | done (value : α)
  | fail (error : ε)
  /-- Change the object, and go on with the object as it was found. -/
  | act (change : σ → σ) (next : σ → Task σ ε α)

namespace Task

variable {σ ε α β : Type}

def bind : Task σ ε α → (α → Task σ ε β) → Task σ ε β
  | done value, f => f value
  | fail error, _ => fail error
  | act change next, f => act change fun found => (next found).bind f

instance : Monad (Task σ ε) where
  pure := done
  bind := bind

def ofExcept : Except ε α → Task σ ε α
  | .ok value => done value
  | .error error => fail error

instance : MonadLift (Except ε) (Task σ ε) where
  monadLift := ofExcept

def atomically (work : σ → Except ε α × σ) : Task σ ε α :=
  act (fun found => (work found).2) fun found => ofExcept (work found).1

def read (view : σ → Except ε α) : Task σ ε α :=
  act id fun found => ofExcept (view found)

def update (change : σ → σ) : Task σ ε Unit :=
  act change fun _ => done ()

def onError : Task σ ε α → (cleanup : Task σ ε Unit) → Task σ ε α
  | done value, _ => done value
  | fail error, cleanup => cleanup.bind fun _ => fail error
  | act change next, cleanup => act change fun found => (next found).onError cleanup

section Rules

/-! `inv` is the invariant of the object, `may` relates the object before and
after a step of this worker, and `rely` before and after a step of anybody
else. -/

variable (inv : σ → Prop) (may rely : σ → σ → Prop)

def Stable (holds : σ → Prop) : Prop :=
  ∀ before after, inv before → rely before after → holds before → holds after

/-- From any object where `holds` is true, every step of the task is allowed, and
    a result meets `post`, together with the assertion that is then in force. -/
def Meets (post : α → (σ → Prop) → Prop) : Task σ ε α → (σ → Prop) → Prop
  | done value, holds => post value holds
  | fail _, _ => True
  | act change next, holds => ∀ found, inv found → holds found →
      inv (change found) ∧ may found (change found) ∧
        ∃ later, Stable inv rely later ∧ later (change found) ∧ (next found).Meets post later

variable {inv may rely} {post : β → (σ → Prop) → Prop} {holds : σ → Prop}

theorem Stable.and {holds' : σ → Prop} (first : Stable inv rely holds)
    (second : Stable inv rely holds') :
    Stable inv rely fun object => holds object ∧ holds' object :=
  fun before after here step both =>
    ⟨first before after here step both.1, second before after here step both.2⟩

theorem stable_true : Stable inv rely fun _ => True := fun _ _ _ _ _ => trivial

/-- The rule of consequence. -/
theorem Meets.imp {task : Task σ ε β} {may' rely' : σ → σ → Prop} {holds' : σ → Prop}
    {post' : β → (σ → Prop) → Prop} (meets : task.Meets inv may rely post holds)
    (guarantee : ∀ before after, may before after → may' before after)
    (relies : ∀ before after, rely' before after → rely before after)
    (assumes : ∀ object, holds' object → holds object)
    (result : ∀ value later later', (∀ object, later' object → later object) →
      post value later → post' value later') :
    task.Meets inv may' rely' post' holds' := by
  induction task generalizing holds holds' with
  | done value => exact result value holds holds' assumes meets
  | fail error => trivial
  | act change next ih =>
      intro found here there
      obtain ⟨kept, allowed, later, stable, now, rest⟩ := meets found here (assumes found there)
      exact ⟨kept, guarantee _ _ allowed, later,
        fun before after here step => stable before after here (relies before after step), now,
        ih found rest fun _ => id⟩

theorem Meets.weaken {task : Task σ ε β} {holds' : σ → Prop} {post' : β → (σ → Prop) → Prop}
    (meets : task.Meets inv may rely post holds) (assumes : ∀ object, holds' object → holds object)
    (result : ∀ value later later', (∀ object, later' object → later object) →
      post value later → post' value later') :
    task.Meets inv may rely post' holds' :=
  meets.imp (fun _ _ => id) (fun _ _ => id) assumes result

/-- Where everything is allowed, every task meets the rules. -/
theorem meets_any (anything : ∀ before after, may before after) (always : ∀ object, inv object)
    (task : Task σ ε β) (holds : σ → Prop) :
    task.Meets inv may rely (fun _ _ => True) holds := by
  induction task generalizing holds with
  | done value => trivial
  | fail error => trivial
  | act change next ih =>
      intro found _ _
      exact ⟨always _, anything _ _, fun _ => True, stable_true, trivial, ih found _⟩

theorem meets_bind {task : Task σ ε α} {f : α → Task σ ε β} :
    (task >>= f).Meets inv may rely post holds ↔
      task.Meets inv may rely (fun value later => (f value).Meets inv may rely post later)
        holds := by
  change (task.bind f).Meets inv may rely post holds ↔ _
  induction task generalizing holds with
  | done value => exact Iff.rfl
  | fail error => exact Iff.rfl
  | act change next ih =>
      refine forall_congr' fun found => imp_congr_right fun _ => imp_congr_right fun _ => ?_
      refine and_congr_right fun _ => and_congr_right fun _ => exists_congr fun later => ?_
      exact and_congr_right fun _ => and_congr_right fun _ => ih found

theorem Meets.bind {task : Task σ ε α} {f : α → Task σ ε β} {middle : α → (σ → Prop) → Prop}
    (meets : task.Meets inv may rely middle holds)
    (rest : ∀ value later later', (∀ object, later' object → later object) →
      middle value later → (f value).Meets inv may rely post later') :
    (task >>= f).Meets inv may rely post holds :=
  meets_bind.mpr (meets.weaken (fun _ => id) rest)

theorem meets_ofExcept {x : Except ε β} :
    (ofExcept x : Task σ ε β).Meets inv may rely post holds ↔
      ∀ value, x = .ok value → post value holds := by
  cases x with
  | error error => exact ⟨fun _ _ => nofun, fun _ => trivial⟩
  | ok value =>
      constructor
      · rintro meets _ ⟨⟩
        exact meets
      · intro meets
        exact meets value rfl

theorem meets_lift_bind {x : Except ε α} {f : α → Task σ ε β} :
    ((liftM x : Task σ ε α) >>= f).Meets inv may rely post holds ↔
      ∀ value, x = .ok value → (f value).Meets inv may rely post holds :=
  meets_bind.trans meets_ofExcept

theorem meets_atomically {work : σ → Except ε β × σ} :
    (atomically work).Meets inv may rely post holds ↔
      ∀ found, inv found → holds found →
        inv (work found).2 ∧ may found (work found).2 ∧
          ∃ later, Stable inv rely later ∧ later (work found).2 ∧
            ∀ value, (work found).1 = .ok value → post value later := by
  refine forall_congr' fun found => imp_congr_right fun _ => imp_congr_right fun _ => ?_
  refine and_congr_right fun _ => and_congr_right fun _ => exists_congr fun later => ?_
  exact and_congr_right fun _ => and_congr_right fun _ => meets_ofExcept

theorem meets_update_bind {change : σ → σ} {f : Unit → Task σ ε β} :
    (update change >>= f).Meets inv may rely post holds ↔
      ∀ found, inv found → holds found → inv (change found) ∧ may found (change found) ∧
        ∃ later, Stable inv rely later ∧ later (change found) ∧
          (f ()).Meets inv may rely post later :=
  meets_bind

/-- What is read is known of the object as it was found, and becomes an
    assertion where it is stable. -/
theorem meets_read_bind (refl : ∀ object, may object object)
    {view : σ → Except ε α} {f : α → Task σ ε β}
    (rest : ∀ found value, inv found → holds found → view found = .ok value →
      ∃ later, Stable inv rely later ∧ later found ∧ (f value).Meets inv may rely post later) :
    (read view >>= f).Meets inv may rely post holds := by
  refine meets_bind.mpr fun found here there => ⟨here, refl found, ?_⟩
  cases viewed : view found with
  | error error =>
      refine ⟨fun _ => True, stable_true, trivial, meets_ofExcept.mpr fun value impossible => ?_⟩
      rw [viewed] at impossible
      cases impossible
  | ok value =>
      obtain ⟨later, stable, now, meets⟩ := rest found value here there viewed
      refine ⟨later, stable, now, meets_ofExcept.mpr fun other same => ?_⟩
      rw [viewed] at same
      cases same
      exact meets

theorem meets_check_bind (refl : ∀ object, may object object) (stable : Stable inv rely holds)
    {view : σ → Except ε α} {f : α → Task σ ε β}
    (rest : ∀ value, (f value).Meets inv may rely post holds) :
    (read view >>= f).Meets inv may rely post holds :=
  meets_read_bind refl fun _ value _ there _ => ⟨holds, stable, there, rest value⟩

/-- A cleanup that is good from anywhere changes nothing about the result. -/
theorem meets_onError {cleanup : Task σ ε Unit} {task : Task σ ε β}
    (good : ∀ there, cleanup.Meets inv may rely (fun _ _ => True) there)
    (meets : task.Meets inv may rely post holds) :
    (task.onError cleanup).Meets inv may rely post holds := by
  induction task generalizing holds with
  | done value => exact meets
  | fail error =>
      exact (good holds).bind fun _ _ _ _ _ => trivial
  | act change next ih =>
      intro found here there
      obtain ⟨kept, allowed, later, stable, now, rest⟩ := meets found here there
      exact ⟨kept, allowed, later, stable, now, ih found rest⟩

end Rules

end Task

/-- Tasks around one shared object. -/
structure Pool (ι σ ε α : Type) where
  shared : σ
  task : ι → Task σ ε α

namespace Pool

variable {ι σ ε α κ : Type} [DecidableEq ι]

def step (pool : Pool ι σ ε α) (i : ι) : Pool ι σ ε α :=
  match pool.task i with
  | .done _ => pool
  | .fail _ => pool
  | .act change next =>
      { shared := change pool.shared
        task := Function.update pool.task i (next pool.shared) }

def turn (outside : σ → κ → σ) (pool : Pool ι σ ε α) : ι ⊕ κ → Pool ι σ ε α
  | .inl i => pool.step i
  | .inr call => { pool with shared := outside pool.shared call }

/-- A schedule: each turn is a step of a worker or a call from outside. -/
def run (outside : σ → κ → σ) (pool : Pool ι σ ε α) (turns : List (ι ⊕ κ)) : Pool ι σ ε α :=
  turns.foldl (turn outside) pool

section Rules

variable (inv : σ → Prop) (may : ι → σ → σ → Prop) (outside : σ → κ → σ)

/-- What a worker must expect between two steps of its own. -/
def Rely (i : ι) (before after : σ) : Prop :=
  (∃ j, j ≠ i ∧ may j before after) ∨ ∃ call, after = outside before call

/-- The invariant holds, and every worker has an assertion under which the rest
    of its task is good. -/
structure Kept (post : ι → α → (σ → Prop) → Prop) (pool : Pool ι σ ε α) : Prop where
  here : inv pool.shared
  rest : ∀ i, ∃ holds, Task.Stable inv (Rely may outside i) holds ∧ holds pool.shared ∧
    (pool.task i).Meets inv (may i) (Rely may outside i) (post i) holds

variable {inv may outside} {post : ι → α → (σ → Prop) → Prop} {pool : Pool ι σ ε α}

theorem Kept.step (kept : pool.Kept inv may outside post) (i : ι) :
    (pool.step i).Kept inv may outside post := by
  obtain ⟨holds, -, here, meets⟩ := kept.rest i
  unfold Pool.step
  cases task : pool.task i with
  | done value => exact kept
  | fail error => exact kept
  | act change next =>
      rw [task] at meets
      obtain ⟨inv', allowed, later, stable', here', rest⟩ := meets pool.shared kept.here here
      refine ⟨inv', fun j => ?_⟩
      dsimp only
      by_cases own : j = i
      · subst own
        rw [Function.update_self]
        exact ⟨later, stable', here', rest⟩
      · obtain ⟨other, stable, there, meets⟩ := kept.rest j
        rw [Function.update_of_ne own]
        exact ⟨other, stable, stable _ _ kept.here (.inl ⟨i, Ne.symm own, allowed⟩) there, meets⟩

theorem Kept.turn (kept : pool.Kept inv may outside post)
    (keep : ∀ object call, inv object → inv (outside object call)) (turn : ι ⊕ κ) :
    (pool.turn outside turn).Kept inv may outside post := by
  cases turn with
  | inl i => exact kept.step i
  | inr call =>
      refine ⟨keep _ _ kept.here, fun i => ?_⟩
      obtain ⟨holds, stable, here, meets⟩ := kept.rest i
      exact ⟨holds, stable, stable _ _ kept.here (.inr ⟨call, rfl⟩) here, meets⟩

theorem Kept.run (kept : pool.Kept inv may outside post)
    (keep : ∀ object call, inv object → inv (outside object call)) (turns : List (ι ⊕ κ)) :
    (pool.run outside turns).Kept inv may outside post := by
  induction turns generalizing pool with
  | nil => exact kept
  | cons turn turns ih => exact ih (kept.turn keep turn)

/-- What every step and everything from outside relates, every schedule relates. -/
theorem Kept.run_rel {rel : σ → σ → Prop} (kept : pool.Kept inv may outside post)
    (keep : ∀ object call, inv object → inv (outside object call))
    (refl : ∀ object, rel object object)
    (trans : ∀ {a b c}, rel a b → rel b c → rel a c)
    (steps : ∀ {i before after}, may i before after → rel before after)
    (calls : ∀ object call, rel object (outside object call)) (turns : List (ι ⊕ κ)) :
    rel pool.shared (pool.run outside turns).shared := by
  induction turns generalizing pool with
  | nil => exact refl _
  | cons turn turns ih =>
      refine trans ?_ (ih (kept.turn keep turn))
      cases turn with
      | inr call => exact calls _ call
      | inl i =>
          obtain ⟨holds, -, here, meets⟩ := kept.rest i
          change rel pool.shared (pool.step i).shared
          unfold Pool.step
          cases task : pool.task i with
          | done value => exact refl _
          | fail error => exact refl _
          | act change next =>
              rw [task] at meets
              exact steps (meets pool.shared kept.here here).2.1

end Rules

end Pool

end EnclaveSigner.Lib
