import Mathlib.Data.List.Forall2

/-! # Chains of checks

A request handler is a chain of checks, each of which may stop it with an
error. `refuse` is one such check. The lemmas invert a chain that came to its
end: every check passed, and every intermediate value is named.

A handler that also owns a mutable object runs in `EStateM`, where the object
outlives an error, so that "an error leaves the object unchanged" is a
statement about the handler and not about its type.
-/

namespace EnclaveSigner.Lib

def refuse {ε : Type} (bad : Prop) [Decidable bad] (error : ε) : Except ε Unit :=
  if bad then .error error else .ok ()

def okOr {ε α : Type} (error : ε) : Option α → Except ε α
  | some value => .ok value
  | none => .error error

section Except

variable {ε α β : Type}

theorem bind_ok {x : Except ε α} {f : α → Except ε β} {b : β} :
    (x >>= f) = .ok b ↔ ∃ a, x = .ok a ∧ f a = .ok b := by
  cases x with
  | error e => exact ⟨nofun, nofun⟩
  | ok a =>
      constructor
      · intro done; exact ⟨a, rfl, done⟩
      · rintro ⟨a', same, done⟩
        cases same
        exact done

@[simp] theorem refuse_ok {bad : Prop} [Decidable bad] {error : ε} {u : Unit} :
    refuse bad error = .ok u ↔ ¬ bad := by
  unfold refuse
  split
  · rename_i held
    constructor
    · intro impossible; cases impossible
    · intro free; exact absurd held free
  · rename_i free
    exact ⟨fun _ => free, fun _ => rfl⟩

theorem refuse_error {bad : Prop} [Decidable bad] {error e : ε} :
    refuse bad error = .error e ↔ bad ∧ error = e := by
  unfold refuse
  split
  · rename_i holds
    simp [holds]
  · rename_i fails
    simp [fails]

theorem mapError_ok {ε' : Type} {x : Except ε α} {f : ε → ε'} {a : α} :
    x.mapError f = .ok a ↔ x = .ok a := by
  cases x with
  | error e => exact ⟨nofun, nofun⟩
  | ok other =>
      constructor
      · rintro ⟨⟩
        rfl
      · rintro ⟨⟩
        rfl

theorem map_ok {x : Except ε α} {f : α → β} {b : β} :
    x.map f = .ok b ↔ ∃ a, x = .ok a ∧ f a = b := by
  cases x <;> simp [Except.map]

theorem refuse_bind_ok {bad : Prop} [Decidable bad] {error : ε}
    {f : Unit → Except ε β} {b : β} :
    (refuse bad error >>= f) = .ok b ↔ ¬ bad ∧ f () = .ok b := by
  rw [bind_ok]
  constructor
  · rintro ⟨u, passed, done⟩
    exact ⟨refuse_ok.mp passed, done⟩
  · rintro ⟨free, done⟩
    exact ⟨(), refuse_ok.mpr free, done⟩

theorem okOr_ok {error : ε} {x : Option α} {a : α} : okOr error x = .ok a ↔ x = some a := by
  cases x with
  | none => exact ⟨nofun, nofun⟩
  | some value =>
      constructor
      · intro same; cases same; rfl
      · intro same; cases same; rfl

theorem toOption_eq_some {x : Except ε α} {a : α} :
    x.toOption = some a ↔ x = .ok a := by
  cases x with
  | error e => exact ⟨nofun, nofun⟩
  | ok b =>
      constructor
      · rintro ⟨⟩
        rfl
      · rintro ⟨⟩
        rfl

/-- A loop of checks passes exactly when each round passes. -/
theorem forM_ok {f : α → Except ε Unit} {xs : List α} {u : Unit} :
    forM xs f = .ok u ↔ ∀ x ∈ xs, f x = .ok () := by
  induction xs with
  | nil => exact ⟨fun _ => by simp, fun _ => rfl⟩
  | cons x xs ih =>
      rw [List.forM_cons, bind_ok]
      constructor
      · rintro ⟨_, head, tail⟩ y member
        rcases List.mem_cons.mp member with rfl | later
        · exact head
        · exact ih.mp tail y later
      · intro each
        exact ⟨(), each x List.mem_cons_self,
          ih.mpr fun y later => each y (List.mem_cons_of_mem x later)⟩

theorem mapM_congr {f g : α → Except ε β} {xs : List α} (same : ∀ x ∈ xs, f x = g x) :
    xs.mapM f = xs.mapM g := by
  induction xs with
  | nil => rfl
  | cons x xs ih =>
      rw [List.mapM_cons, List.mapM_cons, same x List.mem_cons_self,
        ih fun y later => same y (List.mem_cons_of_mem x later)]

/-- A loop comes to its end exactly if each round does, and gives what each gives. -/
theorem mapM_ok {f : α → Except ε β} {xs : List α} {ys : List β} :
    xs.mapM f = .ok ys ↔ List.Forall₂ (fun x y => f x = .ok y) xs ys := by
  induction xs generalizing ys with
  | nil => simp [pure, Except.pure, eq_comm]
  | cons x xs ih =>
      simp only [List.mapM_cons, bind_ok, ih, List.forall₂_cons_left_iff]
      constructor
      · rintro ⟨y, head, ys, tail, ⟨⟩⟩
        exact ⟨y, ys, head, tail, rfl⟩
      · rintro ⟨y, ys, head, tail, rfl⟩
        exact ⟨y, head, ys, tail, rfl⟩

/-- A loop that takes the value out of each option. -/
theorem mapM_okOr_ok {error : α → ε} {f : α → Option β} {xs : List α} {ys : List β} :
    (xs.mapM fun x => okOr (error x) (f x)) = .ok ys ↔ xs.map f = ys.map some := by
  simp only [mapM_ok, okOr_ok]
  rw [← List.forall₂_eq_eq_eq, List.forall₂_map_left_iff, List.forall₂_map_right_iff]

theorem mapM_total {f : α → Except ε β} {xs : List α} (each : ∀ x ∈ xs, ∃ b, f x = .ok b) :
    ∃ bs, xs.mapM f = .ok bs := by
  induction xs with
  | nil => exact ⟨[], rfl⟩
  | cons x xs ih =>
      obtain ⟨b, head⟩ := each x List.mem_cons_self
      obtain ⟨bs, tail⟩ := ih fun y later => each y (List.mem_cons_of_mem x later)
      refine ⟨b :: bs, ?_⟩
      rw [List.mapM_cons, head, tail]
      rfl

theorem mem_of_mapM_ok {f : α → Except ε β} {xs : List α} {bs : List β}
    (mapped : xs.mapM f = .ok bs) {b : β} (member : b ∈ bs) : ∃ x ∈ xs, f x = .ok b := by
  obtain ⟨sizes, each⟩ := List.forall₂_iff_get.mp (mapM_ok.mp mapped)
  obtain ⟨⟨i, inside⟩, rfl⟩ := List.mem_iff_get.mp member
  exact ⟨_, List.get_mem _ _, each i (sizes ▸ inside) inside⟩

/-- The answer to each item is among those of a list. -/
theorem answer_of_mapM_ok {f : α → Except ε β} {xs : List α} {bs : List β}
    (mapped : xs.mapM f = .ok bs) {x : α} (member : x ∈ xs) : ∃ b ∈ bs, f x = .ok b := by
  obtain ⟨sizes, each⟩ := List.forall₂_iff_get.mp (mapM_ok.mp mapped)
  obtain ⟨⟨i, inside⟩, rfl⟩ := List.mem_iff_get.mp member
  exact ⟨_, List.get_mem _ _, each i inside (sizes ▸ inside)⟩

/-- The check does not stop with an error of the kind `bad`. -/
def Avoids (bad : ε → Prop) (x : Except ε α) : Prop := ∀ e, x = .error e → ¬ bad e

theorem avoids_ok {bad : ε → Prop} {x : Except ε α} {a : α} (good : x = .ok a) :
    Avoids bad x := by
  intro e failed
  rw [good] at failed
  cases failed

theorem Avoids.bind {bad : ε → Prop} {x : Except ε α} {f : α → Except ε β}
    (first : Avoids bad x) (rest : ∀ a, x = .ok a → Avoids bad (f a)) :
    Avoids bad (x >>= f) := by
  cases x with
  | error e =>
      intro e' failed
      cases failed
      exact first e rfl
  | ok a => exact rest a rfl

theorem avoids_refuse {bad : ε → Prop} {cond : Prop} [Decidable cond] {error : ε}
    (other : ¬ bad error) : Avoids bad (refuse cond error) := by
  intro e failed
  rw [← (refuse_error.mp failed).2]
  exact other

theorem avoids_okOr {bad : ε → Prop} {x : Option α} {error : ε} (other : ¬ bad error) :
    Avoids bad (okOr error x) := by
  intro e failed
  cases x with
  | none =>
      cases failed
      exact other
  | some a => cases failed

end Except

section EStateM

variable {ε σ α β : Type}

def isOk : EStateM.Result ε σ α → Bool
  | .ok _ _ => true
  | .error _ _ => false

theorem exists_of_isOk {result : EStateM.Result ε σ α} (good : isOk result = true) :
    ∃ value state, result = .ok value state := by
  cases result with
  | ok value state => exact ⟨value, state, rfl⟩
  | error error state => cases good

instance liftExcept : MonadLift (Except ε) (EStateM ε σ) where
  monadLift x := fun state =>
    match x with
    | .ok value => .ok value state
    | .error e => .error e state

theorem lift_ok {x : Except ε α} {s s' : σ} {a : α} :
    (liftM x : EStateM ε σ α) s = .ok a s' ↔ x = .ok a ∧ s' = s := by
  cases x with
  | error e => exact ⟨nofun, nofun⟩
  | ok value =>
      constructor
      · intro same; cases same; exact ⟨rfl, rfl⟩
      · rintro ⟨same, rfl⟩; cases same; rfl

theorem lift_error {x : Except ε α} {s s' : σ} {e : ε} :
    (liftM x : EStateM ε σ α) s = .error e s' ↔ x = .error e ∧ s' = s := by
  cases x with
  | ok value => exact ⟨nofun, nofun⟩
  | error e' =>
      constructor
      · intro same; cases same; exact ⟨rfl, rfl⟩
      · rintro ⟨same, rfl⟩; cases same; rfl

theorem run_bind_error {x : EStateM ε σ α} {f : α → EStateM ε σ β} {s s' : σ} {e : ε} :
    (x >>= f) s = .error e s' ↔
      x s = .error e s' ∨ ∃ a middle, x s = .ok a middle ∧ f a middle = .error e s' := by
  change EStateM.bind x f s = _ ↔ _
  unfold EStateM.bind
  cases ran : x s with
  | error e middle => simp
  | ok a middle => simp

theorem forM_modify (step : σ → α → σ) (xs : List α) (s : σ) :
    (forM xs (fun x => modify (step · x)) : EStateM ε σ PUnit) s
      = .ok ⟨⟩ (xs.foldl step s) := by
  induction xs generalizing s with
  | nil => rfl
  | cons x xs ih =>
      rw [List.forM_cons, List.foldl_cons]
      exact ih (step s x)

theorem run_bind_ok {x : EStateM ε σ α} {f : α → EStateM ε σ β} {s s' : σ} {b : β} :
    (x >>= f) s = .ok b s' ↔ ∃ a middle, x s = .ok a middle ∧ f a middle = .ok b s' := by
  change EStateM.bind x f s = _ ↔ _
  unfold EStateM.bind
  cases ran : x s with
  | error e middle => exact ⟨nofun, nofun⟩
  | ok a middle =>
      constructor
      · intro done; exact ⟨a, middle, rfl, done⟩
      · rintro ⟨a', middle', same, done⟩
        cases same
        exact done

theorem run_bind_of_ok {x : EStateM ε σ α} {f : α → EStateM ε σ β} {s middle : σ} {a : α}
    (ran : x s = .ok a middle) : (x >>= f) s = f a middle := by
  change EStateM.bind x f s = _
  rw [EStateM.bind, ran]

/-- A check in front of a read leaves the object as it is. -/
theorem lift_bind_ok {x : Except ε α} {f : α → EStateM ε σ β} {s s' : σ} {b : β} :
    ((liftM x : EStateM ε σ α) >>= f) s = .ok b s' ↔ ∃ a, x = .ok a ∧ f a s = .ok b s' := by
  rw [run_bind_ok]
  constructor
  · rintro ⟨a, middle, lifted, done⟩
    obtain ⟨passed, same⟩ := lift_ok.mp lifted
    exact ⟨a, passed, same ▸ done⟩
  · rintro ⟨a, passed, done⟩
    exact ⟨a, s, lift_ok.mpr ⟨passed, rfl⟩, done⟩

end EStateM

end EnclaveSigner.Lib
