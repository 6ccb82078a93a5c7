import EnclaveSigner.Lib.Calls
import EnclaveSigner.Lib.Window
import EnclaveSigner.State.ReplayInterleaving

/-! # The early check

A handler asks the guard for a replay before it starts the work, and reserves the
nonce at its end. The early check looks for a live entry anywhere in the queue,
while a reservation evicts the expired front and asks the map. The two agree,
since entries are queued in the order of their times.
-/

namespace EnclaveSigner.State

open Lib

theorem popWhile_order {expired : Nat → Bool} {order : List (Nat × Nonce)} {seen : Seen} :
    (popWhile (fun seenAt _ => expired seenAt) order seen).1
      = order.dropWhile fun entry => expired entry.1 := by
  induction order generalizing seen with
  | nil => rfl
  | cons entry rest ih =>
      rw [popWhile]
      split
      · rename_i old
        rw [ih, List.dropWhile_cons, if_pos old]
      · rename_i live
        rw [List.dropWhile_cons, if_neg live]

theorem popWhile_sublist {stale : Nat → Seen → Bool} {order : List (Nat × Nonce)} {seen : Seen} :
    (popWhile stale order seen).1.Sublist order := by
  induction order generalizing seen with
  | nil => exact .slnil
  | cons entry rest ih =>
      rw [popWhile]
      split
      · exact ih.cons entry
      · exact List.Sublist.refl _

namespace NonceReplayGuard

variable {guard : NonceReplayGuard} {g : GuardState} {nonce : Nonce} {now : Nat} {s : Holders}

structure InOrder (now : Nat) (order : List (Nat × Nonce)) : Prop where
  sorted : order.Pairwise fun earlier later => earlier.1 ≤ later.1
  past : ∀ entry ∈ order, entry.1 ≤ now

theorem InOrder.sublist {order kept : List (Nat × Nonce)} (inOrder : InOrder now order)
    (fewer : kept.Sublist order) : InOrder now kept :=
  ⟨inOrder.sorted.sublist fewer, fun entry queued => inOrder.past entry (fewer.subset queued)⟩

theorem InOrder.concat {order : List (Nat × Nonce)} (inOrder : InOrder now order) :
    InOrder now (order ++ [(now, nonce)]) := by
  constructor
  · refine List.pairwise_append.mpr ⟨inOrder.sorted, by simp, ?_⟩
    intro entry queued last own
    rw [List.mem_singleton.mp own]
    exact inOrder.past entry queued
  · intro entry queued
    rcases List.mem_append.mp queued with older | own
    · exact inOrder.past entry older
    · rw [List.mem_singleton.mp own]

theorem InOrder.step (inOrder : InOrder s.clock s.state.order) (action : HolderStep) :
    InOrder (guard.step s action).clock (guard.step s action).state.order := by
  cases action with
  | wait elapsed =>
      exact ⟨inOrder.sorted, fun entry queued =>
        (inOrder.past entry queued).trans (Nat.le_add_right _ _)⟩
  | commit reservation => exact inOrder
  | reserve nonce =>
      have live : InOrder s.clock (guard.evictExpired s.clock s.state).order :=
        inOrder.sublist popWhile_sublist
      simp only [NonceReplayGuard.step]
      cases result : guard.checkAndRecordAt nonce s.clock s.state with
      | error e state =>
          rw [checkAndRecordAt_error result]
          exact live
      | ok generation state =>
          obtain ⟨-, -, -, rfl⟩ := checkAndRecordAt_ok.mp result
          exact (live.sublist popWhile_sublist).concat
  | dropped reservation =>
      simp only [NonceReplayGuard.step]
      split
      · refine inOrder.sublist ?_
        simp only [NonceReplayGuard.remove]
        split
        · exact List.eraseP_sublist
        · exact List.Sublist.refl _
      · exact inOrder

theorem run_inOrder (guard : NonceReplayGuard) (steps : List HolderStep) :
    InOrder (guard.run .start steps).clock (guard.run .start steps).state.order :=
  List.foldlRecOn steps guard.step (motive := fun s => InOrder s.clock s.state.order)
    ⟨.nil, fun _ queued => by cases queued⟩ fun _ inOrder action _ => inOrder.step action

theorem evictExpired_order (inOrder : InOrder now g.order) {t : Nat} :
    (guard.evictExpired t g).order
      = g.order.filter fun entry => decide (t - entry.1 < guard.ttl) := by
  have falling : g.order.Pairwise fun earlier later =>
      decide (t - later.1 ≥ guard.ttl) = true → decide (t - earlier.1 ≥ guard.ttl) = true := by
    refine inOrder.sorted.imp fun below expired => ?_
    simp only [decide_eq_true_eq] at expired ⊢
    omega
  change (popWhile (fun seenAt _ => decide (t - seenAt ≥ guard.ttl)) g.order g.seen).1 = _
  rw [popWhile_order, dropWhile_eq_filter falling]
  refine List.filter_congr fun entry _ => ?_
  rw [← decide_not, decide_eq_decide]
  omega

theorem mem_evictExpired (sound : guard.Sound g) (inOrder : InOrder now g.order) {t : Nat} :
    nonce ∈ (guard.evictExpired t g).seen ↔
      ∃ since, (since, nonce) ∈ g.order ∧ t - since < guard.ttl := by
  have left : guard.Sound (guard.evictExpired t g) := sound.popWhile _
  rw [AList.mem_keys, left.keys.mem_iff, evictExpired_order inOrder]
  simp

theorem checkAndRecordAt_replay {t : Nat} :
    (∃ g', guard.checkAndRecordAt nonce t g = .error .nonceReplay g') ↔
      nonce ∈ (guard.evictExpired t g).seen := by
  constructor
  · rintro ⟨g', refused⟩
    unfold checkAndRecordAt at refused
    rcases run_bind_error.mp refused with impossible | ⟨_, _, evicted, refused⟩
    · cases impossible
    cases evicted
    rcases run_bind_error.mp refused with impossible | ⟨_, _, got, refused⟩
    · cases impossible
    cases got
    rcases run_bind_error.mp refused with replayed | ⟨_, _, fresh, refused⟩
    · exact (refuse_error.mp (lift_error.mp replayed).1).1
    obtain ⟨-, rfl⟩ := lift_ok.mp fresh
    rcases run_bind_error.mp refused with exhausted | ⟨_, _, _, impossible⟩
    · obtain ⟨exhausted, -⟩ := lift_error.mp exhausted
      revert exhausted
      cases checkedAdd64 _ 1 with
      | none => exact nofun
      | some next => exact nofun
    · cases impossible
  · intro member
    refine ⟨guard.evictExpired t g, ?_⟩
    have refused : refuse (nonce ∈ (guard.evictExpired t g).seen) EnclaveError.nonceReplay
        = .error .nonceReplay := if_pos member
    exact run_bind_error.mpr (.inr ⟨_, _, rfl, run_bind_error.mpr (.inr ⟨_, _, rfl,
      run_bind_error.mpr (.inl (lift_error.mpr ⟨refused, rfl⟩))⟩)⟩)

theorem check_ok (sound : guard.Sound g) {t : Nat} :
    guard.check nonce t g = .ok () ↔
      ¬ ∃ since, (since, nonce) ∈ g.order ∧ t - since < guard.ttl := by
  rw [NonceReplayGuard.check, refuse_ok, not_iff_not, AList.mem_keys, sound.keys.mem_iff]
  simp only [List.any_eq_true, Bool.and_eq_true, beq_iff_eq, decide_eq_true_eq, List.mem_map,
    Prod.exists]
  constructor
  · rintro ⟨-, since, key, queued, rfl, live⟩
    exact ⟨since, queued, live⟩
  · rintro ⟨since, queued, live⟩
    exact ⟨⟨since, nonce, queued, rfl⟩, since, nonce, queued, rfl, live⟩

end NonceReplayGuard

/-- What may be asked of a guard: a step of its holders, or an early check. -/
inductive GuardCall where
  | holder (action : HolderStep)
  | check (nonce : Nonce)

namespace NonceReplayGuard

/-- The outcome of one step: a reservation tells its generation, or why there is
    none. -/
def outcome (guard : NonceReplayGuard) (s : Holders) :
    HolderStep → Result (Option UInt64)
  | .reserve nonce => (answerOf (guard.checkAndRecordAt nonce s.clock s.state)).map some
  | _ => .ok none

/-- A call at the guard: a step of a holder, or an early check. -/
def call (guard : NonceReplayGuard) : GuardCall → EStateM EnclaveError Holders (Option UInt64)
  | .holder action => do
      let s ← get
      set (guard.step s action)
      guard.outcome s action
  | .check nonce => do
      let s ← get
      guard.check nonce s.clock s.state
      return none

theorem stateOf_check (guard : NonceReplayGuard) (nonce : Nonce) (s : Holders) :
    stateOf (guard.call (.check nonce) s) = s := by
  cases result : guard.call (.check nonce) s with
  | ok generation s' =>
      obtain ⟨_, _, got, checked⟩ := run_bind_ok.mp result
      cases got
      obtain ⟨_, _, checked, done⟩ := run_bind_ok.mp checked
      obtain ⟨-, rfl⟩ := lift_ok.mp checked
      cases done
      rfl
  | error e s' =>
      rcases run_bind_error.mp result with impossible | ⟨_, _, got, refused⟩
      · cases impossible
      cases got
      rcases run_bind_error.mp refused with refused | ⟨_, _, _, impossible⟩
      · exact (lift_error.mp refused).2
      · cases impossible

/-- In every state that any number of holders can reach, and at any time, the
    early check refuses exactly the nonces that a reservation would refuse
    as replays. A check makes no difference to the outcome of any later call. -/
theorem early_check_agrees_with_reservation (guard : NonceReplayGuard) (steps : List HolderStep) :
    let s := guard.run .start steps
    (∀ nonce t, guard.check nonce t s.state ≠ .ok () ↔
      ∃ g, guard.checkAndRecordAt nonce t s.state = .error .nonceReplay g) ∧
    ∀ before nonce between next,
      answerAfter guard.call .start (before ++ .check nonce :: between) next
        = answerAfter guard.call .start (before ++ between) next := by
  intro s
  have sound := (run_reachable guard steps).sound
  have inOrder := run_inOrder guard steps
  constructor
  · intro nonce t
    rw [Ne, check_ok sound, not_not, checkAndRecordAt_replay, mem_evictExpired sound inOrder]
  · intro before nonce between next
    rw [answerAfter, answerAfter, stateAfter, stateAfter, List.foldl_append, List.foldl_append,
      List.foldl_cons, stateOf_check]

end NonceReplayGuard

end EnclaveSigner.State
