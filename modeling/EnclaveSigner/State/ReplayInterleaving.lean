import EnclaveSigner.State.ReplayGuard

/-! # Interleavings of the replay guard

The map and the queue hold the same nonces in every state that any number of
holders can reach. Generations are handed out once, so a late rollback finds its
own entry or none.
-/

namespace EnclaveSigner.State

open Lib NonceReplayGuard

section PopWhile

variable {stale : Nat → Seen → Bool} {order : List (Nat × Nonce)} {seen : Seen}

theorem keys_erase_front {entry : Nat × Nonce}
    (same : seen.keys.Perm ((entry :: order).map Prod.snd)) :
    (seen.erase entry.2).keys.Perm (order.map Prod.snd) := by
  rw [AList.keys_erase]
  have erased := same.erase entry.2
  rwa [List.map_cons, List.erase_cons_head] at erased

theorem popWhile_keys (same : seen.keys.Perm (order.map Prod.snd)) :
    (popWhile stale order seen).2.keys.Perm ((popWhile stale order seen).1.map Prod.snd) := by
  induction order generalizing seen with
  | nil => exact same
  | cons entry rest ih =>
      rw [popWhile]
      split
      · exact ih (keys_erase_front same)
      · exact same

theorem popWhile_keys_sublist :
    (popWhile stale order seen).2.keys.Sublist seen.keys := by
  induction order generalizing seen with
  | nil => exact List.Sublist.refl _
  | cons entry rest ih =>
      rw [popWhile]
      split
      · refine ih.trans ?_
        rw [AList.keys_erase]
        exact List.erase_sublist
      · exact List.Sublist.refl _

theorem lookup_of_popWhile {nonce : Nonce} {generation : UInt64}
    (found : (popWhile stale order seen).2.lookup nonce = some generation) :
    seen.lookup nonce = some generation := by
  induction order generalizing seen with
  | nil => exact found
  | cons entry rest ih =>
      rw [popWhile] at found
      split at found
      · exact lookup_of_erase (ih found)
      · exact found

theorem lookup_of_mem_popped {entry : Nonce × UInt64} (out : entry ∈ popped stale order seen) :
    seen.lookup entry.1 = some entry.2 := by
  induction order generalizing seen with
  | nil => cases out
  | cons front rest ih =>
      rw [popped] at out
      split at out
      · rcases List.mem_append.mp out with first | later
        · obtain ⟨generation, found, rfl⟩ := List.mem_map.mp first
          exact Option.mem_toList.mp found
        · exact lookup_of_erase (ih later)
      · cases out

theorem popWhile_keeps (stale : Nat → Seen → Bool) {seenAt : Nat} {nonce : Nonce}
    {generation : UInt64} (nodup : (order.map Prod.snd).Nodup) (queued : (seenAt, nonce) ∈ order)
    (found : seen.lookup nonce = some generation) :
    ((seenAt, nonce) ∈ (popWhile stale order seen).1 ∧
      (popWhile stale order seen).2.lookup nonce = some generation) ∨
    ((nonce, generation) ∈ popped stale order seen ∧ ∃ seen', stale seenAt seen' = true) := by
  induction order generalizing seen with
  | nil => cases queued
  | cons entry rest ih =>
      rw [List.map_cons, List.nodup_cons] at nodup
      rw [popWhile, popped]
      split
      · rename_i isStale
        rcases List.mem_cons.mp queued with rfl | later
        · refine .inr ⟨?_, seen, isStale⟩
          rw [found]
          exact List.mem_append_left _ (by simp)
        · have other : nonce ≠ entry.2 := by
            intro own
            exact nodup.1 (own ▸ List.mem_map_of_mem later)
          rcases ih nodup.2 later (by rwa [AList.lookup_erase_ne other]) with
            stays | ⟨out, isStale⟩
          · exact .inl stays
          · exact .inr ⟨List.mem_append_right _ out, isStale⟩
      · exact .inl ⟨queued, found⟩

theorem popWhile_room {limit : Nat} (same : seen.keys.Perm (order.map Prod.snd)) :
    let left := popWhile (fun _ seen => decide (seen.keys.length ≥ limit)) order seen
    left.2.keys.length < max limit 1 := by
  induction order generalizing seen with
  | nil =>
      have empty : seen.keys = [] := List.perm_nil.mp same
      simp only [popWhile, empty, List.length_nil]
      omega
  | cons entry rest ih =>
      simp only [popWhile]
      split
      · exact ih (keys_erase_front same)
      · rename_i room
        simp only [decide_eq_true_eq] at room
        change seen.keys.length < _
        omega

end PopWhile

namespace NonceReplayGuard

variable {guard : NonceReplayGuard} {g g' : GuardState} {nonce : Nonce} {now : Nat}
  {generation : UInt64}

/-- The state after recording `nonce` in `g`, once the expired entries are out. -/
def recorded (guard : NonceReplayGuard) (nonce : Nonce) (now : Nat) (g : GuardState) :
    GuardState :=
  let kept := guard.evictForRoom g
  { seen := kept.seen.insert nonce g.nextGeneration
    nextGeneration := g.nextGeneration + 1
    order := kept.order ++ [(now, nonce)] }

theorem checkAndRecordAt_ok :
    guard.checkAndRecordAt nonce now g = .ok generation g' ↔
      nonce ∉ (guard.evictExpired now g).seen ∧ g.nextGeneration.toNat + 1 < 2 ^ 64 ∧
      generation = g.nextGeneration ∧ g' = guard.recorded nonce now (guard.evictExpired now g) := by
  have next : (guard.evictExpired now g).nextGeneration = g.nextGeneration := rfl
  unfold checkAndRecordAt
  constructor
  · intro done
    obtain ⟨_, _, evicted, done⟩ := run_bind_ok.mp done
    cases evicted
    obtain ⟨_, _, got, done⟩ := run_bind_ok.mp done
    cases got
    obtain ⟨_, _, checked, done⟩ := run_bind_ok.mp done
    obtain ⟨fresh, rfl⟩ := lift_ok.mp checked
    obtain ⟨increased, _, computed, done⟩ := run_bind_ok.mp done
    obtain ⟨added, rfl⟩ := lift_ok.mp computed
    rw [okOr_ok, checkedAdd64] at added
    split at added
    · rename_i fits
      cases added
      cases done
      exact ⟨refuse_ok.mp fresh, fits, rfl, rfl⟩
    · cases added
  · rintro ⟨fresh, fits, rfl, rfl⟩
    have added : checkedAdd64 g.nextGeneration 1 = some (g.nextGeneration + 1) := if_pos fits
    refine run_bind_ok.mpr ⟨_, _, rfl, ?_⟩
    refine run_bind_ok.mpr ⟨_, _, rfl, ?_⟩
    refine run_bind_ok.mpr ⟨(), _, lift_ok.mpr ⟨refuse_ok.mpr fresh, rfl⟩, ?_⟩
    refine run_bind_ok.mpr ⟨g.nextGeneration + 1, _, lift_ok.mpr ⟨?_, rfl⟩, rfl⟩
    rw [next, added]
    rfl

theorem checkAndRecordAt_error {error : EnclaveError}
    (failed : guard.checkAndRecordAt nonce now g = .error error g') :
    g' = guard.evictExpired now g := by
  unfold checkAndRecordAt at failed
  rcases run_bind_error.mp failed with impossible | ⟨_, _, evicted, failed⟩
  · cases impossible
  cases evicted
  rcases run_bind_error.mp failed with impossible | ⟨_, _, got, failed⟩
  · cases impossible
  cases got
  rcases run_bind_error.mp failed with replayed | ⟨_, _, fresh, failed⟩
  · exact (lift_error.mp replayed).2
  obtain ⟨-, rfl⟩ := lift_ok.mp fresh
  rcases run_bind_error.mp failed with exhausted | ⟨_, _, _, impossible⟩
  · exact (lift_error.mp exhausted).2
  · cases impossible

/-- The guard is in order: the map and the queue hold the same nonces, within
    the capacity, under generations that were handed out. -/
structure Sound (guard : NonceReplayGuard) (g : GuardState) : Prop where
  keys : g.seen.keys.Perm (g.order.map Prod.snd)
  size : g.seen.keys.length ≤ Max.max guard.max 1
  owned : ∀ nonce generation, g.seen.lookup nonce = some generation →
    generation < g.nextGeneration

theorem lt_next {generation : UInt64} (fits : generation.toNat + 1 < 2 ^ 64) :
    generation < generation + 1 := by
  rw [UInt64.lt_iff_toNat_lt, toNat_add64 fits]
  exact Nat.lt_succ_self _

theorem Sound.nodup (sound : guard.Sound g) : (g.order.map Prod.snd).Nodup :=
  sound.keys.nodup_iff.mp g.seen.keys_nodup

theorem Sound.popWhile (sound : guard.Sound g) (stale : Nat → Seen → Bool) :
    guard.Sound (g.popWhile stale) where
  keys := popWhile_keys sound.keys
  size := popWhile_keys_sublist.length_le.trans sound.size
  owned _ _ found := sound.owned _ _ (lookup_of_popWhile found)

theorem Sound.recorded (sound : guard.Sound g) (fresh : nonce ∉ g.seen)
    (fits : g.nextGeneration.toNat + 1 < 2 ^ 64) :
    guard.Sound (guard.recorded nonce now g) := by
  have kept := sound.popWhile fun _ seen => decide (seen.keys.length ≥ guard.max)
  have absent : nonce ∉ (guard.evictForRoom g).seen.keys := fun inside =>
    fresh (AList.mem_keys.mpr (popWhile_keys_sublist.subset inside))
  have keys : (guard.recorded nonce now g).seen.keys =
      nonce :: (guard.evictForRoom g).seen.keys := by
    simp only [NonceReplayGuard.recorded]
    rw [AList.keys_insert, List.erase_of_not_mem absent]
  refine ⟨?_, ?_, ?_⟩
  · rw [keys]
    simp only [NonceReplayGuard.recorded, List.map_append, List.map_cons, List.map_nil]
    exact (kept.keys.cons nonce).trans (List.perm_append_singleton nonce _).symm
  · rw [keys, List.length_cons]
    exact popWhile_room sound.keys
  · intro other generation found
    simp only [NonceReplayGuard.recorded] at found ⊢
    by_cases own : other = nonce
    · rw [own, AList.lookup_insert] at found
      cases found
      exact lt_next fits
    · rw [AList.lookup_insert_ne own] at found
      exact UInt64.lt_trans (kept.owned other generation found) (lt_next fits)

theorem Sound.remove (sound : guard.Sound g) : guard.Sound (remove nonce generation g) := by
  unfold NonceReplayGuard.remove
  split
  · rename_i owner
    refine ⟨?_, ?_, ?_⟩
    · simp only
      rw [AList.keys_erase]
      have erased := sound.keys.erase nonce
      rw [List.erase_eq_eraseP' (l := g.order.map Prod.snd), List.eraseP_map] at erased
      exact erased
    · simp only
      rw [AList.keys_erase]
      exact List.erase_sublist.length_le.trans sound.size
    · intro other generation found
      exact sound.owned other generation (lookup_of_erase found)
  · exact sound

theorem remove_nextGeneration :
    (remove nonce generation g).nextGeneration = g.nextGeneration := by
  unfold NonceReplayGuard.remove
  split
  · rfl
  · rfl

theorem remove_spec (g : GuardState) (nonce : Nonce) (generation : UInt64) :
    (remove nonce generation g).seen.lookup nonce ≠ some generation ∧
    (∀ other owner, (other, owner) ≠ (nonce, generation) →
      ((remove nonce generation g).seen.lookup other = some owner ↔
        g.seen.lookup other = some owner)) ∧
    (∀ entry ∈ g.order, entry ∉ (remove nonce generation g).order →
      entry.2 = nonce ∧ g.seen.lookup nonce = some generation) := by
  unfold NonceReplayGuard.remove
  split
  · rename_i owned
    refine ⟨?_, ?_, ?_⟩
    · simp only
      rw [AList.lookup_erase]
      exact nofun
    · intro other owner different
      simp only
      by_cases own : other = nonce
      · subst own
        rw [AList.lookup_erase, owned]
        constructor
        · intro impossible
          cases impossible
        · intro same
          cases same
          exact absurd rfl different
      · rw [AList.lookup_erase_ne own]
    · intro entry queued gone
      refine ⟨?_, owned⟩
      by_contra other
      exact gone ((List.mem_eraseP_of_neg (by simpa using other)).mpr queued)
  · rename_i foreign
    exact ⟨foreign, fun _ _ _ => Iff.rfl, fun entry queued gone => absurd queued gone⟩

/-- The guard is in order, and every generation that a holder has or that was
    evicted was handed out before. -/
structure Reachable (guard : NonceReplayGuard) (s : Holders) : Prop where
  sound : guard.Sound s.state
  issued : ∀ r ∈ s.live, r.generation < s.state.nextGeneration
  evictedIssued : ∀ entry ∈ s.evicted, entry.2 < s.state.nextGeneration

theorem Reachable.step {s : Holders} (reachable : guard.Reachable s) (action : HolderStep) :
    guard.Reachable (guard.step s action) := by
  cases action with
  | wait elapsed => exact ⟨reachable.sound, reachable.issued, reachable.evictedIssued⟩
  | reserve nonce =>
      have expired := reachable.sound.popWhile fun seenAt _ =>
        decide (s.clock - seenAt ≥ guard.ttl)
      simp only [NonceReplayGuard.step]
      cases result : guard.checkAndRecordAt nonce s.clock s.state with
      | error e state =>
          rw [checkAndRecordAt_error result]
          exact ⟨expired, reachable.issued, reachable.evictedIssued⟩
      | ok generation state =>
          obtain ⟨fresh, fits, rfl, rfl⟩ := checkAndRecordAt_ok.mp result
          have increased : (guard.recorded nonce s.clock
              (guard.evictExpired s.clock s.state)).nextGeneration
                = s.state.nextGeneration + 1 := rfl
          refine ⟨Sound.recorded expired fresh fits, ?_, ?_⟩
          · intro r member
            rw [increased]
            rcases List.mem_cons.mp member with rfl | older
            · exact lt_next fits
            · exact UInt64.lt_trans (reachable.issued r older) (lt_next fits)
          · intro entry out
            rw [increased]
            rcases List.mem_append.mp out with older | newer
            · exact UInt64.lt_trans (reachable.evictedIssued entry older) (lt_next fits)
            · exact UInt64.lt_trans (expired.owned _ _ (lookup_of_mem_popped newer)) (lt_next fits)
  | commit reservation =>
      exact ⟨reachable.sound,
        fun r member => reachable.issued r (List.mem_of_mem_erase member), reachable.evictedIssued⟩
  | dropped reservation =>
      simp only [NonceReplayGuard.step]
      split
      · refine ⟨reachable.sound.remove, fun r member => ?_, fun entry out => ?_⟩
        · rw [remove_nextGeneration]
          exact reachable.issued r (List.mem_of_mem_erase member)
        · rw [remove_nextGeneration]
          exact reachable.evictedIssued entry out
      · exact reachable

theorem start_reachable (guard : NonceReplayGuard) : guard.Reachable .start where
  sound := ⟨List.Perm.refl _, Nat.zero_le _, fun _ _ found => by cases found⟩
  issued := fun r member => by cases member
  evictedIssued := fun entry out => by cases out

theorem Reachable.run {s : Holders} (reachable : guard.Reachable s) (steps : List HolderStep) :
    guard.Reachable (guard.run s steps) :=
  List.foldlRecOn steps guard.step reachable fun _ reachable action _ => reachable.step action

theorem run_reachable (guard : NonceReplayGuard) (steps : List HolderStep) :
    guard.Reachable (guard.run .start steps) :=
  (start_reachable guard).run steps

/-- What became of the entry that the reservation `r` made at time `since`: it
    was rolled back, evicted for room, is due to expire, or is still there. -/
def Accounted (guard : NonceReplayGuard) (r : ReplayReservation) (since : Nat) (s : Holders) :
    Prop :=
  r ∈ s.rolledBack ∨ (r.nonce, r.generation) ∈ s.evicted ∨ guard.ttl ≤ s.clock - since ∨
    ((since, r.nonce) ∈ s.state.order ∧ s.state.seen.lookup r.nonce = some r.generation)

theorem evictExpired_keeps (sound : guard.Sound g) {since : Nat}
    (queued : (since, nonce) ∈ g.order) (found : g.seen.lookup nonce = some generation) :
    ((since, nonce) ∈ (guard.evictExpired now g).order ∧
      (guard.evictExpired now g).seen.lookup nonce = some generation) ∨
    guard.ttl ≤ now - since := by
  rcases popWhile_keeps (fun seenAt _ => decide (now - seenAt ≥ guard.ttl))
    sound.nodup queued found with stays | ⟨-, _, isStale⟩
  · exact .inl stays
  · exact .inr (of_decide_eq_true isStale)

theorem Accounted.of_there {s s' : Holders} {r : ReplayReservation} {since : Nat}
    (accounted : guard.Accounted r since s) (back : s.rolledBack ⊆ s'.rolledBack)
    (out : s.evicted ⊆ s'.evicted) (later : s.clock ≤ s'.clock)
    (there : (since, r.nonce) ∈ s.state.order → s.state.seen.lookup r.nonce = some r.generation →
      guard.Accounted r since s') : guard.Accounted r since s' := by
  rcases accounted with rolledBack | evicted | due | ⟨queued, found⟩
  · exact .inl (back rolledBack)
  · exact .inr (.inl (out evicted))
  · exact .inr (.inr (.inl (due.trans (Nat.sub_le_sub_right later since))))
  · exact there queued found

theorem recorded_keeps (sound : guard.Sound g) {other : Nonce} {since : Nat}
    (fresh : other ∉ g.seen) (queued : (since, nonce) ∈ g.order)
    (found : g.seen.lookup nonce = some generation) :
    ((since, nonce) ∈ (guard.recorded other now g).order ∧
      (guard.recorded other now g).seen.lookup nonce = some generation) ∨
    (nonce, generation)
      ∈ popped (fun _ seen => decide (seen.keys.length ≥ guard.max)) g.order g.seen := by
  have different : nonce ≠ other := by
    rintro rfl
    exact fresh (AList.lookup_isSome.mp (by rw [found]; rfl))
  rcases popWhile_keeps (fun _ seen => decide (seen.keys.length ≥ guard.max))
    sound.nodup queued found with ⟨queued, found⟩ | ⟨out, -⟩
  · refine .inl ⟨List.mem_append_left _ queued, ?_⟩
    simp only [NonceReplayGuard.recorded]
    rw [AList.lookup_insert_ne different]
    exact found
  · exact .inr out

theorem remove_keeps {r other : ReplayReservation} {since : Nat} (different : r ≠ other)
    (queued : (since, r.nonce) ∈ g.order) (found : g.seen.lookup r.nonce = some r.generation) :
    (since, r.nonce) ∈ (remove other.nonce other.generation g).order ∧
      (remove other.nonce other.generation g).seen.lookup r.nonce = some r.generation := by
  obtain ⟨-, others, queue⟩ := remove_spec g other.nonce other.generation
  have foreign : (r.nonce, r.generation) ≠ (other.nonce, other.generation) := by
    intro same
    obtain ⟨sameNonce, sameGeneration⟩ := Prod.mk.inj same
    exact different (ReplayReservation.ext sameNonce sameGeneration)
  refine ⟨?_, (others _ _ foreign).mpr found⟩
  by_contra gone
  obtain ⟨same, owned⟩ := queue _ queued gone
  rw [← same, found] at owned
  exact foreign (Prod.ext same (Option.some.inj owned))

theorem Accounted.step {s : Holders} {r : ReplayReservation} {since : Nat}
    (reachable : guard.Reachable s) (accounted : guard.Accounted r since s)
    (action : HolderStep) : guard.Accounted r since (guard.step s action) := by
  cases action with
  | wait elapsed =>
      exact accounted.of_there (List.Subset.refl _) (List.Subset.refl _) (Nat.le_add_right _ _)
        fun queued found => .inr (.inr (.inr ⟨queued, found⟩))
  | commit reservation => exact accounted
  | reserve nonce =>
      simp only [NonceReplayGuard.step]
      cases result : guard.checkAndRecordAt nonce s.clock s.state with
      | error e state =>
          refine accounted.of_there (List.Subset.refl _) (List.Subset.refl _) (Nat.le_refl _)
            fun queued found => ?_
          rw [checkAndRecordAt_error result]
          rcases evictExpired_keeps reachable.sound queued found with stays | due
          · exact .inr (.inr (.inr stays))
          · exact .inr (.inr (.inl due))
      | ok generation state =>
          obtain ⟨fresh, -, rfl, rfl⟩ := checkAndRecordAt_ok.mp result
          refine accounted.of_there (List.Subset.refl _) (List.subset_append_left _ _)
            (Nat.le_refl _) fun queued found => ?_
          have expired := reachable.sound.popWhile fun seenAt _ =>
            decide (s.clock - seenAt ≥ guard.ttl)
          rcases evictExpired_keeps reachable.sound queued found with ⟨queued, found⟩ | due
          · rcases recorded_keeps expired fresh queued found with stays | out
            · exact .inr (.inr (.inr stays))
            · exact .inr (.inl (List.mem_append_right _ out))
          · exact .inr (.inr (.inl due))
  | dropped reservation =>
      simp only [NonceReplayGuard.step]
      split
      · refine accounted.of_there (List.subset_cons_self _ _) (List.Subset.refl _)
          (Nat.le_refl _) fun queued found => ?_
        by_cases own : r = reservation
        · exact .inl (own ▸ List.mem_cons_self)
        · exact .inr (.inr (.inr (remove_keeps own queued found)))
      · exact accounted

theorem Accounted.run {s : Holders} {r : ReplayReservation} {since : Nat}
    (reachable : guard.Reachable s) (accounted : guard.Accounted r since s)
    (steps : List HolderStep) : guard.Accounted r since (guard.run s steps) := by
  induction steps generalizing s with
  | nil => exact accounted
  | cons action steps ih => exact ih (reachable.step action) (accounted.step reachable action)

theorem accounted_after_reserve {s : Holders} {first : UInt64} {state : GuardState}
    (reserved : guard.checkAndRecordAt nonce s.clock s.state = .ok first state) :
    guard.Accounted ⟨nonce, first⟩ s.clock (guard.step s (.reserve nonce)) := by
  simp only [NonceReplayGuard.step, reserved]
  obtain ⟨-, -, rfl, rfl⟩ := checkAndRecordAt_ok.mp reserved
  refine .inr (.inr (.inr ⟨List.mem_append_right _ (List.mem_singleton.mpr rfl), ?_⟩))
  exact AList.lookup_insert _

/-- Whatever the holders of a guard do and in whatever order, the map and the
    queue hold the same nonces, each once and at most `max guard.max 1` of them.
    Dropping a live reservation takes out the entry of its own generation and
    nothing else, and no later recording gets that generation. A nonce that was
    recorded, and not rolled back, is recorded again only after the time limit or
    after the capacity limit evicted it in between. -/
theorem guard_over_interleavings (guard : NonceReplayGuard) (steps : List HolderStep) :
    let s := guard.run .start steps
    s.state.seen.keys.Perm (s.state.order.map Prod.snd) ∧
    s.state.seen.keys.Nodup ∧ (s.state.order.map Prod.snd).Nodup ∧
    s.state.seen.keys.length ≤ Max.max guard.max 1 ∧
    (∀ r ∈ s.live,
      let after := guard.step s (.dropped r)
      after.state.seen.lookup r.nonce ≠ some r.generation ∧
      (∀ nonce generation, (nonce, generation) ≠ (r.nonce, r.generation) →
        (after.state.seen.lookup nonce = some generation ↔
          s.state.seen.lookup nonce = some generation)) ∧
      (∀ entry ∈ s.state.order, entry ∉ after.state.order →
        entry.2 = r.nonce ∧ s.state.seen.lookup r.nonce = some r.generation) ∧
      ∀ nonce later state,
        guard.checkAndRecordAt nonce s.clock s.state = .ok later state → later ≠ r.generation) ∧
    ∀ nonce first state, guard.checkAndRecordAt nonce s.clock s.state = .ok first state →
      ∀ between,
        let s' := guard.run s (.reserve nonce :: between)
        ∀ second state', guard.checkAndRecordAt nonce s'.clock s'.state = .ok second state' →
          ⟨nonce, first⟩ ∉ s'.rolledBack →
          guard.ttl ≤ s'.clock - s.clock ∨
            (nonce, first) ∉ s.evicted ∧ (nonce, first) ∈ s'.evicted := by
  intro s
  have reachable : guard.Reachable s := run_reachable guard steps
  refine ⟨reachable.sound.keys, s.state.seen.keys_nodup, reachable.sound.nodup,
    reachable.sound.size, ?_, ?_⟩
  · intro r live after
    have removed : after.state = remove r.nonce r.generation s.state := by
      simp only [after, NonceReplayGuard.step, if_pos live]
    rw [removed]
    obtain ⟨gone, others, queue⟩ := remove_spec s.state r.nonce r.generation
    refine ⟨gone, others, queue, ?_⟩
    intro nonce later state reserved same
    obtain ⟨-, -, rfl, -⟩ := checkAndRecordAt_ok.mp reserved
    exact UInt64.lt_irrefl _ (same ▸ reachable.issued r live)
  · intro nonce first state reserved between s' second state' again kept
    have accounted : guard.Accounted ⟨nonce, first⟩ s.clock s' :=
      (accounted_after_reserve reserved).run (reachable.step _) between
    have reachable' : guard.Reachable s' := reachable.run _
    obtain ⟨-, -, rfl, -⟩ := checkAndRecordAt_ok.mp reserved
    obtain ⟨fresh, -⟩ := checkAndRecordAt_ok.mp again
    rcases accounted with back | evicted | due | ⟨queued, found⟩
    · exact absurd back kept
    · exact .inr ⟨fun before => UInt64.lt_irrefl _ (reachable.evictedIssued _ before), evicted⟩
    · exact .inl due
    · rcases evictExpired_keeps reachable'.sound queued found with ⟨-, found⟩ | due
      · exact absurd (AList.lookup_isSome.mp (by rw [found]; rfl)) fresh
      · exact .inl due

end NonceReplayGuard

end EnclaveSigner.State
