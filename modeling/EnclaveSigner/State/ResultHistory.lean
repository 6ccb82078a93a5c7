import Mathlib.Data.List.Dedup
import EnclaveSigner.Lib.Calls
import EnclaveSigner.Lib.Window
import EnclaveSigner.State.ResultCache

/-! # Signed results over sequences of calls

A put replaces the entry of its own key, evicts what has expired and then the
oldest entries, in one loop over the map and the queue.
-/

namespace EnclaveSigner.State

open Lib

/-- A call at the cache. -/
inductive CacheCall (ρ : Type) where
  | put (opKey : Nonce) (request : Word 32) (response : ρ) (now : Nat)
  | get (opKey : Nonce) (request : Word 32) (now : Nat)

/-- The time of a call. -/
def CacheCall.now {ρ : Type} : CacheCall ρ → Nat
  | .put _ _ _ now => now
  | .get _ _ now => now

/-- The key of a put. -/
def CacheCall.putKey {ρ : Type} : CacheCall ρ → Option Nonce
  | .put opKey _ _ _ => some opKey
  | .get _ _ _ => none

namespace SignedResultCache

variable {ρ : Type} (cache : SignedResultCache)

def apply (g : ResultCache ρ) : CacheCall ρ → ResultCache ρ
  | .put opKey request response now => cache.putAt opKey request response now g
  | .get _ _ _ => g

/-- The cache after a sequence of calls. -/
def after (calls : List (CacheCall ρ)) : ResultCache ρ := calls.foldl cache.apply .empty

/-- The entry is as old as the time limit, or not there. -/
def expired (now : Nat) (map : Results ρ) (key : Nonce) : Bool :=
  (map.lookup key).all fun entry => decide (now - entry.keptAt ≥ cache.ttl)

def evicted (now : Nat) : List Nonce → Results ρ → List Nonce
  | [], _ => []
  | oldest :: rest, map =>
      if !cache.expired now map oldest && decide (map.keys.length < cache.max) then []
      else oldest :: evicted now rest (map.erase oldest)

/-- The keys that a call evicts. -/
def evictedBy (g : ResultCache ρ) : CacheCall ρ → List Nonce
  | .put opKey _ _ now =>
      cache.evicted now (if opKey ∈ g.map then g.order.filter (· ≠ opKey) else g.order)
        (g.map.erase opKey)
  | .get _ _ _ => []

variable {cache} {now : Nat} {order : List Nonce} {map : Results ρ} {key : Nonce}
  {g : ResultCache ρ} {call : CacheCall ρ} {calls : List (CacheCall ρ)}

/-- There is room for one more, and the oldest entry is live. -/
def stops (cache : SignedResultCache) (now : Nat) (oldest : Nonce) (map : Results ρ) : Bool :=
  !cache.expired now map oldest && decide (map.keys.length < cache.max)

theorem evict_cons {oldest : Nonce} {rest : List Nonce} :
    cache.evict now (oldest :: rest) map =
      if cache.stops now oldest map then (oldest :: rest, map)
      else cache.evict now rest (map.erase oldest) := rfl

theorem evicted_cons {oldest : Nonce} {rest : List Nonce} :
    cache.evicted now (oldest :: rest) map =
      if cache.stops now oldest map then []
      else oldest :: cache.evicted now rest (map.erase oldest) := rfl

theorem evicted_append_evict :
    cache.evicted now order map ++ (cache.evict now order map).1 = order := by
  induction order generalizing map with
  | nil => rfl
  | cons oldest rest ih =>
      rw [evicted_cons, evict_cons]
      split
      · rfl
      · rw [List.cons_append, ih]

theorem lookup_evict :
    (cache.evict now order map).2.lookup key
      = if key ∈ cache.evicted now order map then none else map.lookup key := by
  induction order generalizing map with
  | nil => rfl
  | cons oldest rest ih =>
      rw [evicted_cons, evict_cons]
      split
      · rw [if_neg List.not_mem_nil]
      · rw [ih]
        by_cases own : key = oldest
        · rw [own]
          simp [AList.lookup_erase]
        · simp [own, AList.lookup_erase_ne own]

theorem keys_evict (same : map.keys.Perm order) :
    (cache.evict now order map).2.keys.Perm (cache.evict now order map).1 := by
  induction order generalizing map with
  | nil => exact same
  | cons oldest rest ih =>
      rw [evict_cons]
      split
      · exact same
      · apply ih
        rw [AList.keys_erase]
        simpa using same.erase oldest

theorem expired_erase {other : Nonce} (different : key ≠ other) :
    cache.expired now (map.erase other) key = cache.expired now map key := by
  rw [expired, AList.lookup_erase_ne different, expired]

theorem evicted_eq (same : map.keys.Perm order)
    (falling : order.Pairwise fun earlier later =>
      cache.expired now map later → cache.expired now map earlier) :
    let live := order.filter fun key => !cache.expired now map key
    cache.evicted now order map =
      order.filter (cache.expired now map) ++ live.take (live.length + 1 - cache.max) := by
  induction order generalizing map with
  | nil => simp [evicted]
  | cons oldest rest ih =>
      have nodup : (oldest :: rest).Nodup := same.nodup_iff.mp map.keys_nodup
      obtain ⟨absent, -⟩ := List.nodup_cons.mp nodup
      obtain ⟨first, later⟩ := List.pairwise_cons.mp falling
      have unchanged : ∀ key ∈ rest,
          cache.expired now (map.erase oldest) key = cache.expired now map key :=
        fun key member => expired_erase fun own => absent (own ▸ member)
      have keys : (map.erase oldest).keys.Perm rest := by
        rw [AList.keys_erase]
        simpa using same.erase oldest
      have size : map.keys.length = rest.length + 1 := same.length_eq
      have tail := ih keys (later.imp_of_mem fun {a b} inA inB => by
        rw [unchanged a inA, unchanged b inB]; exact id)
      rw [List.filter_congr unchanged, List.filter_congr
        (fun key member => congrArg not (unchanged key member))] at tail
      cases old : cache.expired now map oldest with
      | true =>
          rw [evicted_cons, stops, old]
          simp only [Bool.not_true, Bool.false_and, Bool.false_eq_true, if_false, tail, old,
            List.filter_cons_of_pos, List.cons_append, List.filter_cons_of_neg, not_false_eq_true]
      | false =>
          have young : ∀ key ∈ rest, cache.expired now map key = false := by
            intro key member
            by_contra held
            exact absurd (first key member (by simpa using held)) (by simp [old])
          have noneOld : rest.filter (cache.expired now map) = [] :=
            List.filter_eq_nil_iff.mpr fun key member => by simp [young key member]
          have allLive : rest.filter (fun key => !cache.expired now map key) = rest :=
            List.filter_eq_self.mpr fun key member => by simp [young key member]
          rw [noneOld, allLive] at tail
          dsimp only at tail ⊢
          rw [List.nil_append] at tail
          rw [evicted_cons, stops, old, List.filter_cons_of_neg (by simp [old]), noneOld,
            List.filter_cons_of_pos (by simp [old]), allLive, tail, size, List.nil_append,
            List.length_cons]
          split
          · rename_i room
            simp only [Bool.not_false, Bool.true_and, decide_eq_true_eq] at room
            rw [show rest.length + 1 + 1 - cache.max = 0 by omega, List.take_zero]
          · rename_i full
            simp only [Bool.not_false, Bool.true_and, decide_eq_true_eq] at full
            rw [show rest.length + 1 + 1 - cache.max = rest.length + 1 - cache.max + 1 by omega,
              List.take_succ_cons]

/-- The keys beside one, in the order of the queue. -/
def others (g : ResultCache ρ) (opKey : Nonce) : List Nonce := g.order.filter (· ≠ opKey)

def live (cache : SignedResultCache) (now : Nat) (g : ResultCache ρ) (opKey : Nonce) : List Nonce :=
  (others g opKey).filter fun key => !cache.expired now g.map key

theorem ne_of_mem_others {opKey : Nonce} (member : key ∈ others g opKey) : key ≠ opKey := by
  simpa using List.of_mem_filter member

theorem queue_eq_others (same : g.map.keys.Perm g.order) (opKey : Nonce) :
    (if opKey ∈ g.map then g.order.filter (· ≠ opKey) else g.order) = others g opKey := by
  split
  · rfl
  · rename_i absent
    rw [AList.mem_keys, same.mem_iff] at absent
    refine (List.filter_eq_self.mpr fun key member => ?_).symm
    simp only [decide_eq_true_eq]
    exact fun own => absent (own ▸ member)

theorem keys_erase_others (same : g.map.keys.Perm g.order) (opKey : Nonce) :
    (g.map.erase opKey).keys.Perm (others g opKey) := by
  have nodup : g.order.Nodup := same.nodup_iff.mp g.map.keys_nodup
  rw [AList.keys_erase]
  refine (same.erase opKey).trans ?_
  rw [nodup.erase_eq_filter]
  refine List.Perm.of_eq (List.filter_congr fun key _ => ?_)
  simp only [ne_eq, decide_not, bne, beq_eq_decide]

theorem lookup_putAt_ne {opKey : Nonce} {request : Word 32} {response : ρ}
    (different : key ≠ opKey) :
    (cache.putAt opKey request response now g).map.lookup key
      = if key ∈ cache.evictedBy g (.put opKey request response now) then none
        else g.map.lookup key := by
  rw [putAt, evictedBy]
  dsimp only
  rw [AList.lookup_insert_ne different, lookup_evict, AList.lookup_erase_ne different]

/-- The map and the queue hold the same keys, in the order of their times and
    within the limit. -/
structure Sound (cache : SignedResultCache) (clock : Nat) (g : ResultCache ρ) : Prop where
  keys : g.map.keys.Perm g.order
  size : g.order.length ≤ Max.max cache.max 1
  sorted : g.order.Pairwise fun earlier later => ∀ first second,
    g.map.lookup earlier = some first → g.map.lookup later = some second →
      first.keptAt ≤ second.keptAt
  past : ∀ key entry, g.map.lookup key = some entry → entry.keptAt ≤ clock

section Put

variable {clock : Nat} (sound : cache.Sound clock g) (opKey : Nonce) (request : Word 32)
  (response : ρ) (now : Nat)
include sound

theorem Sound.nodup : g.order.Nodup := sound.keys.nodup_iff.mp g.map.keys_nodup

theorem Sound.falling : (others g opKey).Pairwise fun earlier later =>
    cache.expired now g.map later → cache.expired now g.map earlier := by
  refine (sound.sorted.filter (· ≠ opKey)).imp_of_mem fun {a b} _ inB below old => ?_
  have there : b ∈ g.map := by
    rw [AList.mem_keys, sound.keys.mem_iff]
    exact List.mem_of_mem_filter inB
  obtain ⟨second, foundB⟩ := Option.isSome_iff_exists.mp (AList.lookup_isSome.mpr there)
  rw [expired, foundB, Option.all_some, decide_eq_true_eq] at old
  rw [expired]
  cases foundA : g.map.lookup a with
  | none => rfl
  | some first =>
      have := below first second foundA foundB
      rw [Option.all_some, decide_eq_true_eq]
      omega

theorem Sound.evictedBy_eq :
    cache.evictedBy g (.put opKey request response now)
      = (others g opKey).filter (cache.expired now g.map)
        ++ (cache.live now g opKey).take ((cache.live now g opKey).length + 1 - cache.max) := by
  have unchanged : ∀ key ∈ others g opKey,
      cache.expired now (g.map.erase opKey) key = cache.expired now g.map key :=
    fun key member => expired_erase (ne_of_mem_others member)
  have falling : (others g opKey).Pairwise fun earlier later =>
      cache.expired now (g.map.erase opKey) later →
        cache.expired now (g.map.erase opKey) earlier := by
    refine (sound.falling opKey now).imp_of_mem fun {a b} inA inB => ?_
    rw [unchanged a inA, unchanged b inB]
    exact id
  rw [evictedBy, queue_eq_others sound.keys, evicted_eq (keys_erase_others sound.keys opKey) falling,
    List.filter_congr unchanged,
    List.filter_congr fun key member => congrArg not (unchanged key member), live]

theorem Sound.order_eq :
    (cache.putAt opKey request response now g).order
      = (cache.live now g opKey).drop ((cache.live now g opKey).length + 1 - cache.max)
        ++ [opKey] := by
  have split : (others g opKey).filter (cache.expired now g.map) ++ cache.live now g opKey
      = others g opKey := filter_append_filter_not (sound.falling opKey now)
  have whole : cache.evictedBy g (.put opKey request response now)
      ++ (cache.putAt opKey request response now g).order = others g opKey ++ [opKey] := by
    rw [← queue_eq_others sound.keys, evictedBy, putAt]
    dsimp only
    rw [← List.append_assoc, evicted_append_evict]
  rw [sound.evictedBy_eq, List.append_assoc] at whole
  have rest := List.append_cancel_left
    (whole.trans (by rw [← List.append_assoc, split] :
      _ = (others g opKey).filter (cache.expired now g.map)
        ++ (cache.live now g opKey ++ [opKey])))
  refine List.append_cancel_left (rest.trans ?_)
  rw [← List.append_assoc, List.take_append_drop]

theorem Sound.putAt (later : clock ≤ now) :
    cache.Sound now (cache.putAt opKey request response now g) := by
  have order := sound.order_eq opKey request response now
  refine ⟨?_, ?_, ?_, ?_⟩
  · simp only [SignedResultCache.putAt, queue_eq_others sound.keys]
    have kept : (cache.evict now (others g opKey) (g.map.erase opKey)).2.keys.Perm _ :=
      keys_evict (keys_erase_others sound.keys opKey)
    have absent : opKey ∉ (cache.evict now (others g opKey) (g.map.erase opKey)).2.keys := by
      rw [← AList.mem_keys, ← AList.lookup_isSome, lookup_evict, AList.lookup_erase]
      simp
    rw [AList.keys_insert, List.erase_of_not_mem absent]
    exact (kept.cons opKey).trans (List.perm_append_singleton opKey _).symm
  · rw [order, List.length_append, List.length_drop, List.length_singleton]
    omega
  · have older : ∀ key ∈ cache.live now g opKey, ∀ entry,
        (cache.putAt opKey request response now g).map.lookup key = some entry →
          g.map.lookup key = some entry := by
      intro key member entry found
      rcases lookup_putAt found with ⟨own, -⟩ | old
      · exact absurd own (ne_of_mem_others (List.mem_of_mem_filter member))
      · exact old
    rw [order]
    refine List.pairwise_append.mpr ⟨?_, by simp, ?_⟩
    · refine (((sound.sorted.filter _).filter _).sublist
        (List.drop_sublist _ _)).imp_of_mem fun {a b} inA inB below first second atA atB => ?_
      exact below first second (older a (List.mem_of_mem_drop inA) first atA)
        (older b (List.mem_of_mem_drop inB) second atB)
    · intro key member last own first second atKey atOwn
      rw [List.mem_singleton.mp own, SignedResultCache.putAt] at atOwn
      rw [AList.lookup_insert] at atOwn
      cases atOwn
      exact (sound.past key first (older key (List.mem_of_mem_drop member) first atKey)).trans later
  · intro key entry found
    rcases lookup_putAt found with ⟨-, rfl⟩ | old
    · exact le_rfl
    · exact (sound.past key entry old).trans later

end Put

theorem Sound.apply {clock : Nat} (sound : cache.Sound clock g) (later : clock ≤ call.now) :
    cache.Sound call.now (cache.apply g call) := by
  cases call with
  | put opKey request response now => exact sound.putAt opKey request response now later
  | get opKey request now =>
      exact ⟨sound.keys, sound.size, sound.sorted, fun key entry found =>
        (sound.past key entry found).trans later⟩

theorem after_concat : cache.after (calls ++ [call]) = cache.apply (cache.after calls) call := by
  simp [after]

theorem after_sound (inOrder : (calls.map CacheCall.now).Pairwise (· ≤ ·)) {clock : Nat}
    (last : ∀ call ∈ calls, call.now ≤ clock) : cache.Sound clock (cache.after calls) := by
  induction calls using List.reverseRecOn generalizing clock with
  | nil => exact ⟨.refl _, Nat.zero_le _, .nil, fun key entry found => by cases found⟩
  | append_singleton earlier call ih =>
      rw [List.map_append, List.pairwise_append] at inOrder
      have before := ih inOrder.1 fun other member =>
        inOrder.2.2 other.now (List.mem_map_of_mem member) call.now (by simp)
      have sound : cache.Sound call.now (cache.apply (cache.after earlier) call) :=
        before.apply le_rfl
      rw [after_concat]
      exact ⟨sound.keys, sound.size, sound.sorted, fun key entry found =>
        (sound.past key entry found).trans (last call (by simp))⟩

theorem lookup_apply {entry : Entry ρ} :
    (cache.apply g call).map.lookup key = some entry ↔
      call = .put key entry.request entry.response entry.keptAt ∨
      g.map.lookup key = some entry ∧ call.putKey ≠ some key ∧ key ∉ cache.evictedBy g call := by
  cases call with
  | get opKey request now => simp [apply, CacheCall.putKey, evictedBy]
  | put opKey request response now =>
      rw [apply, CacheCall.putKey]
      by_cases own : key = opKey
      · subst own
        rw [putAt, AList.lookup_insert]
        cases entry
        simp only [Option.some.injEq, Entry.mk.injEq, CacheCall.put.injEq, true_and, ne_eq,
          not_true_eq_false, false_and, and_false, or_false]
        tauto
      · rw [lookup_putAt_ne own]
        split
        · rename_i out
          simp [out, Ne.symm own]
        · rename_i kept
          simp [kept, Ne.symm own]

/-- A call neither replaces the entry of `key` nor evicts it. -/
def Untouched (cache : SignedResultCache) (key : Nonce) (before : List (CacheCall ρ))
    (call : CacheCall ρ) : Prop :=
  call.putKey ≠ some key ∧ key ∉ cache.evictedBy (cache.after before) call

theorem lookup_after {entry : Entry ρ} :
    (cache.after calls).map.lookup key = some entry ↔
      Since (fun _ call => call = .put key entry.request entry.response entry.keptAt)
        (cache.Untouched key) calls := by
  induction calls using List.reverseRecOn with
  | nil =>
      constructor
      · intro found
        cases found
      · intro put
        exact absurd put not_since_nil
  | append_singleton earlier call ih =>
      rw [after_concat, lookup_apply, since_concat, ih, Untouched]

theorem getAt_after {request : Word 32} {response : ρ} :
    cache.getAt key request now (cache.after calls) = some response ↔
      Since (fun _ call => ∃ keptAt, call = .put key request response keptAt ∧
          now - keptAt < cache.ttl)
        (cache.Untouched key) calls := by
  have found : cache.getAt key request now (cache.after calls) = some response ↔
      ∃ keptAt, (cache.after calls).map.lookup key = some ⟨keptAt, request, response⟩ ∧
        now - keptAt < cache.ttl := by
    rw [getAt]
    cases there : (cache.after calls).map.lookup key with
    | none => simp
    | some entry =>
        cases entry
        simp only [Option.bind_eq_bind, Option.bind_some, Option.ite_none_right_eq_some,
          Option.some.injEq, Entry.mk.injEq]
        constructor
        · rintro ⟨⟨young, same⟩, answered⟩
          exact ⟨_, ⟨rfl, same, answered⟩, young⟩
        · rintro ⟨_, ⟨rfl, same, answered⟩, young⟩
          exact ⟨⟨young, same⟩, answered⟩
  rw [found]
  simp only [lookup_after, Since]
  constructor
  · rintro ⟨keptAt, ⟨before, call, later, split, put, untouched⟩, young⟩
    exact ⟨before, call, later, split, ⟨keptAt, put, young⟩, untouched⟩
  · rintro ⟨before, call, later, split, ⟨keptAt, put, young⟩, untouched⟩
    exact ⟨keptAt, ⟨before, call, later, split, put, untouched⟩, young⟩

/-- The keys that were put, in the order of their last put. -/
def lastPuts (calls : List (CacheCall ρ)) : List Nonce := (calls.filterMap CacheCall.putKey).dedup

theorem dedup_concat (keys : List Nonce) (key : Nonce) :
    (keys ++ [key]).dedup = keys.dedup.filter (· ≠ key) ++ [key] := by
  induction keys with
  | nil => rfl
  | cons first rest ih =>
      rw [List.cons_append, List.dedup_cons, List.dedup_cons, ih]
      by_cases own : first = key
      · rw [own, if_pos (by simp)]
        split
        · rfl
        · rw [List.filter_cons_of_neg (by simp)]
      · by_cases again : first ∈ rest
        · rw [if_pos (by simp [again]), if_pos again]
        · rw [if_neg (by simp [again, own]), if_neg again, List.filter_cons_of_pos (by simp [own]),
            List.cons_append]

theorem order_sublist_lastPuts (inOrder : (calls.map CacheCall.now).Pairwise (· ≤ ·)) :
    (cache.after calls).order.Sublist (lastPuts calls) := by
  induction calls using List.reverseRecOn with
  | nil => exact .slnil
  | append_singleton earlier call ih =>
      rw [List.map_append, List.pairwise_append] at inOrder
      have sound : cache.Sound call.now (cache.after earlier) :=
        after_sound inOrder.1 fun other member =>
          inOrder.2.2 other.now (List.mem_map_of_mem member) call.now (by simp)
      rw [after_concat]
      cases call with
      | get opKey request now =>
          rw [lastPuts, List.filterMap_append, List.filterMap_cons_none rfl, List.filterMap_nil,
            List.append_nil]
          exact ih inOrder.1
      | put opKey request response now =>
          rw [apply, sound.order_eq, lastPuts, List.filterMap_append]
          change List.Sublist _ (_ ++ [opKey]).dedup
          rw [dedup_concat]
          refine List.Sublist.append ?_ (List.Sublist.refl _)
          exact (List.drop_sublist _ _).trans
            (List.filter_sublist.trans ((ih inOrder.1).filter _))

/-- After any calls at times that do not decrease, the map and the queue hold the
    same keys, each once, in the order of their last puts and within the limit. A
    get answers with the last put of its key exactly if that was for the same
    request, is live, and was not evicted since. A put evicts what has expired and
    then the oldest entries, until fewer than `cache.max` are left beside its own. -/
theorem result_cache_over_calls (cache : SignedResultCache) (calls : List (CacheCall ρ))
    (inOrder : (calls.map CacheCall.now).Pairwise (· ≤ ·)) :
    let g := cache.after calls
    g.map.keys.Perm g.order ∧ g.order.Nodup ∧ g.order.Sublist (lastPuts calls) ∧
    g.map.keys.length ≤ Max.max cache.max 1 ∧
    (∀ key request now response, cache.getAt key request now g = some response ↔
      Since (fun _ call => ∃ keptAt, call = .put key request response keptAt ∧
          now - keptAt < cache.ttl)
        (fun before call => call.putKey ≠ some key ∧
          key ∉ cache.evictedBy (cache.after before) call) calls) ∧
    ∀ opKey request response now,
      let g' := cache.putAt opKey request response now g
      let beside := g.order.filter (· ≠ opKey)
      let old := beside.filter (cache.expired now g.map)
      let live := beside.filter fun key => !cache.expired now g.map key
      let room := live.length + 1 - cache.max
      cache.evictedBy g (.put opKey request response now) = old ++ live.take room ∧
      g'.order = live.drop room ++ [opKey] ∧
      ∀ key ≠ opKey, g'.map.lookup key =
        if key ∈ old ++ live.take room then none else g.map.lookup key := by
  intro g
  obtain ⟨clock, last⟩ : ∃ clock, ∀ call ∈ calls, call.now ≤ clock :=
    ⟨(calls.map CacheCall.now).sum, fun call member =>
      List.single_le_sum (by simp) _ (List.mem_map_of_mem member)⟩
  have sound : cache.Sound clock g := after_sound inOrder last
  refine ⟨sound.keys, sound.nodup, order_sublist_lastPuts inOrder, ?_, fun _ _ _ _ => getAt_after,
    ?_⟩
  · rw [sound.keys.length_eq]
    exact sound.size
  · intro opKey request response now
    have evicts := sound.evictedBy_eq opKey request response now
    refine ⟨evicts, sound.order_eq opKey request response now, fun key different => ?_⟩
    rw [lookup_putAt_ne different, evicts]
    rfl

def numberedKey (n : Nat) : Nonce := ⟨.ofNatBe 32 n⟩

/-- Two keys, the first put again, in a cache for one entry. -/
def oneEntryCalls : List (CacheCall Nat) :=
  [.put (numberedKey 1) (.ofNatBe 32 7) 70 0, .put (numberedKey 2) (.ofNatBe 32 8) 80 1,
    .get (numberedKey 2) (.ofNatBe 32 8) 2, .put (numberedKey 1) (.ofNatBe 32 9) 90 3]

theorem result_cache_over_calls_sample :
    (oneEntryCalls.map CacheCall.now).Pairwise (· ≤ ·) ∧
    (SignedResultCache.after ⟨1, 10⟩ oneEntryCalls).map.keys.length ≤ 1 ∧
    SignedResultCache.getAt ⟨1, 10⟩ (numberedKey 1) (.ofNatBe 32 9) 5
      (SignedResultCache.after ⟨1, 10⟩ oneEntryCalls) = some 90 := by
  have inOrder : (oneEntryCalls.map CacheCall.now).Pairwise (· ≤ ·) := by decide
  obtain ⟨-, -, -, size, answers, -⟩ := result_cache_over_calls ⟨1, 10⟩ oneEntryCalls inOrder
  refine ⟨inOrder, size, (answers _ _ _ _).mpr ?_⟩
  exact ⟨oneEntryCalls.take 3, _, [], rfl, ⟨3, rfl, by decide⟩, by simp⟩

end SignedResultCache

end EnclaveSigner.State
