import EnclaveSigner.Parent.SignedResponses

/-! # Invariants of the kept replies

The store is a bounded queue of replies: the map, the order and the byte counter
are three views of it. Every key in flight belongs to the one lead that has not
given it back.
-/

namespace EnclaveSigner.Parent

open Lib Proto

structure Entry where
  key : RequestKey
  response : SignedPsbtResponse
  storedAt : Nat

def Entry.size (entry : Entry) : Nat := entry.response.signedPsbt.length

def weight (kept : List Entry) : Nat := (kept.map Entry.size).sum

namespace State

/-- The finished replies are `kept`. -/
structure Holds (state : State) (kept : List Entry) : Prop where
  order : state.order = kept.map fun entry => (entry.key, entry.storedAt)
  bytes : state.bytes = weight kept
  nodup : (kept.map Entry.key).Nodup
  done : ∀ key response, state.slots.lookup key = some (.done response) ↔
    ∃ entry ∈ kept, entry.key = key ∧ entry.response = response

def SameFlights (state state' : State) : Prop :=
  ∀ key lead, state'.slots.lookup key = some (.inFlight lead) ↔
    state.slots.lookup key = some (.inFlight lead)

theorem SameFlights.trans {a b c : State} (first : a.SameFlights b) (second : b.SameFlights c) :
    a.SameFlights c :=
  fun key lead => (second key lead).trans (first key lead)

variable {state state' : State} {kept : List Entry}

theorem Holds.length_order (holds : state.Holds kept) : state.order.length = kept.length := by
  rw [holds.order, List.length_map]

theorem Holds.enough (holds : state.Holds kept) : kept.length < state.order.length + 1 :=
  Nat.lt_succ_of_le (Nat.le_of_eq holds.length_order.symm)

theorem new_holds : new.Holds [] where
  order := rfl
  bytes := rfl
  nodup := List.nodup_nil
  done key response := by simp [new]

theorem evictOldest_nil (holds : state.Holds []) : state.evictOldest = some (false, state) := by
  rw [evictOldest, holds.order]
  rfl

theorem evictOldest_cons {entry : Entry} (holds : state.Holds (entry :: kept)) :
    ∃ state', state.evictOldest = some (true, state') ∧ state'.Holds kept ∧
      state.SameFlights state' := by
  have front : state.slots.lookup entry.key = some (.done entry.response) :=
    (holds.done _ _).mpr ⟨entry, List.mem_cons_self, rfl, rfl⟩
  have total : state.bytes = entry.size + weight kept := holds.bytes
  obtain ⟨fresh, nodup⟩ := List.nodup_cons.mp holds.nodup
  refine ⟨⟨state.slots.erase entry.key, kept.map fun entry => (entry.key, entry.storedAt),
    state.bytes - entry.size⟩, ?_, ⟨rfl, ?_, nodup, ?_⟩, ?_⟩
  · rw [evictOldest, holds.order, List.map_cons]
    simp only [front]
    exact if_pos (total ▸ Nat.le_add_right _ _)
  · exact total ▸ Nat.add_sub_cancel_left ..
  · intro key response
    by_cases own : key = entry.key
    · subst own
      rw [AList.lookup_erase]
      refine ⟨nofun, ?_⟩
      rintro ⟨other, member, same, -⟩
      exact absurd (same ▸ List.mem_map_of_mem member) fresh
    · rw [AList.lookup_erase_ne own, holds.done]
      simp only [List.mem_cons, exists_eq_or_imp, Ne.symm own, false_and, false_or]
  · intro key lead
    by_cases own : key = entry.key
    · subst own
      rw [AList.lookup_erase, front]
      exact ⟨nofun, nofun⟩
    · rw [AList.lookup_erase_ne own]

theorem evictWhile_holds (more : State → Bool) {fuel : Nat} (holds : state.Holds kept)
    (enough : kept.length < fuel) :
    ∃ state' kept', state.evictWhile more fuel = some state' ∧ state'.Holds kept' ∧
      kept' <:+ kept ∧ (more state' = false ∨ kept' = []) ∧ state.SameFlights state' := by
  induction fuel generalizing state kept with
  | zero => exact absurd enough (Nat.not_lt_zero _)
  | succ fuel ih =>
      rw [evictWhile]
      split
      · cases kept with
        | nil =>
            rw [evictOldest_nil holds]
            exact ⟨state, [], rfl, holds, List.suffix_rfl, .inr rfl, fun _ _ => Iff.rfl⟩
        | cons entry kept =>
            obtain ⟨next, evicted, after, flights⟩ := evictOldest_cons holds
            obtain ⟨state', kept', ended, holds', suffix, stops, flights'⟩ :=
              ih after (Nat.lt_of_succ_lt_succ enough)
            refine ⟨state', kept', ?_, holds', suffix.trans (List.suffix_cons entry kept), stops,
              flights.trans flights'⟩
            rw [evicted]
            exact ended
      · rename_i stops
        exact ⟨state, kept, rfl, holds, List.suffix_rfl, .inl (Bool.eq_false_of_not_eq_true stops),
          fun _ _ => Iff.rfl⟩

theorem evictExpired_holds (ttl now : Nat) (holds : state.Holds kept) :
    ∃ state' kept', state.evictExpired ttl now = some state' ∧ state'.Holds kept' ∧
      kept' <:+ kept ∧ state.SameFlights state' := by
  obtain ⟨state', kept', ended, holds', suffix, -, flights⟩ :=
    evictWhile_holds (expired ttl now) holds holds.enough
  exact ⟨state', kept', ended, holds', suffix, flights⟩

theorem Holds.erase {key : RequestKey} (holds : state.Holds kept)
    (empty : ∀ response, state.slots.lookup key ≠ some (.done response)) :
    Holds { state with slots := state.slots.erase key } kept where
  order := holds.order
  bytes := holds.bytes
  nodup := holds.nodup
  done key' response := by
    rw [← holds.done]
    by_cases own : key' = key
    · subst own
      rw [AList.lookup_erase]
      exact ⟨nofun, fun there => absurd there (empty response)⟩
    · rw [AList.lookup_erase_ne own]

theorem Holds.insert_inFlight {key : RequestKey} {lead : Nat} (holds : state.Holds kept)
    (free : state.slots.lookup key = none) :
    Holds { state with slots := state.slots.insert key (.inFlight lead) } kept where
  order := holds.order
  bytes := holds.bytes
  nodup := holds.nodup
  done key' response := by
    rw [← holds.done]
    by_cases own : key' = key
    · subst own
      rw [AList.lookup_insert, free]
      exact ⟨nofun, nofun⟩
    · rw [AList.lookup_insert_ne own]

theorem Holds.insert_done (entry : Entry) (holds : state.Holds kept)
    (free : state.slots.lookup entry.key = none) :
    Holds
      { slots := state.slots.insert entry.key (.done entry.response)
        order := state.order ++ [(entry.key, entry.storedAt)]
        bytes := state.bytes + entry.size } (kept ++ [entry]) where
  order := by rw [holds.order, List.map_append, List.map_singleton]
  bytes := by
    rw [holds.bytes, weight, weight, List.map_append, List.sum_append, List.map_singleton,
      List.sum_singleton]
  nodup := by
    rw [List.map_append, List.map_singleton, List.nodup_append_comm, List.singleton_append,
      List.nodup_cons]
    refine ⟨fun there => ?_, holds.nodup⟩
    obtain ⟨other, member, same⟩ := List.mem_map.mp there
    have present := (holds.done entry.key other.response).mpr ⟨other, member, same, rfl⟩
    exact nomatch free.symm.trans present
  done key response := by
    simp only [List.mem_append, List.mem_singleton, or_and_right, exists_or, exists_eq_left]
    rw [← holds.done]
    by_cases own : key = entry.key
    · subst own
      rw [AList.lookup_insert, free]
      simp
    · rw [AList.lookup_insert_ne own]
      simp [Ne.symm own]

end State

section Store

variable {cache : SignedResponses} {state : State} {kept kept' : List Entry}

/-- The queue is within the limits. One reply is kept also when the count limit
    is zero. -/
structure Bounded (cache : SignedResponses) (kept : List Entry) : Prop where
  bytes : weight kept ≤ cache.maxBytes
  count : kept.length ≤ max cache.maxEntries 1

theorem weight_append (first second : List Entry) :
    weight (first ++ second) = weight first + weight second := by
  rw [weight, List.map_append, List.sum_append]
  rfl

theorem Bounded.suffix (bounded : Bounded cache kept) (suffix : kept' <:+ kept) :
    Bounded cache kept' := by
  obtain ⟨front, rfl⟩ := suffix
  have bytes := bounded.bytes
  have count := bounded.count
  rw [weight_append] at bytes
  rw [List.length_append] at count
  exact ⟨by omega, by omega⟩

theorem bounded_append {entry : Entry} (fits : entry.size ≤ cache.maxBytes)
    (holds : state.Holds kept) (stops : cache.crowded entry.size state = false ∨ kept = []) :
    Bounded cache (kept ++ [entry]) := by
  have single : weight [entry] = entry.size := List.sum_singleton
  constructor
  · rw [weight_append, single]
    rcases stops with room | rfl
    · rw [SignedResponses.crowded, Bool.or_eq_false_iff, decide_eq_false_iff_not,
        decide_eq_false_iff_not, holds.bytes] at room
      omega
    · exact (Nat.zero_add _).symm ▸ fits
  · rw [List.length_append, List.length_singleton]
    rcases stops with room | rfl
    · rw [SignedResponses.crowded, Bool.or_eq_false_iff, decide_eq_false_iff_not,
        holds.length_order] at room
      omega
    · exact Nat.le_max_right _ _

theorem erase_holds {key : RequestKey} {lead : Nat} (holds : state.Holds kept)
    (flying : state.slots.lookup key = some (.inFlight lead)) :
    State.Holds { state with slots := state.slots.erase key } kept ∧
      ∀ key' lead', (state.slots.erase key).lookup key' = some (.inFlight lead') ↔
        key' ≠ key ∧ state.slots.lookup key' = some (.inFlight lead') := by
  constructor
  · refine holds.erase fun response there => ?_
    cases flying.symm.trans there
  · intro key' lead'
    by_cases own : key' = key
    · subst own
      rw [AList.lookup_erase]
      exact ⟨nofun, fun both => absurd rfl both.1⟩
    · rw [AList.lookup_erase_ne own]
      exact ⟨fun there => ⟨own, there⟩, And.right⟩

theorem release_holds {key : RequestKey} {lead : Nat} (holds : state.Holds kept)
    (flying : state.slots.lookup key = some (.inFlight lead)) :
    (SignedResponses.release key state).Holds kept ∧
      ∀ key' lead', (SignedResponses.release key state).slots.lookup key' =
          some (.inFlight lead') ↔
        key' ≠ key ∧ state.slots.lookup key' = some (.inFlight lead') := by
  rw [SignedResponses.release, flying]
  exact erase_holds holds flying

theorem store_holds {key : RequestKey} {lead : Nat} (response : SignedPsbtResponse) (now : Nat)
    (holds : state.Holds kept) (bounded : Bounded cache kept)
    (flying : state.slots.lookup key = some (.inFlight lead)) :
    ∃ state' kept', cache.store key response now state = some state' ∧ state'.Holds kept' ∧
      Bounded cache kept' ∧
      (∀ entry ∈ kept', entry ∈ kept ∨ entry.key = key ∧ entry.response = response) ∧
      ∀ key' lead', state'.slots.lookup key' = some (.inFlight lead') ↔
        key' ≠ key ∧ state.slots.lookup key' = some (.inFlight lead') := by
  obtain ⟨erased, landed⟩ := erase_holds holds flying
  rw [SignedResponses.store]
  split
  · exact ⟨_, kept, rfl, erased, bounded, fun entry member => .inl member, landed⟩
  · rename_i fits
    obtain ⟨middle, kept₁, expired, holds₁, suffix₁, flights₁⟩ := State.evictExpired_holds cache.ttl now erased
    obtain ⟨last, kept₂, roomed, holds₂, suffix₂, stops, flights₂⟩ :=
      State.evictWhile_holds (cache.crowded response.signedPsbt.length) holds₁ holds₁.enough
    have flights := flights₁.trans flights₂
    have suffix := suffix₂.trans suffix₁
    have free : last.slots.lookup key = none := by
      cases there : last.slots.lookup key with
      | none => rfl
      | some slot =>
          cases slot with
          | inFlight lead' =>
              exact absurd rfl ((landed _ _).mp ((flights _ _).mp there)).1
          | done response' =>
              obtain ⟨entry, member, same⟩ := (holds₂.done _ _).mp there
              have kept := (holds.done _ _).mpr ⟨entry, suffix.subset member, same⟩
              cases flying.symm.trans kept
    let entry : Entry := ⟨key, response, now⟩
    refine ⟨_, kept₂ ++ [entry], ?_, holds₂.insert_done entry free, ?_, ?_, ?_⟩
    · rw [expired]
      change (middle.evictWhile _ _ >>= _) = _
      rw [roomed]
      rfl
    · exact bounded_append (Nat.le_of_not_lt fits) holds₂ stops
    · intro other member
      rcases List.mem_append.mp member with old | new
      · exact .inl (suffix.subset old)
      · cases List.mem_singleton.mp new
        exact .inr ⟨rfl, rfl⟩
    · intro key' lead'
      by_cases own : key' = key
      · subst own
        rw [AList.lookup_insert]
        exact ⟨nofun, fun both => absurd rfl both.1⟩
      · rw [AList.lookup_insert_ne own]
        exact (flights key' lead').trans (landed key' lead')

end Store

section Leads

/-- The lead has not given its key back. -/
def LeadPhase.live : LeadPhase → Bool
  | .holding | .completing .. | .dropping => true
  | .sending _ | .completed _ | .closing | .dropped => false

/-- The reply that the lead has reported. -/
def LeadPhase.reported : LeadPhase → Option SignedPsbtResponse
  | .sending response | .completed response => some response
  | _ => none

/-- The keys in flight are those of the live leads. -/
def Owned (state : State) (leads : List Lead) : Prop :=
  ∀ key i, state.slots.lookup key = some (.inFlight i) ↔
    ∃ phase, leads[i]? = some ⟨key, phase⟩ ∧ phase.live = true

/-- A lead of `key` was completed with `response`. -/
def Reported (leads : List Lead) (key : RequestKey) (response : SignedPsbtResponse) : Prop :=
  ∃ (i : Nat) (phase : LeadPhase), leads[i]? = some ⟨key, phase⟩ ∧ phase.reported = some response

/-- Leads stay in place, with their keys and what they have reported. -/
def Grows (leads leads' : List Lead) : Prop :=
  ∀ (i : Nat) (key : RequestKey) (phase : LeadPhase), leads[i]? = some ⟨key, phase⟩ →
    ∃ phase', leads'[i]? = some ⟨key, phase'⟩ ∧
      ∀ response, phase.reported = some response → phase'.reported = some response

variable {state state' : State} {leads leads' : List Lead} {key : RequestKey} {i : Nat}
  {phase phase' : LeadPhase} {response : SignedPsbtResponse}

theorem Reported.grows (reported : Reported leads key response) (grows : Grows leads leads') :
    Reported leads' key response := by
  obtain ⟨i, phase, there, report⟩ := reported
  obtain ⟨phase', there', keeps⟩ := grows i key phase there
  exact ⟨i, phase', there', keeps response report⟩

theorem getElem?_concat {lead other : Lead} :
    (leads ++ [lead])[i]? = some other ↔ leads[i]? = some other ∨ i = leads.length ∧ lead = other := by
  rw [List.getElem?_append]
  split
  · rename_i before
    exact ⟨.inl, Or.rec id fun last => absurd last.1 (Nat.ne_of_lt before)⟩
  · rename_i after
    have last : i - leads.length = 0 ↔ i = leads.length := by omega
    rw [List.getElem?_eq_none (Nat.le_of_not_lt after), List.getElem?_singleton]
    simp only [reduceCtorEq, false_or, Option.ite_none_right_eq_some, Option.some.injEq, last]

theorem grows_append (lead : Lead) : Grows leads (leads ++ [lead]) :=
  fun _ _ phase there => ⟨phase, getElem?_concat.mpr (.inl there), fun _ => id⟩

theorem grows_set (there : leads[i]? = some ⟨key, phase⟩)
    (keeps : ∀ response, phase.reported = some response → phase'.reported = some response) :
    Grows leads (leads.set i ⟨key, phase'⟩) := by
  intro j key' phase₁ there'
  by_cases own : i = j
  · subst own
    cases there.symm.trans there'
    exact ⟨phase', List.getElem?_set_self (List.getElem?_eq_some_iff.mp there).1, keeps⟩
  · exact ⟨phase₁, (List.getElem?_set_ne own).trans there', fun _ => id⟩

theorem Owned.sameFlights (owned : Owned state leads) (same : state.SameFlights state') :
    Owned state' leads :=
  fun key i => (same key i).trans (owned key i)

theorem Owned.unique {j : Nat} (owned : Owned state leads) (first : leads[i]? = some ⟨key, phase⟩)
    (second : leads[j]? = some ⟨key, phase'⟩) (live : phase.live = true)
    (live' : phase'.live = true) : i = j := by
  have flying := (owned key i).mpr ⟨phase, first, live⟩
  have flying' := (owned key j).mpr ⟨phase', second, live'⟩
  cases flying.symm.trans flying'
  rfl

theorem Owned.set (owned : Owned state leads) (there : leads[i]? = some ⟨key, phase⟩)
    (same : phase'.live = phase.live) : Owned state (leads.set i ⟨key, phase'⟩) := by
  intro key' j
  rw [owned]
  by_cases own : i = j
  · subst own
    rw [List.getElem?_set_self (List.getElem?_eq_some_iff.mp there).1, there]
    constructor
    · rintro ⟨_, ⟨⟩, live⟩
      exact ⟨phase', rfl, same.trans live⟩
    · rintro ⟨_, ⟨⟩, live⟩
      exact ⟨phase, rfl, same.symm.trans live⟩
  · rw [List.getElem?_set_ne own]

theorem Owned.give_back (owned : Owned state leads) (there : leads[i]? = some ⟨key, phase⟩)
    (live : phase.live = true) (gone : phase'.live = false)
    (freed : ∀ key' j, state'.slots.lookup key' = some (.inFlight j) ↔
      key' ≠ key ∧ state.slots.lookup key' = some (.inFlight j)) :
    Owned state' (leads.set i ⟨key, phase'⟩) := by
  intro key' j
  rw [freed, owned]
  by_cases own : i = j
  · subst own
    rw [List.getElem?_set_self (List.getElem?_eq_some_iff.mp there).1, there]
    constructor
    · rintro ⟨other, _, ⟨⟩, -⟩
      exact absurd rfl other
    · rintro ⟨_, ⟨⟩, live'⟩
      exact nomatch gone.symm.trans live'
  · rw [List.getElem?_set_ne own]
    constructor
    · exact And.right
    · rintro ⟨phase₁, there', live'⟩
      refine ⟨?_, phase₁, there', live'⟩
      rintro rfl
      exact own (owned.unique there there' live live')

theorem Owned.append (owned : Owned state leads) (free : state.slots.lookup key = none) :
    Owned { state with slots := state.slots.insert key (.inFlight leads.length) }
      (leads ++ [⟨key, .holding⟩]) := by
  intro key' j
  simp only [getElem?_concat]
  by_cases own : key' = key
  · subst own
    rw [AList.lookup_insert]
    constructor
    · rintro ⟨⟩
      exact ⟨.holding, .inr ⟨rfl, rfl⟩, rfl⟩
    · rintro ⟨phase, old | ⟨rfl, -⟩, live⟩
      · exact nomatch free.symm.trans ((owned _ _).mpr ⟨phase, old, live⟩)
      · rfl
  · rw [AList.lookup_insert_ne own, owned]
    constructor
    · rintro ⟨phase, old, live⟩
      exact ⟨phase, .inl old, live⟩
    · rintro ⟨phase, old | ⟨-, ⟨⟩⟩, live⟩
      · exact ⟨phase, old, live⟩
      · exact absurd rfl own

end Leads

def Claim.Backed (leads : List Lead) (claim : Claim) : Prop :=
  match claim.phase with
  | .serve response => Reported leads claim.key response
  | .waiting lead => ∃ phase, leads[lead]? = some ⟨claim.key, phase⟩
  | .looking | .lead _ => True

theorem Claim.Backed.grows {leads leads' : List Lead} {claim : Claim}
    (backed : claim.Backed leads) (grows : Grows leads leads') : claim.Backed leads' := by
  obtain ⟨key, phase⟩ := claim
  cases phase with
  | serve response => exact Reported.grows backed grows
  | waiting lead =>
      obtain ⟨phase, there⟩ := backed
      obtain ⟨phase', there', -⟩ := grows lead key phase there
      exact ⟨phase', there'⟩
  | looking => trivial
  | lead lead => trivial

namespace System

/-- The invariant of the system, with the queue that the store is a view of. -/
structure Sound (cache : SignedResponses) (system : System) (kept : List Entry) : Prop where
  holds : system.state.Holds kept
  bounded : Bounded cache kept
  owned : Owned system.state system.leads
  reported : ∀ entry ∈ kept, Reported system.leads entry.key entry.response
  backed : ∀ claim ∈ system.claims, claim.Backed system.leads

variable {cache : SignedResponses} {system : System} {kept : List Entry}

theorem start_sound (cache : SignedResponses) : start.Sound cache [] where
  holds := State.new_holds
  bounded := ⟨Nat.zero_le _, Nat.zero_le _⟩
  owned key i := by simp [start, State.new]
  reported := nofun
  backed := nofun

theorem backed_set {leads : List Lead} {claims : List Claim} {i : Nat} {claim : Claim}
    (backed : ∀ claim ∈ claims, claim.Backed leads) (new : claim.Backed leads) :
    ∀ other ∈ claims.set i claim, other.Backed leads := by
  intro other member
  rcases List.mem_or_eq_of_mem_set member with old | same
  · exact backed other old
  · exact same ▸ new

theorem Sound.look (sound : system.Sound cache kept) (claim : Nat) (key : RequestKey) (now : Nat) :
    ∃ system' kept', system.look cache claim key now = some system' ∧
      system'.Sound cache kept' := by
  obtain ⟨state, kept', evicted, holds, suffix, flights⟩ :=
    State.evictExpired_holds cache.ttl now sound.holds
  have bounded := sound.bounded.suffix suffix
  have owned := sound.owned.sameFlights flights
  have reported : ∀ entry ∈ kept', Reported system.leads entry.key entry.response :=
    fun entry member => sound.reported entry (suffix.subset member)
  rw [System.look, evicted, Option.bind_eq_bind, Option.bind_some]
  cases there : state.slots.lookup key with
  | none =>
      have grows : Grows system.leads (system.leads ++ [⟨key, .holding⟩]) := grows_append _
      exact ⟨_, kept', rfl, holds.insert_inFlight there, bounded, owned.append there,
        fun entry member => (reported entry member).grows grows,
        backed_set (fun claim member => (sound.backed claim member).grows grows) trivial⟩
  | some slot =>
      cases slot with
      | inFlight lead =>
          obtain ⟨phase, leading, -⟩ := (owned key lead).mp there
          exact ⟨_, kept', rfl, holds, bounded, owned, reported,
            backed_set sound.backed ⟨phase, leading⟩⟩
      | done response =>
          obtain ⟨entry, member, rfl, rfl⟩ := (holds.done key response).mp there
          exact ⟨_, kept', rfl, holds, bounded, owned, reported,
            backed_set sound.backed (reported entry member)⟩

theorem Sound.poll (sound : system.Sound cache kept) (claim now : Nat) :
    ∃ system' kept', system.poll cache claim now = some system' ∧
      system'.Sound cache kept' := by
  unfold System.poll
  split
  · rename_i key there
    exact sound.look claim key now
  · rename_i key lead there
    refine ⟨_, kept, rfl, sound.holds, sound.bounded, sound.owned, sound.reported,
      backed_set sound.backed ?_⟩
    obtain ⟨phase, leading⟩ : ∃ phase, system.leads[lead]? = some ⟨key, phase⟩ :=
      sound.backed _ (List.mem_of_getElem? there)
    unfold wake
    split
    · rename_i response completed
      cases leading.symm.trans completed
      exact ⟨lead, _, leading, rfl⟩
    · trivial
    · exact ⟨phase, leading⟩
  · exact ⟨system, kept, rfl, sound⟩

theorem Sound.move {state : State} {kept' : List Entry} {lead : Nat} {key : RequestKey}
    {phase phase' : LeadPhase} (sound : system.Sound cache kept)
    (there : system.leads[lead]? = some ⟨key, phase⟩) (holds : state.Holds kept')
    (bounded : Bounded cache kept')
    (owned : Owned state (system.leads.set lead ⟨key, phase'⟩))
    (keeps : ∀ response, phase.reported = some response → phase'.reported = some response)
    (gains : ∀ entry ∈ kept', entry ∈ kept ∨
      entry.key = key ∧ phase'.reported = some entry.response) :
    Sound cache { system with state, leads := system.leads.set lead ⟨key, phase'⟩ } kept' := by
  have grows := grows_set there keeps
  refine ⟨holds, bounded, owned, fun entry member => ?_,
    fun claim member => (sound.backed claim member).grows grows⟩
  rcases gains entry member with old | ⟨rfl, new⟩
  · exact (sound.reported entry old).grows grows
  · exact ⟨lead, phase', List.getElem?_set_self (List.getElem?_eq_some_iff.mp there).1, new⟩

theorem Sound.give {phase : LeadPhase} (sound : system.Sound cache kept) (lead : Nat)
    (live : phase.live = true) : (system.give lead phase).Sound cache kept := by
  unfold System.give
  split
  · rename_i key there
    exact sound.move there sound.holds sound.bounded (sound.owned.set there live) nofun
      fun entry member => .inl member
  · exact sound

theorem Sound.proceed (sound : system.Sound cache kept) (lead : Nat) :
    ∃ system' kept', system.proceed cache lead = some system' ∧ system'.Sound cache kept' := by
  unfold System.proceed
  dsimp only
  split
  · rename_i key response now there
    have flying := (sound.owned key lead).mpr ⟨_, there, rfl⟩
    obtain ⟨state', kept', stored, holds, bounded, gains, freed⟩ :=
      store_holds response now sound.holds sound.bounded flying
    rw [stored]
    refine ⟨_, kept', rfl, sound.move there holds bounded
      (sound.owned.give_back there rfl rfl freed) nofun fun entry member => ?_⟩
    refine (gains entry member).imp_right ?_
    rintro ⟨own, rfl⟩
    exact ⟨own, rfl⟩
  · rename_i key response there
    exact ⟨_, kept, rfl, sound.move there sound.holds sound.bounded (sound.owned.set there rfl)
      (fun _ => id) fun entry member => .inl member⟩
  · rename_i key there
    have flying := (sound.owned key lead).mpr ⟨_, there, rfl⟩
    obtain ⟨holds, freed⟩ := release_holds sound.holds flying
    exact ⟨_, kept, rfl, sound.move there holds sound.bounded
      (sound.owned.give_back there rfl rfl freed) nofun fun entry member => .inl member⟩
  · rename_i key there
    exact ⟨_, kept, rfl, sound.move there sound.holds sound.bounded (sound.owned.set there rfl)
      (fun _ => id) fun entry member => .inl member⟩
  · exact ⟨system, kept, rfl, sound⟩

theorem Sound.step (sound : system.Sound cache kept) (event : Event) :
    ∃ system' kept', system.step cache event = some system' ∧ system'.Sound cache kept' := by
  cases event with
  | claim key =>
      refine ⟨_, kept, rfl, sound.holds, sound.bounded, sound.owned, sound.reported, ?_⟩
      intro claim member
      rcases List.mem_append.mp member with old | new
      · exact sound.backed claim old
      · cases List.mem_singleton.mp new
        trivial
  | poll claim now => exact sound.poll claim now
  | complete lead response now => exact ⟨_, kept, rfl, sound.give lead rfl⟩
  | drop lead => exact ⟨_, kept, rfl, sound.give lead rfl⟩
  | proceed lead => exact sound.proceed lead

theorem Sound.run (sound : system.Sound cache kept) (schedule : List Event) :
    ∃ system' kept', system.run cache schedule = some system' ∧ system'.Sound cache kept' := by
  induction schedule generalizing system kept with
  | nil => exact ⟨system, kept, rfl, sound⟩
  | cons event schedule ih =>
      obtain ⟨next, kept', stepped, sound'⟩ := sound.step event
      obtain ⟨last, kept'', ran, sound''⟩ := ih sound'
      refine ⟨last, kept'', ?_, sound''⟩
      rw [System.run, List.foldlM_cons, stepped]
      exact ran

end System

/-- The bytes of the reply kept under a key. -/
def State.replySize (state : State) (key : RequestKey) : Nat :=
  match state.slots.lookup key with
  | some (.done response) => response.signedPsbt.length
  | _ => 0

theorem State.Holds.replySizes {state : State} {kept : List Entry} (holds : state.Holds kept) :
    state.order.map (state.replySize ·.1) = kept.map Entry.size := by
  rw [holds.order, List.map_map]
  refine List.map_congr_left fun entry member => ?_
  have there := (holds.done entry.key entry.response).mpr ⟨entry, member, rfl, rfl⟩
  simp only [Function.comp, State.replySize, there]
  rfl

theorem State.Holds.mem_order {state : State} {kept : List Entry} (holds : state.Holds kept)
    (key : RequestKey) :
    key ∈ state.order.map Prod.fst ↔
      ∃ response, state.slots.lookup key = some (.done response) := by
  simp only [holds.order, holds.done, List.map_map, List.mem_map, Function.comp]
  constructor
  · rintro ⟨entry, member, own⟩
    exact ⟨entry.response, entry, member, own, rfl⟩
  · rintro ⟨_, entry, member, own, -⟩
    exact ⟨entry, member, own⟩

/-- Whatever claims, completions and drops do, in any order and at any clock
    readings, no step underflows. Every key has at most one live lead. The
    stored replies are those of the order, without repetition, and they are
    counted and bounded. A claim is served only what a lead of its key was
    completed with. -/
theorem reply_store_consistent (cache : SignedResponses) (schedule : List Event) :
    ∃ system, System.start.run cache schedule = some system ∧
      (∀ (i j : Nat) (lead lead' : Lead), system.leads[i]? = some lead →
        system.leads[j]? = some lead' → lead.phase.live = true → lead'.phase.live = true →
        lead.key = lead'.key → i = j) ∧
      (system.state.order.map Prod.fst).Nodup ∧
      (∀ key, key ∈ system.state.order.map Prod.fst ↔
        ∃ response, system.state.slots.lookup key = some (.done response)) ∧
      system.state.bytes = (system.state.order.map (system.state.replySize ·.1)).sum ∧
      system.state.bytes ≤ cache.maxBytes ∧
      system.state.order.length ≤ max cache.maxEntries 1 ∧
      ∀ claim ∈ system.claims, ∀ response, claim.phase = .serve response →
        ∃ lead ∈ system.leads, lead.key = claim.key ∧ lead.phase.reported = some response := by
  obtain ⟨system, kept, ran, sound⟩ := (System.start_sound cache).run schedule
  have holds := sound.holds
  refine ⟨system, ran, ?_, ?_, holds.mem_order, ?_, ?_, ?_, ?_⟩
  · rintro i j ⟨key, phase⟩ ⟨key', phase'⟩ first second live live' ⟨⟩
    exact sound.owned.unique first second live live'
  · rw [holds.order, List.map_map]
    exact holds.nodup
  · rw [holds.replySizes, holds.bytes]
    rfl
  · rw [holds.bytes]
    exact sound.bounded.bytes
  · rw [holds.length_order]
    exact sound.bounded.count
  · rintro ⟨key, phase⟩ member response ⟨⟩
    obtain ⟨i, phase, there, report⟩ : Reported system.leads key response :=
      sound.backed _ member
    exact ⟨_, List.mem_of_getElem? there, rfl, report⟩

/-- A retry waits for the first exchange. Before its reply is sent to the waiter,
    the reply of another request takes its place in the store. -/
def sampleSchedule : List Event :=
  [.claim (.fill 32 1), .claim (.fill 32 1), .claim (.fill 32 2), .poll 0 10, .poll 1 11,
    .complete 0 ⟨[7, 7], 1⟩ 12, .proceed 0, .poll 2 13, .complete 1 ⟨[8, 8, 8], 1⟩ 14, .proceed 1,
    .proceed 0, .poll 1 15]

theorem reply_store_consistent_evicted :
    (System.start.run ⟨100, 1, 8⟩ sampleSchedule).map (·.claims) =
      some [⟨.fill 32 1, .lead 0⟩, ⟨.fill 32 1, .serve ⟨[7, 7], 1⟩⟩, ⟨.fill 32 2, .lead 1⟩] ∧
    ∃ system, System.start.run ⟨100, 1, 8⟩ sampleSchedule = some system ∧
      system.state.bytes ≤ 8 ∧ system.state.order.length ≤ 1 ∧
      ∃ lead ∈ system.leads, lead.key = .fill 32 1 ∧
        lead.phase.reported = some ⟨[7, 7], 1⟩ := by
  have claims : (System.start.run ⟨100, 1, 8⟩ sampleSchedule).map (·.claims) =
      some [⟨.fill 32 1, .lead 0⟩, ⟨.fill 32 1, .serve ⟨[7, 7], 1⟩⟩, ⟨.fill 32 2, .lead 1⟩] := by
    decide +kernel
  obtain ⟨system, ran, -, -, -, -, bytes, count, served⟩ :=
    reply_store_consistent ⟨100, 1, 8⟩ sampleSchedule
  refine ⟨claims, system, ran, bytes, count, served ⟨.fill 32 1, .serve ⟨[7, 7], 1⟩⟩ ?_ _ rfl⟩
  rw [ran, Option.map_some, Option.some.injEq] at claims
  rw [claims]
  exact List.mem_cons_of_mem _ List.mem_cons_self

end EnclaveSigner.Parent
