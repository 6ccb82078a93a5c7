import EnclaveSigner.Server.MintGate
import EnclaveSigner.State.ReplayInterleaving

/-! # Interleavings of the mint signer

The history of the gate obeys a law in every schedule of the requests, of the
clock and of what else changes in the enclave.
-/

namespace EnclaveSigner.Server.MintServer

open Lib Task State NonceReplayGuard Proto

variable {ι ω : Type} {server : MintServer ω} {requests : ι → MintRequest}

/-- What must have happened before each event. -/
def Admits (server : MintServer ω) (requests : ι → MintRequest) (past : List (MintEvent ι)) :
    MintEvent ι → Prop
  | .reserved i reservation _ clock =>
      .rolledBack i ∉ past ∧
        ∀ j other reading before, .reserved j other reading before ∈ past →
          other.nonce = reservation.nonce → .rolledBack j ∈ past ∨
            .evicted other.nonce other.generation ∈ past ∨
            reading + server.opReplayGuard.ttl ≤ clock
  | .signing i clock =>
      .rolledBack i ∉ past ∧
        ∃ reservation reading before, .reserved i reservation reading before ∈ past ∧
          reservation.nonce = server.operationKey (requests i) ∧ before ≤ clock
  | .replied i response =>
      ∃ j, .stored j response ∈ past ∧
        server.operationKey (requests j) = server.operationKey (requests i) ∧
        server.requestDigest (requests j) = server.requestDigest (requests i)
  | _ => True

def Over (server : MintServer ω) (s : MintState ι ω) (i : ι) (reservation : ReplayReservation)
    (reading : Nat) : Prop :=
  .rolledBack i ∈ s.history ∨ .evicted reservation.nonce reservation.generation ∈ s.history ∨
    reading + server.opReplayGuard.ttl ≤ s.clock

def Guarded (guard : GuardState) (reservation : ReplayReservation) (reading : Nat) : Prop :=
  (reading, reservation.nonce) ∈ guard.order ∧
    guard.seen.lookup reservation.nonce = some reservation.generation

/-- The invariant of the gate. -/
structure Gate (server : MintServer ω) (requests : ι → MintRequest) (s : MintState ι ω) : Prop where
  sound : server.opReplayGuard.Sound s.guard
  legal : Legal (Admits server requests) s.history
  issued : ∀ i reservation reading clock, .reserved i reservation reading clock ∈ s.history →
    reservation.generation < s.guard.nextGeneration ∧
      reservation.nonce = server.operationKey (requests i) ∧ reading ≤ s.clock ∧ clock ≤ s.clock
  own : ∀ i j reservation reading clock reading' clock',
    .reserved i reservation reading clock ∈ s.history →
    .reserved j reservation reading' clock' ∈ s.history → i = j
  accounted : ∀ i reservation reading clock, .reserved i reservation reading clock ∈ s.history →
    Over server s i reservation reading ∨ Guarded s.guard reservation reading
  kept : ∀ key entry, s.results.map.lookup key = some entry →
    ∃ i, .stored i entry.response ∈ s.history ∧ server.operationKey (requests i) = key ∧
      server.requestDigest (requests i) = entry.request

section Steps

variable {s : MintState ι ω} {i : ι} {event : MintEvent ι} {reservation : ReplayReservation}
  {reading : Nat}

theorem Over.later {s' : MintState ι ω} (above : Over server s i reservation reading)
    (more : s.history ⊆ s'.history) (later : s.clock ≤ s'.clock) :
    Over server s' i reservation reading := by
  rcases above with back | out | due
  · exact .inl (more back)
  · exact .inr (.inl (more out))
  · exact .inr (.inr (due.trans later))

theorem gate_start (world : ω) (clock : Nat) :
    Gate server requests (MintState.start world clock : MintState ι ω) where
  sound := (start_reachable _).sound
  legal := legal_nil
  issued := nofun
  own := nofun
  accounted := nofun
  kept := fun _ _ found => by cases found

theorem Gate.record (gate : Gate server requests s)
    (admitted : Admits server requests s.history event)
    (plain : ∀ i reservation reading clock, event ≠ .reserved i reservation reading clock) :
    Gate server requests (s.record event) := by
  have older : ∀ {i reservation reading clock},
      .reserved i reservation reading clock ∈ (s.record event).history →
      .reserved i reservation reading clock ∈ s.history := by
    intro i reservation reading clock member
    rcases List.mem_cons.mp member with same | there
    · exact absurd same.symm (plain i reservation reading clock)
    · exact there
  refine ⟨gate.sound, gate.legal.cons admitted, ?_, ?_, ?_, ?_⟩
  · intro i reservation reading clock member
    exact gate.issued i reservation reading clock (older member)
  · intro i j reservation reading clock reading' clock' first second
    exact gate.own i j reservation reading clock reading' clock' (older first) (older second)
  · intro i reservation reading clock member
    rcases gate.accounted i reservation reading clock (older member) with above | guarded
    · exact .inl (above.later (List.subset_cons_self _ _) (Nat.le_refl _))
    · exact .inr guarded
  · intro key entry found
    obtain ⟨i, stored, same⟩ := gate.kept key entry found
    exact ⟨i, List.mem_cons_of_mem _ stored, same⟩

theorem Gate.withGuard (gate : Gate server requests s) {guard : GuardState}
    (sound : server.opReplayGuard.Sound guard)
    (next : guard.nextGeneration = s.guard.nextGeneration)
    (keeps : ∀ i reservation reading clock, .reserved i reservation reading clock ∈ s.history →
      Guarded s.guard reservation reading →
      Over server s i reservation reading ∨ Guarded guard reservation reading) :
    Gate server requests { s with guard } where
  sound := sound
  legal := gate.legal
  issued := by rw [next]; exact gate.issued
  own := gate.own
  accounted := by
    intro i reservation reading clock member
    rcases gate.accounted i reservation reading clock member with above | guarded
    · exact .inl above
    · exact keeps i reservation reading clock member guarded
  kept := gate.kept

theorem Gate.outside (gate : Gate server requests s) (call : MintOutside ω) :
    Gate server requests (s.outside call) := by
  cases call with
  | world world => exact ⟨gate.sound, gate.legal, gate.issued, gate.own, gate.accounted, gate.kept⟩
  | wait elapsed =>
      refine ⟨gate.sound, gate.legal, ?_, gate.own, ?_, gate.kept⟩
      · intro i reservation reading clock member
        obtain ⟨below, key, read, recorded⟩ := gate.issued i reservation reading clock member
        exact ⟨below, key, Nat.le_add_right_of_le read, Nat.le_add_right_of_le recorded⟩
      · intro i reservation reading clock member
        rcases gate.accounted i reservation reading clock member with above | guarded
        · exact .inl (above.later (List.Subset.refl _) (Nat.le_add_right _ _))
        · exact .inr guarded

theorem Gate.expire (gate : Gate server requests s) {now clock : Nat} (past : now ≤ s.clock)
    (member : .reserved i reservation reading clock ∈ s.history)
    (guarded : Guarded s.guard reservation reading) :
    Guarded (server.opReplayGuard.evictExpired now s.guard) reservation reading ∨
      reading + server.opReplayGuard.ttl ≤ s.clock := by
  obtain ⟨-, -, read, -⟩ := gate.issued i reservation reading clock member
  rcases evictExpired_keeps gate.sound guarded.1 guarded.2 with stays | due
  · exact .inl stays
  · right
    omega

theorem reserveAt_ok {key : Nonce} {now : Nat}
    (done : (server.reserveAt i key now s).1 = .ok reservation) :
    key ∉ (server.opReplayGuard.evictExpired now s.guard).seen ∧
      s.guard.nextGeneration.toNat + 1 < 2 ^ 64 ∧
      reservation = ⟨key, s.guard.nextGeneration⟩ ∧
      (server.reserveAt i key now s).2 = { s with
        guard := server.opReplayGuard.recorded key now
          (server.opReplayGuard.evictExpired now s.guard)
        history := .reserved i reservation now s.clock ::
          ((server.opReplayGuard.evictedForRoom now s.guard).map
            fun entry => .evicted entry.1 entry.2) ++ s.history } := by
  unfold reserveAt at done ⊢
  split at done
  · rename_i generation guard recorded
    obtain ⟨fresh, fits, rfl, rfl⟩ := checkAndRecordAt_ok.mp recorded
    cases done
    exact ⟨fresh, fits, rfl, rfl⟩
  · cases done
  · cases done

theorem reserveAt_error {key : Nonce} {now : Nat} {error : EnclaveError}
    (failed : (server.reserveAt i key now s).1 = .error error) :
    (server.reserveAt i key now s).2
      = { s with guard := server.opReplayGuard.evictExpired now s.guard } := by
  unfold reserveAt at failed ⊢
  split at failed
  · cases failed
  · rename_i guard refused
    rw [← checkAndRecordAt_error refused]
  · rename_i guard _ refused
    rw [← checkAndRecordAt_error refused]

theorem Gate.evictExpired (gate : Gate server requests s) {now : Nat} (past : now ≤ s.clock) :
    Gate server requests
      { s with guard := server.opReplayGuard.evictExpired now s.guard } := by
  refine gate.withGuard (gate.sound.popWhile _) rfl ?_
  intro i reservation reading clock member guarded
  rcases gate.expire past member guarded with stays | due
  · exact .inr stays
  · exact .inl (.inr (.inr due))

theorem Gate.admits_reserved (gate : Gate server requests s) {key : Nonce} {now : Nat}
    (past : now ≤ s.clock) (first : .rolledBack i ∉ s.history)
    (fresh : key ∉ (server.opReplayGuard.evictExpired now s.guard).seen)
    {reservation : ReplayReservation} (named : reservation.nonce = key)
    (news : List (Nonce × UInt64)) :
    Admits server requests
      ((news.map fun entry => MintEvent.evicted entry.1 entry.2) ++ s.history)
      (.reserved i reservation now s.clock) := by
  have older : ∀ {event : MintEvent ι},
      event ∈ (news.map fun entry => MintEvent.evicted entry.1 entry.2) ++ s.history →
      (∀ key generation, event ≠ .evicted key generation) → event ∈ s.history := by
    intro event member plain
    rcases List.mem_append.mp member with new | there
    · obtain ⟨entry, -, rfl⟩ := List.mem_map.mp new
      exact absurd rfl (plain entry.1 entry.2)
    · exact there
  refine ⟨fun back => first (older back fun _ _ => nofun), ?_⟩
  intro j other reading before member same
  have member := older member fun _ _ => nofun
  rcases gate.accounted j other reading before member with above | guarded
  · rcases above with back | out | due
    · exact .inl (List.mem_append_right _ back)
    · exact .inr (.inl (List.mem_append_right _ out))
    · exact .inr (.inr due)
  · rcases gate.expire past member guarded with ⟨-, found⟩ | due
    · refine absurd (AList.lookup_isSome.mp ?_) fresh
      rw [← named, ← same, found]
      rfl
    · exact .inr (.inr due)

theorem reserved_of_reserveAt {key : Nonce} {now : Nat}
    (done : (server.reserveAt i key now s).1 = .ok reservation) {j : ι}
    {other : ReplayReservation} {clock : Nat}
    (member : .reserved j other reading clock ∈ (server.reserveAt i key now s).2.history) :
    j = i ∧ other = reservation ∧ reading = now ∧ clock = s.clock ∨
      .reserved j other reading clock ∈ s.history := by
  obtain ⟨-, -, -, whole⟩ := reserveAt_ok done
  rw [whole] at member
  rcases List.mem_cons.mp member with same | member
  · cases same
    exact .inl ⟨rfl, rfl, rfl, rfl⟩
  · rcases List.mem_append.mp member with new | there
    · obtain ⟨entry, -, impossible⟩ := List.mem_map.mp new
      cases impossible
    · exact .inr there

theorem history_of_reserveAt {key : Nonce} {now : Nat}
    (done : (server.reserveAt i key now s).1 = .ok reservation) :
    s.history ⊆ (server.reserveAt i key now s).2.history := by
  obtain ⟨-, -, -, whole⟩ := reserveAt_ok done
  rw [whole]
  exact fun _ member => List.mem_cons_of_mem _ (List.mem_append_right _ member)

theorem Gate.accounted_reserveAt (gate : Gate server requests s) {key : Nonce} {now : Nat}
    (past : now ≤ s.clock) (done : (server.reserveAt i key now s).1 = .ok reservation) {j : ι}
    {other : ReplayReservation} {clock : Nat}
    (member : .reserved j other reading clock ∈ s.history) :
    Over server (server.reserveAt i key now s).2 j other reading ∨
      Guarded (server.reserveAt i key now s).2.guard other reading := by
  have more := history_of_reserveAt done
  obtain ⟨fresh, -, -, whole⟩ := reserveAt_ok done
  rw [whole] at more ⊢
  rcases gate.accounted j other reading clock member with above | guarded
  · exact .inl (above.later more (Nat.le_refl _))
  · rcases gate.expire past member guarded with ⟨queued, found⟩ | due
    · rcases recorded_keeps (gate.evictExpired past).sound fresh queued found with
        stays | out
      · exact .inr stays
      · exact .inl (.inr (.inl (List.mem_cons_of_mem _ (List.mem_append_left _
          (List.mem_map.mpr ⟨_, out, rfl⟩)))))
    · exact .inl (.inr (.inr due))

theorem Gate.reserve (gate : Gate server requests s) {now : Nat} (past : now ≤ s.clock)
    (first : .rolledBack i ∉ s.history)
    (done : (server.reserveAt i (server.operationKey (requests i)) now s).1 = .ok reservation) :
    Gate server requests (server.reserveAt i (server.operationKey (requests i)) now s).2 := by
  obtain ⟨fresh, fits, reserved, whole⟩ := reserveAt_ok done
  have above := lt_next fits
  -- The new generation is above all that were handed out.
  have apart : ∀ {j other reading clock}, .reserved j other reading clock ∈ s.history →
      other ≠ reservation := by
    rintro j other reading clock member rfl
    have below := (gate.issued _ _ _ _ member).1
    rw [reserved] at below
    exact UInt64.lt_irrefl _ below
  refine ⟨?_, ?_, ?_, ?_, ?_, ?_⟩
  · rw [whole]
    exact NonceReplayGuard.Sound.recorded (gate.evictExpired past).sound fresh fits
  · rw [whole]
    refine Legal.cons (gate.legal.append fun event new _ => ?_)
      (gate.admits_reserved past first fresh (congrArg ReplayReservation.nonce reserved) _)
    obtain ⟨entry, -, rfl⟩ := List.mem_map.mp new
    exact trivial
  · intro j other reading clock member
    rcases reserved_of_reserveAt done member with ⟨rfl, rfl, rfl, rfl⟩ | there
    · rw [whole, reserved]
      exact ⟨above, rfl, past, Nat.le_refl _⟩
    · obtain ⟨issued, rest⟩ := gate.issued j other reading clock there
      rw [whole]
      exact ⟨UInt64.lt_trans issued above, rest⟩
  · intro j k other reading clock reading' clock' one two
    rcases reserved_of_reserveAt done one with ⟨rfl, rfl, -, -⟩ | there
    · rcases reserved_of_reserveAt done two with ⟨rfl, -, -, -⟩ | there'
      · rfl
      · exact absurd rfl (apart there')
    · rcases reserved_of_reserveAt done two with ⟨rfl, rfl, -, -⟩ | there'
      · exact absurd rfl (apart there)
      · exact gate.own j k other reading clock reading' clock' there there'
  · intro j other reading clock member
    rcases reserved_of_reserveAt done member with ⟨rfl, rfl, rfl, rfl⟩ | there
    · right
      rw [whole, reserved]
      exact ⟨List.mem_append_right _ (List.mem_singleton.mpr rfl), AList.lookup_insert _⟩
    · exact gate.accounted_reserveAt past done there
  · intro key entry found
    have more := history_of_reserveAt done
    rw [whole] at found
    obtain ⟨j, stored, same⟩ := gate.kept key entry found
    exact ⟨j, more stored, same⟩

theorem Gate.rollBack (gate : Gate server requests s) {clock : Nat}
    (reserved : .reserved i reservation reading clock ∈ s.history) :
    Gate server requests (.record (.rolledBack i)
      { s with guard :=
          remove reservation.nonce reservation.generation s.guard }) := by
  have marked : Gate server requests (s.record (.rolledBack i)) :=
    gate.record trivial fun _ _ _ _ => nofun
  refine marked.withGuard gate.sound.remove remove_nextGeneration ?_
  intro j other reading' clock' member guarded
  by_cases same : other = reservation
  · subst same
    rw [marked.own j i other reading' clock' reading clock member
      (List.mem_cons_of_mem _ reserved)]
    exact .inl (.inl List.mem_cons_self)
  · exact .inr (remove_keeps same guarded.1 guarded.2)

theorem Gate.store (gate : Gate server requests s) {response : SignedPsbtResponse} {now : Nat} :
    Gate server requests (.record (.stored i response)
      { s with
        results := server.signedResults.putAt (server.operationKey (requests i))
          (server.requestDigest (requests i)) response now s.results }) := by
  have marked : Gate server requests (s.record (.stored i response)) :=
    gate.record trivial fun _ _ _ _ => nofun
  refine ⟨marked.sound, marked.legal, marked.issued, marked.own, marked.accounted, ?_⟩
  intro key entry found
  rcases SignedResultCache.lookup_putAt found with ⟨rfl, rfl⟩ | older
  · exact ⟨i, List.mem_cons_self, rfl, rfl⟩
  · exact marked.kept key entry older

end Steps

section Tasks

/-! What a request may do, and what it knows between its steps. -/

/-- A request adds to the history, and rolls back no reservation of another. -/
def May (i : ι) (s s' : MintState ι ω) : Prop :=
  s'.clock = s.clock ∧
    ∃ news, s'.history = news ++ s.history ∧ ∀ j, .rolledBack j ∈ news → j = i

abbrev Expects (i : ι) : MintState ι ω → MintState ι ω → Prop :=
  Pool.Rely May MintState.outside i

def Unrolled (i : ι) (s : MintState ι ω) : Prop := .rolledBack i ∉ s.history

def Holding (i : ι) (reservation : ReplayReservation) (s : MintState ι ω) : Prop :=
  (∃ reading clock, .reserved i reservation reading clock ∈ s.history) ∧ Unrolled i s

/-- The reply was kept for a request with the same key and digest. -/
def StoredFor (server : MintServer ω) (requests : ι → MintRequest) (i : ι)
    (response : SignedPsbtResponse) (s : MintState ι ω) : Prop :=
  ∃ j, .stored j response ∈ s.history ∧
    server.operationKey (requests j) = server.operationKey (requests i) ∧
    server.requestDigest (requests j) = server.requestDigest (requests i)

variable {i : ι} {s s' : MintState ι ω}

theorem May.refl (s : MintState ι ω) : May i s s := ⟨rfl, [], rfl, nofun⟩

theorem May.record {event : MintEvent ι} (kept : s'.clock = s.clock ∧ s'.history = s.history)
    (own : ∀ j, event = .rolledBack j → j = i) : May i s (s'.record event) := by
  refine ⟨kept.1, [event], congrArg _ kept.2, fun j member => ?_⟩
  exact own j (List.mem_singleton.mp member).symm

theorem expects_later (step : Expects i s s') : s.clock ≤ s'.clock ∧ s.history ⊆ s'.history := by
  rcases step with ⟨j, -, clock, news, history, -⟩ | ⟨call, rfl⟩
  · rw [clock, history]
    exact ⟨Nat.le_refl _, List.subset_append_right _ _⟩
  · cases call with
    | wait elapsed => exact ⟨Nat.le_add_right _ _, List.Subset.refl _⟩
    | world world => exact ⟨Nat.le_refl _, List.Subset.refl _⟩

theorem unrolled_stable : Stable (Gate server requests) (Expects i) (Unrolled i) := by
  intro s s' _ step unrolled back
  rcases step with ⟨j, other, -, news, history, own⟩ | ⟨call, rfl⟩
  · rw [history] at back
    rcases List.mem_append.mp back with new | old
    · exact other (own i new).symm
    · exact unrolled old
  · cases call with
    | wait elapsed => exact unrolled back
    | world world => exact unrolled back

theorem holding_stable {reservation : ReplayReservation} :
    Stable (Gate server requests) (Expects i) (Holding i reservation) := by
  intro s s' gate step holding
  obtain ⟨⟨reading, clock, reserved⟩, unrolled⟩ := holding
  exact ⟨⟨reading, clock, (expects_later step).2 reserved⟩,
    unrolled_stable s s' gate step unrolled⟩

theorem storedFor_stable {response : SignedPsbtResponse} :
    Stable (Gate server requests) (Expects i) (StoredFor server requests i response) := by
  intro s s' _ step stored
  obtain ⟨j, member, same⟩ := stored
  exact ⟨j, (expects_later step).2 member, same⟩

theorem reading_stable {now : Nat} :
    Stable (Gate server requests) (Expects i) fun s : MintState ι ω => now ≤ s.clock :=
  fun _ _ _ step read => read.trans (expects_later step).1

/-- The rules of the gate for a task of request `i`. -/
abbrev Meets (server : MintServer ω) (requests : ι → MintRequest) (i : ι) {α : Type}
    (post : α → (MintState ι ω → Prop) → Prop) (task : MintTask ι ω α)
    (holds : MintState ι ω → Prop) : Prop :=
  task.Meets (Gate server requests) (May i) (Expects i) post holds

variable {α : Type} {post : α → (MintState ι ω → Prop) → Prop} {holds : MintState ι ω → Prop}
  {reservation : ReplayReservation}

theorem meets_readClock_bind {f : Nat → MintTask ι ω α}
    (stable : Stable (Gate server requests) (Expects i) holds)
    (rest : ∀ now, Meets server requests i post (f now) fun s => holds s ∧ now ≤ s.clock) :
    Meets server requests i post (readClock >>= f) holds := by
  refine meets_read_bind May.refl fun s now _ there read => ?_
  cases read
  exact ⟨_, stable.and reading_stable, ⟨there, Nat.le_refl _⟩, rest s.clock⟩

theorem meets_ensureTimeLeft_bind {deadline : Nat} {stage : String} {f : Unit → MintTask ι ω α}
    (stable : Stable (Gate server requests) (Expects i) holds)
    (rest : Meets server requests i post (f ()) holds) :
    Meets server requests i post (ensureTimeLeft deadline stage >>= f) holds := by
  refine meets_bind.mpr (meets_check_bind May.refl stable fun _ => ?_)
  exact meets_ofExcept.mpr fun _ _ => rest

theorem meets_validateMint_bind {req : MintRequest} {deadline : Nat} {f : Unit → MintTask ι ω α}
    (stable : Stable (Gate server requests) (Expects i) holds)
    (rest : Meets server requests i post (f ()) holds) :
    Meets server requests i post (server.validateMint req deadline >>= f) holds := by
  refine meets_bind.mpr (meets_check_bind May.refl stable fun authorized => ?_)
  refine meets_ensureTimeLeft_bind stable ?_
  refine meets_check_bind May.refl stable fun source => ?_
  refine meets_check_bind May.refl stable fun destination => ?_
  refine meets_lift_bind.mpr fun _ _ => ?_
  refine meets_lift_bind.mpr fun _ _ => ?_
  refine meets_check_bind May.refl stable fun _ => ?_
  exact meets_ofExcept.mpr fun _ _ => rest

theorem meets_reserveOperation_bind {f : ReplayReservation → MintTask ι ω α}
    (stable : Stable (Gate server requests) (Expects i) holds)
    (unrolled : ∀ s, holds s → Unrolled i s)
    (rest : ∀ reservation, Meets server requests i post (f reservation) (Holding i reservation)) :
    Meets server requests i post (server.reserveOperation i (requests i) >>= f) holds := by
  refine meets_bind.mpr (meets_readClock_bind stable fun now => ?_)
  refine meets_atomically.mpr fun s gate ⟨there, past⟩ => ?_
  have first := unrolled s there
  cases done : (server.reserveAt i (server.operationKey (requests i)) now s).1 with
  | error error =>
      rw [reserveAt_error done]
      exact ⟨gate.evictExpired past, ⟨rfl, [], rfl, nofun⟩, _, stable_true, trivial, nofun⟩
  | ok reservation =>
      have gate' := gate.reserve past first done
      obtain ⟨-, -, -, whole⟩ := reserveAt_ok done
      have news : ∀ j, .rolledBack j ∉ MintEvent.reserved i reservation now s.clock ::
          (server.opReplayGuard.evictedForRoom now s.guard).map
            (fun entry => MintEvent.evicted entry.1 entry.2) := by
        intro j member
        rcases List.mem_cons.mp member with impossible | out
        · cases impossible
        · obtain ⟨entry, -, impossible⟩ := List.mem_map.mp out
          cases impossible
      rw [whole] at gate' ⊢
      refine ⟨gate', ⟨rfl, _, rfl, fun j member => absurd member (news j)⟩, Holding i reservation,
        holding_stable, ⟨⟨now, s.clock, List.mem_cons_self⟩, fun back => ?_⟩, ?_⟩
      · rcases List.mem_append.mp back with new | old
        · exact news i new
        · exact first old
      · rintro _ ⟨⟩
        exact rest reservation

theorem meets_record_bind {event : MintEvent ι} {f : Unit → MintTask ι ω α}
    (stable : Stable (Gate server requests) (Expects i) holds)
    (admitted : ∀ s, Gate server requests s → holds s → Admits server requests s.history event)
    (plain : ∀ i reservation reading clock, event ≠ .reserved i reservation reading clock)
    (forward : ∀ j, event ≠ .rolledBack j) (keeps : ∀ s, holds s → holds (s.record event))
    (rest : Meets server requests i post (f ()) holds) :
    Meets server requests i post (update (.record event) >>= f) holds := by
  refine meets_update_bind.mpr fun s gate there => ?_
  refine ⟨gate.record (admitted s gate there) plain, ?_, holds, stable, keeps s there, rest⟩
  exact May.record ⟨rfl, rfl⟩ fun j back => absurd back (forward j)

theorem meets_rollBack_bind {f : Unit → MintTask ι ω α}
    (holding : ∀ s, holds s → Holding i reservation s)
    (rest : Meets server requests i post (f ()) fun _ => True) :
    Meets server requests i post (rollBack i reservation >>= f) holds := by
  refine meets_update_bind.mpr fun s gate there => ?_
  obtain ⟨⟨reading, clock, reserved⟩, -⟩ := holding s there
  refine ⟨gate.rollBack reserved, ?_, _, stable_true, trivial, rest⟩
  refine May.record ⟨rfl, rfl⟩ fun j back => ?_
  cases back
  rfl

theorem Holding.record {s : MintState ι ω} (holding : Holding i reservation s)
    {event : MintEvent ι} (forward : ∀ j, event ≠ .rolledBack j) :
    Holding i reservation (s.record event) := by
  obtain ⟨⟨reading, clock, reserved⟩, unrolled⟩ := holding
  refine ⟨⟨reading, clock, List.mem_cons_of_mem _ reserved⟩, fun back => ?_⟩
  rcases List.mem_cons.mp back with new | old
  · exact forward i new.symm
  · exact unrolled old

theorem meets_storeResult_bind {response : SignedPsbtResponse} {f : Unit → MintTask ι ω α}
    (rest : Meets server requests i post (f ()) fun s =>
      Holding i reservation s ∧ StoredFor server requests i response s) :
    Meets server requests i post (server.storeResult i (requests i) response >>= f)
      (Holding i reservation) := by
  refine meets_bind.mpr (meets_readClock_bind holding_stable fun now => ?_)
  intro s gate ⟨holding, _⟩
  have marked : Holding i reservation (s.record (.stored i response)) :=
    holding.record fun _ => nofun
  exact ⟨gate.store, May.record ⟨rfl, rfl⟩ fun _ => nofun, _,
    holding_stable.and storedFor_stable,
    ⟨⟨marked.1, marked.2⟩, i, List.mem_cons_self, rfl, rfl⟩, rest⟩

theorem meets_signReserved_bind {f : SignedPsbtResponse → MintTask ι ω α}
    (rest : ∀ response, Meets server requests i post (f response) fun s =>
      Holding i reservation s ∧ StoredFor server requests i response s) :
    Meets server requests i post (server.signReserved i (requests i) reservation >>= f)
      (Holding i reservation) := by
  refine meets_bind.mpr (meets_bind.mpr (meets_atomically.mpr ?_))
  intro s gate holding
  obtain ⟨⟨reading, clock, reserved⟩, unrolled⟩ := holding
  obtain ⟨-, named, -, recorded⟩ := gate.issued i reservation reading clock reserved
  have admitted : Admits server requests s.history (.signing i s.clock) :=
    ⟨unrolled, reservation, reading, clock, reserved, named, recorded⟩
  refine ⟨gate.record admitted fun _ _ _ _ => nofun, May.record ⟨rfl, rfl⟩ fun _ => nofun,
    Holding i reservation, holding_stable,
    Holding.record ⟨⟨reading, clock, reserved⟩, unrolled⟩ fun _ => nofun, ?_⟩
  intro signed _
  cases signed with
  | ok response => exact meets_storeResult_bind (rest response)
  | error error => exact meets_rollBack_bind (fun _ there => there) trivial

theorem meets_handleSign_bind {deadline : Nat}
    {f : SignedPsbtResponse × Option ReplayReservation → MintTask ι ω α}
    (served : ∀ response, Meets server requests i post (f (response, none))
      (StoredFor server requests i response))
    (signed : ∀ response reservation, Meets server requests i post (f (response, some reservation))
      fun s => Holding i reservation s ∧ StoredFor server requests i response s) :
    Meets server requests i post (server.handleSign i (requests i) deadline >>= f)
      (Unrolled i) := by
  refine meets_bind.mpr (meets_check_bind May.refl unrolled_stable fun _ => ?_)
  refine meets_readClock_bind unrolled_stable fun now => ?_
  refine meets_read_bind May.refl fun s cached gate there read => ?_
  cases read
  cases found : server.signedResults.getAt (server.operationKey (requests i))
    (server.requestDigest (requests i)) now s.results with
  | some response =>
      obtain ⟨entry, kept, digest, same⟩ := SignedResultCache.getAt_some found
      obtain ⟨j, stored, key, request⟩ := gate.kept _ entry kept
      rw [same] at stored
      refine ⟨_, storedFor_stable, ⟨j, stored, key, request.trans digest⟩, ?_⟩
      refine meets_record_bind storedFor_stable (fun _ _ there => there) (fun _ _ _ _ => nofun)
        (fun _ => nofun) ?_ (served response)
      rintro s ⟨j, stored, same⟩
      exact ⟨j, List.mem_cons_of_mem _ stored, same⟩
  | none =>
      refine ⟨_, unrolled_stable, there.1, ?_⟩
      refine meets_check_bind May.refl unrolled_stable fun _ => ?_
      refine meets_validateMint_bind unrolled_stable ?_
      refine meets_reserveOperation_bind unrolled_stable (fun _ there => there)
        fun reservation => ?_
      refine meets_signReserved_bind fun response => ?_
      refine meets_record_bind (holding_stable.and storedFor_stable)
        (fun _ _ there => there.2) (fun _ _ _ _ => nofun) (fun _ => nofun) ?_
        (signed response reservation)
      rintro s ⟨holding, j, stored, same⟩
      exact ⟨holding.record fun _ => nofun, j, List.mem_cons_of_mem _ stored, same⟩

theorem processConnection_meets (deadline : Nat) :
    Meets server requests i (fun _ _ => True)
      (server.processConnection i (requests i) deadline) (Unrolled i) := by
  refine meets_handleSign_bind (fun response => ?_) fun response reservation => ?_
  · refine meets_check_bind May.refl storedFor_stable fun written => ?_
    cases written with
    | ok _ => exact trivial
    | error error => exact trivial
  · refine meets_check_bind May.refl (holding_stable.and storedFor_stable) fun written => ?_
    cases written with
    | ok _ => exact trivial
    | error error => exact meets_rollBack_bind (fun _ there => there.1) trivial

end Tasks

/-- `event` happens while the reservation of `a` is not rolled back. It was made
    under the clock reading `reading`, when the clock was at `start`. `before`
    is what had happened when it was made, `past` what had happened when `event`
    happens. -/
structure Within (history before past : List (MintEvent ι)) (a : ι) (reading start : Nat)
    (event : MintEvent ι) : Prop where
  happens : ∃ later, history = later ++ event :: past
  reserved : ∃ between reservation,
    past = between ++ .reserved a reservation reading start :: before ∧ .rolledBack a ∉ between

/-- A request that reaches the signer while another one of the same key holds its
    reservation is a late one: it had its own reservation for the whole time
    limit before. -/
theorem Gate.signing_within {s : MintState ι ω} (gate : Gate server requests s) {a b : ι}
    {before past : List (MintEvent ι)} {reading start now : Nat}
    (within : Within s.history before past a reading start (.signing b now)) (other : b ≠ a)
    (shared : server.operationKey (requests b) = server.operationKey (requests a))
    (uncapped : ∀ generation, .evicted (server.operationKey (requests a)) generation ∉ s.history)
    (inTime : now < reading + server.opReplayGuard.ttl) :
    ∃ reservation reading' start', .reserved b reservation reading' start' ∈ before ∧
      reading' + server.opReplayGuard.ttl ≤ start := by
  obtain ⟨⟨later, whole⟩, between, reservation, rfl, held⟩ := within
  obtain ⟨unrolled, mine, reading', start', reserved, key', order⟩ := gate.legal _ _ _ whole
  obtain ⟨fresh, first⟩ := gate.legal (later ++ .signing b now :: between)
    (.reserved a reservation reading start) before
    (by rw [whole, List.append_assoc, List.cons_append])
  have kept : ∀ {event}, event ∈ between ++ .reserved a reservation reading start :: before →
      event ∈ s.history := by
    intro event member
    rw [whole]
    exact List.mem_append_right _ (List.mem_cons_of_mem _ member)
  have key : reservation.nonce = server.operationKey (requests a) :=
    (gate.issued a reservation reading start
      (kept (List.mem_append_right _ List.mem_cons_self))).2.1
  rcases List.mem_append.mp reserved with after | reserved
  · -- The reservation of `b` came second, so that of `a` was over by then.
    obtain ⟨newer, older, rfl⟩ := List.append_of_mem after
    obtain ⟨-, second⟩ := gate.legal (later ++ .signing b now :: newer)
      (.reserved b mine reading' start')
      (older ++ .reserved a reservation reading start :: before)
      (by rw [whole]; simp only [List.append_assoc, List.cons_append])
    rcases second a reservation reading start (List.mem_append_right _ List.mem_cons_self)
      (key.trans (shared.symm.trans key'.symm)) with back | out | due
    · rcases List.mem_append.mp back with between | back
      · exact absurd (List.mem_append_right _ (List.mem_cons_of_mem _ between)) held
      · rcases List.mem_cons.mp back with impossible | back
        · cases impossible
        · exact absurd back fresh
    · rw [key] at out
      refine absurd (kept ?_) (uncapped reservation.generation)
      rw [List.append_assoc, List.cons_append]
      exact List.mem_append_right _ (List.mem_cons_of_mem _ out)
    · omega
  · rcases List.mem_cons.mp reserved with same | earlier
    · cases same
      exact absurd rfl other
    · -- The reservation of `b` came first, so it was over when `a` made its own.
      refine ⟨mine, reading', start', earlier, ?_⟩
      rcases first b mine reading' start' earlier
        (key'.trans (shared.trans key.symm)) with back | out | due
      · exact absurd (List.mem_append_right _ (List.mem_cons_of_mem _ back)) unrolled
      · rw [key', shared] at out
        exact absurd (kept (List.mem_append_right _ (List.mem_cons_of_mem _ out)))
          (uncapped mine.generation)
      · exact due

section Runs

variable [DecidableEq ι]

theorem mintRun_gate (server : MintServer ω) (requests : ι → MintRequest) (deadlines : ι → Nat)
    (world : ω) (clock : Nat) (turns : List (ι ⊕ MintOutside ω)) :
    Gate server requests (server.mintRun requests deadlines world clock turns).shared := by
  have started : Pool.Kept (Gate server requests) May MintState.outside (fun _ _ _ => True)
      ⟨.start world clock, fun i => server.processConnection i (requests i) (deadlines i)⟩ := by
    refine ⟨gate_start world clock, fun i => ?_⟩
    exact ⟨Unrolled i, unrolled_stable, List.not_mem_nil, processConnection_meets (deadlines i)⟩
  exact (started.run (fun _ call gate => gate.outside call) turns).here

/-- While a request holds its reservation, and up to the time limit, no other
    request with its operation key reaches the PSBT signer, except one that had
    made its own reservation for the whole time limit before. Every reply is one
    that was stored for the byte-identical request. -/
theorem mint_replay_gate (server : MintServer ω) (requests : ι → MintRequest)
    (deadlines : ι → Nat) (world : ω) (clock : Nat) (turns : List (ι ⊕ MintOutside ω))
    (collisionFree : Set.InjOn server.sha256 (Set.range fun i => server.encode (requests i)))
    (a : ι) :
    let history := (server.mintRun requests deadlines world clock turns).shared.history
    (∀ generation, .evicted (server.operationKey (requests a)) generation ∉ history) →
    ∀ before past reading start event, Within history before past a reading start event →
      ∀ b, b ≠ a → server.operationKey (requests b) = server.operationKey (requests a) →
        (∀ now, event = .signing b now → now < reading + server.opReplayGuard.ttl →
          ∃ reservation reading' start', .reserved b reservation reading' start' ∈ before ∧
            reading' + server.opReplayGuard.ttl ≤ start) ∧
        ∀ response, event = .replied b response → ∃ c, .stored c response ∈ past ∧
          server.encode (requests c) = server.encode (requests b) := by
  intro history uncapped before past reading start event within b other shared
  have gate := mintRun_gate server requests deadlines world clock turns
  constructor
  · rintro now rfl inTime
    exact gate.signing_within within other shared uncapped inTime
  · rintro response rfl
    obtain ⟨later, whole⟩ := within.happens
    obtain ⟨c, stored, -, digest⟩ := gate.legal _ _ _ whole
    exact ⟨c, stored, collisionFree ⟨c, rfl⟩ ⟨b, rfl⟩ digest⟩

end Runs

section Samples

/-! Two requests for one deposit, and the same reply for a retry. -/

def sampleMintRequest (psbt : UInt8) : MintRequest where
  amount := 1000
  source := ⟨List.replicate 32 1, false, false, [], [], 0, List.replicate 32 2⟩
  destination := ⟨0, [0x70, 0x73, 0x62, 0x74, 0xff, psbt], 0, "rgb:test", [], [], [], []⟩

def sampleMintBytes (psbt : UInt8) : Bytes :=
  [0x08, 0xe8, 0x07, 0x12, 0x44, 0x0a, 0x20] ++ List.replicate 32 1 ++ [0x3a, 0x20] ++
    List.replicate 32 2 ++ [0x2a, 0x12, 0x12, 0x06, 0x70, 0x73, 0x62, 0x74, 0xff, psbt, 0x22, 0x08] ++
    utf8 "rgb:test"

def sampleOperationKey : Word 32 :=
  .ofNatBe 32 0xd4a35de1c78a0c47a2047bb5073e53667d11f41dc7ce4d32204fd194ee83a1ce

def sampleMintServer : MintServer Unit where
  cfg := {
    chainId := 1, bridgeContract := .fill 20 0xe0, rgbAssetId := "rgb:test",
    fundsInContract := .fill 20 0xb1, evmFinalityTag := .finalized,
    tokenContract := .fill 20 0x70, btcRelayMode := .none, maxConsignmentBytes := 1000,
    maxMerkleProofs := 10, maxTotalProofBytes := 1000, spvMinConfirmations := 2 }
  keccak := tableHash [(utf8 "utexo:psbt-op:v1" ++ natBe 8 1 ++ List.replicate 20 0xe0 ++
    natBe 8 32 ++ List.replicate 32 1 ++ natBe 8 32 ++ List.replicate 32 2 ++ natBe 8 8 ++
    utf8 "rgb:test", sampleOperationKey)]
  sha256 := tableHash [
    (sampleMintBytes 1,
      .ofNatBe 32 0x46263b6aed6e0b7c0e77d2eb893eecccd304284644a44468d56dd7a35978ef0b),
    (sampleMintBytes 2,
      .ofNatBe 32 0x2884c2ea9c3125320a4de2325b70574919138d7c6b2048fed55fe3bf3a4534cd)]
  encode req := if req = sampleMintRequest 1 then sampleMintBytes 1 else sampleMintBytes 2
  opReplayGuard := ⟨100000, 3600⟩
  signedResults := ⟨1024, 86400⟩
  Authorized := Unit
  Source := Unit
  Destination := Unit
  withKeys _ := .ok ()
  verifyFundsInDeposit _ _ := .ok none
  validateSource _ _ := .ok ()
  validateDestination _ _ _ _ := .ok ()
  validateRouteProofs _ _ := .ok ()
  bindFundsInRecipient _ _ := .ok ()
  signPsbtScoped psbt _ := .ok (psbt ++ [0x40], 1)
  writeMessage _ _ := .ok ()

def sampleReply (psbt : UInt8) : SignedPsbtResponse :=
  ⟨[0x70, 0x73, 0x62, 0x74, 0xff, psbt, 0x40], 1⟩

def sampleMintRun (psbt : UInt8) (turns : List (Bool ⊕ MintOutside Unit)) :
    Pool Bool (MintState Bool Unit) EnclaveError SignedPsbtResponse :=
  sampleMintServer.mintRun (fun late => sampleMintRequest (if late then psbt else 1))
    (fun late => if late then 30 else 3630) () 0 turns

/-- The late request stops for an hour between its reservation and the signer.
    The other one makes a reservation in the meantime, and the late request
    then signs. -/
def lateTurns : List (Bool ⊕ MintOutside Unit) :=
  List.replicate 11 (.inl true) ++ .inr (.wait 3600) :: List.replicate 11 (.inl false) ++
    [.inl true]

theorem lateTurns_history :
    (sampleMintRun 2 lateTurns).shared.history =
      [.signing true 3600,
        .reserved false ⟨⟨sampleOperationKey⟩, 1⟩ 3600 3600,
        .reserved true ⟨⟨sampleOperationKey⟩, 0⟩ 0 0] := by
  decide +kernel

/-- The late request reaches the signer while the other holds its reservation,
    for the same key and within the time limit. -/
theorem mint_replay_gate_late :
    let requests : Bool → MintRequest := fun late => sampleMintRequest (if late then 2 else 1)
    let history := (sampleMintRun 2 lateTurns).shared.history
    (∀ generation,
      .evicted (sampleMintServer.operationKey (requests false)) generation ∉ history) ∧
    sampleMintServer.operationKey (requests true)
      = sampleMintServer.operationKey (requests false) ∧
    ∃ before past, Within history before past false 3600 3600 (.signing true 3600) ∧
      3600 < 3600 + sampleMintServer.opReplayGuard.ttl := by
  refine ⟨?_, by decide +kernel, [.reserved true ⟨⟨sampleOperationKey⟩, 0⟩ 0 0],
    [.reserved false ⟨⟨sampleOperationKey⟩, 1⟩ 3600 3600,
      .reserved true ⟨⟨sampleOperationKey⟩, 0⟩ 0 0], ⟨⟨[], ?_⟩, ?_⟩, by decide⟩
  · rw [lateTurns_history]
    intro generation member
    simp at member
  · exact lateTurns_history
  · exact ⟨[], ⟨⟨sampleOperationKey⟩, 1⟩, rfl, List.not_mem_nil⟩

def retryTurns : List (Bool ⊕ MintOutside Unit) :=
  List.replicate 16 (.inl false) ++ List.replicate 5 (.inl true)

theorem retryTurns_history :
    (sampleMintRun 1 retryTurns).shared.history =
      [.replied true (sampleReply 1), .replied false (sampleReply 1),
        .stored false (sampleReply 1), .signing false 0,
        .reserved false ⟨⟨sampleOperationKey⟩, 0⟩ 0 0] := by
  decide +kernel

theorem mint_replay_gate_retry :
    ∃ c, MintEvent.stored c (sampleReply 1) ∈ [.replied false (sampleReply 1),
        .stored false (sampleReply 1), .signing false 0,
        .reserved false ⟨⟨sampleOperationKey⟩, 0⟩ 0 0] ∧
      sampleMintServer.encode (sampleMintRequest (if c then 1 else 1))
        = sampleMintServer.encode (sampleMintRequest 1) := by
  have gate := mint_replay_gate sampleMintServer
    (fun late => sampleMintRequest (if late then 1 else 1)) (fun late => if late then 30 else 3630)
    () 0 retryTurns
    (by
      rintro _ ⟨first, rfl⟩ _ ⟨second, rfl⟩ _
      cases first <;> cases second <;> rfl)
    false
  refine (gate ?_ [] _ 0 0 (.replied true (sampleReply 1)) ⟨⟨[], retryTurns_history⟩, ?_⟩ true
    (by decide) rfl).2 _ rfl
  · intro generation member
    rw [show (sampleMintServer.mintRun _ _ _ _ _).shared.history = _ from retryTurns_history]
      at member
    simp at member
  · exact ⟨[.replied false (sampleReply 1), .stored false (sampleReply 1), .signing false 0],
      ⟨⟨sampleOperationKey⟩, 0⟩, rfl, by decide⟩

end Samples

end EnclaveSigner.Server.MintServer
