import EnclaveSigner.Server.RateLimit

/-! # Header pacing

The parent sends headers at no more than half the rate that the enclave admits.
The enclave counts in windows of its own, on its own clock, so a batch may arrive
in a later window than the one it was sent in.
-/

namespace EnclaveSigner.Parent

open Lib Server SubmitRateLimiter

def MAX_HEADERS : UInt32 := 2016

/-- Half the enclave's limit of 100,000 headers in 60 seconds. -/
def RATE_LIMIT : Nat := 50000

def RATE_WINDOW : Nat := 60 * 1000000000

/-- A batch that counts against the limit, with its time. -/
structure SentBatch where
  recordedAt : Nat
  count : UInt32
  deriving DecidableEq

/-- The clock of the parent, and the batches of the last window, oldest first. -/
structure Pacing where
  clock : Nat
  sent : List SentBatch

namespace Pacing

/-- The headers of the batches. They stay far below the range of the counter. -/
def used (sent : List SentBatch) : Nat := (sent.map fun batch => batch.count.toNat).sum

def record (n : UInt32) (delays : List Nat) (p : Pacing) : Option Pacing :=
  delays.head?.map fun delay => ⟨p.clock + delay, p.sent ++ [⟨p.clock + delay, n⟩]⟩

/-- Wait until a batch of `n` headers fits, and record it. Before each reading of
    the clock some time passes, as `delays` says, beside the time of sleeping.
    Nothing is recorded if the delays end before. -/
def waitForRate (n : UInt32) : List Nat → Pacing → Option Pacing
  | [], _ => none
  | delay :: delays, p =>
      let now := p.clock + delay
      let sent := p.sent.dropWhile fun batch => decide (now - batch.recordedAt ≥ RATE_WINDOW)
      match sent.head? with
      | some oldest =>
          if used sent + n.toNat > RATE_LIMIT then
            waitForRate n delays ⟨now + (RATE_WINDOW - (now - oldest.recordedAt)), sent⟩
          else record n delays ⟨now, sent⟩
      | none => record n delays ⟨now, sent⟩

def headersSent (inside : SentBatch → Bool) (log : List SentBatch) : Nat :=
  total (fun batch => batch.count.toNat) inside log

/-- The queue holds the end of the log of all batches, and what it holds no more
    has left the window. -/
structure Tracks (log : List SentBatch) (p : Pacing) : Prop where
  rest : ∃ old, log = old ++ p.sent ∧ ∀ batch ∈ old, batch.recordedAt + RATE_WINDOW ≤ p.clock
  sorted : log.Pairwise fun earlier later => earlier.recordedAt ≤ later.recordedAt
  past : ∀ batch ∈ log, batch.recordedAt ≤ p.clock

variable {log : List SentBatch} {p p' : Pacing} {n : UInt32} {delays : List Nat}

theorem Tracks.later (tracks : Tracks log p) {now : Nat} (later : p.clock ≤ now) :
    Tracks log ⟨now, p.sent⟩ := by
  obtain ⟨old, split, expired⟩ := tracks.rest
  exact ⟨⟨old, split, fun batch member => (expired batch member).trans later⟩, tracks.sorted,
    fun batch member => (tracks.past batch member).trans later⟩

theorem Tracks.falling (tracks : Tracks log p) (now : Nat) :
    p.sent.Pairwise fun earlier later => decide (now - later.recordedAt ≥ RATE_WINDOW) = true →
      decide (now - earlier.recordedAt ≥ RATE_WINDOW) = true := by
  obtain ⟨old, rfl, -⟩ := tracks.rest
  refine (List.pairwise_append.mp tracks.sorted).2.1.imp fun below expired => ?_
  simp only [decide_eq_true_eq] at expired ⊢
  omega

theorem Tracks.popped (tracks : Tracks log p) {now : Nat} (later : p.clock ≤ now) :
    let sent := p.sent.dropWhile fun batch => decide (now - batch.recordedAt ≥ RATE_WINDOW)
    Tracks log ⟨now, sent⟩ ∧
      used sent = headersSent (fun batch => decide (now < batch.recordedAt + RATE_WINDOW)) log := by
  obtain ⟨old, split, expired⟩ := tracks.rest
  have positive : 0 < RATE_WINDOW := by decide
  have front := filter_append_filter_not (tracks.falling now)
  dsimp only
  rw [dropWhile_eq_filter (tracks.falling now)]
  refine ⟨⟨⟨old ++ p.sent.filter fun batch => decide (now - batch.recordedAt ≥ RATE_WINDOW),
    ?_, ?_⟩, tracks.sorted, fun batch member =>
    (tracks.past batch member).trans later⟩, ?_⟩
  · rw [List.append_assoc, front, split]
  · intro batch member
    rcases List.mem_append.mp member with older | out
    · exact (expired batch older).trans later
    · have left := List.of_mem_filter out
      simp only [decide_eq_true_eq] at left
      change _ ≤ now
      omega
  · rw [split, headersSent, total_append, total_eq_zero, Nat.zero_add, total, used]
    · congr 2
      refine List.filter_congr fun batch _ => ?_
      rw [← decide_not, decide_eq_decide]
      omega
    · intro batch member
      have gone := expired batch member
      rw [decide_eq_false_iff_not]
      omega

theorem Tracks.record (tracks : Tracks log p)
    (fits : headersSent (fun batch => decide (p.clock < batch.recordedAt + RATE_WINDOW)) log
      + n.toNat ≤ RATE_LIMIT)
    (done : record n delays p = some p') :
    Tracks (log ++ [⟨p'.clock, n⟩]) p' ∧
      headersSent (fun batch => decide (p'.clock < batch.recordedAt + RATE_WINDOW)) log + n.toNat
        ≤ RATE_LIMIT := by
  obtain ⟨late, -, rfl⟩ := Option.map_eq_some_iff.mp done
  have later : p.clock ≤ p.clock + late := Nat.le_add_right _ _
  obtain ⟨old, split, expired⟩ := tracks.rest
  refine ⟨⟨⟨old, by rw [split, List.append_assoc], fun batch member =>
    (expired batch member).trans later⟩, ?_, ?_⟩, le_trans ?_ fits⟩
  · refine List.pairwise_append.mpr ⟨tracks.sorted, by simp, ?_⟩
    intro batch member last own
    rw [List.mem_singleton.mp own]
    exact (tracks.past batch member).trans later
  · intro batch member
    rcases List.mem_append.mp member with older | own
    · exact (tracks.past batch older).trans later
    · rw [List.mem_singleton.mp own]
  · refine Nat.add_le_add_right (total_mono fun batch _ held => ?_) _
    simp only [decide_eq_true_eq] at held ⊢
    omega

theorem waitForRate_spec (small : n.toNat ≤ RATE_LIMIT) (tracks : Tracks log p)
    (waited : waitForRate n delays p = some p') :
    Tracks (log ++ [⟨p'.clock, n⟩]) p' ∧
      headersSent (fun batch => decide (p'.clock < batch.recordedAt + RATE_WINDOW)) log + n.toNat
        ≤ RATE_LIMIT := by
  induction delays generalizing p with
  | nil => cases waited
  | cons delay delays ih =>
      obtain ⟨left, usedNow⟩ := tracks.popped (Nat.le_add_right p.clock delay)
      rw [waitForRate] at waited
      split at waited
      · split at waited
        · exact ih (left.later (Nat.le_add_right _ _)) waited
        · rename_i fits
          exact left.record (by rw [← usedNow]; omega) waited
      · rename_i empty
        rw [List.head?_eq_none_iff] at empty
        refine left.record ?_ waited
        rw [← usedNow, empty]
        simpa [used] using small

def waiting (p : Pacing) : Nat :=
  p.sent.countP fun batch => decide (p.clock < batch.recordedAt + RATE_WINDOW)

theorem waitForRate_returns (tracks : Tracks log p) (enough : waiting p + 2 ≤ delays.length) :
    ∃ p', waitForRate n delays p = some p' := by
  induction delays generalizing p with
  | nil => simp at enough
  | cons delay delays ih =>
      rw [List.length_cons] at enough
      obtain ⟨next, more, rfl⟩ : ∃ next more, delays = next :: more :=
        List.exists_cons_of_length_pos (by omega)
      obtain ⟨left, -⟩ := tracks.popped (Nat.le_add_right p.clock delay)
      have fewer : (p.sent.dropWhile fun batch =>
          decide (p.clock + delay - batch.recordedAt ≥ RATE_WINDOW)).length ≤ waiting p := by
        rw [dropWhile_eq_filter (tracks.falling _), ← List.countP_eq_length_filter, waiting]
        refine List.countP_mono_left fun batch _ held => ?_
        simp only [Bool.not_eq_true', decide_eq_false_iff_not, decide_eq_true_eq] at held ⊢
        omega
      rw [waitForRate]
      split
      · rename_i oldest first
        obtain ⟨rest, queue⟩ := List.head?_eq_some_iff.mp first
        rw [queue] at fewer left ⊢
        split
        · refine ih (left.later (Nat.le_add_right _ _)) ?_
          have began : oldest.recordedAt ≤ p.clock + delay := by
            obtain ⟨old, split, -⟩ := left.rest
            exact left.past oldest (by rw [split]; simp)
          have due : waiting ⟨p.clock + delay + (RATE_WINDOW - (p.clock + delay - oldest.recordedAt)),
              oldest :: rest⟩ ≤ rest.length := by
            rw [waiting, List.countP_cons_of_neg (by simp only [decide_eq_true_eq]; omega)]
            exact List.countP_le_length
          rw [List.length_cons] at fewer
          omega
        · exact ⟨_, rfl⟩
      · exact ⟨_, rfl⟩

/-- One batch of a run: its headers, the delays of its wait, and the time from its
    record to the enclave's check. -/
structure Batch where
  count : UInt32
  delays : List Nat
  transit : Nat

/-- A batch of a run, when it was recorded and when the enclave checks it. -/
structure Arrival extends SentBatch where
  checkedAt : Nat
  deriving DecidableEq

/-- Send batches one after another, each when it fits. -/
def sendAll (p : Pacing) : List Batch → Option (List Arrival)
  | [] => some []
  | batch :: rest => do
      let p ← waitForRate batch.count batch.delays p
      let arrivals ← sendAll p rest
      return ⟨⟨p.clock, batch.count⟩, p.clock + batch.transit⟩ :: arrivals

theorem sendAll_cons {batch : Batch} {rest : List Batch} {arrivals : List Arrival}
    (passed : sendAll p (batch :: rest) = some arrivals) :
    ∃ next others, waitForRate batch.count batch.delays p = some next ∧
      sendAll next rest = some others ∧
      arrivals = ⟨⟨next.clock, batch.count⟩, next.clock + batch.transit⟩ :: others := by
  obtain ⟨next, waited, sent⟩ := Option.bind_eq_some_iff.mp passed
  obtain ⟨others, later, built⟩ := Option.bind_eq_some_iff.mp sent
  exact ⟨next, others, waited, later, (Option.some.inj built).symm⟩

theorem waiting_le (tracks : Tracks log p) : waiting p ≤ log.length := by
  obtain ⟨old, rfl, -⟩ := tracks.rest
  exact List.countP_le_length.trans (by simp)

/-- No batch is held back for good. From any queue that tracks its log, every batch passes
    after at most one sleep for each batch before it. -/
theorem every_batch_is_sent {batches : List Batch} (tracks : Tracks log p)
    (small : ∀ batch ∈ batches, batch.count ≤ MAX_HEADERS)
    (enough : ∀ i batch, batches[i]? = some batch → log.length + i + 2 ≤ batch.delays.length) :
    ∃ arrivals, sendAll p batches = some arrivals := by
  induction batches generalizing log p with
  | nil => exact ⟨[], rfl⟩
  | cons batch rest ih =>
      obtain ⟨next, waited⟩ := waitForRate_returns (n := batch.count) tracks
        ((Nat.add_le_add_right (waiting_le tracks) 2).trans (enough 0 batch rfl))
      have fits : batch.count.toNat ≤ RATE_LIMIT :=
        (UInt32.le_iff_toNat_le.mp (small batch List.mem_cons_self)).trans (by decide)
      obtain ⟨arrivals, sent⟩ := ih (waitForRate_spec fits tracks waited).1
        (fun other member => small other (List.mem_cons_of_mem _ member)) fun i other here => by
          have room := enough (i + 1) other here
          rw [List.length_append, List.length_singleton]
          omega
      refine ⟨⟨⟨next.clock, batch.count⟩, next.clock + batch.transit⟩ :: arrivals, ?_⟩
      rw [sendAll, waited, Option.bind_eq_bind, Option.bind_some, sent]
      rfl

/-- The batches of a moment, each with the readings that it may need. -/
def fullBatches : List Batch := (List.range 25).map fun i => ⟨2016, List.replicate (i + 2) 0, 5⟩

/-- The last batch is one too many for the limit. It sleeps until the window of the
    others is over. -/
theorem every_batch_is_sent_after_sleep :
    ∃ arrivals, sendAll ⟨0, []⟩ fullBatches = some arrivals ∧
      arrivals = List.replicate 24 ⟨⟨0, 2016⟩, 5⟩ ++ [⟨⟨RATE_WINDOW, 2016⟩, RATE_WINDOW + 5⟩] := by
  have fresh : Tracks [] ⟨0, []⟩ := ⟨⟨[], rfl, by simp⟩, .nil, by simp⟩
  have passed : sendAll ⟨0, []⟩ fullBatches = some
      (List.replicate 24 ⟨⟨0, 2016⟩, 5⟩ ++ [⟨⟨RATE_WINDOW, 2016⟩, RATE_WINDOW + 5⟩]) := by
    decide +kernel
  have enough : ∀ i batch, fullBatches[i]? = some batch → 0 + i + 2 ≤ batch.delays.length := by
    intro i batch here
    obtain ⟨inside, rfl⟩ := List.getElem?_eq_some_iff.mp here
    simp [fullBatches]
  obtain ⟨arrivals, sent⟩ := every_batch_is_sent fresh (by decide +kernel) enough
  exact ⟨arrivals, sent, Option.some.inj (sent.symm.trans passed)⟩

theorem sendAll_paced {batches : List Batch} {arrivals : List Arrival}
    (small : ∀ batch ∈ batches, batch.count ≤ MAX_HEADERS) (tracks : Tracks log p)
    (paced : Paced SentBatch.recordedAt (fun batch => batch.count.toNat) RATE_WINDOW RATE_LIMIT log)
    (passed : sendAll p batches = some arrivals) :
    Paced SentBatch.recordedAt (fun batch => batch.count.toNat) RATE_WINDOW RATE_LIMIT
      (log ++ arrivals.map Arrival.toSentBatch) := by
  induction batches generalizing log p arrivals with
  | nil =>
      cases passed
      simpa using paced
  | cons batch rest ih =>
      obtain ⟨next, others, waited, later, rfl⟩ := sendAll_cons passed
      have fits : batch.count.toNat ≤ RATE_LIMIT :=
        (UInt32.le_iff_toNat_le.mp (small batch List.mem_cons_self)).trans (by decide)
      obtain ⟨tracks, room⟩ := waitForRate_spec fits tracks waited
      have whole := ih (fun other member => small other (List.mem_cons_of_mem _ member)) tracks
        (paced.concat room) later
      rwa [List.append_assoc] at whole

theorem sendAll_transit {batches : List Batch} {arrivals : List Arrival}
    (soon : ∀ batch ∈ batches, batch.transit ≤ RATE_LIMIT_WINDOW)
    (passed : sendAll p batches = some arrivals) :
    ∀ arrival ∈ arrivals, arrival.recordedAt ≤ arrival.checkedAt ∧
      arrival.checkedAt ≤ arrival.recordedAt + RATE_LIMIT_WINDOW := by
  induction batches generalizing p arrivals with
  | nil =>
      cases passed
      simp
  | cons batch rest ih =>
      obtain ⟨next, others, -, sent, rfl⟩ := sendAll_cons passed
      intro arrival member
      rcases List.mem_cons.mp member with rfl | later
      · exact ⟨Nat.le_add_right _ _, Nat.add_le_add_left (soon batch List.mem_cons_self) _⟩
      · exact ih (fun other member => soon other (List.mem_cons_of_mem _ member)) sent arrival later

/-- How the enclave sees a batch, on its own clock. -/
def Arrival.check (enclaveClock : Nat → Nat) (arrival : Arrival) : SubmitCheck :=
  ⟨arrival.count.toUInt64, enclaveClock arrival.checkedAt⟩

theorem headers_checked_le {arrivals : List Arrival} {enclaveClock : Nat → Nat} {ahead : Nat}
    (clock : ∀ time, enclaveClock time = ahead + time)
    (paced : Paced SentBatch.recordedAt (fun batch => batch.count.toNat) RATE_WINDOW RATE_LIMIT
      (arrivals.map Arrival.toSentBatch))
    (soon : ∀ arrival ∈ arrivals, arrival.recordedAt ≤ arrival.checkedAt ∧
      arrival.checkedAt ≤ arrival.recordedAt + RATE_LIMIT_WINDOW) (start : Nat) :
    headers
      (fun call => decide (start ≤ call.now ∧ call.now < start + RATE_LIMIT_WINDOW))
      (arrivals.map (Arrival.check enclaveClock)) ≤ MAX_HEADERS_PER_RATE_WINDOW.toNat := by
  have budget : RATE_LIMIT + RATE_LIMIT ≤ MAX_HEADERS_PER_RATE_WINDOW.toNat := by decide
  have weight : (fun call : SubmitCheck => call.count.toNat) ∘ Arrival.check enclaveClock
      = (fun batch : SentBatch => batch.count.toNat) ∘ Arrival.toSentBatch :=
    funext fun arrival => UInt32.toNat_toUInt64 arrival.count
  -- on the clock of the enclave
  have shifted : Paced (fun arrival : Arrival => enclaveClock arrival.recordedAt)
      ((fun batch : SentBatch => batch.count.toNat) ∘ Arrival.toSentBatch)
      RATE_LIMIT_WINDOW RATE_LIMIT arrivals := by
    intro before arrival after split
    have fits := paced.of_map before arrival after split
    simp only [clock, Nat.add_assoc, Nat.add_lt_add_iff_left]
    exact fits
  rw [headers, total_map, weight]
  refine (shifted.total_arrived_le (fun arrival member => ?_) start).trans budget
  obtain ⟨sent, arrived⟩ := soon arrival member
  simp only [Arrival.check, clock, Nat.add_assoc, Nat.add_le_add_iff_left]
  exact ⟨sent, arrived⟩

/-- The parent alone submits headers, in batches of at most `MAX_HEADERS` that each
    pass the wait and reach the enclave in order and within a window. Then the
    enclave never refuses one for its rate. Whoever submits headers, the enclave
    admits at most 200,000 in any interval of 60 seconds. -/
theorem header_pacing_never_refused :
    (∀ (start : Nat) (batches : List Batch) (arrivals : List Arrival) (enclaveClock : Nat → Nat),
      (∀ batch ∈ batches, batch.count ≤ MAX_HEADERS ∧ batch.transit ≤ RATE_LIMIT_WINDOW) →
      sendAll ⟨start, []⟩ batches = some arrivals →
      (arrivals.map Arrival.checkedAt).Pairwise (· ≤ ·) →
      (∀ time elapsed, enclaveClock (time + elapsed) = enclaveClock time + elapsed) →
      ∀ before next rest, arrivals = before ++ next :: rest →
        answer (before.map (Arrival.check enclaveClock))
          (next.check enclaveClock) = .ok ()) ∧
    ∀ calls : List SubmitCheck, (calls.map SubmitCheck.now).Pairwise (· ≤ ·) → ∀ start,
      headers
        (fun call => decide (start ≤ call.now ∧ call.now < start + RATE_LIMIT_WINDOW))
        (admitted calls) ≤ 200000 := by
  refine ⟨?_, fun calls inOrder start =>
    (headers_admitted_le (List.pairwise_map.mp inOrder) start).trans (by decide)⟩
  intro start batches arrivals enclaveClock each passed inOrder advances before next rest split
  obtain ⟨ahead, clock⟩ : ∃ ahead, ∀ time, enclaveClock time = ahead + time :=
    ⟨enclaveClock 0, fun time => by rw [← advances 0 time, Nat.zero_add]⟩
  have fresh : Tracks [] ⟨start, []⟩ := ⟨⟨[], rfl, by simp⟩, .nil, by simp⟩
  have paced := sendAll_paced (fun batch member => (each batch member).1) fresh paced_nil passed
  have soon := sendAll_transit (fun batch member => (each batch member).2) passed
  have upTo : arrivals = (before ++ [next]) ++ rest := by rw [split]; simp
  rw [upTo] at paced soon inOrder
  rw [List.nil_append, List.map_append] at paced
  rw [List.map_append, List.pairwise_append, List.pairwise_map] at inOrder
  have checks : InOrder ((before ++ [next]).map (Arrival.check enclaveClock)) := by
    refine List.pairwise_map.mpr (inOrder.1.imp fun below => ?_)
    simp only [Arrival.check, clock]
    omega
  by_contra refused
  rw [List.map_append] at checks
  obtain ⟨window, above⟩ := over_budget_of_refused checks refused
  have within := headers_checked_le clock paced.left
    (fun arrival member => soon arrival (List.mem_append_left _ member)) window
  rw [List.map_append] at within
  exact absurd within (Nat.not_le.mpr above)

def sampleBatches : List Batch := [⟨2016, [0, 0], 5⟩, ⟨100, [1, 0], 7⟩]

def sampleArrivals : List Arrival := [⟨⟨0, 2016⟩, 5⟩, ⟨⟨1, 100⟩, 8⟩]

/-- Two batches, the second a moment after the first, on an enclave clock that is
    ahead; and two full windows of headers, submitted at the end of one window and
    at the start of the next. -/
theorem header_pacing_never_refused_two :
    answer ((sampleArrivals.take 1).map (Arrival.check (1000 + ·)))
      (Arrival.check (1000 + ·) ⟨⟨1, 100⟩, 8⟩) = .ok () ∧
    headers
      (fun call => decide (1 ≤ call.now ∧ call.now < 1 + RATE_LIMIT_WINDOW))
      (admitted [⟨100000, 1⟩, ⟨100000, RATE_LIMIT_WINDOW⟩]) ≤ 200000 := by
  obtain ⟨paced, any⟩ := header_pacing_never_refused
  have passed : sendAll ⟨0, []⟩ sampleBatches = some sampleArrivals := by decide +kernel
  refine ⟨?_, any _ (by decide +kernel) 1⟩
  exact paced 0 sampleBatches sampleArrivals (1000 + ·) (by decide +kernel) passed
    (by decide +kernel) (fun time elapsed => (Nat.add_assoc 1000 time elapsed).symm) _ _ [] rfl

end Pacing

end EnclaveSigner.Parent
