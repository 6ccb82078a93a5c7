import Mathlib.Data.List.AList
import EnclaveSigner.Proto

/-! # Signed replies kept by the parent

The parent keeps the reply of every bridge sign for a retry of the same request,
up to a count, a number of bytes and an age. A request whose exchange is running
is in flight: its lead performs the exchange, and another claim on the same
request waits for what the lead reports.

A lock guards the kept replies. The calls of any number of tasks interleave
between their locked sections, so a call is a sequence of steps: the two phases
of a claim that waits, and the phases of a lead on its way out. Instants and
durations are numbers of clock ticks.
-/

namespace EnclaveSigner.Parent

open Lib Proto

abbrev RequestKey := Word 32

/-- What the store holds under a key. -/
inductive Slot where
  /-- An exchange is running. The lead with this number reports on its channel. -/
  | inFlight (lead : Nat)
  | done (response : SignedPsbtResponse)
  deriving DecidableEq

structure State where
  slots : AList fun _ : RequestKey => Slot
  /-- Finished entries, oldest first. -/
  order : List (RequestKey × Nat)
  /-- All replies are in memory at once, so their sizes add up to a `usize`. -/
  bytes : Nat

/-- The limits of the store. Its mutable part is a `State`. -/
structure SignedResponses where
  ttl : Nat
  maxEntries : Nat
  maxBytes : Nat

namespace State

def new : State := ⟨∅, [], 0⟩

/-- Whether there was an entry to evict, and the state after it. The subtraction
    has no result when it underflows. -/
def evictOldest (state : State) : Option (Bool × State) :=
  match state.order with
  | [] => some (false, state)
  | (old, _) :: order =>
      let slots := state.slots.erase old
      match state.slots.lookup old with
      | some (.done response) =>
          if response.signedPsbt.length ≤ state.bytes then
            some (true, ⟨slots, order, state.bytes - response.signedPsbt.length⟩)
          else none
      | _ => some (true, ⟨slots, order, state.bytes⟩)

def evictWhile (more : State → Bool) : Nat → State → Option State
  | 0, _ => none
  | fuel + 1, state =>
      if more state then do
        let (evicted, state) ← state.evictOldest
        if evicted then evictWhile more fuel state else some state
      else some state

def expired (ttl now : Nat) (state : State) : Bool :=
  match state.order with
  | (_, storedAt) :: _ => now - storedAt ≥ ttl
  | [] => false

def evictExpired (ttl now : Nat) (state : State) : Option State :=
  state.evictWhile (expired ttl now) (state.order.length + 1)

end State

namespace SignedResponses

variable (cache : SignedResponses)

def crowded (size : Nat) (state : State) : Bool :=
  state.order.length ≥ cache.maxEntries || state.bytes + size > cache.maxBytes

def store (key : RequestKey) (response : SignedPsbtResponse) (now : Nat) (state : State) :
    Option State :=
  let size := response.signedPsbt.length
  let state := { state with slots := state.slots.erase key }
  if size > cache.maxBytes then some state
  else do
    let state ← state.evictExpired cache.ttl now
    let state ← state.evictWhile (cache.crowded size) (state.order.length + 1)
    some
      { slots := state.slots.insert key (.done response)
        order := state.order ++ [(key, now)]
        bytes := state.bytes + size }

def release (key : RequestKey) (state : State) : State :=
  match state.slots.lookup key with
  | some (.inFlight _) => { state with slots := state.slots.erase key }
  | _ => state

end SignedResponses

/-- Where a lead is. Its channel carries a reply from `completed` on, and is
    closed without one from `dropped` on. -/
inductive LeadPhase where
  | holding
  /-- In `complete`, with the clock read, before the locked section. -/
  | completing (response : SignedPsbtResponse) (now : Nat)
  /-- The reply is stored and not sent to the waiters yet. -/
  | sending (response : SignedPsbtResponse)
  | completed (response : SignedPsbtResponse)
  /-- In `drop`, before the locked section. -/
  | dropping
  /-- The key is free, and the waiters are not woken yet. -/
  | closing
  | dropped
  deriving DecidableEq

/-- The right to perform the exchange of a request. -/
structure Lead where
  key : RequestKey
  phase : LeadPhase
  deriving DecidableEq

/-- How far a call of `claim` is. -/
inductive ClaimPhase where
  | looking
  /-- Waiting on the channel of a lead. -/
  | waiting (lead : Nat)
  /-- Returned with a reply. -/
  | serve (response : SignedPsbtResponse)
  /-- Returned with the lead. -/
  | lead (lead : Nat)
  deriving DecidableEq

/-- A call of `claim`. -/
structure Claim where
  key : RequestKey
  phase : ClaimPhase
  deriving DecidableEq

/-- The store with all leads and all calls of `claim`, by number. -/
structure System where
  state : State
  leads : List Lead
  claims : List Claim

namespace System

variable (cache : SignedResponses)

/-- An empty store, with no calls. -/
def start : System := ⟨.new, [], []⟩

def look (claim : Nat) (key : RequestKey) (now : Nat) (system : System) : Option System := do
  let state ← system.state.evictExpired cache.ttl now
  match state.slots.lookup key with
  | some (.done response) =>
      some { system with state, claims := system.claims.set claim ⟨key, .serve response⟩ }
  | some (.inFlight lead) =>
      some { system with state, claims := system.claims.set claim ⟨key, .waiting lead⟩ }
  | none =>
      let lead := system.leads.length
      some
        { state := { state with slots := state.slots.insert key (.inFlight lead) }
          leads := system.leads ++ [⟨key, .holding⟩]
          claims := system.claims.set claim ⟨key, .lead lead⟩ }

/-- What a claim that waits finds on the channel: a reply, an end without a
    reply, or nothing yet. -/
def wake (lead : Nat) (system : System) : ClaimPhase :=
  match system.leads[lead]? with
  | some ⟨_, .completed response⟩ => .serve response
  | some ⟨_, .dropped⟩ => .looking
  | _ => .waiting lead

/-- The next step of a claim. A claim that has returned takes none. -/
def poll (claim now : Nat) (system : System) : Option System :=
  match system.claims[claim]? with
  | some ⟨key, .looking⟩ => system.look cache claim key now
  | some ⟨key, .waiting lead⟩ =>
      some { system with claims := system.claims.set claim ⟨key, system.wake lead⟩ }
  | _ => some system

/-- A lead that is held is given to `complete` or to `drop`. -/
def give (lead : Nat) (phase : LeadPhase) (system : System) : System :=
  match system.leads[lead]? with
  | some ⟨key, .holding⟩ => { system with leads := system.leads.set lead ⟨key, phase⟩ }
  | _ => system

def proceed (lead : Nat) (system : System) : Option System :=
  let become (key : RequestKey) (phase : LeadPhase) (state : State) : System :=
    { system with state, leads := system.leads.set lead ⟨key, phase⟩ }
  match system.leads[lead]? with
  | some ⟨key, .completing response now⟩ =>
      (cache.store key response now system.state).map (become key (.sending response))
  | some ⟨key, .sending response⟩ => some (become key (.completed response) system.state)
  | some ⟨key, .dropping⟩ => some (become key .closing (SignedResponses.release key system.state))
  | some ⟨key, .closing⟩ => some (become key .dropped system.state)
  | _ => some system

end System

/-- A step of one of the calls. -/
inductive Event where
  /-- A new call of `claim`. -/
  | claim (key : RequestKey)
  | poll (claim now : Nat)
  | complete (lead : Nat) (response : SignedPsbtResponse) (now : Nat)
  | drop (lead : Nat)
  | proceed (lead : Nat)

namespace System

variable (cache : SignedResponses)

def step (system : System) : Event → Option System
  | .claim key => some { system with claims := system.claims ++ [⟨key, .looking⟩] }
  | .poll claim now => system.poll cache claim now
  | .complete lead response now => some (system.give lead (.completing response now))
  | .drop lead => some (system.give lead .dropping)
  | .proceed lead => system.proceed cache lead

/-- A schedule of steps. None if one of them is not possible. -/
def run (schedule : List Event) (system : System) : Option System :=
  schedule.foldlM (step cache) system

end System

end EnclaveSigner.Parent
