import Mathlib.Data.List.AList
import EnclaveSigner.Error
import EnclaveSigner.Lib.Bytes
import EnclaveSigner.Lib.Checks
import EnclaveSigner.Lib.MachineInt

/-! # Replay guard

The guard remembers recorded nonces for a time and up to a count. A map says
which nonces are recorded and under which generation, and a queue keeps them in
the order of recording. A reservation records a nonce and takes the record back
when it is dropped without a commit.

Instants and durations are numbers of clock ticks. A lock guards every
operation, so operations of several holders interleave as whole steps.
-/

namespace EnclaveSigner.State

open Lib

structure Nonce where
  bytes : Word 32
  deriving DecidableEq

/-- The recorded nonces, with the generation that owns each. -/
abbrev Seen := AList fun _ : Nonce => UInt64

theorem lookup_of_erase {α : Type} {map : AList fun _ : Nonce => α} {nonce old : Nonce}
    {value : α} (found : (map.erase old).lookup nonce = some value) :
    map.lookup nonce = some value := by
  by_cases own : nonce = old
  · rw [own, AList.lookup_erase] at found
    cases found
  · rwa [AList.lookup_erase_ne own] at found

/-- The recorded nonces, in a map and in a queue. -/
structure GuardState where
  seen : Seen
  nextGeneration : UInt64
  /-- Oldest first. -/
  order : List (Nat × Nonce)

/-- The limits of the guard. -/
structure NonceReplayGuard where
  max : Nat
  ttl : Nat

def GuardState.empty : GuardState := ⟨∅, 0, []⟩

/-- Pop entries from the front of the queue, and from the map, while `stale`
    says so of the recording time and of the map. -/
def popWhile (stale : Nat → Seen → Bool) :
    List (Nat × Nonce) → Seen → List (Nat × Nonce) × Seen
  | [], seen => ([], seen)
  | (seenAt, old) :: rest, seen =>
      if stale seenAt seen then popWhile stale rest (seen.erase old)
      else ((seenAt, old) :: rest, seen)

def GuardState.popWhile (stale : Nat → Seen → Bool)
    (g : GuardState) : GuardState :=
  let (order, seen) := State.popWhile stale g.order g.seen
  { g with order, seen }

namespace NonceReplayGuard

variable (guard : NonceReplayGuard)

/-- Evict the expired entries. The queue is oldest first, so the loop stops at
    the first live one. -/
def evictExpired (now : Nat) : GuardState → GuardState :=
  GuardState.popWhile fun seenAt _ => decide (now - seenAt ≥ guard.ttl)

def evictForRoom : GuardState → GuardState :=
  GuardState.popWhile fun _ seen => decide (seen.keys.length ≥ guard.max)

/-- Record a nonce that is not recorded. -/
def checkAndRecordAt (nonce : Nonce) (now : Nat) : EStateM EnclaveError GuardState UInt64 := do
  modify (guard.evictExpired now)
  let g ← get
  refuse (nonce ∈ g.seen) EnclaveError.nonceReplay
  let generation := g.nextGeneration
  let nextGeneration ←
    okOr (EnclaveError.internal "replay reservation generation exhausted")
      (checkedAdd64 generation 1)
  modify fun g => { g with nextGeneration }
  modify guard.evictForRoom
  modify fun g =>
    { g with seen := g.seen.insert nonce generation, order := g.order ++ [(now, nonce)] }
  pure generation

/-- Refuse a live replay. Nothing is recorded or evicted. -/
def check (nonce : Nonce) (now : Nat) (g : GuardState) : Result Unit :=
  refuse (nonce ∈ g.seen ∧
      g.order.any (fun (seenAt, key) => key == nonce && decide (now - seenAt < guard.ttl)) = true)
    .nonceReplay

def remove (nonce : Nonce) (generation : UInt64) (g : GuardState) : GuardState :=
  if g.seen.lookup nonce = some generation then
    { g with
      seen := g.seen.erase nonce
      order := g.order.eraseP fun entry => entry.2 == nonce }
  else g

end NonceReplayGuard

/-- A nonce under its generation. -/
@[ext] structure ReplayReservation where
  nonce : Nonce
  generation : UInt64
  deriving DecidableEq

/-- A guard with its holders and the clock. The last two fields record the past:
    which entries the capacity limit evicted, and which reservations were rolled
    back. -/
structure Holders where
  state : GuardState
  live : List ReplayReservation
  clock : Nat
  evicted : List (Nonce × UInt64)
  rolledBack : List ReplayReservation

/-- An empty guard, with no holders. -/
def Holders.start : Holders := ⟨.empty, [], 0, [], []⟩

/-- What a holder does. -/
inductive HolderStep where
  /-- Time passes. -/
  | wait (elapsed : Nat)
  | reserve (nonce : Nonce)
  | commit (reservation : ReplayReservation)
  /-- A reservation goes out of scope without a commit. -/
  | dropped (reservation : ReplayReservation)

/-- The entries that a loop pops, with the generations that owned them. -/
def popped (stale : Nat → Seen → Bool) :
    List (Nat × Nonce) → Seen → List (Nonce × UInt64)
  | [], _ => []
  | (seenAt, old) :: rest, seen =>
      if stale seenAt seen then
        (seen.lookup old).toList.map (fun generation => (old, generation))
          ++ popped stale rest (seen.erase old)
      else []

def NonceReplayGuard.evictedForRoom (guard : NonceReplayGuard) (now : Nat) (g : GuardState) :
    List (Nonce × UInt64) :=
  let g := guard.evictExpired now g
  popped (fun _ seen => decide (seen.keys.length ≥ guard.max)) g.order g.seen

/-- One step of the guard and its holders. A reservation is committed or dropped
    by the holder that has it. -/
def NonceReplayGuard.step (guard : NonceReplayGuard) (s : Holders) : HolderStep → Holders
  | .wait elapsed => { s with clock := s.clock + elapsed }
  | .reserve nonce =>
      match guard.checkAndRecordAt nonce s.clock s.state with
      | .ok generation state =>
          { s with
            state
            live := ⟨nonce, generation⟩ :: s.live
            evicted := s.evicted ++ guard.evictedForRoom s.clock s.state }
      | .error _ state => { s with state }
  | .commit reservation => { s with live := s.live.erase reservation }
  | .dropped reservation =>
      if reservation ∈ s.live then
        { s with
          state := NonceReplayGuard.remove reservation.nonce reservation.generation s.state
          live := s.live.erase reservation
          rolledBack := reservation :: s.rolledBack }
      else s

/-- The holders after a schedule. -/
def NonceReplayGuard.run (guard : NonceReplayGuard) (s : Holders) (steps : List HolderStep) :
    Holders :=
  steps.foldl guard.step s

end EnclaveSigner.State
