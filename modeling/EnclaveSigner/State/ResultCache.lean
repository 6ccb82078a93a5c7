import EnclaveSigner.State.ReplayGuard

/-! # Signed results

The replies of signed mints, kept so that a retry after a lost reply gets the
same bytes. An entry answers only the request that made it, by the digest of its
bytes.
-/

namespace EnclaveSigner.State

open Lib

/-- A reply, with the digest of its request. -/
structure Entry (ρ : Type) where
  keptAt : Nat
  request : Word 32
  response : ρ
  deriving DecidableEq

abbrev Results (ρ : Type) := AList fun _ : Nonce => Entry ρ

/-- The kept replies, in a map and in a queue. -/
structure ResultCache (ρ : Type) where
  map : Results ρ
  /-- Oldest first. -/
  order : List Nonce

/-- The limits of the cache. -/
structure SignedResultCache where
  max : Nat
  ttl : Nat

def ResultCache.empty {ρ : Type} : ResultCache ρ := ⟨∅, []⟩

namespace SignedResultCache

variable {ρ : Type} (cache : SignedResultCache)

/-- The reply for `opKey`, if `request` is the digest that made it. -/
def getAt (opKey : Nonce) (request : Word 32) (now : Nat) (g : ResultCache ρ) : Option ρ := do
  let entry ← g.map.lookup opKey
  let live := now - entry.keptAt < cache.ttl
  if live ∧ entry.request = request then some entry.response else none

/-- Evict from the front: what is expired, and the oldest while there is no
    room. -/
def evict (now : Nat) : List Nonce → Results ρ → List Nonce × Results ρ
  | [], map => ([], map)
  | oldest :: rest, map =>
      let expired := (map.lookup oldest).all fun entry => decide (now - entry.keptAt ≥ cache.ttl)
      if !expired && decide (map.keys.length < cache.max) then (oldest :: rest, map)
      else evict now rest (map.erase oldest)

/-- Keep a reply, and evict for it. -/
def putAt (opKey : Nonce) (request : Word 32) (response : ρ) (now : Nat) (g : ResultCache ρ) :
    ResultCache ρ :=
  let order := if opKey ∈ g.map then g.order.filter (· ≠ opKey) else g.order
  let (order, map) := cache.evict now order (g.map.erase opKey)
  { map := map.insert opKey ⟨now, request, response⟩, order := order ++ [opKey] }

variable {cache} {opKey : Nonce} {request : Word 32} {response : ρ} {now : Nat}
  {g : ResultCache ρ} {entry : Entry ρ}

theorem getAt_some (found : cache.getAt opKey request now g = some response) :
    ∃ entry, g.map.lookup opKey = some entry ∧ entry.request = request ∧
      entry.response = response := by
  obtain ⟨entry, there, answer⟩ := Option.bind_eq_some_iff.mp found
  dsimp only at answer
  split at answer
  · rename_i matching
    cases answer
    exact ⟨entry, there, matching.2, rfl⟩
  · cases answer

theorem lookup_of_evict {order : List Nonce} {map : Results ρ}
    (found : (cache.evict now order map).2.lookup opKey = some entry) :
    map.lookup opKey = some entry := by
  induction order generalizing map with
  | nil => exact found
  | cons oldest rest ih =>
      simp only [evict] at found
      split at found
      · exact found
      · exact lookup_of_erase (ih found)

theorem lookup_putAt {key : Nonce}
    (found : (cache.putAt opKey request response now g).map.lookup key = some entry) :
    key = opKey ∧ entry = ⟨now, request, response⟩ ∨ g.map.lookup key = some entry := by
  simp only [putAt] at found
  by_cases own : key = opKey
  · subst own
    rw [AList.lookup_insert] at found
    exact .inl ⟨rfl, (Option.some.inj found).symm⟩
  · rw [AList.lookup_insert_ne own] at found
    exact .inr (lookup_of_erase (lookup_of_evict found))

end SignedResultCache

end EnclaveSigner.State
