import EnclaveSigner.Lib.Bytes

/-! # Block headers and the `bitcoin` crate

The enclave takes hashing and difficulty arithmetic from the `bitcoin` crate.
`Crate` is what it calls there. A result that depends on how one of these
behaves says so in a hypothesis. The consensus encoding of a header is fixed
by Bitcoin and is written out.
-/

namespace EnclaveSigner.Bitcoin

open Lib

abbrev U256 := BitVec 256

structure Params where
  powTargetSpacing : UInt64
  allowMinDifficultyBlocks : Bool
  maxAttainableTarget : U256
  deriving DecidableEq

/-- What the enclave calls in the `bitcoin` crate for headers. -/
structure Crate where
  sha256d : Bytes → Word 32
  /-- `Target::from_compact`. -/
  target : UInt32 → U256
  /-- `Target::to_work`. -/
  toWork : U256 → U256
  toCompactLossy : U256 → UInt32
  fromNextWorkRequired : UInt32 → UInt64 → Params → UInt32
  /-- The text of the decoding error of bytes that are not a header. -/
  decodeError : Bytes → String
  mainnet : Params
  signet : Params
  testnet3 : Params
  testnet4 : Params
  regtest : Params

/-- An 80-byte block header. Hashes are in internal byte order. -/
structure Header where
  version : UInt32
  prevBlockhash : Word 32
  merkleRoot : Word 32
  time : UInt32
  bits : UInt32
  nonce : UInt32
  deriving DecidableEq

namespace Header

def serialize (header : Header) : Bytes :=
  (u32Le header.version).val ++ (header.prevBlockhash.val ++ (header.merkleRoot.val ++
    ((u32Le header.time).val ++ ((u32Le header.bits).val ++ (u32Le header.nonce).val))))

/-- Consensus decoding: exactly 80 bytes, with nothing left over. -/
def deserialize (raw : Bytes) : Option Header :=
  if length : raw.length = 80 then
    some {
      version := readU32Le raw
      prevBlockhash := ⟨(raw.drop 4).take 32, by rw [List.length_take, List.length_drop]; omega⟩
      merkleRoot := ⟨(raw.drop 36).take 32, by rw [List.length_take, List.length_drop]; omega⟩
      time := readU32Le (raw.drop 68)
      bits := readU32Le (raw.drop 72)
      nonce := readU32Le (raw.drop 76) }
  else none

theorem serialize_injective : Function.Injective serialize := by
  intro a b same
  obtain ⟨version, same⟩ := append_parts same
  obtain ⟨prev, same⟩ := append_parts same
  obtain ⟨root, same⟩ := append_parts same
  obtain ⟨time, same⟩ := append_parts same
  obtain ⟨bits, nonce⟩ := append_parts same
  cases a
  cases b
  simp only [mk.injEq]
  exact ⟨u32Le_injective version, prev, root, u32Le_injective time, u32Le_injective bits,
    u32Le_injective (Subtype.ext nonce)⟩

theorem serialize_length (header : Header) : header.serialize.length = 80 := by
  simp only [serialize, List.length_append, Word.length_val]

theorem serialize_drop (header : Header) :
    header.serialize.drop 4 = header.prevBlockhash.val ++ (header.merkleRoot.val ++
        ((u32Le header.time).val ++ ((u32Le header.bits).val ++ (u32Le header.nonce).val))) ∧
      header.serialize.drop 36 = header.merkleRoot.val ++
        ((u32Le header.time).val ++ ((u32Le header.bits).val ++ (u32Le header.nonce).val)) ∧
      header.serialize.drop 68 = (u32Le header.time).val ++
        ((u32Le header.bits).val ++ (u32Le header.nonce).val) ∧
      header.serialize.drop 72 = (u32Le header.bits).val ++ (u32Le header.nonce).val ∧
      header.serialize.drop 76 = (u32Le header.nonce).val := by
  have next : ∀ {offset n : Nat} {word : Word n} {rest : Bytes},
      header.serialize.drop offset = word.val ++ rest →
      header.serialize.drop (offset + n) = rest := by
    intro offset n word rest here
    rw [← List.drop_drop, here, List.drop_left' word.length_val]
  have prev := @next 0 4 (u32Le header.version) _ rfl
  have root := next prev
  have time := next root
  have bits := next time
  exact ⟨prev, root, time, bits, next bits⟩

theorem deserialize_serialize (header : Header) : deserialize header.serialize = some header := by
  obtain ⟨prev, root, time, bits, nonce⟩ := header.serialize_drop
  have last := readU32Le_append header.nonce []
  rw [List.append_nil] at last
  rw [deserialize, dif_pos header.serialize_length]
  congr 1
  cases header with
  | mk version prevBlockhash merkleRoot headerTime headerBits headerNonce =>
      simp only [prev, root, time, bits, nonce, List.take_left' (Word.length_val _),
        readU32Le_append, last, mk.injEq, and_true]
      exact readU32Le_append version _

variable (btc : Crate)

def blockHash (header : Header) : Word 32 := btc.sha256d header.serialize

def target (header : Header) : U256 := btc.target header.bits

def work (header : Header) : U256 := btc.toWork (header.target btc)

/-- The header's own target is the required one, and its hash, read as a
    little-endian number, does not exceed it. -/
def validatePow (header : Header) (required : U256) : Bool :=
  header.target btc == required
    && decide (ofLe (header.blockHash btc).val ≤ (header.target btc).toNat)

/-- No two of the headers have one hash. -/
abbrev CollisionFree (headers : Set Header) : Prop := Set.InjOn btc.sha256d (serialize '' headers)

theorem eq_of_blockHash_eq {headers : Set Header} {a b : Header}
    (collisionFree : CollisionFree btc headers) (ha : a ∈ headers) (hb : b ∈ headers)
    (same : a.blockHash btc = b.blockHash btc) : a = b :=
  serialize_injective
    (collisionFree (Set.mem_image_of_mem _ ha) (Set.mem_image_of_mem _ hb) same)

end Header

end EnclaveSigner.Bitcoin
