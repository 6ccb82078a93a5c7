import EnclaveSigner.Bitcoin.Transaction
import EnclaveSigner.Lib.Checks
import EnclaveSigner.Lib.MachineInt
import EnclaveSigner.Lib.MerkleTree

/-! # Merkle inclusion proofs

The verifier rebuilds a block's Merkle root from one txid, its position and the
sibling hashes. It does not know the depth of the tree. It refuses a position
that the path does not consume, and a node that reads as a 64-byte transaction,
because the txid of such a transaction is the hash of its two halves.
-/

namespace EnclaveSigner.Spv

open Lib MerkleTree Bitcoin

abbrev Sha256d := Word 32

def MAX_MERKLE_PATH_DEPTH : Nat := 32

def MAX_MONEY_SATS : Nat := 21000000 * 100000000

inductive MerkleError where
  | badSiblingLength (index len : Nat)
  | rootMismatch (computed expected : Sha256d)
  | positionOutOfRange (position : UInt32) (depth : Nat)
  | transactionShapedNode (level : Nat)
  deriving DecidableEq

/-- The 64 bytes are the legacy serialization of a transaction with one input
    and one output whose value is in the money range. -/
def is64ByteTransaction (node : Bytes) : Bool :=
  if node.getD 4 0 ≠ 1 then false
  else
    let s := (node.getD 41 0).toNat
    if s > 4 ∨ node.getD (46 + s) 0 ≠ 1 then false
    else decide (ofLe ((node.drop (47 + s)).take 8) ≤ MAX_MONEY_SATS)
      && (node.getD (55 + s) 0).toNat == 4 - s

def joinNodes (left right : Sha256d) : Bytes := left.val ++ right.val

/-- The low bit of the position says on which side the current node stands. -/
def nodeBuffer (idx : UInt32) (current sibling : Sha256d) : Bytes :=
  if idx &&& 1 = 0 then joinNodes current sibling else joinNodes sibling current

/-- The loop over the path: the level, the current node and the position bits
    left. -/
def climbPath (btc : Crate) :
    Nat → Sha256d → UInt32 → List Sha256d → Except MerkleError (Sha256d × UInt32)
  | _, current, idx, [] => pure (current, idx)
  | i, current, idx, sibling :: path => do
      refuse (sibling.val.length ≠ 32) (.badSiblingLength i sibling.val.length)
      let buf := nodeBuffer idx current sibling
      refuse (is64ByteTransaction buf = true) (.transactionShapedNode i)
      climbPath btc (i + 1) (btc.sha256d buf) (idx >>> 1) path

/-- Climb from the txid, and compare with the root. -/
def verifyMerkleProof (btc : Crate) (txid : Sha256d) (position : UInt32) (path : List Sha256d)
    (merkleRoot : Sha256d) : Except MerkleError Unit := do
  let (current, idx) ← climbPath btc 0 txid position path
  refuse (idx ≠ 0) (.positionOutOfRange position path.length)
  refuse (current ≠ merkleRoot) (.rootMismatch current merkleRoot)

/-- The root of a block with these txids. -/
def blockMerkleRoot (btc : Crate) (txids : List Sha256d) : Option Sha256d :=
  merkleRoot btc.sha256d joinNodes txids

/-- What the verifier hashes. -/
def proofInputs (btc : Crate) (txid : Sha256d) (position : UInt32) (path : List Sha256d) :
    List Bytes :=
  climbInputs btc.sha256d joinNodes position.toNat txid path

theorem joinNodes_injective {a b c d : Sha256d} (same : joinNodes a b = joinNodes c d) :
    a = c ∧ b = d := by
  obtain ⟨left, right⟩ := append_parts same
  exact ⟨left, Subtype.ext right⟩

theorem joinNodes_length (a b : Sha256d) : (joinNodes a b).length = 64 := by
  rw [joinNodes, List.length_append, a.property, b.property]

theorem nodeBuffer_eq (idx : UInt32) (current sibling : Sha256d) :
    nodeBuffer idx current sibling
      = joinAt joinNodes idx.toNat current sibling := by
  have bit : idx &&& 1 = 0 ↔ idx.toNat % 2 = 0 := by
    rw [← UInt32.toNat_inj, UInt32.toNat_and, UInt32.toNat_one, Nat.and_one_is_mod,
      UInt32.toNat_zero]
  simp only [nodeBuffer, joinAt, bit]

theorem climbPath_ok {btc : Crate} {i : Nat} {current : Sha256d} {idx : UInt32}
    {path : List Sha256d} {result : Sha256d × UInt32} :
    climbPath btc i current idx path = .ok result ↔
      (∀ input ∈ climbInputs btc.sha256d joinNodes idx.toNat current path,
        is64ByteTransaction input = false) ∧
      result.1 = climb btc.sha256d joinNodes idx.toNat current path ∧
      result.2.toNat = idx.toNat / 2 ^ path.length := by
  induction path generalizing i current idx with
  | nil =>
      simp only [climbPath, climbInputs, climb, List.length_nil, pow_zero,
        Nat.div_one, UInt32.toNat_inj, List.not_mem_nil, false_implies, implies_true, true_and]
      constructor
      · intro same
        cases same
        exact ⟨rfl, rfl⟩
      · rintro ⟨rfl, rfl⟩
        rfl
  | cons sibling path ih =>
      have half : (idx >>> 1).toNat = idx.toNat / 2 := by
        rw [UInt32.toNat_shiftRight]
        rfl
      rw [climbPath, refuse_bind_ok]
      simp only [refuse_bind_ok, ih, half, nodeBuffer_eq, climbInputs,
        climb, List.mem_cons, forall_eq_or_imp, List.length_cons, Bool.not_eq_true,
        sibling.property, not_true, not_false_iff, ne_eq, true_and, and_assoc, Nat.pow_succ',
        Nat.div_div_eq_div_mul]

theorem verifyMerkleProof_ok {btc : Crate} {txid : Sha256d} {position : UInt32}
    {path : List Sha256d} {root : Sha256d} :
    verifyMerkleProof btc txid position path root = .ok () ↔
      (∀ input ∈ proofInputs btc txid position path, is64ByteTransaction input = false) ∧
      position.toNat < 2 ^ path.length ∧
      climb btc.sha256d joinNodes position.toNat txid path = root := by
  have consumed : ∀ idx : UInt32, idx.toNat = position.toNat / 2 ^ path.length →
      (idx = 0 ↔ position.toNat < 2 ^ path.length) := by
    intro idx value
    rw [← UInt32.toNat_inj, value, UInt32.toNat_zero, Nat.div_eq_zero_iff]
    simp
  rw [verifyMerkleProof, bind_ok]
  constructor
  · rintro ⟨result, climbs, checks⟩
    obtain ⟨plain, current, idx⟩ := climbPath_ok.mp climbs
    obtain ⟨exhausted, matching⟩ := refuse_bind_ok.mp checks
    rw [refuse_ok, ne_eq, not_not] at matching
    rw [ne_eq, not_not, consumed _ idx] at exhausted
    exact ⟨plain, exhausted, by rw [← current]; exact matching⟩
  · rintro ⟨plain, reachable, ends⟩
    have small := position.toNat_lt
    refine ⟨(root, 0), climbPath_ok.mpr ⟨plain, ends.symm, ?_⟩, ?_⟩
    · rw [Nat.div_eq_of_lt reachable]
      rfl
    · rw [refuse_bind_ok, refuse_ok]
      simp

end EnclaveSigner.Spv
