import EnclaveSigner.Spv.MerkleSoundness

/-! # Merkle completeness

The honest branch of a block's transaction is accepted at its position. A
duplicated last node equals its sibling, and there two positions can fit.
-/

namespace EnclaveSigner.Spv

open Lib Bitcoin

/-- The siblings from leaf to root for the transaction at `pos`, with the last
    node of an odd level duplicated. -/
def merkleBranch (btc : Crate) (txids : List Sha256d) (pos : Nat) : List Sha256d :=
  MerkleTree.branch btc.sha256d joinNodes txids pos

/-- The nodes on the way from a txid to the root, each with its sibling. -/
def proofSteps (btc : Crate) (txid : Sha256d) (position : UInt32) (path : List Sha256d) :
    List (Sha256d × Sha256d) :=
  (MerkleTree.climbNodes btc.sha256d joinNodes position.toNat txid path).zip path

theorem verifyMerkleProof_unique {btc : Crate} {txid root : Sha256d} {position other : UInt32}
    {path : List Sha256d}
    (distinct : ∀ step ∈ proofSteps btc txid position path, step.1 ≠ step.2)
    (collisionFree : Set.InjOn btc.sha256d { bytes | bytes ∈ proofInputs btc txid position path
      ++ proofInputs btc txid other path })
    (climbs : MerkleTree.climb btc.sha256d joinNodes position.toNat txid path = root)
    (reachable : position.toNat < 2 ^ path.length)
    (accepted : verifyMerkleProof btc txid other path root = .ok ()) : other = position := by
  obtain ⟨-, otherReachable, otherClimbs⟩ := verifyMerkleProof_ok.mp accepted
  obtain ⟨-, bits⟩ := MerkleTree.climb_unique collisionFree joinNodes_injective
    (fun input inside => List.mem_append_left _ inside)
    (fun input inside => List.mem_append_right _ inside) distinct
    (climbs.trans otherClimbs.symm)
  rw [Nat.mod_eq_of_lt reachable, Nat.mod_eq_of_lt otherReachable] at bits
  exact UInt32.toNat_inj.mp bits.symm

/-- The honest branch of any position is accepted there against the root, unless
    a node on it reads as a 64-byte transaction. If no node on the branch equals
    its sibling, no other position is accepted with it. -/
theorem merkle_branch_complete (btc : Crate) (txids : List Sha256d)
    (size : txids.length ≤ 2 ^ MAX_MERKLE_PATH_DEPTH) (pos : Nat)
    (inside : pos < txids.length) :
    ∃ root, blockMerkleRoot btc txids = some root ∧
      let txid := txids[pos]
      let position := UInt32.ofNat pos
      let path := merkleBranch btc txids pos
      path.length ≤ MAX_MERKLE_PATH_DEPTH ∧
      ((∃ input ∈ proofInputs btc txid position path, is64ByteTransaction input = true) ∨
        verifyMerkleProof btc txid position path root = .ok ()) ∧
      ((∀ step ∈ proofSteps btc txid position path, step.1 ≠ step.2) →
        ∀ other, other ≠ position →
          Set.InjOn btc.sha256d { bytes | bytes ∈ proofInputs btc txid position path
            ++ proofInputs btc txid other path } →
          verifyMerkleProof btc txid other path root ≠ .ok ()) := by
  have nonempty : txids ≠ [] := List.ne_nil_of_length_pos (by omega)
  obtain ⟨root, rootIs⟩ := MerkleTree.rootWithin_isSome btc.sha256d joinNodes
    nonempty (Nat.le_refl _)
  have found := List.getElem?_eq_getElem inside
  obtain ⟨climbs, reachable⟩ := MerkleTree.climb_branchWithin found rootIs
  have word : (UInt32.ofNat pos).toNat = pos := by
    have depth : MAX_MERKLE_PATH_DEPTH = 32 := rfl
    rw [depth] at size
    exact toNat_ofNat32 (by omega)
  have climbs : MerkleTree.climb btc.sha256d joinNodes (UInt32.ofNat pos).toNat txids[pos]
      (merkleBranch btc txids pos) = root := by
    rw [word]
    exact climbs
  have reachable : (UInt32.ofNat pos).toNat < 2 ^ (merkleBranch btc txids pos).length := by
    rw [word]
    exact reachable
  refine ⟨root, rootIs, MerkleTree.branchWithin_length size, ?_, ?_⟩
  · by_cases plain : ∀ input ∈ proofInputs btc txids[pos] (UInt32.ofNat pos)
        (merkleBranch btc txids pos), is64ByteTransaction input = false
    · exact .inr (verifyMerkleProof_ok.mpr ⟨plain, reachable, climbs⟩)
    · simp only [not_forall, Bool.not_eq_false] at plain
      obtain ⟨input, hashed, shaped⟩ := plain
      exact .inl ⟨input, hashed, shaped⟩
  · intro distinct other different collisionFree accepted
    exact different (verifyMerkleProof_unique distinct collisionFree climbs reachable accepted)

def sampleTreeSwapped : Crate := crateWith (tableHash (sampleNodes ++ [
  (joinNodes sampleRight sampleLeft,
    Word.ofNatBe 32 0x08f6c9f629d51e0273def186dadec0b183840a220d1dbda087124cc682d59483)]))

/-- The second of three leaves is accepted at position one and not at three. -/
theorem merkle_branch_complete_second :
    ∃ root, blockMerkleRoot sampleTreeSwapped sampleTxids = some root ∧
      verifyMerkleProof sampleTreeSwapped sampleTxids[1] 1
        (merkleBranch sampleTreeSwapped sampleTxids 1) root = .ok () ∧
      verifyMerkleProof sampleTreeSwapped sampleTxids[1] 3
        (merkleBranch sampleTreeSwapped sampleTxids 1) root ≠ .ok () := by
  obtain ⟨root, rootIs, -, accepted, unique⟩ :=
    merkle_branch_complete sampleTreeSwapped sampleTxids (by decide) 1 (by decide)
  have collisionFree : ∀ a ∈ proofInputs sampleTreeSwapped sampleTxids[1] 1
        (merkleBranch sampleTreeSwapped sampleTxids 1)
        ++ proofInputs sampleTreeSwapped sampleTxids[1] 3
          (merkleBranch sampleTreeSwapped sampleTxids 1),
      ∀ b ∈ proofInputs sampleTreeSwapped sampleTxids[1] 1
        (merkleBranch sampleTreeSwapped sampleTxids 1)
        ++ proofInputs sampleTreeSwapped sampleTxids[1] 3
          (merkleBranch sampleTreeSwapped sampleTxids 1),
      sampleTreeSwapped.sha256d a = sampleTreeSwapped.sha256d b → a = b := by decide +kernel
  refine ⟨root, rootIs, accepted.resolve_left (by decide +kernel), ?_⟩
  exact unique (by decide +kernel) 3 (by decide) fun a ha b hb => collisionFree a ha b hb

end EnclaveSigner.Spv
