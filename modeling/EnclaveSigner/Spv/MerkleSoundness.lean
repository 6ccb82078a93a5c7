import EnclaveSigner.Bitcoin.Difficulty
import EnclaveSigner.Spv.Merkle

/-! # Merkle soundness

A path may be longer or shorter than the tree is high. It cannot start below a
leaf: the node hashed to a leaf would be a 64-byte transaction of the block, and
the verifier refuses those. It cannot start above: the transaction itself would
have 64 bytes.
-/

namespace EnclaveSigner.Spv

open Lib Bitcoin

/-- What consensus says of a 64-byte transaction: one input, and one output
    with a value in the money range. -/
def OneInOneOut (tx : Transaction) : Prop :=
  tx.input.val.length = 1 ∧ ∃ output, tx.output.val = [output] ∧
    output.value.toNat ≤ MAX_MONEY_SATS

theorem is64ByteTransaction_of_fields {version previousTxid vout scriptSig sequence value
      scriptPubkey lockTime : Bytes}
    (hversion : version.length = 4) (hprevious : previousTxid.length = 32)
    (hvout : vout.length = 4) (hsequence : sequence.length = 4) (hvalue : value.length = 8)
    (small : scriptSig.length ≤ 4) (rest : scriptPubkey.length = 4 - scriptSig.length)
    (money : ofLe value ≤ MAX_MONEY_SATS) :
    is64ByteTransaction (version ++ 1 :: (previousTxid ++ (vout ++
      UInt8.ofNat scriptSig.length :: (scriptSig ++ (sequence ++ 1 :: (value ++
        UInt8.ofNat scriptPubkey.length :: (scriptPubkey ++ lockTime))))))) = true := by
  have sigByte : (UInt8.ofNat scriptSig.length).toNat = scriptSig.length := by
    rw [UInt8.toNat_ofNat']
    omega
  have pubByte : (UInt8.ofNat scriptPubkey.length).toNat = scriptPubkey.length := by
    rw [UInt8.toNat_ofNat']
    omega
  generalize whole : version ++ 1 :: (previousTxid ++ (vout ++
      UInt8.ofNat scriptSig.length :: (scriptSig ++ (sequence ++ 1 :: (value ++
        UInt8.ofNat scriptPubkey.length :: (scriptPubkey ++ lockTime)))))) = node
  have inputs : node.getD 4 0 = 1 := by
    simp [← whole, hversion]
  have sigLength : node.getD 41 0 = UInt8.ofNat scriptSig.length := by
    simp [← whole, List.getElem?_append, hversion, hprevious, hvout]
  have output : node.drop (46 + scriptSig.length) =
      1 :: (value ++ UInt8.ofNat scriptPubkey.length :: (scriptPubkey ++ lockTime)) := by
    have front : node = (version ++ 1 :: (previousTxid ++ (vout ++
        UInt8.ofNat scriptSig.length :: (scriptSig ++ sequence)))) ++ 1 :: (value ++
          UInt8.ofNat scriptPubkey.length :: (scriptPubkey ++ lockTime)) := by
      simp [← whole]
    rw [front, List.drop_left' (by simp [hversion, hprevious, hvout, hsequence]; omega)]
  have outputs : node.getD (46 + scriptSig.length) 0 = 1 := by
    simpa using congrArg (List.getD · 0 0) output
  have amount : (node.drop (47 + scriptSig.length)).take 8 = value := by
    rw [Nat.add_right_comm 46 1, ← List.drop_drop, output, List.drop_one, List.tail_cons,
      List.take_left' hvalue]
  have pubLength : node.getD (55 + scriptSig.length) 0 = UInt8.ofNat scriptPubkey.length := by
    rw [Nat.add_right_comm 46 9]
    simpa [List.getElem?_append, hvalue] using congrArg (List.getD · 9 0) output
  have fits : ¬ (scriptSig.length > 4 ∨ node.getD (46 + scriptSig.length) 0 ≠ 1) := by
    rw [outputs]
    simp [small]
  simp only [is64ByteTransaction, inputs, ne_eq, not_true, if_false, sigLength, sigByte]
  rw [if_neg fits, amount, pubLength, pubByte, rest]
  simp [money]

theorem encodeScript_eq (script : Sized UInt8) :
    encodeScript script = compactSize script.val.length ++ script.val := by
  rw [encodeScript, encodeSized, List.flatMap_singleton']

theorem serialize_one_in_one_out {tx : Transaction} {input : TxIn} {output : TxOut}
    (hin : tx.input.val = [input]) (hout : tx.output.val = [output]) :
    tx.serialize = (u32Le tx.version).val ++ (compactSize 1 ++ (input.previousTxid.val ++
      ((u32Le input.previousVout).val ++ (compactSize input.scriptSig.val.length ++
        (input.scriptSig.val ++ ((u32Le input.sequence).val ++ (compactSize 1 ++
          ((u64Le output.value).val ++ (compactSize output.scriptPubkey.val.length ++
            (output.scriptPubkey.val ++ (u32Le tx.lockTime).val)))))))))) := by
  simp [Transaction.serialize, encodeSized, hin, hout, TxIn.serialize, TxOut.serialize,
    encodeScript_eq]

theorem is64ByteTransaction_serialize {tx : Transaction} (length : tx.serialize.length = 64)
    (shape : OneInOneOut tx) : is64ByteTransaction tx.serialize = true := by
  obtain ⟨oneIn, output, hout, money⟩ := shape
  obtain ⟨input, hin⟩ := List.length_eq_one_iff.mp oneIn
  have fields := serialize_one_in_one_out hin hout
  have sigSize := compactSize_pos input.scriptSig.val.length
  have pubSize := compactSize_pos output.scriptPubkey.val.length
  have one : compactSize 1 = [1] := compactSize_small (by decide)
  rw [fields, one] at length
  simp only [List.length_append, (u32Le _).property, (u64Le _).property,
    input.previousTxid.property, List.length_singleton] at length
  have sig : compactSize input.scriptSig.val.length = [UInt8.ofNat input.scriptSig.val.length] :=
    compactSize_small (by omega)
  have pub : compactSize output.scriptPubkey.val.length
      = [UInt8.ofNat output.scriptPubkey.val.length] :=
    compactSize_small (by omega)
  rw [sig, pub, List.length_singleton, List.length_singleton] at length
  rw [fields, one, sig, pub]
  exact is64ByteTransaction_of_fields (u32Le _).property input.previousTxid.property
    (u32Le _).property (u32Le _).property (u64Le _).property (by omega) (by omega)
    (by rw [ofLe_u64Le]; exact money)

/-- Everything hashed on the way from a block's transactions to its root. -/
def blockInputs (btc : Crate) (txs : List Transaction) : List Bytes :=
  txs.map Transaction.serialize
    ++ MerkleTree.treeInputs btc.sha256d joinNodes (txs.map (·.txid btc))

/-- If the verifier accepts the txid of a transaction that does not have 64
    bytes, at any position and over any path, against the root of a block, the
    transaction is in the block. The double hash is assumed to have no collision
    among the strings hashed for the block, the proof and the transaction. -/
theorem merkle_proof_sound (btc : Crate) (txs : List Transaction) (root : Sha256d)
    (rootIs : blockMerkleRoot btc (txs.map (·.txid btc)) = some root)
    (consensus : ∀ tx ∈ txs, tx.serialize.length = 64 → OneInOneOut tx)
    (tx : Transaction) (notNode : tx.serialize.length ≠ 64)
    (position : UInt32) (path : List Sha256d)
    (collisionFree : Set.InjOn btc.sha256d
      { bytes | bytes ∈ tx.serialize :: blockInputs btc txs
        ++ proofInputs btc (tx.txid btc) position path })
    (accepted : verifyMerkleProof btc (tx.txid btc) position path root = .ok ()) :
    tx ∈ txs := by
  obtain ⟨plain, -, climbs⟩ := verifyMerkleProof_ok.mp accepted
  have leaves : txs.map (·.txid btc) = (txs.map Transaction.serialize).map btc.sha256d := by
    simp [Transaction.txid]
  rw [blockMerkleRoot, leaves] at rootIs
  have inBlock : ∀ input ∈ blockInputs btc txs, input ∈ tx.serialize :: blockInputs btc txs
      ++ proofInputs btc (tx.txid btc) position path := by
    intro input inside
    exact List.mem_append_left _ (List.mem_cons_of_mem _ inside)
  have member : tx.serialize ∈ txs.map Transaction.serialize := by
    refine MerkleTree.mem_of_climb_eq_root collisionFree joinNodes_injective
      ?_ ?_ rootIs ?_ ?_ ?_ ?_ climbs
    · intro item inside
      exact inBlock item (List.mem_append_left _ inside)
    · intro input inside
      rw [← leaves] at inside
      exact inBlock input (List.mem_append_right _ inside)
    · exact List.mem_append_left _ List.mem_cons_self
    · intro a b same
      exact notNode (by rw [same, joinNodes_length])
    · intro input inside
      exact List.mem_append_right _ inside
    · -- A node that is a transaction of the block would have been refused.
      intro input hashed inside
      obtain ⟨a, b, join⟩ := MerkleTree.mem_climbInputs hashed
      obtain ⟨other, inBlock, rfl⟩ := List.mem_map.mp inside
      have length : other.serialize.length = 64 := by rw [join, joinNodes_length]
      have shaped := is64ByteTransaction_serialize length (consensus other inBlock length)
      rw [plain _ hashed] at shaped
      cases shaped
  obtain ⟨other, inside, same⟩ := List.mem_map.mp member
  rw [← Transaction.serialize_injective same]
  exact inside

section Sample

def sampleTx (vout : UInt32) (scriptSig : Sized UInt8) (value : UInt64)
    (scriptPubkey : Sized UInt8) : Transaction where
  version := 1
  input := ⟨[⟨.zero 32, vout, scriptSig, 0xFFFFFFFF⟩], by simp⟩
  output := ⟨[⟨value, scriptPubkey⟩], by simp⟩
  lockTime := 0

def sampleTxs : List Transaction :=
  [sampleTx 0 emptyScript 5000 ⟨[0x51], by decide⟩,
    sampleTx 1 ⟨[0x51], by decide⟩ 6000 ⟨[0x51], by decide⟩,
    sampleTx 2 ⟨[0x51, 0x51], by decide⟩ 7000 ⟨[0x51, 0x51], by decide⟩]

def sampleTxids : List Sha256d :=
  [.ofNatBe 32 0xac20c232c0774cc7d9dc8a8814f01a6ea54c926d65ccbf4e31919d100e4d8d43,
    .ofNatBe 32 0x41cce564651689cfb7a768a07aecaeeea63fda4f5e2f62d3241ed996ef4b2d5c,
    .ofNatBe 32 0x76d3c2eaca27d2fddbd43f978adc5a42036cc468d1848d1afbf203d93e7bc859]

def sampleLeft : Sha256d :=
  .ofNatBe 32 0xe7958ae1f1f1bbf8c6b87d31d0f54981b9e2311f918255da358af03b17f3ad5d

def sampleRight : Sha256d :=
  .ofNatBe 32 0xab406ba808faac4a300880b1bf2bd350e704c9dde33e873d5533974badcd93fc

def sampleRoot : Sha256d :=
  .ofNatBe 32 0x021f4d2b1fd3419f93d44a5e32159f03de36e20954ac59e7d171d81b4deae611

def sampleNodes : List (Bytes × Sha256d) := [
  (joinNodes sampleTxids[0] sampleTxids[1], sampleLeft),
  (joinNodes sampleTxids[2] sampleTxids[2], sampleRight),
  (joinNodes sampleLeft sampleRight, sampleRoot)]

def sampleTree : Crate :=
  crateWith (tableHash ((sampleTxs.map Transaction.serialize).zip sampleTxids ++ sampleNodes))

/-- The second of three transactions, in a block that also has a 64-byte one. -/
theorem merkle_proof_sound_second :
    verifyMerkleProof sampleTree (sampleTxs[1].txid sampleTree) 1
        [sampleTxids[0], sampleRight] sampleRoot = .ok () ∧
      sampleTxs[1] ∈ sampleTxs := by
  have accepted : verifyMerkleProof sampleTree (sampleTxs[1].txid sampleTree) 1
      [sampleTxids[0], sampleRight] sampleRoot = .ok () := by decide +kernel
  have consensus : ∀ tx ∈ sampleTxs, tx.serialize.length = 64 → OneInOneOut tx := by
    intro tx member _
    simp only [sampleTxs, List.mem_cons, List.not_mem_nil, or_false] at member
    rcases member with rfl | rfl | rfl
    · exact ⟨rfl, _, rfl, by decide⟩
    · exact ⟨rfl, _, rfl, by decide⟩
    · exact ⟨rfl, _, rfl, by decide⟩
  have collisionFree : ∀ a ∈ sampleTxs[1].serialize :: blockInputs sampleTree sampleTxs
        ++ proofInputs sampleTree (sampleTxs[1].txid sampleTree) 1 [sampleTxids[0], sampleRight],
      ∀ b ∈ sampleTxs[1].serialize :: blockInputs sampleTree sampleTxs
        ++ proofInputs sampleTree (sampleTxs[1].txid sampleTree) 1 [sampleTxids[0], sampleRight],
      sampleTree.sha256d a = sampleTree.sha256d b → a = b := by decide +kernel
  refine ⟨accepted, ?_⟩
  exact merkle_proof_sound sampleTree sampleTxs sampleRoot (by decide +kernel) consensus
    sampleTxs[1] (by decide +kernel) 1 [sampleTxids[0], sampleRight]
    (fun a ha b hb => collisionFree a ha b hb) accepted

end Sample

end EnclaveSigner.Spv
