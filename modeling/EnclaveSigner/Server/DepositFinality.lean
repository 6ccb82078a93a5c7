import EnclaveSigner.Lib.ForkTree
import EnclaveSigner.Server.Bfa

/-! # Deposits below the tagged head

The verifiers of a deposit read a chain that changes between their reads: the
tagged head, the receipt, the block of the receipt, the tagged head again and,
where it moved on, the block at the height of the first head.
-/

namespace EnclaveSigner.Evm

open Lib Rgb

def ReceiptData.block (receipt : ReceiptData) : BlockData :=
  ⟨receipt.blockNumber, receipt.blockHash⟩

/-- A node over a chain that changes from one state to the next. A state is a
    moment: every read leads to a later one, at which its answer is true. -/
structure TruthfulNode {ν : Type} [Preorder ν] (provider : EvmReceiptProvider ν)
    (tree : ForkTree BlockData) (tips : ν → BlockData) : Prop where
  numbered : ∀ block, tree.height block = block.number.toNat
  neverReturns : tree.NeverReturns tips
  receipt : ∀ hash s found s', provider.getTransactionReceipt hash s = .ok found s' → s ≤ s'
  tag : ∀ tag s found s', provider.getBlockByTag tag s = .ok found s' →
    s ≤ s' ∧ ∀ block ∈ found, tree.Canonical tips s' block
  number : ∀ number s found s', provider.getBlockByNumber number s = .ok found s' →
    s ≤ s' ∧ ∀ block ∈ found, tree.Canonical tips s' block

section Reads

variable {ν : Type} {provider : EvmReceiptProvider ν} {tag : EvmFinalityTag}
  {head : BlockData} {receipt : ReceiptData} {s s' : ν}

theorem fetchFinalityBlock_ok (read : fetchFinalityBlock provider tag s = .ok head s') :
    provider.getBlockByTag tag s = .ok (some head) s' := by
  obtain ⟨found, middle, asked, lifted⟩ := run_bind_ok.mp read
  obtain ⟨present, same⟩ := lift_ok.mp lifted
  rw [asked, okOr_ok.mp present, same]

theorem fetchSuccessfulReceipt_ok {hash : Word 32}
    (read : fetchSuccessfulReceipt provider hash s = .ok receipt s') :
    provider.getTransactionReceipt hash s = .ok (some receipt) s' := by
  obtain ⟨found, middle, asked, rest⟩ := run_bind_ok.mp read
  obtain ⟨_, present, rest⟩ := lift_bind_ok.mp rest
  obtain ⟨_, _, done⟩ := lift_bind_ok.mp rest
  cases done
  rw [asked, okOr_ok.mp present]

theorem checkBelowHead_ok (passes : checkBelowHead tag head receipt = .ok ()) :
    receipt.blockNumber.toNat ≤ head.number.toNat := by
  cases tag with
  | latest => exact Nat.not_lt.mp (refuse_ok.mp passes)
  | safe => exact Nat.not_lt.mp (refuse_ok.mp passes)
  | finalized => exact Nat.not_lt.mp (refuse_ok.mp passes)

theorem checkFinalityInclusion_ok
    (passes : checkFinalityInclusion provider tag head receipt s = .ok () s') :
    receipt.blockNumber.toNat ≤ head.number.toNat ∧
      provider.getBlockByNumber receipt.blockNumber s = .ok (some receipt.block) s' := by
  obtain ⟨_, below, rest⟩ := lift_bind_ok.mp passes
  obtain ⟨found, middle, asked, rest⟩ := run_bind_ok.mp rest
  obtain ⟨canonical, present, rest⟩ := lift_bind_ok.mp rest
  obtain ⟨_, number, rest⟩ := lift_bind_ok.mp rest
  obtain ⟨_, hash, rest⟩ := lift_bind_ok.mp rest
  obtain ⟨-, last⟩ := lift_ok.mp rest
  refine ⟨checkBelowHead_ok below, ?_⟩
  have same : canonical = receipt.block := by
    rw [refuse_ok, ne_eq, not_not] at number hash
    cases canonical
    exact congrArg₂ BlockData.mk number hash
  rw [asked, okOr_ok.mp present, same, last]

variable [Preorder ν] {tree : ForkTree BlockData} {tips : ν → BlockData}

theorem checkFinalitySnapshot_ok (truthful : TruthfulNode provider tree tips)
    (passes : checkFinalitySnapshot provider tag head s = .ok () s') :
    s ≤ s' ∧ tree.Canonical tips s' head := by
  obtain ⟨current, moment, again, rest⟩ := run_bind_ok.mp passes
  obtain ⟨later, onChain⟩ := truthful.tag _ _ _ _ (fetchFinalityBlock_ok again)
  obtain ⟨_, _, rest⟩ := lift_bind_ok.mp rest
  obtain ⟨original, last, found, rest⟩ := run_bind_ok.mp rest
  obtain ⟨unchanged, same⟩ := lift_ok.mp rest
  rw [refuse_ok, ne_eq, not_not] at unchanged
  subst same unchanged
  unfold originalBlock at found
  split at found
  · cases found
    exact ⟨later, onChain _ rfl⟩
  · obtain ⟨block, asked, asks, lifted⟩ := run_bind_ok.mp found
    obtain ⟨present, same⟩ := lift_ok.mp lifted
    obtain ⟨further, onChain⟩ := truthful.number _ _ _ _ asks
    rw [same]
    exact ⟨later.trans further, onChain _ (okOr_ok.mp present)⟩

/-- The reads of an accepted deposit end at a moment at which its block is below
    the head that was read first, and both are on the chain. -/
def FinalAt (provider : EvmReceiptProvider ν) (tree : ForkTree BlockData)
    (tips : ν → BlockData) (tag : EvmFinalityTag) (hash : Word 32) (s s' : ν) : Prop :=
  ∃ head first receipt second,
    provider.getBlockByTag tag s = .ok (some head) first ∧
    provider.getTransactionReceipt hash first = .ok (some receipt) second ∧
    tree.Ancestor receipt.block head ∧ tree.Canonical tips s' head ∧
    tree.Canonical tips s' receipt.block

theorem final_of_reads (truthful : TruthfulNode provider tree tips) {hash : Word 32}
    {first second third : ν} (headRead : fetchFinalityBlock provider tag s = .ok head first)
    (receiptRead : fetchSuccessfulReceipt provider hash first = .ok receipt second)
    (included : checkFinalityInclusion provider tag head receipt second = .ok () third)
    (unchanged : checkFinalitySnapshot provider tag head third = .ok () s') :
    FinalAt provider tree tips tag hash s s' := by
  have headRead := fetchFinalityBlock_ok headRead
  have receiptRead := fetchSuccessfulReceipt_ok receiptRead
  obtain ⟨low, blockRead⟩ := checkFinalityInclusion_ok included
  have afterHead := (truthful.tag _ _ _ _ headRead).2 head rfl
  have afterReceipt := truthful.receipt _ _ _ _ receiptRead
  obtain ⟨afterBlock, found⟩ := truthful.number _ _ _ _ blockRead
  obtain ⟨afterSnapshot, kept⟩ := checkFinalitySnapshot_ok truthful unchanged
  have low : tree.height receipt.block ≤ tree.height head := by
    rw [truthful.numbered, truthful.numbered]
    exact low
  obtain ⟨below, onChain⟩ := truthful.neverReturns.below_head (afterReceipt.trans afterBlock)
    afterSnapshot afterHead kept (found _ rfl) low
  exact ⟨head, first, receipt, second, headRead, receiptRead, below, kept, onChain⟩

end Reads

variable {ν : Type} [Preorder ν]

/-- A deposit is accepted only in a block below the tagged head that was read
    first, with both blocks still on the chain at the last read, whatever the
    chain and the head did between the reads. -/
theorem deposit_below_tagged_head (provider : EvmReceiptProvider ν) (codec : Codec)
    (tree : ForkTree BlockData) (tips : ν → BlockData)
    (truthful : TruthfulNode provider tree tips) (contract : Address) (tag : EvmFinalityTag)
    (hash : Word 32) (s s' : ν) :
    (∀ operationId gross commission deposit,
      verifyFundsInEvent provider codec contract tag hash operationId gross commission s
        = .ok deposit s' → FinalAt provider tree tips tag hash s s') ∧
    ∀ lockId operationId minted beforeBlock lock,
      verifyRgbFundsIn provider codec contract tag hash lockId operationId minted beforeBlock s
        = .ok lock s' → FinalAt provider tree tips tag hash s s' := by
  constructor
  · intro operationId gross commission deposit accepted
    obtain ⟨_, -, accepted⟩ := lift_bind_ok.mp accepted
    simp only [↓lift_bind_ok, run_bind_ok] at accepted
    obtain ⟨head, first, headRead, receipt, second, receiptRead, _, -, _, -, _, -, _, -, _, -,
      _, -, _, third, included, _, last, unchanged, ⟨⟩⟩ := accepted
    exact final_of_reads truthful headRead receiptRead included unchanged
  · intro lockId operationId minted beforeBlock lock accepted
    simp only [verifyRgbFundsIn, ↓lift_bind_ok, run_bind_ok] at accepted
    obtain ⟨head, first, headRead, receipt, second, receiptRead, _, -, _, -, _, -, _, -, _, -,
      _, -, _, third, included, _, last, unchanged, ⟨⟩⟩ := accepted
    exact final_of_reads truthful headRead receiptRead included unchanged

section Samples

open Server

def mainBlock (n : Nat) : BlockData := ⟨UInt64.ofNat n, .ofNatBe 32 n⟩

def sampleTree : ForkTree BlockData where
  parent block := if block.number = 0 then none else some (mainBlock (block.number.toNat - 1))
  height block := block.number.toNat
  height_parent := by
    intro block above
    split_ifs with first
    · exact fun impossible => nomatch impossible
    · rintro ⟨⟩
      have positive : block.number.toNat ≠ 0 := fun zero => first (UInt64.toNat_inj.mp zero)
      have small := block.number.toNat_lt
      rw [mainBlock, UInt64.toNat_ofNat', Nat.mod_eq_of_lt (by omega)]
      omega

theorem mainBlock_ancestor {m n : Nat} (le : m ≤ n) (small : n < 2 ^ 64) :
    sampleTree.Ancestor (mainBlock m) (mainBlock n) := by
  induction n with
  | zero =>
      rw [Nat.le_zero.mp le]
      exact Relation.ReflTransGen.refl
  | succ n ih =>
      rcases Nat.le_succ_iff.mp le with below | rfl
      · have value : (mainBlock (n + 1)).number.toNat = n + 1 := by
          rw [mainBlock, UInt64.toNat_ofNat', Nat.mod_eq_of_lt small]
        have step : sampleTree.parent (mainBlock (n + 1)) = some (mainBlock n) := by
          have nonzero : (mainBlock (n + 1)).number ≠ 0 := by
            intro zero
            rw [zero] at value
            exact absurd value.symm (Nat.succ_ne_zero n)
          simp only [sampleTree, if_neg nonzero, value, Nat.add_sub_cancel]
        exact (ih below (by omega)).trans (Relation.ReflTransGen.single step)
      · exact Relation.ReflTransGen.refl

def sampleTip (reads : Nat) : BlockData :=
  if reads < 3 then ⟨96, .fill 32 0xff⟩ else mainBlock 96

def sampleMovingNode : EvmReceiptProvider Nat where
  getTransactionReceipt _ := fun reads => .ok (some sampleReceipt) (reads + 1)
  getBlockByTag _ := fun reads =>
    .ok (some (if reads < 3 then mainBlock 95 else mainBlock 96)) (reads + 1)
  getBlockByNumber number := fun reads =>
    .ok (if number ≤ 95 then some (mainBlock number.toNat) else none) (reads + 1)
  getChainId := pure 1

theorem canonical_main {n : Nat} (le : n ≤ 95) (reads : Nat) :
    sampleTree.Canonical sampleTip reads (mainBlock n) := by
  have below : sampleTree.Ancestor (mainBlock n) (mainBlock 95) :=
    mainBlock_ancestor le (by norm_num)
  refine below.trans ?_
  unfold sampleTip
  split
  · exact Relation.ReflTransGen.single (by decide +kernel)
  · exact mainBlock_ancestor (by norm_num) (by norm_num)

theorem sampleMovingNode_truthful : TruthfulNode sampleMovingNode sampleTree sampleTip := by
  refine ⟨fun _ => rfl, ?_, ?_, ?_, ?_⟩
  · intro first middle last block before after old recent
    have same : sampleTip middle = sampleTip first ∨ sampleTip middle = sampleTip last := by
      unfold sampleTip
      by_cases early : middle < 3
      · exact .inl (by rw [if_pos early, if_pos (Nat.lt_of_le_of_lt before early)])
      · exact .inr (by rw [if_neg early, if_neg (by omega)])
    unfold ForkTree.Canonical at old recent ⊢
    rcases same with same | same
    · rwa [same]
    · rwa [same]
  · rintro hash s found s' ⟨⟩
    exact Nat.le_succ s
  · rintro tag s found s' ⟨⟩
    refine ⟨Nat.le_succ s, ?_⟩
    rintro block ⟨⟩
    split
    · exact canonical_main (by norm_num) _
    · rename_i late
      unfold ForkTree.Canonical sampleTip
      rw [if_neg (by omega)]
      exact Relation.ReflTransGen.refl
  · rintro number s found s' ⟨⟩
    refine ⟨Nat.le_succ s, ?_⟩
    intro block present
    split at present
    · rename_i low
      cases present
      exact canonical_main (UInt64.le_iff_toNat_le.mp low) _
    · cases present

/-- The fork is left and the head moves on while the deposit is verified. -/
theorem deposit_below_tagged_head_moving :
    (∃ deposit last, verifyFundsInEvent sampleMovingNode mintCodec mintConfig.fundsInContract .safe
        (.ofNatBe 32 1) sampleDepositId.val 1000 0 0 = .ok deposit last ∧
      FinalAt sampleMovingNode sampleTree sampleTip .safe (.ofNatBe 32 1) 0 last) ∧
    ∃ lock last, verifyRgbFundsIn sampleMovingNode mintCodec mintConfig.fundsInContract .safe
        (.ofNatBe 32 1) sampleLockId sampleDepositId 1000 100 0 = .ok lock last ∧
      FinalAt sampleMovingNode sampleTree sampleTip .safe (.ofNatBe 32 1) 0 last := by
  have final := deposit_below_tagged_head sampleMovingNode mintCodec sampleTree sampleTip
    sampleMovingNode_truthful mintConfig.fundsInContract .safe (.ofNatBe 32 1) 0
  have deposited : isOk (verifyFundsInEvent sampleMovingNode mintCodec mintConfig.fundsInContract
      .safe (.ofNatBe 32 1) sampleDepositId.val 1000 0 0) = true := by decide +kernel
  have locked : isOk (verifyRgbFundsIn sampleMovingNode mintCodec mintConfig.fundsInContract .safe
      (.ofNatBe 32 1) sampleLockId sampleDepositId 1000 100 0) = true := by decide +kernel
  obtain ⟨deposit, last, deposited⟩ := exists_of_isOk deposited
  obtain ⟨lock, last', locked⟩ := exists_of_isOk locked
  exact ⟨⟨deposit, last, deposited, (final last).1 _ _ _ _ deposited⟩,
    lock, last', locked, (final last').2 _ _ _ _ _ locked⟩

end Samples

end EnclaveSigner.Evm
