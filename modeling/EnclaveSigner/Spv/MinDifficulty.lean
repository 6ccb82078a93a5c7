import EnclaveSigner.Bitcoin.Difficulty
import EnclaveSigner.Spv.ChainInvariant

/-! # The minimum-difficulty rule of the testnets

Off a retarget boundary, Bitcoin Core walks back from the tip over the blocks
that carry the proof-of-work limit and takes the bits of the first other block,
stopping at a boundary. The enclave looks up the period's first block instead.
-/

namespace EnclaveSigner.Spv

open Lib Bitcoin

structure CoreBlock where
  height : Nat
  bits : UInt32
  time : UInt32

def coreWalkBack (limit : UInt32) : List CoreBlock → Option UInt32
  | [] => none
  | [block] => some block.bits
  | block :: prev :: rest =>
      if block.height % 2016 ≠ 0 ∧ block.bits = limit then coreWalkBack limit (prev :: rest)
      else some block.bits

/-- The bits Core requires of a block with time `time`, off a boundary, on top
    of `blocks` (newest first): the limit if it is more than 20 minutes after
    its parent, and what the walk finds otherwise. -/
def coreNextBits (limit time : UInt32) : List CoreBlock → Option UInt32
  | [] => none
  | parent :: rest =>
      if time.toNat > parent.time.toNat + 20 * 60 then some limit
      else coreWalkBack limit (parent :: rest)

namespace HeaderChain

/-- The chain as Bitcoin Core walks it, from the tip down. -/
def coreBlocks (chain : HeaderChain) : List CoreBlock :=
  (chain.headers.mapIdx fun i header =>
    ⟨chain.baseHeight.toNat + i + 1, header.bits, header.time⟩).reverse
    ++ [⟨chain.baseHeight.toNat, chain.baseBits, chain.baseTime⟩]

section

variable {btc : Crate} {network : Network} {checkpoint : Checkpoint} {chain : HeaderChain}

theorem coreBlocks_push (entry : Staged) :
    (chain.push entry).coreBlocks
      = ⟨chain.baseHeight.toNat + chain.headers.length + 1, entry.1.bits, entry.1.time⟩
        :: chain.coreBlocks := by
  simp [coreBlocks, push, List.mapIdx_append]

theorem coreBlocks_ne_nil (chain : HeaderChain) :
    ∃ block rest, chain.coreBlocks = block :: rest := by
  cases blocks : chain.coreBlocks with
  | nil => simp [coreBlocks] at blocks
  | cons block rest => exact ⟨block, rest, rfl⟩

theorem Valid.no_wrap (valid : chain.Valid btc network checkpoint)
    (pow : network.enforcesPow = true) :
    chain.baseHeight.toNat + chain.headers.length < 2 ^ 32 := by
  refine Valid.induction (motive := fun chain =>
    chain.baseHeight.toNat + chain.headers.length < 2 ^ 32) ?_ ?_ valid
  · intro chain _ none_stored
    simpa [none_stored] using chain.baseHeight.toNat_lt
  · intro chain header valid _ rules below
    rw [push_length]
    change chain.baseHeight.toNat + _ < _
    by_contra wrapped
    have zero : chain.tipHeight + 1 = 0 := by
      apply UInt32.toNat_inj.mp
      rw [UInt32.toNat_add, tipHeight_toNat chain below]
      simp
      omega
    obtain ⟨input, found, -⟩ := rules.bits (by rw [valid.network_eq]; exact pow)
    rw [zero] at found
    cases found

theorem blockAt_push {header : Header} {hash : BlockHash} {height : BlockHeight}
    (other : BlockHeight)
    (below : height.toNat ≤ chain.baseHeight.toNat + chain.headers.length) :
    (chain.push (header, hash)).blockAt height other [] = chain.blockAt height other [] := by
  have lookup : (chain.push (header, hash)).headerAt height = chain.headerAt height := by
    rcases Nat.lt_or_ge chain.baseHeight.toNat height.toNat with high | low
    · rw [headerAt_above chain high, headerAt_above (chain.push (header, hash)) high]
      simp only [HeaderChain.push]
      exact List.getElem?_append_left (by omega)
    · rw [headerAt_below chain low, headerAt_below (chain.push (header, hash)) low]
  simp only [blockAt, lookup]
  rfl

theorem blockAt_push_tip {header : Header} {hash : BlockHash} {height : BlockHeight}
    (other : BlockHeight)
    (tip : height.toNat = chain.baseHeight.toNat + chain.headers.length + 1) :
    (chain.push (header, hash)).blockAt height other [] = .ok (header.time, header.bits) := by
  have high : (chain.push (header, hash)).baseHeight.toNat < height.toNat := by
    simp only [HeaderChain.push]
    omega
  have lookup : (chain.push (header, hash)).headerAt height = some header := by
    rw [headerAt_above _ high]
    simp only [HeaderChain.push]
    rw [List.getElem?_append_right (by omega),
      show height.toNat - chain.baseHeight.toNat - 1 - chain.headers.length = 0 by omega]
    rfl
  simp only [blockAt, lookup, staged_nil, Option.map_none, Option.none_or]

theorem FollowsRules.limit_or_period {header : Header} (rules : FollowsRules btc chain header)
    (minDifficulty : chain.network.allowsMinDifficulty btc = true)
    (inside : isRetargetHeight (chain.tipHeight + 1) = false) {time bits : UInt32}
    (period : chain.blockAt (chain.tipHeight + 1 - (chain.tipHeight + 1) % RETARGET_INTERVAL)
      (chain.tipHeight + 1) [] = .ok (time, bits)) :
    header.bits = chain.network.powLimitBits btc ∨ header.bits = bits := by
  have pow := Network.enforcesPow_of_allowsMinDifficulty minDifficulty
  obtain ⟨input, found, passes⟩ := rules.bits pow
  simp only [bitsInput, inside, minDifficulty, period, if_true, Bool.false_eq_true,
    if_false] at found
  cases found
  simp only [expectedBits, pow, inside, minDifficulty, Bool.not_true, Bool.not_false,
    Bool.false_eq_true, if_true, if_false] at passes
  split at passes
  · exact .inl (checkBits_some_ok.mp passes)
  · exact .inr (checkBits_some_ok.mp passes)

/-- Core's walk from the tip ends with the bits of the block that starts the
    tip's period. -/
def WalkEndsAtPeriodStart (limit : UInt32) (chain : HeaderChain) : Prop :=
  ∀ height other : BlockHeight,
    height.toNat = (chain.baseHeight.toNat + chain.headers.length)
      - (chain.baseHeight.toNat + chain.headers.length) % 2016 →
    ∃ time bits, chain.blockAt height other [] = .ok (time, bits) ∧
      coreWalkBack limit chain.coreBlocks = some bits

theorem Valid.walkEndsAtPeriodStart (valid : chain.Valid btc network checkpoint)
    (minDifficulty : network.allowsMinDifficulty btc = true)
    (aligned : isRetargetHeight checkpoint.height = true) :
    chain.WalkEndsAtPeriodStart (network.powLimitBits btc) := by
  have pow := Network.enforcesPow_of_allowsMinDifficulty minDifficulty
  refine Valid.induction (motive := WalkEndsAtPeriodStart (network.powLimitBits btc))
    ?_ ?_ valid
  · intro chain valid none_stored height other start
    have base := valid.baseHeight_eq
    have boundary := isRetargetHeight_iff.mp aligned
    rw [← base] at boundary
    simp only [none_stored, List.length_nil, Nat.add_zero, boundary, Nat.sub_zero] at start
    have atBase : height = chain.baseHeight := UInt32.toNat_inj.mp start
    refine ⟨chain.baseTime, chain.baseBits, ?_, ?_⟩
    · simp only [blockAt, staged_nil, headerAt_below chain (Nat.le_of_eq start),
        Option.map_none, Option.none_or, if_pos atBase]
    · simp [coreBlocks, none_stored, coreWalkBack]
  · intro chain header valid pushed rules ih height other start
    have small := pushed.no_wrap pow
    have base : (chain.push (header, header.blockHash btc)).baseHeight = chain.baseHeight := rfl
    rw [push_length, base] at small start
    have next := tipHeight_succ_toNat chain small
    obtain ⟨parent, rest, blocks⟩ := coreBlocks_ne_nil chain
    rw [coreBlocks_push, blocks, coreWalkBack]
    by_cases boundary : (chain.baseHeight.toNat + chain.headers.length + 1) % 2016 = 0
    · -- The new header starts a period: the walk stops there.
      refine ⟨header.time, header.bits, blockAt_push_tip other (by omega), ?_⟩
      rw [if_neg (by simp [boundary])]
    · -- Inside a period, the walk goes on exactly over the limit.
      have sameStart : height.toNat = (chain.baseHeight.toNat + chain.headers.length)
          - (chain.baseHeight.toNat + chain.headers.length) % 2016 := by omega
      obtain ⟨time, bits, found, walked⟩ := ih height (chain.tipHeight + 1) sameStart
      have period : chain.tipHeight + 1 - (chain.tipHeight + 1) % RETARGET_INTERVAL = height := by
        apply UInt32.toNat_inj.mp
        rw [periodStart_toNat, next]
        omega
      have inside : isRetargetHeight (chain.tipHeight + 1) = false := by
        rw [← Bool.not_eq_true, isRetargetHeight_iff, next]
        exact boundary
      have choice := rules.limit_or_period (by rw [valid.network_eq]; exact minDifficulty)
        inside (by rw [period]; exact found)
      rw [valid.network_eq] at choice
      refine ⟨time, bits, ?_, ?_⟩
      · rw [blockAt_push other (by omega), blockAt_nil chain height other (chain.tipHeight + 1)]
        exact found
      · rw [blocks] at walked
        by_cases limit : header.bits = network.powLimitBits btc
        · rw [if_pos ⟨boundary, limit⟩, walked]
        · rw [if_neg (fun stop => limit stop.2)]
          exact congrArg some (choice.resolve_left limit)

theorem tipBlock_time (stored : chain.Stored btc) :
    ∃ parent rest, chain.coreBlocks = parent :: rest ∧ parent.time = chain.tipBlock.2.2 := by
  rcases List.eq_nil_or_concat chain.headers with none_stored | ⟨below, header, stack⟩
  · refine ⟨⟨chain.baseHeight.toNat, chain.baseBits, chain.baseTime⟩, [], ?_, ?_⟩
    · simp [coreBlocks, none_stored]
    · simp [tipBlock, entries, none_stored, prevOf]
  · have last : chain.entries.getLast? = some (header, header.blockHash btc) := by
      rw [stored.entries_eq, stack, List.getLast?_map]
      simp
    rw [coreBlocks, stack]
    refine ⟨_, _, by simp [List.mapIdx_append]; exact ⟨rfl, rfl⟩, ?_⟩
    simp only [tipBlock, prevOf, last]

theorem after_twenty_minutes {time prevTime : UInt32} {spacing : UInt64}
    (tenMinutes : spacing = 600) :
    time.toUInt64 > prevTime.toUInt64 + 2 * spacing ↔
      time.toNat > prevTime.toNat + 20 * 60 := by
  have bound := prevTime.toNat_lt
  subst tenMinutes
  rw [gt_iff_lt, UInt64.lt_iff_toNat_lt, UInt64.toNat_add, UInt32.toNat_toUInt64,
    UInt32.toNat_toUInt64]
  have twice : (2 * 600 : UInt64).toNat = 1200 := rfl
  rw [twice]
  omega

theorem requiredBits_off_boundary {height start : BlockHeight} {staged : List Staged}
    {time prevBits prevTime periodTime bits : UInt32}
    (allows : chain.network.allowsMinDifficulty btc = true)
    (spacing : (chain.network.asBitcoinParams btc).powTargetSpacing = 600)
    (inside : isRetargetHeight height = false)
    (period : chain.blockAt (height - height % RETARGET_INTERVAL) start staged
      = .ok (periodTime, bits)) :
    chain.requiredBits btc height time prevBits prevTime start staged
      = .ok (some (if time.toNat > prevTime.toNat + 20 * 60
          then chain.network.powLimitBits btc else bits)) := by
  have pow := Network.enforcesPow_of_allowsMinDifficulty allows
  have input : chain.bitsInput btc height time prevBits prevTime start staged
      = .ok ⟨height, time, prevBits, prevTime, bits, 0, 0⟩ := by
    simp only [bitsInput, inside, allows, period, if_true, Bool.false_eq_true, if_false]
    rfl
  simp only [requiredBits, pow, if_true, input]
  change Except.ok (expectedBits btc _ _) = _
  simp only [expectedBits, pow, inside, allows, Bool.not_true, Bool.not_false,
    Bool.false_eq_true, if_true, if_false, after_twenty_minutes spacing]
  split
  · rfl
  · rfl

/-- On the testnets, above an aligned checkpoint, the `nBits` that the enclave
    requires of the next header off a boundary are the ones Core requires. -/
theorem requiredBits_eq_coreNextBits (btc : Crate) (network : Network)
    (testnet : network = .testnet3 ∨ network = .testnet4)
    (spacing : (network.asBitcoinParams btc).powTargetSpacing = 600)
    (minDifficulty : (network.asBitcoinParams btc).allowMinDifficultyBlocks = true)
    (checkpoint : Checkpoint) (aligned : isRetargetHeight checkpoint.height = true)
    (calls : List SubmitCall) (time : UInt32) :
    let chain := (new network checkpoint).run btc calls
    let next := chain.tipHeight + 1
    isRetargetHeight next = false →
    ∃ bits,
      chain.requiredBits btc next time chain.tipBlock.2.1 chain.tipBlock.2.2 next []
        = .ok (some bits) ∧
      coreNextBits (network.powLimitBits btc) time chain.coreBlocks = some bits := by
  intro chain next inside
  have valid : chain.Valid btc network checkpoint := run_valid btc network checkpoint calls
  have pow : network.enforcesPow = true := by
    rcases testnet with rfl | rfl
    · rfl
    · rfl
  have allows : network.allowsMinDifficulty btc = true := by
    rw [Network.allowsMinDifficulty, pow, minDifficulty]
    rfl
  have small := valid.no_wrap pow
  have tip := tipHeight_toNat chain small
  have notBoundary : ¬ next.toNat % 2016 = 0 := by
    rw [← isRetargetHeight_iff, inside]
    exact Bool.false_ne_true
  -- The tip is not the last 32-bit height, whose successor is the boundary zero.
  have next_toNat : next.toNat = chain.baseHeight.toNat + chain.headers.length + 1 := by
    have wrapped : next.toNat = (chain.tipHeight.toNat + 1) % 2 ^ 32 := UInt32.toNat_add _ _
    omega
  obtain ⟨periodTime, bits, period, walked⟩ :=
    valid.walkEndsAtPeriodStart allows aligned (next - next % RETARGET_INTERVAL) next
      (by rw [periodStart_toNat]; omega)
  obtain ⟨parent, rest, blocks, parentTime⟩ := tipBlock_time valid.stored
  rw [blocks] at walked
  refine ⟨_, requiredBits_off_boundary (by rw [valid.network_eq]; exact allows)
    (by rw [valid.network_eq]; exact spacing) inside period, ?_⟩
  rw [blocks, coreNextBits, parentTime, valid.network_eq]
  split
  · rfl
  · exact walked

def testnet3Genesis : Checkpoint where
  height := 0
  hash := .ofNatBe 32 0x43497fd7f826957108f4a30fd9cec3aeba79972084e90ead01ea330900000000
  bits := 0x1d00ffff
  time := 1296688602
  chainWork := none

def testnet3First : Header where
  version := 1
  prevBlockhash := testnet3Genesis.hash
  merkleRoot :=
    .ofNatBe 32 0xbac8b0fa927c0ac8234287e33c5f74d38d354820e24756ad709d7038fc5f31f0
  time := 1296688928
  bits := 0x1d00ffff
  nonce := 1924588547

def testnet3Crate : Crate := crateWith (tableHash [(testnet3First.serialize,
  .ofNatBe 32 0x06128e87be8b1b4dea47a7247d5528d2702c96826c7a648497e773b800000000)])

/-- The second block of testnet3 came 18 seconds after the first. -/
theorem requiredBits_eq_coreNextBits_testnet3 :
    let chain := (new .testnet3 testnet3Genesis).run testnet3Crate
      [⟨1, [testnet3First.serialize], 1296688946⟩]
    chain.headers = [testnet3First] ∧
    ∃ bits,
      chain.requiredBits testnet3Crate (chain.tipHeight + 1) 1296688946 chain.tipBlock.2.1
        chain.tipBlock.2.2 (chain.tipHeight + 1) [] = .ok (some bits) ∧
      coreNextBits (Network.testnet3.powLimitBits testnet3Crate) 1296688946 chain.coreBlocks
        = some bits := by
  refine ⟨by decide +kernel, ?_⟩
  exact requiredBits_eq_coreNextBits testnet3Crate .testnet3 (.inl rfl) rfl rfl testnet3Genesis
    (by decide) [⟨1, [testnet3First.serialize], 1296688946⟩] 1296688946 (by decide +kernel)

end

end HeaderChain

end EnclaveSigner.Spv
