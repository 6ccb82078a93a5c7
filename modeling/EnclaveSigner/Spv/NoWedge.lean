import EnclaveSigner.Spv.ChainWork

/-! # Every block a header rule asks for is held

The `nBits` rule reads up to 2016 blocks back, and the chain holds nothing below
its checkpoint. On a checkpoint at a retarget boundary, all that the rules ask
for lies between the checkpoint and the header under check. The exception is a
proof-of-work chain that reaches the end of the 32-bit heights (`Spv.HeightWrap`).
-/

namespace EnclaveSigner.Spv

open Lib Bitcoin

/-- The boot check of a checkpoint. -/
def Checkpoint.assertRetargetAligned (checkpoint : Checkpoint) (network : Network) :
    Except String Unit :=
  refuse (network.enforcesPow = true ∧ checkpoint.height % RETARGET_INTERVAL ≠ 0)
    (s!"SPV checkpoint for {networkName network} is at height {checkpoint.height} which is not " ++
      s!"on a retarget boundary (height % {RETARGET_INTERVAL} == " ++
      s!"{checkpoint.height % RETARGET_INTERVAL}); the chain would wedge at the first boundary " ++
      s!"above it. Pick a height that is a multiple of {RETARGET_INTERVAL}.")

theorem Checkpoint.assertRetargetAligned_ok {checkpoint : Checkpoint} {network : Network} :
    checkpoint.assertRetargetAligned network = .ok () ↔
      (network.enforcesPow = true → checkpoint.height.toNat % 2016 = 0) := by
  rw [assertRetargetAligned, refuse_ok, not_and, not_not, ← UInt32.toNat_inj,
    retargetOffset_toNat]
  rfl

def SpvError.IsHeaderNotFound : SpvError → Prop
  | headerNotFound _ => True
  | _ => False

def SpvError.IsRule : SpvError → Prop
  | chainLinkage _ | powFailed _ | bitsMismatch _ _ _ => True
  | timewarp _ _ _ | timeTooNew _ _ _ | timeTooOld _ _ _ => True
  | _ => False

namespace HeaderChain

section

variable {btc : Crate} {chain : HeaderChain} {startHeight : BlockHeight} {count : Nat}
  {depth : BlockHeight} {staged : List Staged}

theorem blockAt_found (stored : chain.Stored btc) (placed : chain.Placed startHeight count depth)
    (within : staged.length ≤ count) {height : BlockHeight}
    (low : chain.baseHeight.toNat ≤ height.toNat)
    (below : height < startHeight + UInt32.ofNat staged.length) :
    ∃ block, chain.blockAt height startHeight staged = .ok block := by
  have start := placed.start
  have room := placed.fits
  have small := count_lt stored placed
  rw [stored.cap, MAX_STORED_HEADERS] at room
  rw [blockAt_committed staged placed (by omega) 0 _ below, blockAt, staged_nil, Option.map_none,
    Option.none_or]
  rw [UInt32.lt_iff_toNat_lt, UInt32.toNat_add, toNat_ofNat32 (by omega)] at below
  rcases Nat.eq_or_lt_of_le low with base | high
  · have same : height = (chain.committed startHeight staged).baseHeight :=
      UInt32.toNat_inj.mp base.symm
    rw [headerAt_below _ (by rw [same])]
    exact ⟨_, if_pos same⟩
  · have inside : height.toNat - chain.baseHeight.toNat - 1
        < (chain.committed startHeight staged).headers.length := by
      rw [committed_length staged placed]
      omega
    have found : (chain.committed startHeight staged).headerAt height
        = some (chain.committed startHeight staged).headers[
            height.toNat - chain.baseHeight.toNat - 1] := by
      rw [headerAt_above (chain.committed startHeight staged) high]
      exact List.getElem?_eq_getElem inside
    rw [found]
    exact ⟨_, rfl⟩

theorem medianTimePastBelow_found (stored : chain.Stored btc)
    (placed : chain.Placed startHeight count depth) (within : staged.length ≤ count) :
    ∃ median, chain.medianTimePastBelow (startHeight + UInt32.ofNat staged.length) startHeight
      staged = .ok median := by
  unfold medianTimePastBelow
  generalize firstEq : satSub32 (startHeight + UInt32.ofNat staged.length)
    (UInt32.ofNat MEDIAN_TIME_SPAN) = first
  by_cases early : first < chain.baseHeight
  · exact ⟨none, if_pos early⟩
  · rw [UInt32.not_lt, UInt32.le_iff_toNat_le] at early
    have each : ∀ height ∈ heightsBetween first (startHeight + UInt32.ofNat staged.length),
        ∃ time, (chain.blockAt height startHeight staged).map Prod.fst = .ok time := by
      intro height member
      obtain ⟨block, held⟩ := blockAt_found stored placed within
        (early.trans (mem_heightsBetween member).1) (mem_heightsBetween member).2
      exact ⟨block.1, by rw [held]; rfl⟩
    obtain ⟨times, found⟩ := mapM_total each
    refine ⟨some (medianTimePast times), ?_⟩
    simp only [found, UInt32.not_lt.mpr (UInt32.le_iff_toNat_le.mpr early), if_false]
    rfl

theorem bitsInput_found (stored : chain.Stored btc)
    (placed : chain.Placed startHeight count depth) (within : staged.length ≤ count)
    (aligned : chain.baseHeight.toNat % 2016 = 0)
    (unwrapped : startHeight.toNat + staged.length < 2 ^ 32)
    (headerTime prevBits prevTime : UInt32) :
    ∃ input, chain.bitsInput btc (startHeight + UInt32.ofNat staged.length) headerTime prevBits
      prevTime startHeight staged = .ok input := by
  have start := placed.start
  have lookup : ∀ height : BlockHeight, chain.baseHeight.toNat ≤ height.toNat →
      height < startHeight + UInt32.ofNat staged.length →
      ∃ block, chain.blockAt height startHeight staged = .ok block :=
    fun _ low below => blockAt_found stored placed within low below
  have next : (startHeight + UInt32.ofNat staged.length).toNat
      = startHeight.toNat + staged.length := by
    have length : (UInt32.ofNat staged.length).toNat = staged.length := toNat_ofNat32 (by omega)
    rw [toNat_add32 (by omega), length]
  have above : chain.baseHeight.toNat < (startHeight + UInt32.ofNat staged.length).toNat := by
    omega
  generalize startHeight + UInt32.ofNat staged.length = height at lookup above
  unfold bitsInput
  cases boundary : isRetargetHeight height with
  | true =>
      have multiple := isRetargetHeight_iff.mp boundary
      have interval : RETARGET_INTERVAL.toNat = 2016 := rfl
      have fits : RETARGET_INTERVAL.toNat ≤ height.toNat := by omega
      have first := toNat_sub32 (a := height) (b := RETARGET_INTERVAL) fits
      obtain ⟨block, held⟩ := lookup (height - RETARGET_INTERVAL) (by omega)
        (by rw [UInt32.lt_iff_toNat_lt]; omega)
      have epoch := checkedSub32_eq_some.mpr ⟨fits, first⟩
      simp only [if_true, epoch, okOr]
      change ∃ input, (chain.blockAt (height - RETARGET_INTERVAL) startHeight staged >>= _)
        = .ok input
      rw [held]
      exact ⟨_, rfl⟩
  | false =>
      simp only [Bool.false_eq_true, if_false]
      split
      · obtain ⟨block, held⟩ := lookup (height - height % RETARGET_INTERVAL)
          (by rw [periodStart_toNat]; omega) (periodStart_lt boundary)
        rw [held]
        exact ⟨_, rfl⟩
      · exact ⟨_, rfl⟩

theorem placeBatch_avoids :
    Avoids SpvError.IsHeaderNotFound (chain.placeBatch startHeight count) := by
  unfold placeBatch
  refine .bind (avoids_refuse id) fun _ _ => .bind (avoids_refuse id) fun _ _ => ?_
  exact .bind (avoids_refuse id) fun _ _ => .bind (avoids_refuse id) fun _ _ => avoids_ok rfl

theorem validateHeaderFull_avoids {bad : SpvError → Prop}
    (other : ∀ e : SpvError, e.IsRule → ¬ bad e) {header : Header} {height : BlockHeight}
    {prev : Predecessor} {median bits : Option UInt32} {network : Network} {nowUnix : UInt64} :
    Avoids bad (validateHeaderFull btc header height prev median bits network nowUnix) := by
  have timewarp : Avoids bad (checkTimewarp height header.time prev.time network) := by
    unfold checkTimewarp
    split
    · exact avoids_ok rfl
    · exact avoids_refuse (other _ trivial)
  have old : Avoids bad (checkTimeTooOld height header.time median) := by
    cases median with
    | none => exact avoids_ok rfl
    | some median => exact avoids_refuse (other _ trivial)
  have difficulty : Avoids bad (checkBits height header.bits bits) := by
    cases bits with
    | none => exact avoids_ok rfl
    | some expected => exact avoids_refuse (other _ trivial)
  have pow : Avoids bad (checkPow btc header height network) := by
    unfold checkPow
    split
    · exact avoids_refuse (other _ trivial)
    · exact avoids_ok rfl
  unfold validateHeaderFull
  refine .bind (avoids_refuse (other _ trivial)) fun _ _ => .bind timewarp fun _ _ => ?_
  refine .bind (avoids_refuse (other _ trivial)) fun _ _ => .bind old fun _ _ => ?_
  exact .bind difficulty fun _ _ => pow

theorem not_headerNotFound_of_isRule (e : SpvError) (rule : e.IsRule) : ¬ e.IsHeaderNotFound := by
  cases e with
  | headerNotFound => exact absurd rule id
  | _ => exact id

/-- What the checks of every header avoid, the loop over a batch avoids. -/
theorem stageHeaders_avoids {P : SpvError → Prop} {pred : BlockHash × UInt32 × UInt32}
    {nowUnix : UInt64} (undecoded : ∀ i message, ¬ P (.headerParse i message))
    (each : ∀ staged header, staged.length < count →
      Avoids P (chain.checkHeader btc startHeight nowUnix staged
        (startHeight + UInt32.ofNat staged.length) (prevOf pred staged) header))
    (raws : List Bytes) (within : staged.length + raws.length ≤ count) :
    Avoids P (chain.stageHeaders btc startHeight pred nowUnix staged.length staged raws) := by
  induction raws generalizing staged with
  | nil => exact avoids_ok rfl
  | cons raw raws ih =>
      rw [List.length_cons] at within
      unfold stageHeaders
      refine .bind (avoids_okOr (undecoded _ _)) fun header _ =>
        .bind (each staged header (by omega)) fun _ _ => ?_
      have longer : (staged ++ [(header, header.blockHash btc)]).length = staged.length + 1 := by
        rw [List.length_append, List.length_singleton]
      rw [← longer]
      exact ih (by rw [longer]; omega)

theorem checkHeader_avoids (stored : chain.Stored btc)
    (placed : chain.Placed startHeight count depth)
    (aligned : chain.network.enforcesPow = true → chain.baseHeight.toNat % 2016 = 0)
    (unwrapped : chain.network.enforcesPow = true → startHeight.toNat + count ≤ 2 ^ 32)
    (pred : BlockHash × UInt32 × UInt32) (nowUnix : UInt64) (header : Header)
    (inside : staged.length < count) :
    Avoids SpvError.IsHeaderNotFound (chain.checkHeader btc startHeight nowUnix staged
      (startHeight + UInt32.ofNat staged.length) (prevOf pred staged) header) := by
  unfold checkHeader
  refine .bind ?_ fun _ _ => .bind ?_ fun _ _ =>
    validateHeaderFull_avoids not_headerNotFound_of_isRule
  · unfold requiredBits
    split
    · rename_i pow
      obtain ⟨input, found⟩ := bitsInput_found stored placed inside.le (aligned pow)
        (by have := unwrapped pow; omega) header.time (prevOf pred staged).2.1
        (prevOf pred staged).2.2
      exact .bind (avoids_ok found) fun _ _ => avoids_ok rfl
    · exact avoids_ok rfl
  · obtain ⟨median, found⟩ := medianTimePastBelow_found stored placed inside.le
    exact avoids_ok found

/-- Whatever calls came before, on a checkpoint that the boot check accepts no
    batch is refused for a block that is not held, and at every position of a
    placed batch both lookups of the header rules succeed. Where the network
    enforces proof of work, the heights of the batch must not wrap. -/
theorem no_header_chain_wedge (btc : Crate) (network : Network) (checkpoint : Checkpoint)
    (aligned : checkpoint.assertRetargetAligned network = .ok ()) (calls : List SubmitCall)
    (startHeight : BlockHeight) (rawHeaders : List Bytes) (nowUnix : UInt64)
    (unwrapped : network.enforcesPow = true →
      startHeight.toNat + rawHeaders.length ≤ 2 ^ 32) :
    let chain := (new network checkpoint).run btc calls
    (∀ height chain', submitHeaders btc startHeight rawHeaders nowUnix chain
        ≠ .error (.headerNotFound height) chain') ∧
      ∀ depth, chain.placeBatch startHeight rawHeaders.length = .ok depth →
        ∀ staged : List Staged, staged.length < rawHeaders.length →
          (∃ median, chain.medianTimePastBelow (startHeight + UInt32.ofNat staged.length)
            startHeight staged = .ok median) ∧
          (network.enforcesPow = true → ∀ headerTime prevBits prevTime, ∃ input,
            chain.bitsInput btc (startHeight + UInt32.ofNat staged.length) headerTime prevBits
              prevTime startHeight staged = .ok input) := by
  intro chain
  have valid := run_valid btc network checkpoint calls
  have stored := valid.stored
  have sameNetwork : chain.network = network := valid.network_eq
  have boundary : chain.network.enforcesPow = true → chain.baseHeight.toNat % 2016 = 0 := by
    rw [sameNetwork, stored.baseHeight, valid.checkpoint_eq]
    exact Checkpoint.assertRetargetAligned_ok.mp aligned
  rw [← sameNetwork] at unwrapped ⊢
  constructor
  · intro height chain' failed
    obtain ⟨-, tooMany | misplaced | ⟨depth, place, unknown | ⟨pred, invalid⟩ | ⟨_, _, lighter⟩⟩⟩ :=
      submitHeaders_error_cases failed
    · cases tooMany.2
    · exact placeBatch_avoids _ misplaced trivial
    · rw [predecessor_eq stored ((placeBatch_ok stored).mp place)] at unknown
      cases unknown
    · have placed := (placeBatch_ok stored).mp place
      have start : ([] : List Staged).length + rawHeaders.length ≤ rawHeaders.length := by simp
      exact stageHeaders_avoids (fun _ _ => id)
        (fun _ => checkHeader_avoids stored placed boundary unwrapped pred nowUnix) rawHeaders start
        _ invalid trivial
    · cases (refuse_error.mp lighter).2
  · intro depth place staged inside
    have placed := (placeBatch_ok stored).mp place
    refine ⟨medianTimePastBelow_found stored placed inside.le, ?_⟩
    intro pow
    exact bitsInput_found stored placed inside.le (boundary pow)
      (by have := unwrapped pow; omega)

end

section Samples

def boundaryCheckpoint : Checkpoint := ⟨2016, Word.zero 32, 0x207fffff, 1000, none⟩

/-- A mainnet batch of one header, which is also accepted. -/
theorem no_header_chain_wedge_mainnet :
    boundaryCheckpoint.assertRetargetAligned .mainnet = .ok () ∧
      ((new .mainnet boundaryCheckpoint).run easyThenHard []).accepts easyThenHard
        ⟨2017, [easyFirst.serialize], 2000⟩ = true ∧
      ∀ height chain', submitHeaders easyThenHard 2017 [easyFirst.serialize] 2000
        ((new .mainnet boundaryCheckpoint).run easyThenHard [])
          ≠ .error (.headerNotFound height) chain' := by
  refine ⟨by decide +kernel, by decide +kernel, ?_⟩
  exact (no_header_chain_wedge easyThenHard .mainnet boundaryCheckpoint (by decide +kernel) []
    2017 [easyFirst.serialize] 2000 (fun _ => by decide)).1

end Samples

end HeaderChain

end EnclaveSigner.Spv
