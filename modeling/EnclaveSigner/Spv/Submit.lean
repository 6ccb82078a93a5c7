import EnclaveSigner.Spv.Chain

/-! # What a submission does

The placement checks work on wrapping 32-bit heights. On a chain whose store is
in order they say what they should in natural numbers. A submission either fails
and leaves the chain as it was, or keeps the headers below the batch and puts the
batch on top.
-/

namespace EnclaveSigner.Spv.HeaderChain

open Lib Bitcoin

/-- The store is in order: the base is the checkpoint, the cached hashes are the
    hashes of the headers, and the retention cap holds. -/
structure Stored (btc : Crate) (chain : HeaderChain) : Prop where
  baseHeight : chain.baseHeight = chain.checkpoint.height
  baseHash : chain.baseHash = chain.checkpoint.hash
  baseBits : chain.baseBits = chain.checkpoint.bits
  baseTime : chain.baseTime = chain.checkpoint.time
  cap : chain.maxStoredHeaders = MAX_STORED_HEADERS
  length : chain.headers.length ≤ MAX_STORED_HEADERS
  hashes : chain.hashes = chain.headers.map (·.blockHash btc)

theorem new_stored (btc : Crate) (network : Network) (checkpoint : Checkpoint) :
    (new network checkpoint).Stored btc where
  baseHeight := rfl
  baseHash := rfl
  baseBits := rfl
  baseTime := rfl
  cap := rfl
  length := Nat.zero_le _
  hashes := rfl

theorem Stored.parallel {btc : Crate} {chain : HeaderChain} (stored : chain.Stored btc) :
    chain.hashes.length = chain.headers.length := by
  rw [stored.hashes, List.length_map]

/-- How many stored headers lie below a batch that starts at `startHeight`. -/
def kept (chain : HeaderChain) (startHeight : BlockHeight) : Nat :=
  (startHeight - 1 - chain.baseHeight).toNat

/-- The chain with the batch `staged` in place of everything from `startHeight`
    on. -/
def committed (chain : HeaderChain) (startHeight : BlockHeight) (staged : List Staged) :
    HeaderChain :=
  { chain with
    headers := chain.headers.take (chain.kept startHeight) ++ staged.map Prod.fst
    hashes := chain.hashes.take (chain.kept startHeight) ++ staged.map Prod.snd }

/-- Where an accepted batch goes. -/
structure Placed (chain : HeaderChain) (startHeight : BlockHeight) (count : Nat)
    (depth : BlockHeight) : Prop where
  start : startHeight.toNat = chain.baseHeight.toNat + chain.kept startHeight + 1
  kept_le : chain.kept startHeight ≤ chain.headers.length
  tip_lt : chain.baseHeight.toNat + chain.headers.length + 1 < 2 ^ 32
  depth_eq : depth.toNat = chain.headers.length - chain.kept startHeight
  shallow : depth ≤ MAX_REORG_DEPTH
  fits : chain.kept startHeight + count ≤ chain.maxStoredHeaders

theorem tipHeight_toNat (chain : HeaderChain)
    (small : chain.baseHeight.toNat + chain.headers.length < 2 ^ 32) :
    chain.tipHeight.toNat = chain.baseHeight.toNat + chain.headers.length := by
  have length : (UInt32.ofNat chain.headers.length).toNat = chain.headers.length :=
    toNat_ofNat32 (by omega)
  rw [tipHeight, toNat_add32 (by rw [length]; exact small), length]

theorem tipHeight_succ_toNat (chain : HeaderChain)
    (small : chain.baseHeight.toNat + chain.headers.length + 1 < 2 ^ 32) :
    (chain.tipHeight + 1).toNat = chain.baseHeight.toNat + chain.headers.length + 1 := by
  have tip := tipHeight_toNat chain (by omega)
  rw [toNat_add32 (by rw [tip]; exact small), tip]
  rfl

theorem push_length (chain : HeaderChain) (entry : Staged) :
    (chain.push entry).headers.length = chain.headers.length + 1 := by
  simp [push]

theorem kept_toNat {chain : HeaderChain} {startHeight : BlockHeight}
    (above : chain.baseHeight.toNat < startHeight.toNat) :
    chain.kept startHeight = startHeight.toNat - 1 - chain.baseHeight.toNat := by
  have pred : (startHeight - 1).toNat = startHeight.toNat - 1 := by
    simpa using toNat_sub32 (a := startHeight) (b := 1) (by simp; omega)
  rw [kept, toNat_sub32 (by rw [pred]; omega), pred]

theorem tip_lt_of_start {btc : Crate} {chain : HeaderChain} {startHeight : BlockHeight}
    (stored : chain.Stored btc) (above : chain.baseHeight < startHeight)
    (contiguous : startHeight ≤ chain.tipHeight + 1) :
    chain.baseHeight.toNat + chain.headers.length + 1 < 2 ^ 32 := by
  have short := stored.length
  have base := chain.baseHeight.toNat_lt
  rw [UInt32.lt_iff_toNat_lt] at above
  rw [UInt32.le_iff_toNat_le] at contiguous
  simp only [tipHeight, UInt32.toNat_add, UInt32.toNat_ofNat', MAX_STORED_HEADERS,
    UInt32.toNat_one] at contiguous short
  omega

theorem placeBatch_ok {btc : Crate} {chain : HeaderChain} (stored : chain.Stored btc)
    {startHeight : BlockHeight} {count : Nat} {depth : BlockHeight} :
    chain.placeBatch startHeight count = .ok depth ↔ chain.Placed startHeight count depth := by
  simp only [placeBatch, refuse_bind_ok, gt_iff_lt, UInt32.not_le, UInt32.not_lt, Nat.not_lt,
    ← stored.baseHeight]
  constructor
  · rintro ⟨above, contiguous, shallow, fits, same⟩
    cases same
    have tip_lt := tip_lt_of_start stored above contiguous
    have next := tipHeight_succ_toNat chain tip_lt
    rw [UInt32.lt_iff_toNat_lt] at above
    rw [UInt32.le_iff_toNat_le, next] at contiguous
    have below := kept_toNat above
    refine ⟨by omega, by omega, tip_lt, ?_, shallow, fits⟩
    rw [toNat_satSub32, next]
    omega
  · intro placed
    have start := placed.start
    have kept_le := placed.kept_le
    have next := tipHeight_succ_toNat chain placed.tip_lt
    have same : satSub32 (chain.tipHeight + 1) startHeight = depth := by
      apply UInt32.toNat_inj.mp
      rw [toNat_satSub32, next, placed.depth_eq]
      omega
    rw [same]
    refine ⟨?_, ?_, placed.shallow, placed.fits, rfl⟩
    · rw [UInt32.lt_iff_toNat_lt]
      omega
    · rw [UInt32.le_iff_toNat_le, next]
      omega

theorem foldl_push (chain : HeaderChain) (staged : List Staged) :
    staged.foldl push chain =
      { chain with
        headers := chain.headers ++ staged.map Prod.fst
        hashes := chain.hashes ++ staged.map Prod.snd } := by
  induction staged generalizing chain with
  | nil => simp
  | cons entry staged ih => simp [ih, push]

/-- A batch passed every check: the per-call cap, its place, each of its headers
    and, for a reorg, the comparison of work. -/
structure Accepted (btc : Crate) (chain : HeaderChain) (startHeight : BlockHeight)
    (rawHeaders : List Bytes) (nowUnix : UInt64) (depth : BlockHeight)
    (staged : List Staged) : Prop where
  nonempty : rawHeaders ≠ []
  perCall : rawHeaders.length ≤ MAX_HEADERS_PER_SUBMIT
  placed : chain.Placed startHeight rawHeaders.length depth
  validated : ∃ pred, chain.predecessor (startHeight - 1) = .ok pred ∧
    chain.stageHeaders btc startHeight pred nowUnix 0 [] rawHeaders = .ok staged
  heavier : 0 < depth → chain.checkWork btc (chain.kept startHeight) staged = .ok ()

section

variable {btc : Crate} {chain chain' : HeaderChain} {startHeight : BlockHeight}
  {rawHeaders : List Bytes} {nowUnix : UInt64} {outcome : SubmitOutcome} {error : SpvError}

theorem displace_ok {depth : BlockHeight} {idx : Nat} {staged : List Staged} {u : Unit} :
    displace btc depth idx staged chain = .ok u chain' ↔
      (0 < depth → chain.checkWork btc idx staged = .ok ()) ∧
        chain' = if 0 < depth then chain.truncate idx else chain := by
  unfold displace
  rw [run_bind_ok]
  constructor
  · rintro ⟨_, _, got, rest⟩
    cases got
    split at rest
    · rename_i reorg
      obtain ⟨_, _, checked, moved⟩ := run_bind_ok.mp rest
      obtain ⟨heavier, rfl⟩ := lift_ok.mp checked
      cases moved
      exact ⟨fun _ => heavier, (if_pos reorg).symm⟩
    · rename_i extension
      cases rest
      exact ⟨fun reorg => absurd reorg extension, (if_neg extension).symm⟩
  · rintro ⟨heavier, rfl⟩
    refine ⟨chain, chain, rfl, ?_⟩
    split
    · rename_i reorg
      exact run_bind_ok.mpr ⟨(), chain, lift_ok.mpr ⟨heavier reorg, rfl⟩, rfl⟩
    · rfl

theorem displace_error {depth : BlockHeight} {idx : Nat} {staged : List Staged}
    (failed : displace btc depth idx staged chain = .error error chain') :
    chain.checkWork btc idx staged = .error error ∧ chain' = chain := by
  unfold displace at failed
  rcases run_bind_error.mp failed with impossible | ⟨_, _, got, rest⟩
  · cases impossible
  · cases got
    split at rest
    · rcases run_bind_error.mp rest with lighter | ⟨_, _, _, impossible⟩
      · exact lift_error.mp lighter
      · cases impossible
    · cases rest

theorem committed_eq_foldl_push (staged : List Staged) {depth : BlockHeight} {count : Nat}
    (stored : chain.Stored btc) (placed : chain.Placed startHeight count depth) :
    staged.foldl push
        (if 0 < depth then chain.truncate (chain.kept startHeight) else chain)
      = chain.committed startHeight staged := by
  rw [foldl_push]
  split
  · rfl
  · rename_i extension
    have none_displaced := placed.depth_eq
    have kept_le := placed.kept_le
    rw [UInt32.lt_iff_toNat_lt, UInt32.toNat_zero] at extension
    have all : chain.headers.length = chain.kept startHeight := by omega
    have headers : chain.headers.take (chain.kept startHeight) = chain.headers :=
      List.take_of_length_le (Nat.le_of_eq all)
    have hashes : chain.hashes.take (chain.kept startHeight) = chain.hashes :=
      List.take_of_length_le (by rw [stored.parallel, all])
    rw [committed, headers, hashes]

theorem submitHeaders_ok (stored : chain.Stored btc) :
    submitHeaders btc startHeight rawHeaders nowUnix chain = .ok outcome chain' ↔
      (rawHeaders = [] ∧ chain' = chain ∧ outcome = ⟨chain.tipHeight, chain.tipHash, 0, 0⟩) ∨
      ∃ depth staged, Accepted btc chain startHeight rawHeaders nowUnix depth staged ∧
        chain' = chain.committed startHeight staged ∧
        outcome = ⟨chain'.tipHeight, chain'.tipHash, UInt32.ofNat staged.length, depth⟩ := by
  unfold submitHeaders
  constructor
  · intro done
    obtain ⟨_, _, got, done⟩ := run_bind_ok.mp done
    cases got
    obtain ⟨_, _, capped, done⟩ := run_bind_ok.mp done
    obtain ⟨perCall, rfl⟩ := lift_ok.mp capped
    rw [refuse_ok, gt_iff_lt, Nat.not_lt] at perCall
    split at done
    · rename_i empty
      cases done
      exact .inl ⟨List.isEmpty_iff.mp empty, rfl, rfl⟩
    · rename_i nonempty
      obtain ⟨depth, _, placedAt, done⟩ := run_bind_ok.mp done
      obtain ⟨place, rfl⟩ := lift_ok.mp placedAt
      obtain ⟨pred, _, found, done⟩ := run_bind_ok.mp done
      obtain ⟨predecessor, rfl⟩ := lift_ok.mp found
      obtain ⟨staged, _, looped, done⟩ := run_bind_ok.mp done
      obtain ⟨staging, rfl⟩ := lift_ok.mp looped
      obtain ⟨_, _, displaced, done⟩ := run_bind_ok.mp done
      obtain ⟨heavier, rfl⟩ := displace_ok.mp displaced
      obtain ⟨_, _, pushed, done⟩ := run_bind_ok.mp done
      rw [forM_modify] at pushed
      cases pushed
      cases done
      have placed := (placeBatch_ok stored).mp place
      have final := committed_eq_foldl_push staged stored placed
      refine .inr ⟨depth, staged, ⟨?_, perCall, placed, ⟨pred, predecessor, staging⟩, heavier⟩,
        final, rfl⟩
      intro empty
      exact nonempty (List.isEmpty_iff.mpr empty)
  · rintro (⟨rfl, rfl, rfl⟩ | ⟨depth, staged, accepted, rfl, rfl⟩)
    · rfl
    · have perCall : ¬ rawHeaders.length > MAX_HEADERS_PER_SUBMIT :=
        Nat.not_lt.mpr accepted.perCall
      have nonempty : ¬ rawHeaders.isEmpty = true := by
        rw [List.isEmpty_iff]
        exact accepted.nonempty
      obtain ⟨pred, predecessor, staging⟩ := accepted.validated
      refine run_bind_ok.mpr ⟨chain, chain, rfl, ?_⟩
      refine run_bind_ok.mpr ⟨(), chain, lift_ok.mpr ⟨refuse_ok.mpr perCall, rfl⟩, ?_⟩
      rw [if_neg nonempty]
      refine run_bind_ok.mpr
        ⟨depth, chain, lift_ok.mpr ⟨(placeBatch_ok stored).mpr accepted.placed, rfl⟩, ?_⟩
      refine run_bind_ok.mpr ⟨pred, chain, lift_ok.mpr ⟨predecessor, rfl⟩, ?_⟩
      refine run_bind_ok.mpr ⟨staged, chain, lift_ok.mpr ⟨staging, rfl⟩, ?_⟩
      refine run_bind_ok.mpr ⟨(), _, displace_ok.mpr ⟨accepted.heavier, rfl⟩, ?_⟩
      refine run_bind_ok.mpr ⟨⟨⟩, _, forM_modify push staged _, ?_⟩
      have final := committed_eq_foldl_push staged stored accepted.placed
      change EStateM.Result.ok _ _ = _
      rw [kept] at final
      rw [final]

theorem submitHeaders_error_cases
    (failed : submitHeaders btc startHeight rawHeaders nowUnix chain = .error error chain') :
    chain' = chain ∧
      (MAX_HEADERS_PER_SUBMIT < rawHeaders.length ∧
          error = .batchTooLarge rawHeaders.length MAX_HEADERS_PER_SUBMIT ∨
        chain.placeBatch startHeight rawHeaders.length = .error error ∨
        ∃ depth, chain.placeBatch startHeight rawHeaders.length = .ok depth ∧
          (chain.predecessor (startHeight - 1) = .error error ∨
            (∃ pred, chain.stageHeaders btc startHeight pred nowUnix 0 [] rawHeaders
              = .error error) ∨
            ∃ idx staged, chain.checkWork btc idx staged = .error error)) := by
  unfold submitHeaders at failed
  rcases run_bind_error.mp failed with impossible | ⟨_, _, got, failed⟩
  · cases impossible
  cases got
  rcases run_bind_error.mp failed with tooMany | ⟨_, _, capped, failed⟩
  · obtain ⟨refused, same⟩ := lift_error.mp tooMany
    obtain ⟨above, named⟩ := refuse_error.mp refused
    exact ⟨same, .inl ⟨above, named.symm⟩⟩
  obtain ⟨-, rfl⟩ := lift_ok.mp capped
  split at failed
  · cases failed
  rcases run_bind_error.mp failed with misplaced | ⟨depth, _, placed, failed⟩
  · obtain ⟨refused, same⟩ := lift_error.mp misplaced
    exact ⟨same, .inr (.inl refused)⟩
  obtain ⟨place, rfl⟩ := lift_ok.mp placed
  rcases run_bind_error.mp failed with unknown | ⟨pred, _, found, failed⟩
  · obtain ⟨refused, same⟩ := lift_error.mp unknown
    exact ⟨same, .inr (.inr ⟨depth, place, .inl refused⟩)⟩
  obtain ⟨-, rfl⟩ := lift_ok.mp found
  rcases run_bind_error.mp failed with invalid | ⟨_, _, staged, failed⟩
  · obtain ⟨refused, same⟩ := lift_error.mp invalid
    exact ⟨same, .inr (.inr ⟨depth, place, .inr (.inl ⟨pred, refused⟩)⟩)⟩
  obtain ⟨-, rfl⟩ := lift_ok.mp staged
  rcases run_bind_error.mp failed with lighter | ⟨_, _, _, failed⟩
  · obtain ⟨refused, same⟩ := displace_error lighter
    exact ⟨same, .inr (.inr ⟨depth, place, .inr (.inr ⟨_, _, refused⟩)⟩)⟩
  -- From here on the batch is committed, and nothing fails any more.
  rcases run_bind_error.mp failed with impossible | ⟨_, _, _, impossible⟩
  · rw [forM_modify] at impossible
    cases impossible
  · cases impossible

theorem submitHeaders_error
    (failed : submitHeaders btc startHeight rawHeaders nowUnix chain = .error error chain') :
    chain' = chain :=
  (submitHeaders_error_cases failed).1

theorem submitHeaders_of_error
    (nonempty : rawHeaders ≠ []) (perCall : rawHeaders.length ≤ MAX_HEADERS_PER_SUBMIT)
    (invalid : chain.placeBatch startHeight rawHeaders.length = .error error ∨
      ∃ depth pred, chain.placeBatch startHeight rawHeaders.length = .ok depth ∧
        chain.predecessor (startHeight - 1) = .ok pred ∧
        chain.stageHeaders btc startHeight pred nowUnix 0 [] rawHeaders = .error error) :
    submitHeaders btc startHeight rawHeaders nowUnix chain = .error error chain := by
  have notEmpty : ¬ rawHeaders.isEmpty = true := by
    rw [List.isEmpty_iff]
    exact nonempty
  unfold submitHeaders
  refine run_bind_error.mpr (.inr ⟨chain, chain, rfl, ?_⟩)
  refine run_bind_error.mpr (.inr ⟨(), chain, lift_ok.mpr ⟨?_, rfl⟩, ?_⟩)
  · exact refuse_ok.mpr (Nat.not_lt.mpr perCall)
  rw [if_neg notEmpty]
  rcases invalid with misplaced | ⟨depth, pred, place, found, invalid⟩
  · exact run_bind_error.mpr (.inl (lift_error.mpr ⟨misplaced, rfl⟩))
  · refine run_bind_error.mpr (.inr ⟨depth, chain, lift_ok.mpr ⟨place, rfl⟩, ?_⟩)
    refine run_bind_error.mpr (.inr ⟨pred, chain, lift_ok.mpr ⟨found, rfl⟩, ?_⟩)
    exact run_bind_error.mpr (.inl (lift_error.mpr ⟨invalid, rfl⟩))

end

end EnclaveSigner.Spv.HeaderChain
