import EnclaveSigner.Spv.NoWedge

/-! # Batches in their place

A batch that starts above the checkpoint, leaves no gap, rewrites no more than a
reorg may and is not too large is never refused for its place or its size. What is
left are the cap on stored headers, the headers themselves and their work.
-/

namespace EnclaveSigner.Spv

open Lib Bitcoin

/-- A refusal for the place or the size of a batch. -/
def SpvError.IsPlacement : SpvError → Prop
  | belowCheckpoint _ _ | nonContiguous _ _ | reorgTooDeep _ _ | batchTooLarge _ _ => True
  | _ => False

namespace HeaderChain

variable {btc : Crate} {chain : HeaderChain} {startHeight : BlockHeight} {count : Nat}
  {depth : BlockHeight} {staged : List Staged}

theorem not_placement_of_isRule (e : SpvError) (rule : e.IsRule) : ¬ e.IsPlacement := by
  cases e with
  | belowCheckpoint | nonContiguous | reorgTooDeep | batchTooLarge => exact absurd rule id
  | _ => exact id

theorem blockAt_avoids_placement (height : BlockHeight) :
    Avoids SpvError.IsPlacement (chain.blockAt height startHeight staged) := by
  unfold blockAt
  dsimp only
  split
  · exact avoids_ok rfl
  · split
    · exact avoids_ok rfl
    · rintro _ ⟨⟩
      exact id

theorem requiredBits_avoids_placement (height : BlockHeight) (headerTime prevBits prevTime : UInt32) :
    Avoids SpvError.IsPlacement (chain.requiredBits btc height headerTime prevBits prevTime
      startHeight staged) := by
  unfold requiredBits bitsInput
  split
  · refine .bind ?_ fun _ _ => avoids_ok rfl
    split
    · exact .bind (avoids_okOr id) fun _ _ =>
        .bind (blockAt_avoids_placement _) fun _ _ => avoids_ok rfl
    · split
      · exact .bind (blockAt_avoids_placement _) fun _ _ => avoids_ok rfl
      · exact avoids_ok rfl
  · exact avoids_ok rfl

theorem stageHeaders_avoids_placement (stored : chain.Stored btc)
    (placed : chain.Placed startHeight count depth) (pred : BlockHash × UInt32 × UInt32)
    (nowUnix : UInt64) (raws : List Bytes) (within : staged.length + raws.length ≤ count) :
    Avoids SpvError.IsPlacement
      (chain.stageHeaders btc startHeight pred nowUnix staged.length staged raws) := by
  refine stageHeaders_avoids (fun _ _ => id) (fun staged header inside => ?_) raws within
  have window : ∃ median, chain.medianTimePastBelow (startHeight + .ofNat staged.length)
      startHeight staged = .ok median := medianTimePastBelow_found stored placed inside.le
  obtain ⟨median, found⟩ := window
  exact .bind (requiredBits_avoids_placement _ _ _ _) fun _ _ =>
    .bind (avoids_ok found) fun _ _ => validateHeaderFull_avoids not_placement_of_isRule

theorem placeBatch_avoids_placement (above : chain.checkpoint.height < startHeight)
    (contiguous : startHeight ≤ chain.tipHeight + 1)
    (shallow : satSub32 (chain.tipHeight + 1) startHeight ≤ MAX_REORG_DEPTH) :
    Avoids SpvError.IsPlacement (chain.placeBatch startHeight count) := by
  unfold placeBatch
  refine .bind (avoids_ok (a := ()) (refuse_ok.mpr (UInt32.not_le.mpr above))) fun _ _ => ?_
  refine .bind (avoids_ok (a := ()) (refuse_ok.mpr (UInt32.not_lt.mpr contiguous))) fun _ _ => ?_
  refine .bind (avoids_ok (a := ()) (refuse_ok.mpr (UInt32.not_lt.mpr shallow))) fun _ _ => ?_
  exact .bind (avoids_refuse id) fun _ _ => avoids_ok rfl

theorem submitHeaders_not_misplaced (stored : chain.Stored btc) {raws : List Bytes}
    {nowUnix : UInt64} {error : SpvError} {chain' : HeaderChain}
    (perCall : raws.length ≤ MAX_HEADERS_PER_SUBMIT)
    (above : chain.checkpoint.height < startHeight)
    (contiguous : startHeight ≤ chain.tipHeight + 1)
    (shallow : satSub32 (chain.tipHeight + 1) startHeight ≤ MAX_REORG_DEPTH)
    (failed : submitHeaders btc startHeight raws nowUnix chain = .error error chain') :
    ¬ error.IsPlacement := by
  obtain ⟨-, tooMany | misplaced | ⟨depth, place, unknown | ⟨pred, invalid⟩ | ⟨_, _, lighter⟩⟩⟩ :=
    submitHeaders_error_cases failed
  · exact absurd tooMany.1 (Nat.not_lt.mpr perCall)
  · exact placeBatch_avoids_placement above contiguous shallow _ misplaced
  · rw [predecessor_eq stored ((placeBatch_ok stored).mp place)] at unknown
    cases unknown
  · have start : ([] : List Staged).length + raws.length ≤ raws.length := by simp
    exact stageHeaders_avoids_placement stored ((placeBatch_ok stored).mp place) pred nowUnix raws
      start _ invalid
  · rw [← (refuse_error.mp lighter).2]
    exact id

end HeaderChain

end EnclaveSigner.Spv
