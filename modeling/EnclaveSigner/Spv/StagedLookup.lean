import EnclaveSigner.Spv.Submit

/-! # Staged lookup is lookup in the committed chain

A batch header is checked while the headers before it are only staged, and a
reorg still has the displaced branch in the store. Every lookup the checks make
lies below the header's own height, and there the staged-first lookup reads
exactly the chain that the staged headers give when committed. This holds across
a wrap of the height too: a wrapped height lies below the base, where both sides
find nothing.
-/

namespace EnclaveSigner.Spv.HeaderChain

open Lib Bitcoin

def entries (chain : HeaderChain) : List Staged := chain.headers.zip chain.hashes

/-- The hash, the bits and the time of the tip. -/
def tipBlock (chain : HeaderChain) : BlockHash × UInt32 × UInt32 :=
  prevOf (chain.baseHash, chain.baseBits, chain.baseTime) chain.entries

def checkNext (btc : Crate) (chain : HeaderChain) (nowUnix : UInt64) (header : Header) :
    Except SpvError Unit :=
  let height := chain.tipHeight + 1
  chain.checkHeader btc height nowUnix [] height chain.tipBlock header

/-- The raw headers decode to `batch` and pass one after another, each on top of
    the chain with the earlier ones. -/
inductive Grows (btc : Crate) (nowUnix : UInt64) :
    HeaderChain → List Bytes → List Staged → Prop where
  | nil {chain} : Grows btc nowUnix chain [] []
  | cons {chain raw header raws batch} (decoded : Header.deserialize raw = some header)
      (passes : chain.checkNext btc nowUnix header = .ok ())
      (rest : Grows btc nowUnix (chain.push (header, header.blockHash btc)) raws batch) :
      Grows btc nowUnix chain (raw :: raws) ((header, header.blockHash btc) :: batch)

theorem headerAt_below (chain : HeaderChain) {height : BlockHeight}
    (low : height.toNat ≤ chain.baseHeight.toNat) :
    chain.headerAt height = none :=
  if_pos (UInt32.le_iff_toNat_le.mpr low)

theorem headerAt_above (chain : HeaderChain) {height : BlockHeight}
    (high : chain.baseHeight.toNat < height.toNat) :
    chain.headerAt height = chain.headers[height.toNat - chain.baseHeight.toNat - 1]? := by
  have notLow : ¬ height ≤ chain.baseHeight := by
    rw [UInt32.le_iff_toNat_le]
    omega
  have offset := toNat_sub32 (a := height) (b := chain.baseHeight) (by omega)
  have index : (height - chain.baseHeight - 1).toNat
      = height.toNat - chain.baseHeight.toNat - 1 := by
    rw [toNat_sub32 (by rw [offset]; simp; omega), offset]
    rfl
  rw [headerAt, if_neg notLow, index]

theorem lt_of_headerAt {chain : HeaderChain} {height : BlockHeight} {header : Header}
    (found : chain.headerAt height = some header) : chain.baseHeight < height := by
  rw [headerAt] at found
  split at found
  · cases found
  · rename_i above
    rwa [UInt32.not_le] at above

theorem mem_of_headerAt {chain : HeaderChain} {height : BlockHeight} {header : Header}
    (found : chain.headerAt height = some header) : header ∈ chain.headers := by
  rw [headerAt] at found
  split at found
  · cases found
  · exact List.mem_of_getElem? found

theorem Stored.hashAt_eq {btc : Crate} {chain : HeaderChain} {height : BlockHeight}
    (stored : chain.Stored btc) (above : chain.baseHeight < height) :
    chain.hashAt height = (chain.headerAt height).map (·.blockHash btc) := by
  have notLow : ¬ height ≤ chain.baseHeight := UInt32.not_le.mpr above
  have notBase : height ≠ chain.baseHeight := by
    rintro rfl
    exact UInt32.lt_irrefl _ above
  have notBelow : ¬ height < chain.baseHeight := fun below => notLow (UInt32.le_of_lt below)
  rw [hashAt, if_neg notBase, if_neg notBelow, headerAt, if_neg notLow, stored.hashes,
    List.getElem?_map]

theorem Stored.entries_eq {btc : Crate} {chain : HeaderChain} (stored : chain.Stored btc) :
    chain.entries = chain.headers.map fun header => (header, header.blockHash btc) := by
  rw [entries, stored.hashes]
  induction chain.headers with
  | nil => rfl
  | cons header headers ih => rw [List.map_cons, List.zip_cons_cons, ih, List.map_cons]

theorem staged_nil (height other : BlockHeight) :
    ((checkedSub32 height other).bind fun i => ([] : List Staged)[i.toNat]?) = none := by
  cases checkedSub32 height other with
  | none => rfl
  | some i => rfl

theorem blockAt_nil (chain : HeaderChain) (height a b : BlockHeight) :
    chain.blockAt height a [] = chain.blockAt height b [] := by
  simp only [blockAt, staged_nil]

section

variable {btc : Crate} {chain : HeaderChain} {startHeight : BlockHeight} {count : Nat}
  {depth : BlockHeight} (staged : List Staged)

theorem committed_length (placed : chain.Placed startHeight count depth) :
    (chain.committed startHeight staged).headers.length
      = chain.kept startHeight + staged.length := by
  simp [committed, placed.kept_le]

theorem committed_push (entry : Staged) :
    (chain.committed startHeight staged).push entry
      = chain.committed startHeight (staged ++ [entry]) := by
  simp [committed, push]

theorem committed_next (placed : chain.Placed startHeight count depth) :
    (chain.committed startHeight staged).tipHeight + 1
      = startHeight + UInt32.ofNat staged.length := by
  have start := placed.start
  apply UInt32.toNat_inj.mp
  rw [tipHeight, committed_length staged placed]
  simp only [committed, UInt32.toNat_add, UInt32.toNat_ofNat', UInt32.toNat_one]
  omega

theorem committed_entries (stored : chain.Stored btc) :
    (chain.committed startHeight staged).entries
      = chain.entries.take (chain.kept startHeight) ++ staged := by
  have unzipped : (staged.map Prod.fst).zip (staged.map Prod.snd) = staged := by
    simpa using List.zip_unzip staged
  have below : (chain.headers.take (chain.kept startHeight)).zip
      (chain.hashes.take (chain.kept startHeight))
        = (chain.headers.zip chain.hashes).take (chain.kept startHeight) :=
    List.take_zipWith.symm
  simp only [entries, committed]
  rw [List.zip_append (by simp [stored.parallel]), unzipped, below]

theorem prevOf_append (pred : BlockHash × UInt32 × UInt32) (below : List Staged) :
    prevOf pred (below ++ staged) = prevOf (prevOf pred below) staged := by
  unfold prevOf
  rw [List.getLast?_append]
  cases staged.getLast? with
  | none => rfl
  | some entry => rfl

theorem predecessor_stored (stored : chain.Stored btc) {height : BlockHeight} {header : Header}
    (found : chain.headerAt height = some header) :
    chain.predecessor height = .ok (header.blockHash btc, header.bits, header.time) := by
  have above := lt_of_headerAt found
  have notBase : height ≠ chain.baseHeight := by
    rintro rfl
    exact UInt32.lt_irrefl _ above
  rw [predecessor, if_neg notBase, stored.hashAt_eq above, found]
  rfl

theorem prevOf_entries_take (stored : chain.Stored btc) {n : Nat} {header : Header}
    (found : chain.headers[n]? = some header) (pred : BlockHash × UInt32 × UInt32) :
    prevOf pred (chain.entries.take (n + 1))
      = (header.blockHash btc, header.bits, header.time) := by
  have last : (chain.entries.take (n + 1)).getLast? = some (header, header.blockHash btc) := by
    rw [List.getLast?_take, if_neg (Nat.succ_ne_zero n), Nat.add_sub_cancel, stored.entries_eq,
      List.getElem?_map, found]
    rfl
  simp only [prevOf, last]

theorem predecessor_eq (stored : chain.Stored btc)
    (placed : chain.Placed startHeight count depth) :
    chain.predecessor (startHeight - 1)
      = .ok (prevOf (chain.baseHash, chain.baseBits, chain.baseTime)
          (chain.entries.take (chain.kept startHeight))) := by
  have start := placed.start
  have kept_le := placed.kept_le
  have below : (startHeight - 1).toNat = chain.baseHeight.toNat + chain.kept startHeight := by
    have pred := toNat_sub32 (a := startHeight) (b := 1) (by simp; omega)
    rw [pred, UInt32.toNat_one]
    omega
  cases kept : chain.kept startHeight with
  | zero =>
      have base : startHeight - 1 = chain.baseHeight := by
        apply UInt32.toNat_inj.mp
        omega
      rw [predecessor, if_pos base]
      rfl
  | succ n =>
      have inside := List.getElem?_eq_getElem (l := chain.headers) (i := n) (by omega)
      have found : chain.headerAt (startHeight - 1) = chain.headers[n]? := by
        rw [headerAt_above chain (by omega), below, kept, Nat.add_sub_cancel_left,
          Nat.add_sub_cancel]
      rw [predecessor_stored stored (found.trans inside), prevOf_entries_take stored inside]

theorem headerAt_committed (placed : chain.Placed startHeight count depth)
    (fits : staged.length < 2 ^ 32) {height : BlockHeight}
    (below : height < startHeight + UInt32.ofNat staged.length) :
    (((checkedSub32 height startHeight).bind fun i => staged[i.toNat]?).map Prod.fst).or
        (chain.headerAt height)
      = (chain.committed startHeight staged).headerAt height := by
  have start := placed.start
  have kept_le := placed.kept_le
  have heightLt := height.toNat_lt
  rw [UInt32.lt_iff_toNat_lt, UInt32.toNat_add, toNat_ofNat32 fits] at below
  rcases Nat.lt_or_ge height.toNat startHeight.toNat with kept | fresh
  · -- Below the batch: only the kept headers are read.
    rw [checkedSub32_eq_none.mpr kept, Option.bind_none, Option.map_none, Option.none_or]
    rcases Nat.lt_or_ge chain.baseHeight.toNat height.toNat with high | low
    · rw [headerAt_above chain high, headerAt_above (chain.committed startHeight staged) high]
      simp only [committed]
      rw [List.getElem?_append_left (by simp; omega), List.getElem?_take_of_lt (by omega)]
    · rw [headerAt_below chain low, headerAt_below (chain.committed startHeight staged) low]
  · -- Inside the batch, which therefore has not wrapped.
    have inside : height.toNat - startHeight.toNat < staged.length := by omega
    have high : (chain.committed startHeight staged).baseHeight.toNat < height.toNat := by
      simp only [committed]
      omega
    have offset := toNat_sub32 (a := height) (b := startHeight) fresh
    rw [checkedSub32_eq_some.mpr ⟨fresh, offset⟩, Option.bind_some, offset,
      List.getElem?_eq_getElem inside, Option.map_some, Option.some_or, headerAt_above _ high]
    have index : height.toNat - chain.baseHeight.toNat - 1
        = chain.kept startHeight + (height.toNat - startHeight.toNat) := by omega
    simp only [committed]
    rw [index, List.getElem?_append_right (by simp), List.length_take,
      Nat.min_eq_left kept_le, Nat.add_sub_cancel_left, List.getElem?_map,
      List.getElem?_eq_getElem inside, Option.map_some]

theorem blockAt_committed (placed : chain.Placed startHeight count depth)
    (fits : staged.length < 2 ^ 32) (other : BlockHeight) :
    ∀ height < startHeight + UInt32.ofNat staged.length,
      chain.blockAt height startHeight staged
        = (chain.committed startHeight staged).blockAt height other [] := by
  intro height below
  simp only [blockAt]
  rw [headerAt_committed staged placed fits below, staged_nil, Option.map_none, Option.none_or]
  rfl

theorem bitsInput_committed (placed : chain.Placed startHeight count depth)
    (fits : staged.length < 2 ^ 32) (headerTime prevBits prevTime : UInt32)
    (other : BlockHeight) :
    chain.bitsInput btc (startHeight + UInt32.ofNat staged.length) headerTime prevBits prevTime
        startHeight staged
      = (chain.committed startHeight staged).bitsInput btc
          (startHeight + UInt32.ofNat staged.length) headerTime prevBits prevTime other [] := by
  have lookup := blockAt_committed staged placed fits other
  generalize startHeight + UInt32.ofNat staged.length = next at lookup ⊢
  unfold bitsInput
  cases boundary : isRetargetHeight next with
  | true =>
      simp only [if_true]
      cases first : checkedSub32 next RETARGET_INTERVAL with
      | none => rfl
      | some height =>
          have earlier : height < next := by
            obtain ⟨below, value⟩ := checkedSub32_eq_some.mp first
            have interval : RETARGET_INTERVAL.toNat = 2016 := rfl
            rw [UInt32.lt_iff_toNat_lt]
            omega
          change (chain.blockAt height startHeight staged >>= _)
            = ((chain.committed startHeight staged).blockAt height other [] >>= _)
          rw [lookup height earlier]
  | false =>
      simp only [Bool.false_eq_true, if_false]
      rw [lookup _ (periodStart_lt boundary)]
      rfl

theorem heightsBetween_toNat (first last : BlockHeight) :
    (heightsBetween first last).map UInt32.toNat
      = List.range' first.toNat (last.toNat - first.toNat) := by
  have bound := last.toNat_lt
  rw [heightsBetween, List.map_map, List.range'_eq_map_range]
  refine List.map_congr_left fun i inside => ?_
  rw [List.mem_range] at inside
  have index : (UInt32.ofNat i).toNat = i := toNat_ofNat32 (by omega)
  rw [Function.comp_apply, toNat_add32 (by omega), index]

theorem mem_heightsBetween {first last height : BlockHeight}
    (member : height ∈ heightsBetween first last) :
    first.toNat ≤ height.toNat ∧ height < last := by
  have inside := List.mem_map_of_mem (f := UInt32.toNat) member
  rw [heightsBetween_toNat, List.mem_range'_1] at inside
  rw [UInt32.lt_iff_toNat_lt]
  omega

theorem medianTimePastBelow_committed (placed : chain.Placed startHeight count depth)
    (fits : staged.length < 2 ^ 32) (other : BlockHeight) :
    chain.medianTimePastBelow (startHeight + UInt32.ofNat staged.length) startHeight staged
      = (chain.committed startHeight staged).medianTimePastBelow
          (startHeight + UInt32.ofNat staged.length) other [] := by
  have lookup := blockAt_committed staged placed fits other
  generalize startHeight + UInt32.ofNat staged.length = next at lookup ⊢
  unfold medianTimePastBelow
  have times : ∀ first, (heightsBetween first next).mapM
        (fun h => (chain.blockAt h startHeight staged).map Prod.fst)
      = (heightsBetween first next).mapM
        (fun h => ((chain.committed startHeight staged).blockAt h other []).map Prod.fst) := by
    intro first
    apply mapM_congr
    intro height member
    rw [lookup height (mem_heightsBetween member).2]
  simp only [times]
  rfl

theorem checkHeader_committed (stored : chain.Stored btc)
    (placed : chain.Placed startHeight count depth) (fits : staged.length < 2 ^ 32)
    (nowUnix : UInt64) (header : Header) :
    chain.checkHeader btc startHeight nowUnix staged (startHeight + UInt32.ofNat staged.length)
        (prevOf (prevOf (chain.baseHash, chain.baseBits, chain.baseTime)
          (chain.entries.take (chain.kept startHeight))) staged) header
      = (chain.committed startHeight staged).checkNext btc nowUnix header := by
  have tip : prevOf (prevOf (chain.baseHash, chain.baseBits, chain.baseTime)
      (chain.entries.take (chain.kept startHeight))) staged
        = (chain.committed startHeight staged).tipBlock := by
    rw [tipBlock, committed_entries staged stored, prevOf_append]
    rfl
  simp only [checkNext, committed_next staged placed, tip, checkHeader, requiredBits,
    bitsInput_committed staged placed fits _ _ _ (startHeight + UInt32.ofNat staged.length),
    medianTimePastBelow_committed staged placed fits
      (startHeight + UInt32.ofNat staged.length)]
  rfl

theorem count_lt (stored : chain.Stored btc) (placed : chain.Placed startHeight count depth) :
    count < 2 ^ 32 := by
  have fits := placed.fits
  rw [stored.cap, MAX_STORED_HEADERS] at fits
  omega

theorem stageHeaders_ok (stored : chain.Stored btc)
    (placed : chain.Placed startHeight count depth) (nowUnix : UInt64) (raws : List Bytes)
    {out : List Staged} (within : staged.length + raws.length ≤ count) :
    chain.stageHeaders btc startHeight (prevOf (chain.baseHash, chain.baseBits, chain.baseTime)
        (chain.entries.take (chain.kept startHeight))) nowUnix staged.length staged raws = .ok out
      ↔ ∃ batch, out = staged ++ batch ∧
          Grows btc nowUnix (chain.committed startHeight staged) raws batch := by
  induction raws generalizing staged with
  | nil =>
      constructor
      · intro done
        cases done
        exact ⟨[], (List.append_nil _).symm, .nil⟩
      · rintro ⟨batch, rfl, grows⟩
        cases grows
        rw [List.append_nil]
        rfl
  | cons raw raws ih =>
      rw [List.length_cons] at within
      have fits : staged.length < 2 ^ 32 := by
        have small := count_lt stored placed
        omega
      have next : ∀ entry : Staged, (staged ++ [entry]).length = staged.length + 1 := by
        intro entry
        rw [List.length_append, List.length_singleton]
      rw [stageHeaders, bind_ok]
      simp only [bind_ok, okOr_ok, checkHeader_committed staged stored placed fits]
      constructor
      · rintro ⟨header, decoded, _, passes, rest⟩
        rw [← next (header, header.blockHash btc), ih _ (by rw [next]; omega)] at rest
        obtain ⟨batch, rfl, grows⟩ := rest
        rw [← committed_push] at grows
        exact ⟨(header, header.blockHash btc) :: batch, by simp, .cons decoded passes grows⟩
      · rintro ⟨batch, rfl, grows⟩
        cases grows with
        | @cons _ _ header _ batch decoded passes grows =>
            refine ⟨header, decoded, (), passes, ?_⟩
            rw [← next (header, header.blockHash btc), ih _ (by rw [next]; omega)]
            rw [committed_push] at grows
            exact ⟨batch, by simp, grows⟩

theorem accepted_iff (stored : chain.Stored btc) {rawHeaders : List Bytes} {nowUnix : UInt64} :
    Accepted btc chain startHeight rawHeaders nowUnix depth staged ↔
      rawHeaders ≠ [] ∧ rawHeaders.length ≤ MAX_HEADERS_PER_SUBMIT ∧
      chain.Placed startHeight rawHeaders.length depth ∧
      Grows btc nowUnix (chain.committed startHeight []) rawHeaders staged ∧
      (0 < depth → chain.checkWork btc (chain.kept startHeight) staged = .ok ()) := by
  constructor
  · rintro ⟨nonempty, perCall, placed, ⟨pred, found, staging⟩, heavier⟩
    rw [predecessor_eq stored placed] at found
    cases found
    obtain ⟨batch, rfl, grows⟩ :=
      (stageHeaders_ok [] stored placed nowUnix rawHeaders (by simp)).mp staging
    exact ⟨nonempty, perCall, placed, grows, heavier⟩
  · rintro ⟨nonempty, perCall, placed, grows, heavier⟩
    refine ⟨nonempty, perCall, placed, ⟨_, predecessor_eq stored placed, ?_⟩, heavier⟩
    exact (stageHeaders_ok [] stored placed nowUnix rawHeaders (by simp)).mpr
      ⟨staged, rfl, grows⟩

end

end EnclaveSigner.Spv.HeaderChain
