import EnclaveSigner.Bitcoin.Difficulty
import EnclaveSigner.Evm.Crosscheck
import EnclaveSigner.Spv.ChainInvariant

/-! # The records of the relay

The relay contract keeps a record of the last block, and derives each record from
the one before it and the new header. The enclave has no record to start from: it
rebuilds a record from its checkpoint and its own headers, and refuses a height
where that would need a block below the checkpoint.
-/

namespace EnclaveSigner.Evm

open Lib Bitcoin Spv HeaderChain

/-- A record of the relay contract. -/
structure StoredBlockHeader where
  header : Header
  chainWork : U256
  height : UInt32
  /-- The time of the block that started the difficulty period. -/
  lastDiffAdjustment : UInt32
  /-- The times of the ten blocks below, the oldest first. -/
  prevTimestamps : List UInt32
  count : prevTimestamps.length = 10
  deriving DecidableEq

namespace StoredBlockHeader

/-- The bytes that a commitment of the relay hashes. -/
def encode (record : StoredBlockHeader) : Bytes :=
  record.header.serialize ++ ((u256Be record.chainWork).val ++ ((u32Be record.height).val ++
    ((u32Be record.lastDiffAdjustment).val ++
      record.prevTimestamps.flatMap fun time => (u32Be time).val)))

/-- The record of the block above, as the relay derives it. -/
def next (btc : Crate) (record : StoredBlockHeader) (header : Header) : StoredBlockHeader where
  header
  chainWork := record.chainWork + header.work btc
  height := record.height + 1
  lastDiffAdjustment :=
    if (record.height + 1) % RETARGET_INTERVAL = 0 then header.time
    else record.lastDiffAdjustment
  prevTimestamps := record.prevTimestamps.drop 1 ++ [record.header.time]
  count := by rw [List.length_append, List.length_drop, record.count]; rfl

/-- The record after a run of headers. -/
def advance (btc : Crate) (record : StoredBlockHeader) (headers : List Header) :
    StoredBlockHeader :=
  headers.foldl (next btc) record

theorem times_injective {times times' : List UInt32} (length : times.length = times'.length)
    (same : times.flatMap (fun time => (u32Be time).val)
      = times'.flatMap fun time => (u32Be time).val) : times = times' := by
  induction times generalizing times' with
  | nil => exact (List.eq_nil_of_length_eq_zero length.symm).symm
  | cons time times ih =>
      obtain ⟨time', times', rfl⟩ := List.exists_cons_of_length_eq_add_one length.symm
      obtain ⟨first, rest⟩ := append_parts (a := u32Be time) (b := u32Be time') same
      rw [u32Be_injective first, ih (Nat.succ.inj length) rest]

theorem encode_injective : Function.Injective encode := by
  intro a b same
  obtain ⟨header, rest⟩ := List.append_inj same
    (a.header.serialize_length.trans b.header.serialize_length.symm)
  obtain ⟨work, rest⟩ := append_parts rest
  obtain ⟨height, rest⟩ := append_parts rest
  obtain ⟨lastDiff, rest⟩ := append_parts rest
  have times := times_injective (a.count.trans b.count.symm) rest
  cases a
  cases b
  simp only [mk.injEq]
  exact ⟨Header.serialize_injective header, u256Be_injective work, u32Be_injective height,
    u32Be_injective lastDiff, times⟩

theorem times_length (times : List UInt32) :
    (times.flatMap fun time => (u32Be time).val).length = 4 * times.length := by
  induction times with
  | nil => rfl
  | cons time times ih =>
      rw [List.flatMap_cons, List.length_append, ih, Word.length_val, List.length_cons]
      omega

theorem encode_length (record : StoredBlockHeader) : record.encode.length = 160 := by
  simp only [encode, List.length_append, Header.serialize_length, Word.length_val, times_length,
    record.count]

end StoredBlockHeader

section Chain

variable (btc : Crate) (chain : HeaderChain)

/-- The time of the block `n` above the checkpoint, of which 0 is the checkpoint
    itself. -/
def blockTime : Nat → UInt32
  | 0 => chain.checkpoint.time
  | n + 1 => (chain.headers[n]?.map (·.time)).getD chain.checkpoint.time

/-- The record of the block `n` above the checkpoint, from the chain alone. -/
def recordAt (cpWork : U256) (header : Header) (n : Nat) : StoredBlockHeader where
  header
  chainWork := (chain.headers.take n).foldl (fun work header => work + header.work btc) cpWork
  height := chain.baseHeight + UInt32.ofNat n
  lastDiffAdjustment :=
    let height := chain.baseHeight.toNat + n
    blockTime chain (height - height % 2016 - chain.baseHeight.toNat)
  prevTimestamps := (List.range' (n - 10) 10).map (blockTime chain)
  count := by rw [List.length_map, List.length_range']

/-- The heights at which the enclave rebuilds the record: the ten blocks below and
    the start of the period are not below the checkpoint. -/
structure Covered (height : UInt32) (header : Header) : Prop where
  found : chain.headerAt height = some header
  window : chain.baseHeight.toNat + 10 ≤ height.toNat
  period : chain.baseHeight.toNat ≤ height.toNat - height.toNat % 2016

variable {btc chain}

theorem base_add_offset {height : UInt32} (above : chain.baseHeight.toNat ≤ height.toNat) :
    chain.baseHeight + UInt32.ofNat (height.toNat - chain.baseHeight.toNat) = height := by
  have bound := height.toNat_lt
  have index : (UInt32.ofNat (height.toNat - chain.baseHeight.toNat)).toNat = _ :=
    toNat_ofNat32 (by omega)
  apply UInt32.toNat_inj.mp
  rw [toNat_add32 (by omega), index]
  omega

theorem timeAt_eq_blockTime {height : UInt32}
    (above : chain.baseHeight.toNat ≤ height.toNat) :
    timeAt chain height = blockTime chain (height.toNat - chain.baseHeight.toNat) := by
  rcases Nat.eq_or_lt_of_le above with same | higher
  · rw [timeAt, chain.headerAt_below (Nat.le_of_eq same.symm), ← same, Nat.sub_self]
    rfl
  · obtain ⟨n, index⟩ := Nat.exists_eq_add_of_lt higher
    have offset : height.toNat - chain.baseHeight.toNat = n + 1 := by omega
    rw [timeAt, chain.headerAt_above higher, offset]
    rfl

theorem filterMap_range_getElem? {α : Type} (items : List α) (n : Nat) :
    (List.range n).filterMap (fun i => items[i]?) = items.take n := by
  induction n with
  | zero => rfl
  | succ n ih =>
      rw [List.range_succ, List.filterMap_append, ih, List.take_add_one, List.filterMap_cons]
      cases items[n]? with
      | none => rfl
      | some item => rfl

theorem headersThrough_eq {height : UInt32} (above : chain.baseHeight.toNat < height.toNat) :
    (heightsThrough (chain.baseHeight + 1) height).filterMap chain.headerAt =
      chain.headers.take (height.toNat - chain.baseHeight.toNat) := by
  have bound := height.toNat_lt
  have first : (chain.baseHeight + 1).toNat = chain.baseHeight.toNat + 1 :=
    toNat_add32 (by simp; omega)
  rw [heightsThrough, List.filterMap_map, first, ← filterMap_range_getElem?]
  have count : height.toNat + 1 - (chain.baseHeight.toNat + 1)
      = height.toNat - chain.baseHeight.toNat := by omega
  rw [count]
  refine List.filterMap_congr fun i inside => ?_
  rw [List.mem_range] at inside
  have index : (UInt32.ofNat i).toNat = i := toNat_ofNat32 (by omega)
  have sum : (chain.baseHeight + 1 + UInt32.ofNat i).toNat = chain.baseHeight.toNat + 1 + i := by
    rw [toNat_add32 (by omega), first, index]
  rw [Function.comp_apply, chain.headerAt_above (by omega), sum]
  congr 1
  omega

theorem window_toNat {height : UInt32} (high : 10 ≤ height.toNat) :
    (HeaderChain.heightsBetween (height - 10) height).map UInt32.toNat =
      List.range' (height.toNat - 10) 10 := by
  have first : (height - 10).toNat = height.toNat - 10 := toNat_sub32 high
  have count : height.toNat - (height.toNat - 10) = 10 := by omega
  rw [heightsBetween_toNat, first, count]

theorem windowTimes_eq {height : UInt32}
    (window : chain.baseHeight.toNat + 10 ≤ height.toNat) :
    (HeaderChain.heightsBetween (height - 10) height).map (timeAt chain) =
      (List.range' (height.toNat - chain.baseHeight.toNat - 10) 10).map (blockTime chain) := by
  have shift : height.toNat - chain.baseHeight.toNat - 10
      = height.toNat - 10 - chain.baseHeight.toNat := by omega
  rw [shift, ← List.map_sub_range' (by omega), ← window_toNat (by omega), List.map_map,
    List.map_map]
  refine List.map_congr_left fun read inside => timeAt_eq_blockTime ?_
  have above := (mem_heightsBetween inside).1
  have first : (height - 10).toNat = height.toNat - 10 := toNat_sub32 (by simp; omega)
  omega

theorem covered_iff {height : UInt32} {header : Header}
    (found : chain.headerAt height = some header) :
    ¬ (height < chain.baseHeight + 10 ∨
        height - height % RETARGET_INTERVAL < chain.baseHeight) ↔
      Covered chain height header := by
  have above := UInt32.lt_iff_toNat_lt.mp (lt_of_headerAt found)
  have bound := height.toNat_lt
  have sum : (chain.baseHeight + 10).toNat = (chain.baseHeight.toNat + 10) % 2 ^ 32 :=
    UInt32.toNat_add ..
  rw [UInt32.lt_iff_toNat_lt, UInt32.lt_iff_toNat_lt, periodStart_toNat, sum]
  constructor
  · intro passes
    exact ⟨found, by omega, by omega⟩
  · intro covered
    have window := covered.window
    have period := covered.period
    omega

theorem relayRecord_ok (stored : chain.Stored btc) {cpWork : Word 32}
    (known : chain.checkpoint.chainWork = some cpWork) {height : UInt32} {bytes : Bytes} :
    relayRecord btc chain height = .ok bytes ↔ ∃ header, Covered chain height header ∧
      bytes = (recordAt btc chain (u256OfBe cpWork) header
        (height.toNat - chain.baseHeight.toNat)).encode := by
  have rebuilt : ∀ {header}, Covered chain height header →
      header.serialize ++ ((u256Be (((heightsThrough (chain.baseHeight + 1) height).filterMap
        chain.headerAt).foldl (fun work header => work + header.work btc) (u256OfBe cpWork))).val ++
        ((u32Be height).val ++
        ((u32Be (timeAt chain (height - height % RETARGET_INTERVAL))).val ++
        ((HeaderChain.heightsBetween (height - 10) height).map (timeAt chain)).flatMap
          fun time => (u32Be time).val))) =
      (recordAt btc chain (u256OfBe cpWork) header
        (height.toNat - chain.baseHeight.toNat)).encode := by
    intro header covered
    have window := covered.window
    have period := covered.period
    have same : chain.baseHeight.toNat + (height.toNat - chain.baseHeight.toNat)
        = height.toNat := by omega
    have heights : chain.baseHeight + UInt32.ofNat (height.toNat - chain.baseHeight.toNat)
        = height := base_add_offset (by omega)
    rw [headersThrough_eq (by omega), windowTimes_eq window,
      timeAt_eq_blockTime (by rw [periodStart_toNat]; exact period), periodStart_toNat]
    simp only [StoredBlockHeader.encode, recordAt, heights, same]
  simp only [relayRecord, bind_ok, okOr_ok, refuse_ok, known, ← stored.baseHeight]
  constructor
  · rintro ⟨header, found, _, ⟨⟩, _, passes, same⟩
    have covered := (covered_iff found).mp passes
    cases same
    exact ⟨header, covered, rebuilt covered⟩
  · rintro ⟨header, covered, rfl⟩
    refine ⟨header, covered.found, cpWork, rfl, (), (covered_iff covered.found).mpr covered, ?_⟩
    rw [← rebuilt covered]
    rfl

theorem blockTime_congr {other : HeaderChain} {n : Nat}
    (checkpoint : other.checkpoint = chain.checkpoint)
    (below : chain.headers.take n = other.headers.take n) {k : Nat} (le : k ≤ n) :
    blockTime chain k = blockTime other k := by
  cases k with
  | zero => rw [blockTime, blockTime, checkpoint]
  | succ k =>
      have header : chain.headers[k]? = other.headers[k]? := by
        rw [← List.getElem?_take_of_lt (show k < n by omega), below,
          List.getElem?_take_of_lt (show k < n by omega)]
      rw [blockTime, blockTime, checkpoint, header]

theorem recordAt_congr {other : HeaderChain} {n : Nat} {cpWork : U256} {header : Header}
    (base : other.baseHeight = chain.baseHeight)
    (checkpoint : other.checkpoint = chain.checkpoint)
    (below : chain.headers.take n = other.headers.take n) (deep : 10 ≤ n) :
    recordAt btc chain cpWork header n = recordAt btc other cpWork header n := by
  simp only [recordAt, StoredBlockHeader.mk.injEq, base, below, true_and]
  constructor
  · exact blockTime_congr checkpoint below (by omega)
  · refine List.map_congr_left fun k inside => ?_
    rw [List.mem_range'_1] at inside
    exact blockTime_congr checkpoint below (by omega)

theorem headerAt_of_take {other : HeaderChain} (base : other.baseHeight = chain.baseHeight)
    {height : UInt32} (above : chain.baseHeight.toNat < height.toNat)
    (below : chain.headers.take (height.toNat - chain.baseHeight.toNat)
      = other.headers.take (height.toNat - chain.baseHeight.toNat)) :
    other.headerAt height = chain.headerAt height := by
  have last : height.toNat - chain.baseHeight.toNat - 1
      < height.toNat - chain.baseHeight.toNat := by omega
  rw [chain.headerAt_above above, other.headerAt_above (base ▸ above), base,
    ← List.getElem?_take_of_lt last, ← below, List.getElem?_take_of_lt last]

theorem relayRecord_of_take {other : HeaderChain} (stored : chain.Stored btc)
    (stored' : other.Stored btc) (checkpoint : other.checkpoint = chain.checkpoint)
    {height : UInt32} {bytes : Bytes} (built : relayRecord btc chain height = .ok bytes)
    (below : chain.headers.take (height.toNat - chain.baseHeight.toNat)
      = other.headers.take (height.toNat - chain.baseHeight.toNat)) :
    relayRecord btc other height = .ok bytes := by
  have base : other.baseHeight = chain.baseHeight := by
    rw [stored'.baseHeight, stored.baseHeight, checkpoint]
  have known : ∃ cpWork, chain.checkpoint.chainWork = some cpWork := by
    simp only [relayRecord, bind_ok, okOr_ok] at built
    obtain ⟨_, -, cpWork, known, -⟩ := built
    exact ⟨cpWork, known⟩
  obtain ⟨cpWork, known⟩ := known
  obtain ⟨header, covered, rfl⟩ := (relayRecord_ok stored known).mp built
  have window := covered.window
  have found : other.headerAt height = some header :=
    (headerAt_of_take base (by omega) below).trans covered.found
  refine (relayRecord_ok stored' (checkpoint ▸ known)).mpr
    ⟨header, ⟨found, base ▸ window, base ▸ covered.period⟩, ?_⟩
  rw [base, recordAt_congr base checkpoint below (by omega)]

variable (btc chain) in
/-- A record that the relay may have been deployed with. Its window, and the start
    of a period that began below the checkpoint, are not checked by anyone. -/
structure Deployed (cpWork : U256) (record : StoredBlockHeader) : Prop where
  chainWork : record.chainWork = cpWork
  height : record.height = chain.baseHeight
  time : record.header.time = chain.checkpoint.time
  period : chain.baseHeight.toNat % 2016 = 0 → record.lastDiffAdjustment = chain.checkpoint.time

variable (btc chain) in
structure Tracks (deployed : StoredBlockHeader) (n : Nat) (record : StoredBlockHeader) : Prop where
  chainWork : record.chainWork =
    (chain.headers.take n).foldl (fun work header => work + header.work btc) deployed.chainWork
  height : record.height = chain.baseHeight + UInt32.ofNat n
  header : ∀ i header, n = i + 1 → chain.headers[i]? = some header → record.header = header
  time : record.header.time = blockTime chain n
  period : chain.baseHeight.toNat ≤ chain.baseHeight.toNat + n - (chain.baseHeight.toNat + n) % 2016 →
    record.lastDiffAdjustment = blockTime chain
      (chain.baseHeight.toNat + n - (chain.baseHeight.toNat + n) % 2016 - chain.baseHeight.toNat)
  window : record.prevTimestamps =
    (deployed.prevTimestamps ++ (List.range n).map (blockTime chain)).drop n

theorem Deployed.tracks {cpWork : U256} {deployed : StoredBlockHeader}
    (matched : Deployed chain cpWork deployed) : Tracks btc chain deployed 0 deployed where
  chainWork := rfl
  height := by
    rw [matched.height]
    exact (UInt32.add_zero _).symm
  header := by
    intro i header impossible
    cases impossible
  time := matched.time
  period := by
    intro started
    rw [matched.period (by omega)]
    have offset : chain.baseHeight.toNat + 0 - (chain.baseHeight.toNat + 0) % 2016
        - chain.baseHeight.toNat = 0 := by omega
    rw [offset]
    rfl
  window := by simp

theorem Tracks.next {deployed record : StoredBlockHeader} {n : Nat} {header : Header}
    (tracks : Tracks btc chain deployed n record) (found : chain.headers[n]? = some header)
    (fits : chain.baseHeight.toNat + (n + 1) < 2 ^ 32) :
    Tracks btc chain deployed (n + 1) (record.next btc header) := by
  have time : blockTime chain (n + 1) = header.time := by rw [blockTime, found]; rfl
  have height : record.height + 1 = chain.baseHeight + UInt32.ofNat (n + 1) := by
    rw [tracks.height, UInt32.add_assoc, UInt32.ofNat_add]
    rfl
  have heightNat : (record.height + 1).toNat = chain.baseHeight.toNat + (n + 1) := by
    have index : (UInt32.ofNat (n + 1)).toNat = n + 1 := toNat_ofNat32 (by omega)
    rw [height, toNat_add32 (by omega), index]
  have boundary : (record.height + 1) % RETARGET_INTERVAL = 0 ↔
      (chain.baseHeight.toNat + (n + 1)) % 2016 = 0 := by
    rw [← UInt32.toNat_inj, retargetOffset_toNat, heightNat]
    rfl
  refine ⟨?_, height, ?_, time.symm, ?_, ?_⟩
  · rw [List.take_add_one, found, Option.toList_some, List.foldl_append, ← tracks.chainWork]
    rfl
  · intro i other same there
    cases same
    exact Option.some.inj (found.symm.trans there)
  · intro started
    change (if _ then _ else _) = _
    split
    · rename_i starts
      have offset : chain.baseHeight.toNat + (n + 1) - (chain.baseHeight.toNat + (n + 1)) % 2016
          - chain.baseHeight.toNat = n + 1 := by
        have := boundary.mp starts
        omega
      rw [offset, time]
    · rename_i inside
      have same : chain.baseHeight.toNat + (n + 1) - (chain.baseHeight.toNat + (n + 1)) % 2016
          = chain.baseHeight.toNat + n - (chain.baseHeight.toNat + n) % 2016 := by
        have := mt boundary.mpr inside
        omega
      rw [same] at started ⊢
      exact tracks.period started
  · have length : (deployed.prevTimestamps ++ (List.range n).map (blockTime chain)).length
        = 10 + n := by
      rw [List.length_append, List.length_map, List.length_range, deployed.count]
    change record.prevTimestamps.drop 1 ++ [record.header.time] = _
    rw [tracks.window, tracks.time, List.drop_drop, List.range_succ, List.map_append,
      ← List.append_assoc]
    exact (List.drop_append_of_le_length (by omega)).symm

theorem Deployed.advance {cpWork : U256} {deployed : StoredBlockHeader}
    (matched : Deployed chain cpWork deployed) {n : Nat} (stored : n ≤ chain.headers.length)
    (fits : chain.baseHeight.toNat + n < 2 ^ 32) :
    Tracks btc chain deployed n (deployed.advance btc (chain.headers.take n)) := by
  induction n with
  | zero => exact matched.tracks
  | succ n ih =>
      have found := List.getElem?_eq_getElem (l := chain.headers) (i := n) (by omega)
      have before := ih (by omega) (by omega)
      rw [StoredBlockHeader.advance, List.take_add_one, found, Option.toList_some,
        List.foldl_append]
      exact before.next found fits

theorem Deployed.record_eq {cpWork : U256} {deployed : StoredBlockHeader}
    (matched : Deployed chain cpWork deployed) {height : UInt32} {header : Header}
    (covered : Covered chain height header) :
    deployed.advance btc (chain.headers.take (height.toNat - chain.baseHeight.toNat)) =
      recordAt btc chain cpWork header (height.toNat - chain.baseHeight.toNat) := by
  have window := covered.window
  have period := covered.period
  have bound := height.toNat_lt
  have found := covered.found
  rw [chain.headerAt_above (by omega)] at found
  have inside := (List.getElem?_eq_some_iff.mp found).1
  generalize offset : height.toNat - chain.baseHeight.toNat = n at found inside ⊢
  have tracks : Tracks btc chain deployed n (deployed.advance btc (chain.headers.take n)) :=
    matched.advance (by omega) (by omega)
  have times : (deployed.prevTimestamps ++ (List.range n).map (blockTime chain)).drop n =
      (List.range' (n - 10) 10).map (blockTime chain) := by
    have count : n - (n - 10) = 10 := by omega
    rw [List.drop_append, deployed.count, List.drop_of_length_le (by rw [deployed.count]; omega),
      List.nil_append, ← List.map_drop, List.range_eq_range', List.drop_range', count,
      Nat.mul_one, Nat.zero_add]
  generalize deployed.advance btc (chain.headers.take n) = record at tracks
  have same : record.header = header := tracks.header (n - 1) header (by omega) found
  have work := tracks.chainWork
  have height := tracks.height
  have lastDiff := tracks.period (by omega)
  have prev := tracks.window.trans times
  rw [matched.chainWork] at work
  cases record
  simp only [recordAt, StoredBlockHeader.mk.injEq]
  exact ⟨same, work, height, lastDiff, prev⟩

theorem timeAt_cases {height : UInt32} {header : Header}
    (found : chain.headerAt height = some header) {read : UInt32}
    (above : chain.baseHeight.toNat ≤ read.toNat) (below : read.toNat ≤ height.toNat) :
    (read = chain.baseHeight ∧ timeAt chain read = chain.checkpoint.time) ∨
      ∃ header, chain.headerAt read = some header ∧ timeAt chain read = header.time := by
  rcases Nat.eq_or_lt_of_le above with same | higher
  · refine .inl ⟨(UInt32.toNat_inj.mp same).symm, ?_⟩
    rw [timeAt, chain.headerAt_below (Nat.le_of_eq same.symm)]
    rfl
  · rw [chain.headerAt_above (by omega)] at found
    have inside := (List.getElem?_eq_some_iff.mp found).1
    have there := List.getElem?_eq_getElem (l := chain.headers)
      (i := read.toNat - chain.baseHeight.toNat - 1) (by omega)
    rw [← chain.headerAt_above higher] at there
    refine .inr ⟨_, there, ?_⟩
    rw [timeAt, there]
    rfl

variable (chain) in
/-- A record to start from, with a window that no covered height reads. -/
def someDeployed (cpWork : U256) : StoredBlockHeader where
  header := ⟨0, .zero 32, .zero 32, chain.checkpoint.time, 0, 0⟩
  chainWork := cpWork
  height := chain.baseHeight
  lastDiffAdjustment := chain.checkpoint.time
  prevTimestamps := List.replicate 10 0
  count := List.length_replicate

theorem someDeployed_deployed (cpWork : U256) : Deployed chain cpWork (someDeployed chain cpWork) :=
  ⟨rfl, rfl, rfl, fun _ => rfl⟩

variable (btc) in
theorem Covered.next {height : UInt32} {header header' : Header} (cpWork : U256)
    (covered : Covered chain height header) (found : chain.headerAt (height + 1) = some header') :
    Covered chain (height + 1) header' ∧
      recordAt btc chain cpWork header' ((height + 1).toNat - chain.baseHeight.toNat) =
        (recordAt btc chain cpWork header (height.toNat - chain.baseHeight.toNat)).next btc
          header' := by
  have window := covered.window
  have period := covered.period
  have above := UInt32.lt_iff_toNat_lt.mp (lt_of_headerAt found)
  have sum : (height + 1).toNat = height.toNat + 1 := by
    have bound := height.toNat_lt
    have one : (1 : UInt32).toNat = 1 := rfl
    rw [UInt32.toNat_add, one] at above ⊢
    omega
  have covered' : Covered chain (height + 1) header' := ⟨found, by omega, by omega⟩
  refine ⟨covered', ?_⟩
  have matched : Deployed chain cpWork (someDeployed chain cpWork) := someDeployed_deployed cpWork
  have offset : (height + 1).toNat - chain.baseHeight.toNat =
      height.toNat - chain.baseHeight.toNat + 1 := by omega
  rw [← matched.record_eq covered, ← matched.record_eq covered', offset]
  rw [chain.headerAt_above above, offset, Nat.add_sub_cancel] at found
  rw [StoredBlockHeader.advance, List.take_add_one, found, Option.toList_some, List.foldl_append]
  rfl

end Chain

/-- Every record that the enclave builds over a reachable chain is the relay's: it
    is one record of 160 bytes, the record of the next height is the relay's next
    record, and the relay gets to it from whatever it was deployed with. No height
    that is read wraps, and each time is that of the block at its height. -/
theorem relay_records_incremental (btc : Crate) (network : Network) (checkpoint : Checkpoint)
    (calls : List SubmitCall) (cpWork : Word 32) (known : checkpoint.chainWork = some cpWork)
    (height : UInt32) (bytes : Bytes)
    (built : relayRecord btc ((HeaderChain.new network checkpoint).run btc calls) height
      = .ok bytes) :
    let chain := (HeaderChain.new network checkpoint).run btc calls
    (bytes.length = 160 ∧ ∃ record : StoredBlockHeader, record.encode = bytes ∧
      (∀ other : StoredBlockHeader, other.encode = bytes → other = record) ∧
      record.height = height ∧ chain.headerAt height = some record.header ∧
      ∀ header, chain.headerAt (height + 1) = some header →
        relayRecord btc chain (height + 1) = .ok (record.next btc header).encode) ∧
    (∀ deployed, Deployed chain (u256OfBe cpWork) deployed →
      bytes = (deployed.advance btc
        (chain.headers.take (height.toNat - checkpoint.height.toNat))).encode) ∧
    (10 ≤ height.toNat ∧ (height % RETARGET_INTERVAL).toNat ≤ height.toNat ∧
      (HeaderChain.heightsBetween (height - 10) height).map UInt32.toNat =
        List.range' (height.toNat - 10) 10 ∧
      ∀ read, read = height - height % RETARGET_INTERVAL ∨
          read ∈ HeaderChain.heightsBetween (height - 10) height →
        (read = checkpoint.height ∧ timeAt chain read = checkpoint.time) ∨
          ∃ header, chain.headerAt read = some header ∧ timeAt chain read = header.time) := by
  have valid := run_valid btc network checkpoint calls
  intro chain
  change relayRecord btc chain height = _ at built
  change chain.Valid btc network checkpoint at valid
  clear_value chain
  have base := valid.baseHeight_eq
  rw [← valid.checkpoint_eq] at known
  obtain ⟨header, covered, rfl⟩ := (relayRecord_ok valid.stored known).mp built
  have window := covered.window
  refine ⟨⟨StoredBlockHeader.encode_length _, _, rfl, ?_, ?_, covered.found, ?_⟩, ?_, ?_⟩
  · intro other same
    exact StoredBlockHeader.encode_injective same
  · exact base_add_offset (by omega)
  · intro header' found
    obtain ⟨covered', next⟩ := covered.next btc (u256OfBe cpWork) found
    exact (relayRecord_ok valid.stored known).mpr ⟨header', covered', by rw [next]⟩
  · intro deployed matched
    rw [← base, matched.record_eq covered]
  · refine ⟨by omega, by rw [retargetOffset_toNat]; exact Nat.mod_le _ _,
      window_toNat (by omega), ?_⟩
    intro read which
    rw [← base, ← valid.checkpoint_eq]
    rcases which with rfl | inside
    · refine timeAt_cases covered.found ?_ ?_
      · rw [periodStart_toNat]
        exact covered.period
      · rw [periodStart_toNat]
        omega
    · have member := List.mem_map_of_mem (f := UInt32.toNat) inside
      rw [window_toNat (by omega), List.mem_range'_1] at member
      exact timeAt_cases covered.found (by omega) (by omega)

section Samples

/-! Eleven headers on regtest, over a checkpoint that starts a period. -/

def relayCheckpoint : Checkpoint :=
  ⟨0, .zero 32, 0x207fffff, 1700001000, some (.ofNatBe 32 2)⟩

def relayHashes : List (Word 32) := ([
  0x50e16de1b7f73672a2f77038061698138a3018d1cb2db23a9a5b54ce41d00b6b,
  0xb151412e58ec67bb7cee9d60e696af4bdfe87f02fa67f0b56ea3938f6b046c8c,
  0x3be543bb689cca93ecc776cf918db25f0b968558f849ea3d99171be82c1667d3,
  0x3fe1049f7e74b684c9d113e51f23aafb0e4a507b7dc2ae673e9b28592ae42db6,
  0x856d89c255de9f72a8b4cd5a8703c9087d9e039c554ffee0b8f1ceb0f7cb5f03,
  0x4afbc618873ef9d3468bcb0e6472fb1f04c2484579efc808288b89ed63a82c68,
  0x48c46e1dc9dcaa78f9dc6718977f628596192a9d3509c85bbf05a56cdbce7b0c,
  0xacce2be37465e2bd3500fe0f1bc970c4b21c5a8d69f4797b5a125ebe2eee4907,
  0xed18176935144979f867cee06d01d97dc547ff88269c98f024fe43b6cbf62c62,
  0x35bfaa219511f18fa7cc63d396b9dbf52db0115019276d5005513aa5576840d8,
  0x54e422b06e9b486ea568979d6ac698f85e337bbff42d4cd3d552be5001650c99] : List Nat).map
    (.ofNatBe 32)

def relayHeaders : List Header :=
  ((relayCheckpoint.hash :: relayHashes).zip (List.range 11)).map fun (prev, i) =>
    ⟨1, prev, .fill 32 0x11, 1700001001 + UInt32.ofNat i, 0x207fffff, 0⟩

def relayCrate : Crate :=
  crateWith (tableHash ((relayHeaders.map Header.serialize).zip relayHashes))

def relayCalls : List SubmitCall := [⟨1, relayHeaders.map Header.serialize, 1700002000⟩]

/-- The record of block 10 is built, and block 11 gets the next one. -/
theorem relay_records_incremental_regtest :
    let chain := (HeaderChain.new .regtest relayCheckpoint).run relayCrate relayCalls
    ∃ bytes header, relayRecord relayCrate chain 10 = .ok bytes ∧ bytes.length = 160 ∧
      chain.headerAt 11 = some header ∧ ∃ record : StoredBlockHeader, record.encode = bytes ∧
        relayRecord relayCrate chain 11 = .ok (record.next relayCrate header).encode := by
  have built : (relayRecord relayCrate ((HeaderChain.new .regtest relayCheckpoint).run relayCrate
      relayCalls) 10).isOk = true := by decide +kernel
  have found : (((HeaderChain.new .regtest relayCheckpoint).run relayCrate relayCalls).headerAt
      11).isSome = true := by decide +kernel
  obtain ⟨header, found⟩ := Option.isSome_iff_exists.mp found
  cases made : relayRecord relayCrate ((HeaderChain.new .regtest relayCheckpoint).run relayCrate
      relayCalls) 10 with
  | error error =>
      rw [made] at built
      cases built
  | ok bytes =>
      obtain ⟨⟨length, record, encoded, -, -, -, next⟩, -⟩ := relay_records_incremental relayCrate
        .regtest relayCheckpoint relayCalls (.ofNatBe 32 2) rfl 10 bytes made
      exact ⟨bytes, header, made, length, found, record, encoded, next header found⟩

end Samples

end EnclaveSigner.Evm
