import EnclaveSigner.Parent.SourceFetch
import EnclaveSigner.Spv.Placement

/-! # Fork repair

The distance that the parent rewinds, the floor that it learns and the size of its
batches are set apart from the rules of the enclave: how deep a reorg may go, where
it may start, how many headers one call takes. They fit.
-/

namespace EnclaveSigner.Parent

open Lib Bitcoin Spv HeaderChain Server SubmitRateLimiter SyncWorld

/-- The chain of the enclave if it held the first `count` blocks of a chain above the
    checkpoint. -/
def sourceChain (btc : Crate) (network : Network) (checkpoint : Checkpoint)
    (blocks : Nat → Header) (count : Nat) : HeaderChain :=
  { HeaderChain.new network checkpoint with
    headers := segment blocks (checkpoint.height.toNat + 1) count
    hashes := (segment blocks (checkpoint.height.toNat + 1) count).map (·.blockHash btc) }

/-- The first `count` blocks above the checkpoint obey all header rules at a time of
    the enclave clock. -/
def ObeysRules (btc : Crate) (network : Network) (checkpoint : Checkpoint)
    (blocks : Nat → Header) (nowUnix : UInt64) (count : Nat) : Prop :=
  ∀ i < count, (sourceChain btc network checkpoint blocks i).checkNext btc nowUnix
    (blocks (checkpoint.height.toNat + 1 + i)) = .ok ()

section Source

variable {btc : Crate} {network : Network} {checkpoint : Checkpoint} {blocks : Nat → Header}
  {nowUnix : UInt64} {count : Nat}

theorem sourceChain_push (i : Nat) :
    (sourceChain btc network checkpoint blocks i).push
        (blocks (checkpoint.height.toNat + 1 + i),
          (blocks (checkpoint.height.toNat + 1 + i)).blockHash btc) =
      sourceChain btc network checkpoint blocks (i + 1) := by
  have one : segment blocks (checkpoint.height.toNat + 1 + i) 1 =
      [blocks (checkpoint.height.toNat + 1 + i)] := rfl
  simp only [HeaderChain.push, sourceChain, segment_append, one, List.map_append, List.map_cons,
    List.map_nil]

theorem ObeysRules.valid (rules : ObeysRules btc network checkpoint blocks nowUnix count)
    (fits : count ≤ MAX_STORED_HEADERS) :
    (sourceChain btc network checkpoint blocks count).Valid btc network checkpoint := by
  induction count with
  | zero => exact new_valid btc network checkpoint
  | succ count ih =>
      have below := ih (fun i inside => rules i (by omega)) (by omega)
      rw [← sourceChain_push]
      refine below.push (followsRules_of_checkNext (rules count (by omega))) ?_
      rw [sourceChain, segment_length]
      omega

def staged (btc : Crate) (headers : List Header) : List Staged :=
  headers.map fun header => (header, header.blockHash btc)

theorem ObeysRules.grows (rules : ObeysRules btc network checkpoint blocks nowUnix count)
    {i n : Nat} (inside : i + n ≤ count) :
    let batch := segment blocks (checkpoint.height.toNat + 1 + i) n
    HeaderChain.Grows btc nowUnix (sourceChain btc network checkpoint blocks i)
      (batch.map (·.serialize)) (staged btc batch) := by
  induction n generalizing i with
  | zero => exact .nil
  | succ n ih =>
      intro batch
      have split : batch = _ := segment_succ
      rw [split, List.map_cons, staged, List.map_cons]
      refine .cons (Header.deserialize_serialize _) (rules i (by omega)) ?_
      rw [sourceChain_push]
      exact ih (by omega)

theorem foldl_push_source (i n : Nat) :
    (staged btc (segment blocks (checkpoint.height.toNat + 1 + i) n)).foldl HeaderChain.push
        (sourceChain btc network checkpoint blocks i) =
      sourceChain btc network checkpoint blocks (i + n) := by
  rw [foldl_push]
  simp [sourceChain, staged, segment_append, Function.comp_def]

end Source

section Acceptance

variable {btc : Crate} {network : Network} {checkpoint : Checkpoint} {blocks : Nat → Header}
  {nowUnix : UInt64} {count : Nat} {chain : HeaderChain}

theorem truncate_eq_source (valid : chain.Valid btc network checkpoint) {kept : Nat}
    (same : chain.headers.take kept = segment blocks (checkpoint.height.toNat + 1) kept) :
    chain.truncate kept = sourceChain btc network checkpoint blocks kept := by
  obtain ⟨rfl, rfl, stored, -⟩ := valid
  obtain ⟨baseHeight, baseHash, baseBits, baseTime, cap, -, hashes⟩ := stored
  rw [HeaderChain.truncate, hashes, ← List.map_take, same]
  cases chain
  simp only at baseHeight baseHash baseBits baseTime cap
  rw [baseHeight, baseHash, baseBits, baseTime, cap]
  rfl

theorem take_eq_of_shared
    (collisionFree : Header.CollisionFree btc {header | header ∈
      chain.headers ++ segment blocks (checkpoint.height.toNat + 1) count})
    (valid : chain.Valid btc network checkpoint)
    (rules : ObeysRules btc network checkpoint blocks nowUnix count)
    (fits : count ≤ MAX_STORED_HEADERS) {height : BlockHeight}
    (low : checkpoint.height ≤ height) (high : height.toNat - checkpoint.height.toNat ≤ count)
    (shared : chain.hashAt height = some ((blocks height.toNat).blockHash btc)) :
    chain.headers.take (height.toNat - checkpoint.height.toNat) =
      segment blocks (checkpoint.height.toNat + 1) (height.toNat - checkpoint.height.toNat) := by
  have base := valid.baseHeight_eq
  have low := UInt32.le_iff_toNat_le.mp low
  generalize distance : height.toNat - checkpoint.height.toNat = d at high
  cases d with
  | zero => rfl
  | succ d =>
      have above : chain.baseHeight.toNat < height.toNat := by
        rw [base]
        omega
      rw [valid.stored.hashAt_eq (UInt32.lt_iff_toNat_lt.mpr above),
        headerAt_above chain above, base, distance, Nat.add_sub_cancel,
        Option.map_eq_some_iff] at shared
      obtain ⟨header, found, same⟩ := shared
      have place : height.toNat = checkpoint.height.toNat + 1 + d := by omega
      have found' : (sourceChain btc network checkpoint blocks count).headers[d]? =
          some (blocks height.toNat) := by
        rw [place]
        exact segment_getElem? (by omega)
      have equal : header = blocks height.toNat :=
        Header.eq_of_blockHash_eq btc collisionFree
          (List.mem_append_left _ (List.mem_of_getElem? found))
          (List.mem_append_right _ (List.mem_of_getElem? found')) same
      rw [equal] at found
      have taken := valid.take_eq collisionFree (rules.valid fits)
        (fun _ member => List.mem_append_left _ member)
        (fun _ member => List.mem_append_right _ member) found found'
      rw [taken]
      exact segment_take high

theorem submitHeaders_source (valid : chain.Valid btc network checkpoint)
    (rules : ObeysRules btc network checkpoint blocks nowUnix count)
    (fits : count ≤ MAX_STORED_HEADERS) {start : BlockHeight} {kept n : Nat}
    (place : start.toNat = checkpoint.height.toNat + 1 + kept) (nonempty : 0 < n)
    (perCall : n ≤ MAX_HEADERS_PER_SUBMIT) (inside : kept + n ≤ count)
    (below : kept ≤ chain.headers.length)
    (unwrapped : checkpoint.height.toNat + chain.headers.length + 1 < 2 ^ 32)
    (shallow : chain.headers.length - kept ≤ MAX_REORG_DEPTH.toNat)
    (same : chain.headers.take kept = segment blocks (checkpoint.height.toNat + 1) kept)
    (heavier : kept < chain.headers.length →
      (sumWork btc (chain.headers.drop kept)).getD 0 <
        (sumWork btc (segment blocks start.toNat n)).getD 0) :
    let chain' := sourceChain btc network checkpoint blocks (kept + n)
    HeaderChain.submitHeaders btc start ((segment blocks start.toNat n).map (·.serialize)) nowUnix
        chain =
      .ok ⟨chain'.tipHeight, chain'.tipHash, .ofNat n, .ofNat (chain.headers.length - kept)⟩
        chain' := by
  intro chain'
  have base := valid.baseHeight_eq
  have kept_eq : chain.kept start = kept := by
    rw [kept_toNat (by rw [base]; omega), base]
    omega
  have short := valid.stored.length
  have depth : (UInt32.ofNat (chain.headers.length - kept)).toNat = chain.headers.length - kept :=
    toNat_ofNat32 (by rw [MAX_STORED_HEADERS] at short; omega)
  have placed : chain.Placed start n (.ofNat (chain.headers.length - kept)) := by
    refine ⟨?_, ?_, ?_, ?_, ?_, ?_⟩
    · rw [kept_eq, base]
      omega
    · rwa [kept_eq]
    · rwa [base]
    · rw [kept_eq, depth]
    · rwa [UInt32.le_iff_toNat_le, depth]
    · rw [kept_eq, valid.stored.cap]
      exact inside.trans fits
  have bottom : chain.committed start [] = sourceChain btc network checkpoint blocks kept := by
    rw [committed_nil, kept_eq]
    exact truncate_eq_source valid same
  have grows := rules.grows inside
  rw [← place, ← bottom] at grows
  have committed : chain' = chain.committed start (staged btc (segment blocks start.toNat n)) := by
    rw [← foldl_push_committed, bottom, place]
    exact (foldl_push_source kept n).symm
  have raws : (List.map (·.serialize) (segment blocks start.toNat n)).length = n := by
    rw [List.length_map, segment_length]
  have length : (staged btc (segment blocks start.toNat n)).length = n := by
    rw [staged, List.length_map, segment_length]
  refine (submitHeaders_ok valid.stored).mpr (.inr ⟨_, staged btc
    (segment blocks start.toNat n), (accepted_iff _ valid.stored).mpr
      ⟨?_, by rwa [raws], by rwa [raws], grows, ?_⟩, committed, by rw [length]⟩)
  · intro empty
    rw [empty] at raws
    exact absurd raws nonempty.ne
  · intro reorg
    have some_displaced : kept < chain.headers.length := by
      rw [UInt32.lt_iff_toNat_lt, depth, UInt32.toNat_zero] at reorg
      omega
    have headers : (staged btc (segment blocks start.toNat n)).map Prod.fst =
        segment blocks start.toNat n := by
      simp [staged, Function.comp_def]
    rw [kept_eq, HeaderChain.checkWork, refuse_ok, BitVec.not_le, headers]
    exact heavier some_displaced

end Acceptance

section Steps

variable {btc : Crate} {network : Network} {checkpoint : Checkpoint} {blocks : Nat → Header}
  {s start : UInt32} {kept n now : Nat} {world : SyncWorld}

theorem sourceChain_tip (place : start.toNat = checkpoint.height.toNat + 1 + kept)
    (nonempty : 0 < n) :
    let chain := sourceChain btc network checkpoint blocks (kept + n)
    chain.tipHeight = start + .ofNat n - 1 ∧
      (segment blocks start.toNat n).getLast?.map (·.blockHash btc) = some chain.tipHash := by
  obtain ⟨n, rfl⟩ := Nat.exists_eq_succ_of_ne_zero nonempty.ne'
  intro chain
  have last : chain.hashes.getLast? = some ((blocks (start.toNat + n)).blockHash btc) := by
    have top : checkpoint.height.toNat + 1 + (kept + n) = start.toNat + n := by omega
    change (List.map _ (segment blocks _ (kept + n + 1))).getLast? = _
    rw [List.getLast?_map, segment_getLast?, top, Option.map_some]
  constructor
  · apply UInt32.toNat_inj.mp
    have length : chain.headers.length = kept + (n + 1) := segment_length
    have base : chain.baseHeight = checkpoint.height := rfl
    have bound := start.toNat_lt
    rw [HeaderChain.tipHeight, length, base]
    simp only [UInt32.toNat_add, UInt32.toNat_sub, UInt32.toNat_ofNat', UInt32.toNat_one]
    omega
  · rw [segment_getLast?, HeaderChain.tipHash, last]
    rfl

theorem submit_ok {limiter : SubmitRateLimiter} {headers : List Header} {outcome : SubmitOutcome}
    {chain' : HeaderChain}
    (admitted : SubmitRateLimiter.check ⟨.ofNat headers.length, now⟩ world.store.limiter =
      .ok () limiter)
    (accepted : HeaderChain.submitHeaders btc start (headers.map (·.serialize))
      (.ofNat (now / 1000000000)) world.store.chain = .ok outcome chain') :
    submit btc start headers now world =
      .ok outcome ⟨world.floor, chain', limiter⟩ := by
  rw [submit, HeaderStore.handleSubmitHeaders, List.length_map, admitted]
  simp only [accepted]

theorem submit_refused {limiter : SubmitRateLimiter} {headers : List Header} {error : SpvError}
    {chain' : HeaderChain}
    (admitted : SubmitRateLimiter.check ⟨.ofNat headers.length, now⟩ world.store.limiter =
      .ok () limiter)
    (refused : HeaderChain.submitHeaders btc start (headers.map (·.serialize))
      (.ofNat (now / 1000000000)) world.store.chain = .error error chain') :
    submit btc start headers now world =
      .error s!"enclave refused headers (code 3): {errorText (.spv error.message)}"
        ⟨(checkpointIn (errorText (.spv error.message))).or world.floor, chain', limiter⟩ := by
  rw [submit, HeaderStore.handleSubmitHeaders, List.length_map, admitted]
  simp only [refused]

theorem sendBatch_ok {limiter : SubmitRateLimiter} {depth : BlockHeight}
    (place : start.toNat = checkpoint.height.toNat + 1 + kept) (nonempty : 0 < n)
    (admitted : SubmitRateLimiter.check ⟨.ofNat n, now⟩ world.store.limiter = .ok () limiter)
    (accepted : let chain' := sourceChain btc network checkpoint blocks (kept + n)
      HeaderChain.submitHeaders btc start ((segment blocks start.toNat n).map (·.serialize))
        (.ofNat (now / 1000000000)) world.store.chain =
          .ok ⟨chain'.tipHeight, chain'.tipHash, .ofNat n, depth⟩ chain') :
    sendBatch btc s start (segment blocks start.toNat n) now world =
      .ok (if start + .ofNat n - 1 ≥ s then .synced else .syncing)
        ⟨world.floor, sourceChain btc network checkpoint blocks (kept + n), limiter⟩ := by
  obtain ⟨height, hash⟩ := @sourceChain_tip btc network checkpoint blocks start kept n place nonempty
  have sent := submit_ok (by rwa [segment_length]) accepted
  refine run_bind_ok.mpr ⟨_, _, lift_ok.mpr ⟨okOr_ok.mpr hash, rfl⟩, ?_⟩
  refine run_bind_ok.mpr ⟨_, _, sent, run_bind_ok.mpr ⟨(), _, lift_ok.mpr ⟨?_, rfl⟩, ?_⟩⟩
  · rw [refuse_ok, segment_length, height]
    exact not_not.mpr ⟨rfl, rfl, rfl⟩
  · rw [segment_length]
    rfl

theorem sendBatch_belowCheckpoint {limiter : SubmitRateLimiter} {headers : List Header}
    (nonempty : headers ≠ []) (short : headers.length ≤ MAX_HEADERS_PER_SUBMIT)
    (admitted : SubmitRateLimiter.check ⟨.ofNat headers.length, now⟩ world.store.limiter =
      .ok () limiter)
    (low : start ≤ world.store.chain.checkpoint.height) :
    let checkpoint := world.store.chain.checkpoint.height
    sendBatch btc s start headers now world =
      .error s!"enclave refused headers (code 3): {errorText (belowCheckpoint start checkpoint)}"
        ⟨some checkpoint, world.store.chain, limiter⟩ := by
  intro checkpoint
  have misplaced : world.store.chain.placeBatch start (headers.map (·.serialize)).length =
      .error (.belowCheckpoint start checkpoint) := by
    rw [HeaderChain.placeBatch]
    simp only [refuse, low, if_true]
    rfl
  have refused : HeaderChain.submitHeaders btc start (headers.map (·.serialize))
      (.ofNat (now / 1000000000)) world.store.chain = .error _ _ :=
    submitHeaders_of_error (by simpa using nonempty)
      (by rwa [List.length_map]) (.inl misplaced)
  have sent := submit_refused admitted refused
  have learned := checkpointIn_belowCheckpoint start checkpoint
  rw [belowCheckpoint] at learned
  rw [learned, Option.some_or] at sent
  have last : headers.getLast?.map (·.blockHash btc) =
      some ((headers.getLast nonempty).blockHash btc) := by
    rw [List.getLast?_eq_some_getLast nonempty, Option.map_some]
  refine run_bind_error.mpr (.inr ⟨_, _, lift_ok.mpr ⟨okOr_ok.mpr last, rfl⟩, ?_⟩)
  exact run_bind_error.mpr (.inl sent)

theorem step_eq {session : Session} {age : UInt32} {headers : List Header} (on : age ≠ 0)
    (fetched : fetch btc (.ok session) world.store.chain.tipHeight world.store.chain.tipHash
      (rewindTo world.floor world.store.chain.tipHeight) =
        .ok (s, some (start, headers))) :
    step btc ⟨.ok age, some (.ok session), now⟩ world =
      sendBatch btc s start headers now world := by
  rw [step, run_bind_of_ok (lift_ok.mpr ⟨rfl, rfl⟩), if_neg on]
  have read : (get : EStateM String SyncWorld SyncWorld) world = .ok world world := rfl
  exact (run_bind_of_ok read).trans (run_bind_of_ok (lift_ok.mpr ⟨fetched, rfl⟩))

end Steps

/-- A chain of blocks up to height `s` to which two steps at the given times can bring
    the enclave: it is ahead, shares a block near the tip, obeys the rules, fits and, if
    the tip of the enclave is not one of its blocks, has more work. -/
structure Repairable (btc : Crate) (chain : HeaderChain) (limiter : SubmitRateLimiter)
    (floor : Option UInt32) (blocks : Nat → Header) (s : UInt32) (first second : Nat) : Prop where
  ahead : chain.tipHeight < s
  shares : ∃ height : BlockHeight, chain.tipHeight.toNat - 100 ≤ height.toNat ∧
    chain.checkpoint.height ≤ height ∧ height ≤ chain.tipHeight ∧
    chain.hashAt height = some ((blocks height.toNat).blockHash btc)
  rules : ∀ now ∈ [first, second], ObeysRules btc chain.network chain.checkpoint blocks
    (.ofNat (now / 1000000000)) (s.toNat - chain.checkpoint.height.toNat)
  fits : s.toNat - chain.checkpoint.height.toNat ≤ MAX_STORED_HEADERS
  /-- The exact work from the start of a repair on, which the sums of the enclave hold. -/
  heavier : (blocks chain.tipHeight.toNat).blockHash btc ≠ chain.tipHash →
    let start := rewindTo (some chain.checkpoint.height) chain.tipHeight
    let work := totalWork btc (segment blocks start.toNat (batchLength s start))
    totalWork btc (chain.headers.drop
      (start.toNat - 1 - chain.checkpoint.height.toNat)) < work ∧ work < 2 ^ 256
  /-- The limiter admits the batch of the first step and, if that is refused at the
      checkpoint, the one of the second. -/
  rate : let start := fun floor => batchStart btc blocks chain.tipHash floor chain.tipHeight
    let size := fun floor => UInt64.ofNat (batchLength s (start floor))
    ∃ middle, SubmitRateLimiter.check ⟨size floor, first⟩ limiter = .ok () middle ∧
      (start floor ≤ chain.checkpoint.height → ∃ last,
        SubmitRateLimiter.check ⟨size (some chain.checkpoint.height), second⟩ middle = .ok () last)

/-- The chain of the enclave is the one of the source, up to a height above the tip it
    had before. -/
def Repaired (btc : Crate) (before : HeaderChain) (blocks : Nat → Header) (s : UInt32)
    (after : HeaderChain) : Prop :=
  ∃ last, before.tipHeight.toNat < last ∧ last ≤ s.toNat ∧
    after = sourceChain btc before.network before.checkpoint blocks
      (last - before.checkpoint.height.toNat)

section Repair

variable {btc : Crate} {network : Network} {checkpoint : Checkpoint} {blocks : Nat → Header}
  {s : UInt32} {chain : HeaderChain} {limiter : SubmitRateLimiter} {floor : Option UInt32}
  {first second : Nat}

theorem hashAt_tip (stored : chain.Stored btc)
    (unwrapped : chain.baseHeight.toNat + chain.headers.length < 2 ^ 32) :
    chain.hashAt chain.tipHeight = some chain.tipHash := by
  have tip := tipHeight_toNat chain unwrapped
  cases length : chain.headers.length with
  | zero =>
      have base : chain.tipHeight = chain.baseHeight := UInt32.toNat_inj.mp (by omega)
      have none_stored : chain.hashes = [] := by
        rw [← List.length_eq_zero_iff, stored.parallel, length]
      rw [HeaderChain.hashAt, if_pos base, HeaderChain.tipHash, none_stored, stored.baseHash]
      rfl
  | succ n =>
      have above : chain.baseHeight.toNat < chain.tipHeight.toNat := by omega
      have place : chain.tipHeight.toNat - chain.baseHeight.toNat - 1 = n := by omega
      have nonempty : chain.headers ≠ [] := by
        intro empty
        rw [empty] at length
        cases length
      have last : chain.headers[n]? = chain.headers.getLast? := by
        rw [List.getLast?_eq_getElem?, length, Nat.add_sub_cancel]
      rw [stored.hashAt_eq (UInt32.lt_iff_toNat_lt.mpr above), headerAt_above chain above,
        place, last, HeaderChain.tipHash, stored.hashes, List.getLast?_map,
        List.getLast?_eq_some_getLast nonempty]
      rfl

theorem rewindTo_toNat {c h : UInt32} (small : c.toNat + 1 < 2 ^ 32) :
    (rewindTo (some c) h).toNat = max (h.toNat - 99) (c.toNat + 1) := by
  have next : (c + 1).toNat = c.toNat + 1 := by
    rw [toNat_add32 (by simpa using small)]
    rfl
  rw [rewindTo, toNat_max32, toNat_satSub32]
  change max (h.toNat - 99) (c + 1).toNat = _
  rw [next]

theorem rewindTo_none_toNat (h : UInt32) :
    (rewindTo none h).toNat = max (h.toNat - 99) 1 := by
  rw [rewindTo, toNat_max32, toNat_satSub32]
  rfl

theorem tip_unwrapped (stored : chain.Stored btc) (above : chain.baseHeight ≤ chain.tipHeight) :
    chain.baseHeight.toNat + chain.headers.length < 2 ^ 32 := by
  have short := stored.length
  have bound := chain.baseHeight.toNat_lt
  rw [UInt32.le_iff_toNat_le, HeaderChain.tipHeight, UInt32.toNat_add, UInt32.toNat_ofNat'] at above
  rw [MAX_STORED_HEADERS] at short
  omega

theorem batchStart_floor {hash : BlockHash} {c h : UInt32} (known : floor = none ∨ floor = some c)
    (below : (blocks h.toNat).blockHash btc ≠ hash → c < h)
    (high : c < batchStart btc blocks hash floor h) :
    batchStart btc blocks hash floor h = batchStart btc blocks hash (some c) h := by
  rcases known with rfl | rfl
  · unfold batchStart at high ⊢
    split at high
    · rename_i same
      rw [if_pos same, if_pos same]
    · rename_i fork
      rw [if_neg fork, if_neg fork]
      apply UInt32.toNat_inj.mp
      rw [UInt32.lt_iff_toNat_lt, rewindTo_none_toNat] at high
      have below := UInt32.lt_iff_toNat_lt.mp (below fork)
      have small := h.toNat_lt
      rw [rewindTo_none_toNat, rewindTo_toNat (by omega)]
      omega
  · rfl

theorem Repairable.fork_above (valid : chain.Valid btc network checkpoint)
    (repairable : Repairable btc chain limiter floor blocks s first second)
    (fork : (blocks chain.tipHeight.toNat).blockHash btc ≠ chain.tipHash) :
    chain.checkpoint.height < chain.tipHeight := by
  obtain ⟨height, -, low, high, shared⟩ := repairable.shares
  refine UInt32.lt_of_le_of_ne (UInt32.le_trans low high) ?_
  intro same
  have atTip : height = chain.tipHeight := by
    rw [← same]
    exact UInt32.le_antisymm (same ▸ high) low
  have unwrapped := tip_unwrapped valid.stored
    (by rw [valid.stored.baseHeight, same]; exact UInt32.le_refl _)
  rw [atTip, hashAt_tip valid.stored unwrapped] at shared
  exact fork (Option.some.inj shared).symm

theorem sumWork_lt {old new : List Header}
    (heavier : totalWork btc old < totalWork btc new ∧
      totalWork btc new < 2 ^ 256) :
    (sumWork btc old).getD 0 < (sumWork btc new).getD 0 := by
  rw [BitVec.lt_def, sumWork_toNat, sumWork_toNat,
    Nat.mod_eq_of_lt (heavier.1.trans heavier.2), Nat.mod_eq_of_lt heavier.2]
  exact heavier.1

/-- What the enclave asks of the place of a batch. -/
structure Fits (btc : Crate) (chain : HeaderChain) (blocks : Nat → Header) (s start : UInt32)
    (kept : Nat) : Prop where
  tip : chain.tipHeight.toNat = chain.checkpoint.height.toNat + chain.headers.length
  place : start.toNat = chain.checkpoint.height.toNat + 1 + kept
  below : kept ≤ chain.headers.length
  ahead : start ≤ s
  shallow : chain.headers.length - kept ≤ MAX_REORG_DEPTH.toNat
  same : chain.headers.take kept = segment blocks (chain.checkpoint.height.toNat + 1) kept
  heavier : kept < chain.headers.length →
    (sumWork btc (chain.headers.drop kept)).getD 0 <
      (sumWork btc (segment blocks start.toNat (batchLength s start))).getD 0

theorem Repairable.batch_fits (valid : chain.Valid btc network checkpoint)
    (repairable : Repairable btc chain limiter floor blocks s first second)
    (collisionFree : Header.CollisionFree btc {header | header ∈
      chain.headers ++ segment blocks (chain.checkpoint.height.toNat + 1)
        (s.toNat - chain.checkpoint.height.toNat)}) :
    ∃ kept, Fits btc chain blocks s
      (batchStart btc blocks chain.tipHash (some chain.checkpoint.height) chain.tipHeight) kept := by
  have own := valid.checkpoint_eq
  have net := valid.network_eq
  subst own net
  obtain ⟨height, near, low, high, shared⟩ := repairable.shares
  have base := valid.stored.baseHeight
  have unwrapped := tip_unwrapped valid.stored (by rw [base]; exact UInt32.le_trans low high)
  have tip := tipHeight_toNat chain unwrapped
  have ahead := UInt32.lt_iff_toNat_lt.mp repairable.ahead
  have small := s.toNat_lt
  rw [base] at tip
  have agrees : ∀ height : BlockHeight, chain.checkpoint.height ≤ height →
      height ≤ chain.tipHeight →
      chain.hashAt height = some ((blocks height.toNat).blockHash btc) →
      chain.headers.take (height.toNat - chain.checkpoint.height.toNat) =
        segment blocks (chain.checkpoint.height.toNat + 1)
          (height.toNat - chain.checkpoint.height.toNat) := by
    intro height low high shared
    have high := UInt32.le_iff_toNat_le.mp high
    exact take_eq_of_shared collisionFree valid (repairable.rules first List.mem_cons_self)
      repairable.fits low (by omega) shared
  by_cases same : (blocks chain.tipHeight.toNat).blockHash btc = chain.tipHash
  · -- The tip is a block of the source: nothing is displaced.
    have next : (chain.tipHeight + 1).toNat = chain.tipHeight.toNat + 1 := by
      rw [toNat_add32 (by simp; omega)]
      rfl
    have whole := agrees chain.tipHeight (UInt32.le_trans low high) (UInt32.le_refl _)
      (by rw [hashAt_tip valid.stored unwrapped, same])
    have length : chain.tipHeight.toNat - chain.checkpoint.height.toNat = chain.headers.length := by
      omega
    rw [length] at whole
    rw [batchStart, if_pos same]
    exact ⟨chain.headers.length, tip, by omega, Nat.le_refl _, UInt32.le_iff_toNat_le.mpr (by omega),
      by simp, whole, fun displaced => absurd displaced (Nat.lt_irrefl _)⟩
  · have above := UInt32.lt_iff_toNat_lt.mp (repairable.fork_above valid same)
    have start := @rewindTo_toNat chain.checkpoint.height chain.tipHeight (by omega)
    have low := UInt32.le_iff_toNat_le.mp low
    have high' := UInt32.le_iff_toNat_le.mp high
    have depth : MAX_REORG_DEPTH.toNat = 100 := rfl
    have shorter := congrArg (List.take ((rewindTo (some chain.checkpoint.height)
      chain.tipHeight).toNat - 1 - chain.checkpoint.height.toNat))
        (agrees height (UInt32.le_iff_toNat_le.mpr low) high shared)
    rw [List.take_take, Nat.min_eq_left (by omega), segment_take (by omega)] at shorter
    rw [batchStart, if_neg same]
    exact ⟨_, tip, by omega, by omega, UInt32.le_iff_toNat_le.mpr (by omega), by omega, shorter,
      fun _ => sumWork_lt (repairable.heavier same)⟩

theorem Repairable.step_repairs (valid : chain.Valid btc network checkpoint)
    (repairable : Repairable btc chain limiter floor blocks s first second)
    (collisionFree : Header.CollisionFree btc {header | header ∈
      chain.headers ++ segment blocks (chain.checkpoint.height.toNat + 1)
        (s.toNat - chain.checkpoint.height.toNat)})
    {session : Session} (honest : Honest btc blocks s session) {age : UInt32} (on : age ≠ 0)
    {now : Nat} (atNow : now ∈ [first, second]) {known : Option UInt32}
    {current after : SubmitRateLimiter}
    (start_eq : batchStart btc blocks chain.tipHash known chain.tipHeight =
      batchStart btc blocks chain.tipHash (some chain.checkpoint.height) chain.tipHeight)
    (admitted : SubmitRateLimiter.check ⟨.ofNat (batchLength s
      (batchStart btc blocks chain.tipHash known chain.tipHeight)), now⟩ current = .ok () after) :
    ∃ state world, step btc ⟨.ok age, some (.ok session), now⟩
        ⟨known, chain, current⟩ = .ok state world ∧
      Repaired btc chain blocks s world.store.chain := by
  obtain ⟨kept, fits⟩ := repairable.batch_fits valid collisionFree
  rw [← start_eq] at fits
  have own := valid.checkpoint_eq
  have net := valid.network_eq
  subst own net
  have fetched := honest.fetch_eq repairable.ahead (by
    intro fork
    have above := UInt32.lt_iff_toNat_lt.mp (repairable.fork_above valid fork)
    have small := chain.tipHeight.toNat_lt
    have start := @rewindTo_toNat chain.checkpoint.height chain.tipHeight (by omega)
    rw [batchStart, batchStart, if_neg fork, if_neg fork] at start_eq
    rw [start_eq, UInt32.lt_iff_toNat_lt, UInt32.le_iff_toNat_le, start, UInt32.toNat_zero]
    omega)
  generalize batchStart btc blocks chain.tipHash known chain.tipHeight = start at fits admitted fetched
  have positive := batchLength_pos s start
  have ends := batch_ends fits.ahead
  have limit : batchLength s start ≤ MAX_HEADERS_PER_SUBMIT :=
    (batchLength_le s start).trans (by decide)
  have place := fits.place
  have below := fits.below
  have tip := fits.tip
  have ahead := UInt32.lt_iff_toNat_lt.mp repairable.ahead
  have small := s.toNat_lt
  have accepted := submitHeaders_source valid (repairable.rules now atNow) repairable.fits place
    positive limit (by omega) below (by omega) fits.shallow fits.same fits.heavier
  have sent := @sendBatch_ok btc chain.network chain.checkpoint blocks s start kept
    (batchLength s start) now ⟨known, chain, current⟩ after _ place positive admitted accepted
  have stepped := (@step_eq btc s start now ⟨known, chain, current⟩ session age _ on fetched).trans
    sent
  refine ⟨_, _, stepped, start.toNat + batchLength s start - 1, ?_, by omega, ?_⟩
  · have limit : MAX_HEADERS.toNat = 2016 := rfl
    have depth : MAX_REORG_DEPTH.toNat = 100 := rfl
    have shallow := fits.shallow
    rw [batchLength]
    omega
  · have count : kept + batchLength s start =
        start.toNat + batchLength s start - 1 - chain.checkpoint.height.toNat := by omega
    rw [count]

/-- The text that a refusal below the checkpoint ends in. -/
def refusedAt (start checkpoint : UInt32) : String :=
  s!"enclave refused headers (code 3): {errorText (belowCheckpoint start checkpoint)}"

theorem Repairable.step_learns
    (repairable : Repairable btc chain limiter none blocks s first second)
    {session : Session} (honest : Honest btc blocks s session) {age : UInt32} (on : age ≠ 0)
    {middle : SubmitRateLimiter}
    (low : batchStart btc blocks chain.tipHash none chain.tipHeight ≤ chain.checkpoint.height)
    (admitted : SubmitRateLimiter.check ⟨.ofNat (batchLength s
      (batchStart btc blocks chain.tipHash none chain.tipHeight)), first⟩ limiter =
        .ok () middle) :
    ∃ start, step btc ⟨.ok age, some (.ok session), first⟩ ⟨none, chain, limiter⟩ =
      .error (refusedAt start chain.checkpoint.height)
        ⟨some chain.checkpoint.height, chain, middle⟩ := by
  obtain ⟨height, -, above, below, -⟩ := repairable.shares
  have ahead := UInt32.lt_iff_toNat_lt.mp repairable.ahead
  have small := s.toNat_lt
  have tip := UInt32.le_iff_toNat_le.mp (UInt32.le_trans above below)
  have fork : (blocks chain.tipHeight.toNat).blockHash btc ≠ chain.tipHash := by
    intro same
    rw [batchStart, if_pos same, UInt32.le_iff_toNat_le, toNat_add32 (by simp; omega)] at low
    simp at low
    omega
  have start := rewindTo_none_toNat chain.tipHeight
  have fetched := honest.fetch_eq repairable.ahead (by
    intro fork
    rw [batchStart, if_neg fork, UInt32.le_iff_toNat_le, start] at low
    rw [UInt32.lt_iff_toNat_lt, UInt32.le_iff_toNat_le, start, UInt32.toNat_zero]
    omega)
  generalize batchStart btc blocks chain.tipHash none chain.tipHeight = start at low admitted fetched
  have nonempty : segment blocks start.toNat (batchLength s start) ≠ [] := by
    intro empty
    have length := congrArg List.length empty
    rw [segment_length, List.length_nil] at length
    exact absurd length (batchLength_pos s start).ne'
  have short : (segment blocks start.toNat (batchLength s start)).length ≤
      MAX_HEADERS_PER_SUBMIT := by
    rw [segment_length]
    exact (batchLength_le s start).trans (by decide)
  have refused := @sendBatch_belowCheckpoint btc s start first ⟨none, chain, limiter⟩ middle _
    nonempty short (by rwa [segment_length]) low
  exact ⟨start, (@step_eq btc s start first ⟨none, chain, limiter⟩ session age _ on fetched).trans
    refused⟩

theorem batch_in_place (valid : chain.Valid btc network checkpoint)
    (above : chain.checkpoint.height ≤ chain.tipHeight)
    (known : floor = none ∨ floor = some chain.checkpoint.height)
    (learned : floor = some chain.checkpoint.height ∨
      chain.checkpoint.height.toNat + 99 < chain.tipHeight.toNat)
    {connect : Except String Session} {start : UInt32} {headers : List Header}
    (fetched : fetch btc connect chain.tipHeight chain.tipHash
      (rewindTo floor chain.tipHeight) = .ok (s, some (start, headers)))
    {nowUnix : UInt64} {error : SpvError} {chain' : HeaderChain}
    (failed : HeaderChain.submitHeaders btc start (headers.map (·.serialize)) nowUnix chain =
      .error error chain') :
    ¬ error.IsPlacement := by
  obtain ⟨-, short, ahead, place⟩ := fetch_ok fetched
  have ahead := UInt32.lt_iff_toNat_lt.mp ahead
  have small := s.toNat_lt
  have next : (chain.tipHeight + 1).toNat = chain.tipHeight.toNat + 1 := by
    rw [toNat_add32 (by simp; omega)]
    rfl
  have bounds : chain.checkpoint.height.toNat < start.toNat ∧
      start.toNat ≤ chain.tipHeight.toNat + 1 ∧ chain.tipHeight.toNat + 1 - start.toNat ≤ 100 := by
    have above := UInt32.le_iff_toNat_le.mp above
    rcases place with rfl | ⟨rfl, le⟩
    · omega
    · have le := UInt32.le_iff_toNat_le.mp le
      rcases known with rfl | rfl
      · have deep := learned.resolve_left nofun
        rw [rewindTo_none_toNat] at le ⊢
        omega
      · rw [rewindTo_toNat (by omega)] at le ⊢
        omega
  refine submitHeaders_not_misplaced valid.stored ?_ ?_ ?_ ?_ failed
  · rw [List.length_map]
    exact short.trans (by decide)
  · exact UInt32.lt_iff_toNat_lt.mpr bounds.1
  · rw [UInt32.le_iff_toNat_le, next]
    exact bounds.2.1
  · rw [UInt32.le_iff_toNat_le, toNat_satSub32, next]
    exact bounds.2.2

end Repair

/-- Against an honest source whose chain can be reached, the first step repairs the
    chain of the enclave, or it only learns the checkpoint and the second step repairs
    the chain. Once a repair cannot start below the checkpoint, no batch is refused for
    its place or its size, whatever the source sends. -/
theorem fork_is_repaired (btc : Crate) (network : Network) (checkpoint : Checkpoint)
    (calls : List SubmitCall) (limiter : SubmitRateLimiter) (floor : Option UInt32)
    (known : floor = none ∨ floor = some checkpoint.height) :
    let chain := (HeaderChain.new network checkpoint).run btc calls
    (∀ (blocks : Nat → Header) (s : UInt32) (first second : Nat) (session session' : Session)
        (age age' : UInt32),
      Repairable btc chain limiter floor blocks s first second →
      Header.CollisionFree btc {header | header ∈ chain.headers ++
        segment blocks (checkpoint.height.toNat + 1) (s.toNat - checkpoint.height.toNat)} →
      Honest btc blocks s session → Honest btc blocks s session' → age ≠ 0 → age' ≠ 0 →
      let firstStep := step btc ⟨.ok age, some (.ok session), first⟩
        ⟨floor, chain, limiter⟩
      (∃ state world, firstStep = .ok state world ∧
        Repaired btc chain blocks s world.store.chain) ∨
      ∃ start middle,
        firstStep = .error (refusedAt start checkpoint.height)
          ⟨some checkpoint.height, chain, middle⟩ ∧
        ∃ state world, step btc ⟨.ok age', some (.ok session'), second⟩
            ⟨some checkpoint.height, chain, middle⟩ = .ok state world ∧
          Repaired btc chain blocks s world.store.chain) ∧
    (checkpoint.height ≤ chain.tipHeight →
      (floor = some checkpoint.height ∨
        checkpoint.height.toNat + 99 < chain.tipHeight.toNat) →
      ∀ connect s start headers, fetch btc connect chain.tipHeight chain.tipHash
          (rewindTo floor chain.tipHeight) = .ok (s, some (start, headers)) →
        ∀ nowUnix error chain', HeaderChain.submitHeaders btc start (headers.map (·.serialize))
          nowUnix chain = .error error chain' → ¬ error.IsPlacement) := by
  intro chain
  have valid : chain.Valid btc network checkpoint :=
    run_valid btc network checkpoint calls
  have own : chain.checkpoint = checkpoint := valid.checkpoint_eq
  clear_value chain
  subst own
  constructor
  · intro blocks s first second session session' age age' repairable collisionFree honest honest'
      on on' firstStep
    obtain ⟨middle, admitted, later⟩ := repairable.rate
    by_cases high : chain.checkpoint.height <
        batchStart btc blocks chain.tipHash floor chain.tipHeight
    · have same := batchStart_floor known (repairable.fork_above valid) high
      exact .inl (repairable.step_repairs valid collisionFree honest on List.mem_cons_self same
        admitted)
    · rw [UInt32.not_lt] at high
      obtain ⟨last, admitted'⟩ := later high
      rcases known with rfl | rfl
      · obtain ⟨start, learned⟩ := repairable.step_learns honest on high admitted
        have repaired := repairable.step_repairs valid collisionFree honest' on'
          (List.mem_cons_of_mem _ List.mem_cons_self) rfl admitted'
        exact .inr ⟨start, middle, learned, repaired⟩
      · exact .inl (repairable.step_repairs valid collisionFree honest on List.mem_cons_self rfl
          admitted)
  · intro above learned connect s start headers fetched nowUnix error chain' failed
    exact batch_in_place valid above known learned fetched failed

section Samples

def forkHash (name : Nat) : Word 32 :=
  .ofNatBe 32 ([
    0x3dcb75bd89c5146815ddc0d1d7314cb74619fdf72bfd6a733784a15bffb61dbb,
    0x12c0cd572f89f19e1ecb741b3dcc950f4a89a587bd558baedbc6b22b8ebfed7f,
    0xddb7e967142c5cf1d0de64fe597f81c2c8a02a0ff6aebf9e328d21dac852c934,
    0xb4bc83f13af43915206769e28ee7495fc070865a9ca66b87121ddd7b500b27a4].getD name 0)

def forkBlocks : Nat → Header
  | 0 => ⟨1, .zero 32, .zero 32, 1000, 0x207fffff, 0⟩
  | 1 => ⟨1, forkHash 0, .zero 32, 1001, 0x207fffff, 0⟩
  | 2 => ⟨1, forkHash 1, .zero 32, 1002, 0x207fffff, 0⟩
  | _ => ⟨1, forkHash 2, .zero 32, 1003, 0x207fffff, 0⟩

def forkRival : Header := ⟨1, forkHash 1, .zero 32, 1004, 0x207fffff, 0⟩

def forkCrate : Crate := crateWith (tableHash [
  ((forkBlocks 0).serialize, forkHash 0), ((forkBlocks 1).serialize, forkHash 1),
  ((forkBlocks 2).serialize, forkHash 2), ((forkBlocks 3).serialize, forkHash 3),
  (forkRival.serialize,
    .ofNatBe 32 0x7032547d56d618908a4bbb016c0077614b1a5b6a4900d339372fc7048a77d008)])

def forkCheckpoint : Checkpoint := ⟨1, forkHash 1, 0x207fffff, 1001, none⟩

def forkChain : HeaderChain :=
  (HeaderChain.new .regtest forkCheckpoint).run forkCrate [⟨2, [forkRival.serialize], 2000⟩]

/-- A source whose headers are `off` heights too low. -/
def forkSession (off : Nat) : Session where
  subscribe := .ok (3, forkBlocks 3)
  blockHeaders start count :=
    .ok (segment forkBlocks (start.toNat - off) (min count.toNat (4 - start.toNat)))

theorem forkSession_honest : Honest forkCrate forkBlocks 3 (forkSession 0) where
  tip := rfl
  serves := by
    intro start count positive le
    have positive := UInt32.lt_iff_toNat_lt.mp positive
    have le : start.toNat ≤ 3 := UInt32.le_iff_toNat_le.mp le
    rw [UInt32.toNat_zero] at positive
    exact ⟨min count.toNat (4 - start.toNat), by omega, Nat.min_le_left _ _,
      (by change _ ≤ 3 + 1; omega), rfl⟩
  linked := by
    change ∀ height < 3, _
    decide +kernel

theorem fork_repairable :
    Repairable forkCrate forkChain .default none forkBlocks 3 2000000000000 2000000000000 where
  ahead := by decide +kernel
  shares := ⟨1, by decide +kernel, by decide +kernel, by decide +kernel, by decide +kernel⟩
  rules := by
    intro now member
    have same : now = 2000000000000 := by simpa using member
    rw [same]
    change ∀ i < 2, _
    decide +kernel
  fits := by decide +kernel
  heavier := fun _ => by decide +kernel
  rate := ⟨_, check_eq.trans (if_neg (by decide +kernel)), fun _ =>
    ⟨_, check_eq.trans (if_neg (by decide +kernel))⟩⟩

theorem fork_collisionFree : Header.CollisionFree forkCrate {header | header ∈
    forkChain.headers ++ segment forkBlocks (forkCheckpoint.height.toNat + 1)
      ((3 : UInt32).toNat - forkCheckpoint.height.toNat)} := by
  rintro _ ⟨a, ha, rfl⟩ _ ⟨b, hb, rfl⟩ same
  have listed : forkChain.headers ++ segment forkBlocks (forkCheckpoint.height.toNat + 1)
      ((3 : UInt32).toNat - forkCheckpoint.height.toNat) =
        [forkRival, forkBlocks 2, forkBlocks 3] := by decide +kernel
  have apart : ∀ a ∈ [forkRival, forkBlocks 2, forkBlocks 3],
      ∀ b ∈ [forkRival, forkBlocks 2, forkBlocks 3],
        forkCrate.sha256d a.serialize = forkCrate.sha256d b.serialize →
          a.serialize = b.serialize := by decide +kernel
  rw [Set.mem_ofPred_eq, listed] at ha hb
  exact apart a ha b hb same

/-- One header above the checkpoint is replaced by two, and the first step starts too
    low. A source whose headers are one height off is refused, but not for the place of
    the batch. -/
theorem fork_is_repaired_two_steps :
    let step := step forkCrate ⟨.ok 7200, some (.ok (forkSession 0)), 2000000000000⟩
    forkChain.headers = [forkRival] ∧
    ((∃ state world, step ⟨none, forkChain, .default⟩ = .ok state world ∧
        Repaired forkCrate forkChain forkBlocks 3 world.store.chain) ∨
      ∃ start middle,
        step ⟨none, forkChain, .default⟩ =
          .error (refusedAt start 1) ⟨some 1, forkChain, middle⟩ ∧
        ∃ state world, step ⟨some 1, forkChain, middle⟩ = .ok state world ∧
          Repaired forkCrate forkChain forkBlocks 3 world.store.chain) ∧
    fetch forkCrate (.ok (forkSession 1)) 2 forkChain.tipHash 2 =
      .ok (3, some (2, [forkBlocks 1, forkBlocks 2])) ∧
    forkChain.accepts forkCrate
      ⟨2, [(forkBlocks 1).serialize, (forkBlocks 2).serialize], 2000⟩ = false ∧
    ∀ error chain', HeaderChain.submitHeaders forkCrate 2
      ([forkBlocks 1, forkBlocks 2].map (·.serialize)) 2000 forkChain = .error error chain' →
        ¬ error.IsPlacement := by
  intro step
  have fetched : fetch forkCrate (.ok (forkSession 1)) 2 forkChain.tipHash 2 =
      .ok (3, some (2, [forkBlocks 1, forkBlocks 2])) := by decide +kernel
  refine ⟨by decide +kernel, ?_, fetched, by decide +kernel, ?_⟩
  · exact (fork_is_repaired forkCrate .regtest forkCheckpoint [⟨2, [forkRival.serialize], 2000⟩]
      .default none (.inl rfl)).1 forkBlocks 3 2000000000000 2000000000000 (forkSession 0)
        (forkSession 0) 7200 7200 fork_repairable fork_collisionFree forkSession_honest
        forkSession_honest (by decide) (by decide)
  · exact (fork_is_repaired forkCrate .regtest forkCheckpoint [⟨2, [forkRival.serialize], 2000⟩]
      .default (some 1) (.inr rfl)).2 (by decide +kernel) (.inl rfl) (.ok (forkSession 1)) 3 2
        [forkBlocks 1, forkBlocks 2] fetched 2000

end Samples

end EnclaveSigner.Parent
