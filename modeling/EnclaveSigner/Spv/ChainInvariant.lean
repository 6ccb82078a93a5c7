import EnclaveSigner.Spv.StagedLookup

/-! # Invariants of the header chain

Each stored header passes the header rules when they are evaluated again on the
stored headers below it. Truncation keeps this because a rule reads nothing above
the header it checks, and an accepted batch because its headers pass one after
another on the chain they end up on.
-/

namespace EnclaveSigner.Spv

open Lib Bitcoin

/-- A call of `SubmitHeaders`. -/
structure SubmitCall where
  startHeight : BlockHeight
  rawHeaders : List Bytes
  nowUnix : UInt64

namespace HeaderChain

/-- The chain after a call, accepted or not. -/
def afterSubmit (btc : Crate) (chain : HeaderChain) (call : SubmitCall) : HeaderChain :=
  match submitHeaders btc call.startHeight call.rawHeaders call.nowUnix chain with
  | .ok _ chain' => chain'
  | .error _ chain' => chain'

/-- The chain after a sequence of calls. -/
def run (btc : Crate) (chain : HeaderChain) (calls : List SubmitCall) : HeaderChain :=
  calls.foldl (afterSubmit btc) chain

/-- The header obeys the rules on top of the chain `below`: linkage, the timewarp
    rule, the median time past and, where the network enforces proof of work,
    `nBits` and the work itself. The clock bound of the call is not part of it. -/
structure FollowsRules (btc : Crate) (below : HeaderChain) (header : Header) : Prop where
  linkage : checkLinkage header below.tipBlock.1 (below.tipHeight + 1) = .ok ()
  timewarp : checkTimewarp (below.tipHeight + 1) header.time below.tipBlock.2.2 below.network
    = .ok ()
  medianTimePast : ∃ median,
    below.medianTimePastBelow (below.tipHeight + 1) (below.tipHeight + 1) [] = .ok median ∧
    checkTimeTooOld (below.tipHeight + 1) header.time median = .ok ()
  bits : below.network.enforcesPow = true → ∃ input,
    below.bitsInput btc (below.tipHeight + 1) header.time below.tipBlock.2.1 below.tipBlock.2.2
      (below.tipHeight + 1) [] = .ok input ∧
    checkBits (below.tipHeight + 1) header.bits (expectedBits btc input below.network) = .ok ()
  pow : checkPow btc header (below.tipHeight + 1) below.network = .ok ()

/-- A chain that starts at `checkpoint` and holds only headers that follow the
    rules on the headers below them. -/
structure Valid (btc : Crate) (network : Network) (checkpoint : Checkpoint)
    (chain : HeaderChain) : Prop where
  network_eq : chain.network = network
  checkpoint_eq : chain.checkpoint = checkpoint
  stored : chain.Stored btc
  rules : ∀ i header, chain.headers[i]? = some header →
    FollowsRules btc (chain.truncate i) header

section

variable {btc : Crate} {network : Network} {checkpoint : Checkpoint} {chain : HeaderChain}

theorem Valid.baseHeight_eq (valid : chain.Valid btc network checkpoint) :
    chain.baseHeight = checkpoint.height := by
  rw [valid.stored.baseHeight, valid.checkpoint_eq]

theorem followsRules_of_checkNext {nowUnix : UInt64} {header : Header}
    (passes : chain.checkNext btc nowUnix header = .ok ()) : FollowsRules btc chain header := by
  simp only [checkNext, checkHeader, bind_ok] at passes
  obtain ⟨expected, bits, median, medianBelow, full⟩ := passes
  obtain ⟨linkage, timewarp, -, old, bitsOk, pow⟩ := validateHeaderFull_ok.mp full
  refine ⟨linkage, timewarp, ⟨median, medianBelow, old⟩, ?_, pow⟩
  intro enforced
  rw [requiredBits, if_pos enforced, bind_ok] at bits
  obtain ⟨input, found, same⟩ := bits
  cases same
  exact ⟨input, found, bitsOk⟩

theorem afterSubmit_cases (stored : chain.Stored btc) (call : SubmitCall) :
    chain.afterSubmit btc call = chain ∨
      ∃ depth staged,
        Accepted btc chain call.startHeight call.rawHeaders call.nowUnix depth staged ∧
        chain.afterSubmit btc call = chain.committed call.startHeight staged := by
  unfold afterSubmit
  cases result : submitHeaders btc call.startHeight call.rawHeaders call.nowUnix chain with
  | error e chain' => exact .inl (submitHeaders_error result)
  | ok outcome chain' =>
      rcases (submitHeaders_ok stored).mp result with
        ⟨-, same, -⟩ | ⟨depth, staged, accepted, same, -⟩
      · exact .inl same
      · exact .inr ⟨depth, staged, accepted, same⟩

theorem truncate_truncate {i k : Nat} (le : i ≤ k) :
    (chain.truncate k).truncate i = chain.truncate i := by
  simp [truncate, List.take_take, Nat.min_eq_left le]

theorem Valid.truncate (valid : chain.Valid btc network checkpoint) (k : Nat) :
    (chain.truncate k).Valid btc network checkpoint where
  network_eq := valid.network_eq
  checkpoint_eq := valid.checkpoint_eq
  stored :=
    { valid.stored with
      length := (List.length_take_le' _ _).trans valid.stored.length
      hashes := by simp [HeaderChain.truncate, valid.stored.hashes] }
  rules := by
    intro i header found
    simp only [HeaderChain.truncate, List.getElem?_take] at found
    split at found
    case isFalse => cases found
    rename_i inside
    rw [truncate_truncate (Nat.le_of_lt inside)]
    exact valid.rules i header found

theorem Valid.push (valid : chain.Valid btc network checkpoint) {header : Header}
    (rules : FollowsRules btc chain header)
    (room : chain.headers.length < MAX_STORED_HEADERS) :
    (chain.push (header, header.blockHash btc)).Valid btc network checkpoint where
  network_eq := valid.network_eq
  checkpoint_eq := valid.checkpoint_eq
  stored :=
    { valid.stored with
      length := by simpa [HeaderChain.push] using Nat.succ_le_of_lt room
      hashes := by simp [HeaderChain.push, valid.stored.hashes] }
  rules := by
    intro i other found
    have parallel := valid.stored.parallel
    have below : ∀ i ≤ chain.headers.length,
        (chain.push (header, header.blockHash btc)).truncate i = chain.truncate i := by
      intro i le
      simp only [HeaderChain.truncate, HeaderChain.push]
      rw [List.take_append_of_le_length le, List.take_append_of_le_length (parallel ▸ le)]
    rcases Nat.lt_or_ge i chain.headers.length with old | new
    · rw [below i (Nat.le_of_lt old)]
      simp only [HeaderChain.push] at found
      rw [List.getElem?_append_left old] at found
      exact valid.rules i other found
    · simp only [HeaderChain.push] at found
      rw [List.getElem?_append_right new, List.getElem?_singleton] at found
      split at found
      · rename_i first
        cases found
        have last : i = chain.headers.length := by omega
        rw [below i (Nat.le_of_eq last), last]
        have all : chain.truncate chain.headers.length = chain := by
          simp only [HeaderChain.truncate]
          rw [List.take_length, ← parallel, List.take_length]
        rw [all]
        exact rules
      · cases found

theorem Valid.grows {nowUnix : UInt64} {raws : List Bytes} {batch : List Staged}
    (grows : Grows btc nowUnix chain raws batch) (valid : chain.Valid btc network checkpoint)
    (room : chain.headers.length + raws.length ≤ MAX_STORED_HEADERS) :
    (batch.foldl HeaderChain.push chain).Valid btc network checkpoint := by
  induction grows with
  | nil => exact valid
  | @cons chain raw header raws batch decoded passes rest ih =>
      rw [List.length_cons] at room
      refine ih (valid.push (followsRules_of_checkNext passes) (by omega)) ?_
      rw [push_length]
      omega

theorem committed_nil (startHeight : BlockHeight) :
    chain.committed startHeight [] = chain.truncate (chain.kept startHeight) := by
  simp [committed, HeaderChain.truncate]

theorem foldl_push_committed (startHeight : BlockHeight) (staged : List Staged) :
    staged.foldl push (chain.committed startHeight []) = chain.committed startHeight staged := by
  rw [foldl_push]
  simp [committed]

theorem Valid.afterSubmit (valid : chain.Valid btc network checkpoint) (call : SubmitCall) :
    (chain.afterSubmit btc call).Valid btc network checkpoint := by
  rcases afterSubmit_cases valid.stored call with same | ⟨depth, staged, accepted, same⟩
  · rw [same]
    exact valid
  · obtain ⟨-, -, placed, grows, -⟩ := (accepted_iff staged valid.stored).mp accepted
    have fits := placed.fits
    rw [valid.stored.cap] at fits
    rw [same, ← foldl_push_committed]
    refine Valid.grows grows ?_ ?_
    · rw [committed_nil]
      exact valid.truncate _
    · rw [committed_length [] placed, List.length_nil]
      exact fits

theorem new_valid (btc : Crate) (network : Network) (checkpoint : Checkpoint) :
    (new network checkpoint).Valid btc network checkpoint where
  network_eq := rfl
  checkpoint_eq := rfl
  stored := new_stored btc network checkpoint
  rules := by
    intro i header found
    cases found

theorem run_valid (btc : Crate) (network : Network) (checkpoint : Checkpoint)
    (calls : List SubmitCall) :
    ((new network checkpoint).run btc calls).Valid btc network checkpoint :=
  List.foldlRecOn calls (afterSubmit btc) (new_valid btc network checkpoint)
    fun _ valid call _ => valid.afterSubmit call

theorem Valid.eq_push (valid : chain.Valid btc network checkpoint) {n : Nat}
    (length : chain.headers.length = n + 1) :
    ∃ header, FollowsRules btc (chain.truncate n) header ∧
      chain = (chain.truncate n).push (header, header.blockHash btc) := by
  have inside : n < chain.headers.length := by omega
  have last := List.getElem?_eq_getElem inside
  refine ⟨chain.headers[n], valid.rules n _ last, ?_⟩
  have headers : chain.headers.take n ++ [chain.headers[n]] = chain.headers := by
    rw [List.take_append_getElem inside, ← length, List.take_length]
  have hashes : chain.hashes.take n ++ [chain.headers[n].blockHash btc] = chain.hashes := by
    have mapped := congrArg (List.map (Header.blockHash btc)) headers
    rw [List.map_append, List.map_singleton, List.map_take] at mapped
    rw [valid.stored.hashes]
    exact mapped
  cases chain
  simp only [HeaderChain.push, HeaderChain.truncate] at headers hashes ⊢
  rw [headers, hashes]

theorem Valid.induction {motive : HeaderChain → Prop}
    (empty : ∀ chain, chain.Valid btc network checkpoint → chain.headers = [] → motive chain)
    (push : ∀ chain header, chain.Valid btc network checkpoint →
      (chain.push (header, header.blockHash btc)).Valid btc network checkpoint →
      FollowsRules btc chain header → motive chain →
      motive (chain.push (header, header.blockHash btc)))
    (valid : chain.Valid btc network checkpoint) : motive chain := by
  induction length : chain.headers.length generalizing chain with
  | zero => exact empty chain valid (List.length_eq_zero_iff.mp length)
  | succ n ih =>
      obtain ⟨header, rules, same⟩ := valid.eq_push length
      have below := ih (valid.truncate n) (by simp [HeaderChain.truncate, length])
      rw [same] at valid ⊢
      exact push _ header (Valid.truncate (by rwa [← same] at valid) n) valid rules below

theorem tipBlock_hash (stored : chain.Stored btc) :
    chain.tipBlock.1 = chain.hashes.getLast?.getD chain.checkpoint.hash := by
  have hashes : chain.entries.map Prod.snd = chain.hashes :=
    List.map_snd_zip (Nat.le_of_eq stored.parallel)
  rw [← hashes, List.getLast?_map, tipBlock, prevOf]
  cases chain.entries.getLast? with
  | none => exact stored.baseHash
  | some entry => rfl

theorem Valid.links (valid : chain.Valid btc network checkpoint) {i : Nat} {header : Header}
    (found : chain.headers[i]? = some header) :
    header.prevBlockhash = (chain.hashes.take i).getLast?.getD checkpoint.hash := by
  have linkage := checkLinkage_ok.mp (valid.rules i header found).linkage
  rwa [tipBlock_hash (valid.truncate i).stored, (valid.truncate i).checkpoint_eq] at linkage

theorem Valid.prevBlockhash_eq (valid : chain.Valid btc network checkpoint) {i : Nat}
    {header above : Header} (found : chain.headers[i]? = some header)
    (next : chain.headers[i + 1]? = some above) :
    above.prevBlockhash = header.blockHash btc := by
  have hash : chain.hashes[i]? = some (header.blockHash btc) := by
    rw [valid.stored.hashes, List.getElem?_map, found, Option.map_some]
  rw [valid.links next, List.getLast?_take, if_neg (Nat.succ_ne_zero i), Nat.add_sub_cancel, hash,
    Option.some_or, Option.getD_some]

theorem Valid.take_eq {other : HeaderChain} {headers : Set Header}
    (collisionFree : Header.CollisionFree btc headers)
    (valid : chain.Valid btc network checkpoint) (valid' : other.Valid btc network checkpoint)
    (inside : ∀ header ∈ chain.headers, header ∈ headers)
    (inside' : ∀ header ∈ other.headers, header ∈ headers) {i : Nat} {header : Header}
    (found : chain.headers[i]? = some header) (found' : other.headers[i]? = some header) :
    chain.headers.take (i + 1) = other.headers.take (i + 1) := by
  induction i generalizing header with
  | zero => rw [List.take_add_one, List.take_add_one, found, found', List.take_zero, List.take_zero]
  | succ i ih =>
      have short := (List.getElem?_eq_some_iff.mp found).1
      have short' := (List.getElem?_eq_some_iff.mp found').1
      have below := List.getElem?_eq_getElem (show i < chain.headers.length by omega)
      have below' := List.getElem?_eq_getElem (show i < other.headers.length by omega)
      have same := (valid.prevBlockhash_eq below found).symm.trans
        (valid'.prevBlockhash_eq below' found')
      have same := Header.eq_of_blockHash_eq btc collisionFree (inside _ (List.getElem_mem _))
        (inside' _ (List.getElem_mem _)) same
      rw [← same] at below'
      rw [List.take_add_one (l := chain.headers) (i := i + 1),
        List.take_add_one (l := other.headers) (i := i + 1), found, found', ih below below']

/-- Whatever calls are made on a fresh chain, the cached hashes are the hashes of
    the headers, the headers link down to the checkpoint, the retention cap
    holds, the base is the checkpoint, and each header follows the rules on the
    stored headers below it. -/
theorem reachable_chain_follows_rules (btc : Crate) (network : Network)
    (checkpoint : Checkpoint) (calls : List SubmitCall) :
    let chain := (new network checkpoint).run btc calls
    chain.hashes = chain.headers.map (·.blockHash btc) ∧
    (∀ header, chain.headers[0]? = some header → header.prevBlockhash = checkpoint.hash) ∧
    (∀ i header, chain.headers[i + 1]? = some header →
      chain.hashes[i]? = some header.prevBlockhash) ∧
    (chain.headers.length ≤ chain.maxStoredHeaders ∧
      chain.maxStoredHeaders = MAX_STORED_HEADERS) ∧
    (chain.network = network ∧ chain.checkpoint = checkpoint ∧
      chain.baseHeight = checkpoint.height ∧ chain.baseHash = checkpoint.hash ∧
      chain.baseBits = checkpoint.bits ∧ chain.baseTime = checkpoint.time) ∧
    (∀ i header, chain.headers[i]? = some header →
      FollowsRules btc (chain.truncate i) header) := by
  intro chain
  have valid : chain.Valid btc network checkpoint := run_valid btc network checkpoint calls
  have stored := valid.stored
  have same := valid.checkpoint_eq
  refine ⟨stored.hashes, ?_, ?_, ⟨?_, stored.cap⟩, ?_, valid.rules⟩
  · intro header found
    simpa using valid.links found
  · intro i header found
    have inside : i < chain.hashes.length := by
      have next := (List.getElem?_eq_some_iff.mp found).1
      rw [stored.parallel]
      omega
    have last : (chain.hashes.take (i + 1)).getLast? = chain.hashes[i]? := by
      rw [List.getLast?_take, if_neg (Nat.succ_ne_zero i), Nat.add_sub_cancel,
        List.getElem?_eq_getElem inside, Option.some_or]
    rw [valid.links found, last, List.getElem?_eq_getElem inside, Option.getD_some]
  · rw [stored.cap]
    exact stored.length
  · rw [stored.baseHeight, stored.baseHash, stored.baseBits, stored.baseTime, same]
    exact ⟨valid.network_eq, rfl, rfl, rfl, rfl, rfl⟩

theorem blockAt_time {height other : BlockHeight} {block : UInt32 × UInt32}
    (found : chain.blockAt height other [] = .ok block) :
    (chain.baseTime :: chain.headers.map (·.time))[height.toNat - chain.baseHeight.toNat]?
      = some block.1 := by
  rw [blockAt, staged_nil, Option.map_none, Option.none_or] at found
  cases held : chain.headerAt height with
  | none =>
      rw [held] at found
      by_cases same : height = chain.baseHeight
      · cases (if_pos same).symm.trans found
        rw [same, Nat.sub_self]
        rfl
      · cases (if_neg same).symm.trans found
  | some header =>
      rw [held] at found
      cases found
      have above := UInt32.lt_iff_toNat_lt.mp (lt_of_headerAt held)
      obtain ⟨n, index⟩ := Nat.exists_eq_add_of_lt above
      have offset : height.toNat - chain.baseHeight.toNat = n + 1 := by omega
      rw [headerAt_above _ above, offset, Nat.add_sub_cancel] at held
      rw [offset, List.getElem?_cons_succ, List.getElem?_map, held]
      rfl

theorem medianTimePastBelow_tip {median : Option UInt32}
    (unwrapped : chain.baseHeight.toNat + chain.headers.length + 1 < 2 ^ 32)
    (known : 10 ≤ chain.headers.length ∨ chain.baseHeight.toNat = 0)
    (read : chain.medianTimePastBelow (chain.tipHeight + 1) (chain.tipHeight + 1) [] = .ok median) :
    median = some (medianTimePast ((chain.baseTime :: chain.headers.map (·.time)).drop
      (chain.headers.length - 10))) := by
  have next := tipHeight_succ_toNat chain unwrapped
  generalize chain.tipHeight + 1 = height at read next
  have first : (satSub32 height (UInt32.ofNat MEDIAN_TIME_SPAN)).toNat = height.toNat - 11 :=
    toNat_satSub32 _ _
  have inside : ¬ satSub32 height (UInt32.ofNat MEDIAN_TIME_SPAN) < chain.baseHeight := by
    rw [UInt32.lt_iff_toNat_lt, first]
    omega
  simp only [medianTimePastBelow, if_neg inside, bind_ok, mapM_ok] at read
  obtain ⟨times, each, same⟩ := read
  cases same
  have window : times.map some = (List.range' (height.toNat - 11)
      (height.toNat - (height.toNat - 11))).map fun n =>
        (chain.baseTime :: chain.headers.map (·.time))[n - chain.baseHeight.toNat]? := by
    rw [← first, ← heightsBetween_toNat, List.map_map, ← List.forall₂_eq_eq_eq,
      List.forall₂_map_left_iff, List.forall₂_map_right_iff]
    refine each.flip.imp fun time read found => ?_
    obtain ⟨block, at_, rfl⟩ := map_ok.mp found
    exact (blockAt_time at_).symm
  congr 2
  refine List.ext_getElem? fun k => ?_
  have here := congrArg (·[k]?) window
  rw [List.getElem?_map, List.getElem?_map] at here
  rw [List.getElem?_drop]
  by_cases inWindow : k < height.toNat - (height.toNat - 11)
  · have index : height.toNat - 11 + 1 * k - chain.baseHeight.toNat
        = chain.headers.length - 10 + k := by omega
    rw [List.getElem?_range' inWindow, Option.map_some, index] at here
    cases held : times[k]? with
    | none =>
        rw [held] at here
        cases here
    | some time =>
        rw [held] at here
        exact Option.some.inj here
  · have length := congrArg List.length window
    simp only [List.length_map, List.length_range'] at length
    rw [List.getElem?_eq_none (by omega), List.getElem?_eq_none]
    simp only [List.length_cons, List.length_map]
    omega

/-- The median rule in plain terms, where no height wraps. A header with eleven blocks
    below it, the checkpoint included, is newer than their median. Above the first block
    of all, the blocks below are enough however few they are. -/
theorem reachable_chain_median (btc : Crate) (network : Network) (checkpoint : Checkpoint)
    (calls : List SubmitCall) {i : Nat} {header : Header}
    (found : ((new network checkpoint).run btc calls).headers[i]? = some header)
    (unwrapped : checkpoint.height.toNat + i + 1 < 2 ^ 32)
    (known : 10 ≤ i ∨ checkpoint.height.toNat = 0) :
    let times := checkpoint.time :: ((new network checkpoint).run btc calls).headers.map (·.time)
    medianTimePast ((times.take (i + 1)).drop (i - 10)) < header.time := by
  have valid := run_valid btc network checkpoint calls
  generalize (new network checkpoint).run btc calls = chain at found valid ⊢
  have inside := (List.getElem?_eq_some_iff.mp found).1
  obtain ⟨median, read, newer⟩ := (valid.rules i header found).medianTimePast
  have lower := valid.truncate i
  have length : (chain.truncate i).headers.length = i := by
    rw [truncate, List.length_take, Nat.min_eq_left inside.le]
  have base : (chain.truncate i).baseHeight = checkpoint.height := by
    rw [lower.stored.baseHeight, lower.checkpoint_eq]
  have time : (chain.truncate i).baseTime = checkpoint.time := by
    rw [lower.stored.baseTime, lower.checkpoint_eq]
  have here := medianTimePastBelow_tip (by rw [base, length]; exact unwrapped)
    (by rw [base, length]; exact known) read
  rw [here, length, time] at newer
  simpa [checkTimeTooOld, truncate, List.map_take] using newer

end

end HeaderChain

end EnclaveSigner.Spv
