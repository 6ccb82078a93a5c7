import EnclaveSigner.Parent.HeaderSync
import EnclaveSigner.Spv.ChainWork

/-! # Fetching from an honest source

An honest source has one chain and serves every header of it, in replies of any
length. A fetch then returns the batch that was asked for, as a piece of that chain.
-/

namespace EnclaveSigner.Parent

open Lib Bitcoin Spv Server

section Learning

theorem behindFirst_skip {b : Char} {more front rest : List Char}
    (absent : ∀ c ∈ front, c ≠ b) :
    behindFirst (b :: more) (front ++ rest) = behindFirst (b :: more) rest := by
  induction front with
  | nil => rfl
  | cons c front ih =>
      have different : (b == c) = false := beq_eq_false_iff_ne.mpr (absent c List.mem_cons_self).symm
      have mismatch : (b :: more).isPrefixOf? (c :: (front ++ rest)) = none := by
        rw [List.isPrefixOf?, different]
        rfl
      rw [List.cons_append, behindFirst, mismatch]
      exact ih fun other later => absent other (List.mem_cons_of_mem c later)

theorem behindFirst_here (part rest : List Char) (nonempty : part ≠ []) :
    behindFirst part (part ++ rest) = some rest := by
  have found : part.isPrefixOf? (part ++ rest) = some rest :=
    List.isPrefixOf?_eq_some_iff_append_eq.mpr rfl
  obtain ⟨c, more, rfl⟩ := List.exists_cons_of_ne_nil nonempty
  rw [List.cons_append, behindFirst, ← List.cons_append, found]

def belowCheckpoint (got checkpoint : BlockHeight) : EnclaveError :=
  .spv (SpvError.belowCheckpoint got checkpoint).message

theorem toList_toString (n : UInt32) : (toString n).toList = Nat.toDigits 10 n.toNat := by
  change (Nat.repr n.toNat).toList = _
  exact Nat.toList_repr

theorem belowCheckpoint_chars (got checkpoint : BlockHeight) :
    (belowCheckpoint got checkpoint).message.toList =
      "spv: b".toList ++ (("atch start_height ".toList ++ Nat.toDigits 10 got.toNat ++
        " is at or ".toList) ++ (BELOW_CHECKPOINT.toList ++ (Nat.toDigits 10 checkpoint.toNat ++
          "; refusing to rewrite history below the trust anchor".toList))) := by
  have text : (belowCheckpoint got checkpoint).message = "spv: " ++ ("batch start_height " ++
      toString got ++ " is at or below checkpoint " ++ toString checkpoint ++ "; " ++
        "refusing to rewrite history below the trust anchor") := rfl
  rw [text]
  simp only [String.toList_append, toList_toString, List.append_assoc]
  rfl

theorem digits_length (n : UInt32) : (Nat.toDigits 10 n.toNat).length ≤ 10 :=
  (Nat.length_toDigits_le_iff (by decide) (by decide)).mpr (by have := n.toNat_lt; omega)

theorem errorText_belowCheckpoint (got checkpoint : BlockHeight) :
    errorText (belowCheckpoint got checkpoint) = (belowCheckpoint got checkpoint).message := by
  have short : (utf8 (belowCheckpoint got checkpoint).message).length ≤ MAX_ERROR_TEXT_BYTES := by
    have chars : (belowCheckpoint got checkpoint).message.toList.length ≤ 200 := by
      have first := digits_length got
      have second := digits_length checkpoint
      have fixed : "spv: b".toList.length + "atch start_height ".toList.length +
          " is at or ".toList.length + BELOW_CHECKPOINT.toList.length +
          "; refusing to rewrite history below the trust anchor".toList.length ≤ 150 := by decide
      rw [belowCheckpoint_chars]
      simp only [List.length_append]
      omega
    have bytes := utf8_length_le_four_mul (belowCheckpoint got checkpoint).message
    rw [MAX_ERROR_TEXT_BYTES]
    omega
  rw [errorText, if_neg (Nat.not_lt.mpr short)]

theorem parseU32_digits (n : UInt32) :
    parseU32 (String.ofList (Nat.toDigits 10 n.toNat)) = some n := by
  have digit : ∀ c ∈ Nat.toDigits 10 n.toNat, c.isDigit = true :=
    fun _ member => Nat.isDigit_of_mem_toDigits (by decide) (by decide) member
  have value : (Nat.toDigits 10 n.toNat).foldl (fun value c => 10 * value + (c.toNat - '0'.toNat)) 0
      = n.toNat := Nat.ofDigitChars_ten_toDigits
  have plain : parseUnsigned (2 ^ 32) (String.ofList (Nat.toDigits 10 n.toNat)) = some n.toNat := by
    obtain ⟨first, rest, digits⟩ := List.exists_cons_of_ne_nil
      (Nat.toDigits_ne_nil : Nat.toDigits 10 n.toNat ≠ [])
    rw [digits] at digit value ⊢
    have unsigned : first ≠ '+' := by
      rintro rfl
      exact absurd (digit _ List.mem_cons_self) (by decide)
    have all : (first :: rest).all Char.isDigit = true := List.all_eq_true.mpr digit
    unfold parseUnsigned
    simp only [String.toList_ofList]
    split
    · rename_i signed
      cases signed
      exact absurd rfl unsigned
    · simp only [all, value, n.toNat_lt]
      rfl
  rw [parseU32, plain, Option.map_some, UInt32.ofNat_toNat]

theorem not_b_of_digit {n : Nat} {c : Char} (member : c ∈ Nat.toDigits 10 n) : c ≠ 'b' := by
  rintro rfl
  exact absurd (Nat.isDigit_of_mem_toDigits (by decide) (by decide) member) (by decide)

theorem checkpointIn_belowCheckpoint (got checkpoint : BlockHeight) :
    checkpointIn (errorText (belowCheckpoint got checkpoint)) = some checkpoint := by
  have start : ∀ c ∈ "atch start_height ".toList, c ≠ 'b' := by simp
  have between : ∀ c ∈ " is at or ".toList, c ≠ 'b' := by simp
  have front : ∀ c ∈ "atch start_height ".toList ++ Nat.toDigits 10 got.toNat ++ " is at or ".toList,
      c ≠ 'b' := by
    intro c member
    rcases List.mem_append.mp member with member | member
    · rcases List.mem_append.mp member with member | member
      · exact start c member
      · exact not_b_of_digit member
    · exact between c member
  have found : behindFirst BELOW_CHECKPOINT.toList (belowCheckpoint got checkpoint).message.toList
      = some (Nat.toDigits 10 checkpoint.toNat ++
          "; refusing to rewrite history below the trust anchor".toList) := by
    rw [belowCheckpoint_chars]
    -- The `b` of the word before is not the start of the text that is looked for.
    have skipped (rest : List Char) : behindFirst BELOW_CHECKPOINT.toList
        ("spv: b".toList ++ ("atch start_height ".toList ++ rest)) =
          behindFirst BELOW_CHECKPOINT.toList ("atch start_height ".toList ++ rest) := rfl
    rw [List.append_assoc, List.append_assoc, skipped, ← List.append_assoc, ← List.append_assoc]
    exact (behindFirst_skip front).trans (behindFirst_here _ _ (by decide))
  have digits : (Nat.toDigits 10 checkpoint.toNat ++
      "; refusing to rewrite history below the trust anchor".toList).takeWhile Char.isDigit =
        Nat.toDigits 10 checkpoint.toNat := by
    rw [List.takeWhile_append_of_pos fun c member =>
      Nat.isDigit_of_mem_toDigits (by decide) (by decide) member]
    exact List.append_nil _
  rw [checkpointIn, errorText_belowCheckpoint, found]
  change parseU32 _ = _
  rw [digits, parseU32_digits]

end Learning

/-- The blocks of a chain from a height on. -/
def segment (blocks : Nat → Header) (start count : Nat) : List Header :=
  (List.range count).map fun i => blocks (start + i)

section Segment

variable {blocks : Nat → Header} {start count : Nat}

@[simp] theorem segment_length : (segment blocks start count).length = count := by
  simp [segment]

theorem segment_succ : segment blocks start (count + 1) =
    blocks start :: segment blocks (start + 1) count := by
  simp only [segment, List.range_succ_eq_map, List.map_cons, List.map_map, Nat.add_zero]
  exact congrArg _ (List.map_congr_left fun i _ => congrArg blocks (by simp; omega))

theorem segment_append (more : Nat) : segment blocks start (count + more) =
    segment blocks start count ++ segment blocks (start + count) more := by
  simp only [segment, List.range_add, List.map_append, List.map_map]
  exact congrArg _ (List.map_congr_left fun i _ => congrArg blocks (Nat.add_assoc _ _ _).symm)

theorem segment_getElem? {i : Nat} (inside : i < count) :
    (segment blocks start count)[i]? = some (blocks (start + i)) := by
  simp [segment, inside]

theorem segment_take {shorter : Nat} (le : shorter ≤ count) :
    (segment blocks start count).take shorter = segment blocks start shorter := by
  rw [segment, ← List.map_take, List.take_range, Nat.min_eq_left le, segment]

theorem segment_getLast? :
    (segment blocks start (count + 1)).getLast? = some (blocks (start + count)) := by
  simp [segment, List.range_succ]

end Segment

/-- The source has one chain of linked blocks up to height `s`, and serves every
    header of it, in replies of any length. -/
structure Honest (btc : Crate) (blocks : Nat → Header) (s : UInt32) (session : Session) : Prop where
  tip : session.subscribe = .ok (s, blocks s.toNat)
  serves : ∀ start count : UInt32, 0 < count → start ≤ s → ∃ k, 0 < k ∧ k ≤ count.toNat ∧
    start.toNat + k ≤ s.toNat + 1 ∧
    session.blockHeaders start count = .ok (segment blocks start.toNat k)
  linked : ∀ height < s.toNat,
    (blocks (height + 1)).prevBlockhash = (blocks height).blockHash btc

section Fetched

variable {btc : Crate} {blocks : Nat → Header} {s : UInt32} {session : Session}

theorem Honest.headersLoop_eq (honest : Honest btc blocks s session) {start count : UInt32}
    (inside : start.toNat + count.toNat ≤ s.toNat + 1) {got fuel : Nat}
    (le : got ≤ count.toNat) (enough : count.toNat ≤ got + fuel) :
    session.headersLoop start count fuel (segment blocks start.toNat got) =
      .ok (segment blocks start.toNat count.toNat) := by
  induction fuel generalizing got with
  | zero =>
      have all : got = count.toNat := by omega
      rw [Session.headersLoop, all]
  | succ fuel ih =>
      rw [Session.headersLoop, segment_length]
      by_cases missing : got < count.toNat
      · have small := count.toNat_lt
        have below := s.toNat_lt
        have index : (UInt32.ofNat got).toNat = got := toNat_ofNat32 (by omega)
        have next : (start + UInt32.ofNat got).toNat = start.toNat + got := by
          rw [toNat_add32 (by omega), index]
        have rest : (count - UInt32.ofNat got).toNat = count.toNat - got := by
          rw [toNat_sub32 (by omega), index]
        obtain ⟨k, positive, fits, ends, reply⟩ := honest.serves (start + UInt32.ofNat got)
          (count - UInt32.ofNat got) (UInt32.lt_iff_toNat_lt.mpr (by rw [rest]; simp; omega))
          (UInt32.le_iff_toNat_le.mpr (by omega))
        rw [next] at ends reply
        rw [rest] at fits
        have found : checkedAdd32 start (UInt32.ofNat got) = some (start + UInt32.ofNat got) := by
          rw [checkedAdd32, index, if_pos (by omega)]
        have nonempty : segment blocks (start.toNat + got) k ≠ [] := by
          intro empty
          have length := congrArg List.length empty
          rw [segment_length, List.length_nil] at length
          omega
        rw [if_pos missing]
        refine bind_ok.mpr ⟨_, okOr_ok.mpr found, bind_ok.mpr ⟨_, reply, ?_⟩⟩
        refine bind_ok.mpr ⟨(), refuse_ok.mpr (by rw [segment_length]; omega), ?_⟩
        rw [if_neg nonempty, ← segment_append]
        exact ih (by omega) (by omega)
      · have all : got = count.toNat := by omega
        rw [if_neg missing, all]

theorem Honest.headers_eq (honest : Honest btc blocks s session) (start count : UInt32)
    (positive : 0 < count.toNat) (le : count.toNat ≤ MAX_HEADERS.toNat)
    (inside : start.toNat + count.toNat ≤ s.toNat + 1) :
    session.headers start count = .ok (segment blocks start.toNat count.toNat) := by
  have allowed : 1 ≤ count ∧ count ≤ MAX_HEADERS :=
    ⟨UInt32.le_iff_toNat_le.mpr positive, UInt32.le_iff_toNat_le.mpr le⟩
  rw [Session.headers]
  refine bind_ok.mpr ⟨(), refuse_ok.mpr (not_not.mpr allowed), ?_⟩
  have loop := honest.headersLoop_eq inside (Nat.zero_le _) (Nat.le_of_eq (Nat.zero_add _).symm)
  exact loop

theorem Honest.checkLinks_ok (honest : Honest btc blocks s session) (name : UInt32) (i : Nat)
    {start count : Nat} (inside : start + count ≤ s.toNat + 1) :
    checkLinks btc name i (segment blocks start count) = .ok () := by
  induction count generalizing start i with
  | zero => rfl
  | succ count ih =>
      cases count with
      | zero => rfl
      | succ count =>
          rw [segment_succ, segment_succ, checkLinks]
          refine bind_ok.mpr ⟨(), refuse_ok.mpr ?_, ?_⟩
          · exact not_not.mpr (honest.linked start (by omega))
          · rw [← segment_succ]
            exact ih (i + 1) (by omega)

def batchLength (s start : UInt32) : Nat := min (s.toNat - start.toNat + 1) MAX_HEADERS.toNat

theorem batchLength_pos (s start : UInt32) : 0 < batchLength s start := by
  have limit : MAX_HEADERS.toNat = 2016 := rfl
  rw [batchLength]
  omega

theorem batchLength_le (s start : UInt32) : batchLength s start ≤ MAX_HEADERS.toNat :=
  Nat.min_le_right _ _

theorem batch_ends {s start : UInt32} (le : start ≤ s) :
    start.toNat + batchLength s start ≤ s.toNat + 1 := by
  have le := UInt32.le_iff_toNat_le.mp le
  have length : batchLength s start ≤ s.toNat - start.toNat + 1 := Nat.min_le_left _ _
  omega

theorem Honest.fetchBatch_eq (honest : Honest btc blocks s session) {start : UInt32}
    {prev : Option BlockHash} (positive : 0 < start) (le : start ≤ s)
    (links : ∀ hash ∈ prev, (blocks start.toNat).prevBlockhash = hash) :
    fetchBatch btc session s start prev =
      .ok (s, some (start, segment blocks start.toNat (batchLength s start))) := by
  have count : (min (s - start + 1) MAX_HEADERS).toNat = batchLength s start := by
    have le := UInt32.le_iff_toNat_le.mp le
    have positive := UInt32.lt_iff_toNat_lt.mp positive
    have small := s.toNat_lt
    have distance : (s - start).toNat = s.toNat - start.toNat := toNat_sub32 le
    rw [UInt32.toNat_zero] at positive
    rw [toNat_min32, toNat_add32 (by rw [distance]; simp; omega), distance]
    rfl
  have served := honest.headers_eq start _ (by rw [count]; exact batchLength_pos s start)
    (by rw [count]; exact batchLength_le s start) (by rw [count]; exact batch_ends le)
  rw [count] at served
  obtain ⟨more, length⟩ := Nat.exists_eq_succ_of_ne_zero (batchLength_pos s start).ne'
  have first : (segment blocks start.toNat (batchLength s start)).head? =
      some (blocks start.toNat) := by
    rw [length, segment_succ]
    rfl
  rw [fetchBatch]
  refine bind_ok.mpr ⟨_, served, bind_ok.mpr ⟨(), refuse_ok.mpr ?_, ?_⟩⟩
  · intro empty
    rw [empty] at first
    cases first
  refine bind_ok.mpr ⟨(), refuse_ok.mpr ?_, ?_⟩
  · rw [first]
    cases prev with
    | none => exact Bool.false_ne_true
    | some hash => simp [links hash rfl]
  · exact bind_ok.mpr ⟨(), honest.checkLinks_ok start 0 (batch_ends le), rfl⟩

def batchStart (btc : Crate) (blocks : Nat → Header) (hash : BlockHash) (floor : Option UInt32)
    (h : UInt32) : UInt32 :=
  if (blocks h.toNat).blockHash btc = hash then h + 1 else SyncWorld.rewindTo floor h

theorem Honest.fetch_eq (honest : Honest btc blocks s session) {h : UInt32} {hash : BlockHash}
    {floor : Option UInt32} (ahead : h < s)
    (low : (blocks h.toNat).blockHash btc ≠ hash →
      0 < SyncWorld.rewindTo floor h ∧ SyncWorld.rewindTo floor h ≤ h) :
    let start := batchStart btc blocks hash floor h
    fetch btc (.ok session) h hash (SyncWorld.rewindTo floor h) =
      .ok (s, some (start, segment blocks start.toNat (batchLength s start))) := by
  have ahead' := UInt32.lt_iff_toNat_lt.mp ahead
  have small := s.toNat_lt
  have next : (h + 1).toNat = h.toNat + 1 := by
    rw [toNat_add32 (by simp; omega)]
    rfl
  have different : s ≠ h := fun same => absurd ahead (by rw [same]; exact UInt32.lt_irrefl h)
  have atTip : headerAtTip session s h (blocks s.toNat) = .ok (blocks h.toNat) := by
    have one := honest.headers_eq h 1 (by decide) (by decide) (by simp; omega)
    rw [headerAtTip, if_neg different]
    exact bind_ok.mpr ⟨_, one, okOr_ok.mpr rfl⟩
  intro start
  rw [fetch]
  refine bind_ok.mpr ⟨session, rfl, bind_ok.mpr ⟨_, honest.tip, ?_⟩⟩
  refine bind_ok.mpr ⟨(), refuse_ok.mpr (not_not.mpr (UInt32.le_of_lt ahead)), ?_⟩
  refine bind_ok.mpr ⟨_, atTip, ?_⟩
  by_cases same : (blocks h.toNat).blockHash btc = hash
  · have above : start = h + 1 := if_pos same
    rw [if_pos same, if_neg different, above]
    refine honest.fetchBatch_eq (UInt32.lt_iff_toNat_lt.mpr (by rw [next]; exact Nat.succ_pos _))
      (UInt32.le_iff_toNat_le.mpr (by omega)) ?_
    rintro _ ⟨⟩
    rw [next, honest.linked h.toNat ahead', same]
  · have below : start = SyncWorld.rewindTo floor h := if_neg same
    obtain ⟨positive, le⟩ := low same
    rw [if_neg same, below]
    refine bind_ok.mpr ⟨(), refuse_ok.mpr (not_not.mpr ahead), ?_⟩
    refine bind_ok.mpr ⟨(), refuse_ok.mpr (not_not.mpr le), ?_⟩
    exact honest.fetchBatch_eq positive (UInt32.le_trans le (UInt32.le_of_lt ahead))
      fun _ impossible => by cases impossible

theorem headersLoop_length {start count : UInt32} {fuel : Nat} {out headers : List Header}
    (le : out.length ≤ count.toNat)
    (done : session.headersLoop start count fuel out = .ok headers) :
    headers.length ≤ count.toNat := by
  induction fuel generalizing out with
  | zero =>
      cases done
      exact le
  | succ fuel ih =>
      rw [Session.headersLoop] at done
      split at done
      · obtain ⟨next, -, done⟩ := bind_ok.mp done
        obtain ⟨reply, -, done⟩ := bind_ok.mp done
        obtain ⟨_, short, done⟩ := bind_ok.mp done
        have small := count.toNat_lt
        have length : (UInt32.ofNat out.length).toNat = out.length := toNat_ofNat32 (by omega)
        rw [refuse_ok, gt_iff_lt, Nat.not_lt, toNat_sub32 (by omega), length] at short
        split at done
        · cases done
          exact le
        · exact ih (by rw [List.length_append]; omega) done
      · cases done
        exact le

theorem headers_length {start count : UInt32} {headers : List Header}
    (done : session.headers start count = .ok headers) : headers.length ≤ MAX_HEADERS.toNat := by
  rw [Session.headers] at done
  obtain ⟨_, allowed, done⟩ := bind_ok.mp done
  rw [refuse_ok, not_not] at allowed
  exact (headersLoop_length (Nat.zero_le _) done).trans (UInt32.le_iff_toNat_le.mp allowed.2)

theorem fetchBatch_ok {start : UInt32} {prev : Option BlockHash} {s' : UInt32}
    {batch : Option (UInt32 × List Header)}
    (done : fetchBatch btc session s start prev = .ok (s', batch)) :
    s' = s ∧ ∃ headers, batch = some (start, headers) ∧ headers ≠ [] ∧
      headers.length ≤ MAX_HEADERS.toNat := by
  rw [fetchBatch] at done
  obtain ⟨headers, received, done⟩ := bind_ok.mp done
  obtain ⟨_, nonempty, done⟩ := bind_ok.mp done
  obtain ⟨_, -, done⟩ := bind_ok.mp done
  obtain ⟨_, -, done⟩ := bind_ok.mp done
  cases done
  exact ⟨rfl, headers, rfl, refuse_ok.mp nonempty, headers_length received⟩

theorem fetch_ok {connect : Except String Session} {h rewindTo : UInt32} {hash : BlockHash}
    {start : UInt32} {headers : List Header}
    (done : fetch btc connect h hash rewindTo = .ok (s, some (start, headers))) :
    headers ≠ [] ∧ headers.length ≤ MAX_HEADERS.toNat ∧ h < s ∧
      (start = h + 1 ∨ start = rewindTo ∧ rewindTo ≤ h) := by
  rw [fetch] at done
  obtain ⟨session, -, done⟩ := bind_ok.mp done
  obtain ⟨⟨s', tipHeader⟩, -, done⟩ := bind_ok.mp done
  obtain ⟨_, notBehind, done⟩ := bind_ok.mp done
  rw [refuse_ok, not_not] at notBehind
  obtain ⟨atTip, -, done⟩ := bind_ok.mp done
  split at done
  · split at done
    · cases done
    · rename_i different
      obtain ⟨rfl, _, batch, nonempty, short⟩ := fetchBatch_ok done
      cases batch
      exact ⟨nonempty, short, UInt32.lt_of_le_of_ne notBehind (Ne.symm different), .inl rfl⟩
  · obtain ⟨_, ahead, done⟩ := bind_ok.mp done
    obtain ⟨_, meets, done⟩ := bind_ok.mp done
    rw [refuse_ok, not_not] at ahead meets
    obtain ⟨rfl, _, batch, nonempty, short⟩ := fetchBatch_ok done
    cases batch
    exact ⟨nonempty, short, ahead, .inr ⟨rfl, meets⟩⟩

end Fetched

end EnclaveSigner.Parent
