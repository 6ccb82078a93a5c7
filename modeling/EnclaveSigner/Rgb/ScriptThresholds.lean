import Mathlib.Data.Nat.Size
import EnclaveSigner.Rgb.PsbtFeeSize

/-! # Thresholds of scripts

The scripts whose signed size has an estimate, as grammars: a leaf with one key or
with `multi_a`, and a `CHECKMULTISIG` script. The two scanning loops and the
reader of script numbers accept these scripts and no others.
-/

namespace EnclaveSigner.Rgb.PsbtFeeSize

open Lib Bitcoin

section ScriptNumber

/-- The fewest bytes that hold a number and leave the sign bit clear. -/
def scriptNumberWidth (n : Nat) : Nat := n.size / 8 + 1

/-- The least encoding of a positive number: an opcode of its own up to 16, and a
    push above. -/
def scriptNumber (n : Nat) : Bytes :=
  if n ≤ 16 then [UInt8.ofNat (0x50 + n)]
  else UInt8.ofNat (scriptNumberWidth n) :: natLe (scriptNumberWidth n) n

theorem add_mul_lt_iff {low unit high limit : Nat} (small : low < unit) :
    low + unit * high < unit * limit ↔ high < limit := by
  have positive : 0 < unit := by omega
  rw [Nat.mul_comm unit limit, ← Nat.div_lt_iff_lt_mul positive, Nat.add_mul_div_left _ _ positive,
    Nat.div_eq_of_lt small, Nat.zero_add]

theorem signBit_clear (byte : UInt8) : byte &&& 0x80 = 0 ↔ byte.toNat < 128 := by
  have all : ∀ n : Fin 256, UInt8.ofNat n.val &&& 0x80 = 0 ↔ (UInt8.ofNat n.val).toNat < 128 := by
    decide +kernel
  have this := all ⟨byte.toNat, byte.toNat_lt⟩
  rwa [UInt8.ofNat_toNat] at this

/-- Little-endian bytes have the least width that leaves the sign bit clear. -/
def Least (data : Bytes) : Prop :=
  ∃ last, data.getLast? = some last ∧ last &&& 0x80 = 0 ∧
    ¬ (last = 0 ∧ (data.length = 1 ∨ data.getD (data.length - 2) 0 &&& 0x80 = 0))

theorem two_pow_eq (m : Nat) : 2 ^ (8 * m + 7) = 256 ^ m * 128 := by
  rw [Nat.pow_add, Nat.pow_mul]

theorem ofLe_concat (init : Bytes) (last : UInt8) :
    ofLe (init ++ [last]) = ofLe init + 256 ^ init.length * last.toNat := by
  rw [ofLe_append]
  rfl

theorem last_clear {init : Bytes} {last : UInt8} :
    last &&& 0x80 = 0 ↔ (ofLe (init ++ [last])).size < 8 * init.length + 8 := by
  have size : (ofLe (init ++ [last])).size < 8 * init.length + 8 ↔
      (ofLe (init ++ [last])).size ≤ 8 * init.length + 7 := Nat.lt_succ_iff
  rw [signBit_clear, size, Nat.size_le, two_pow_eq, ofLe_concat, add_mul_lt_iff (ofLe_lt init)]

theorem least_iff {data : Bytes} (positive : 0 < ofLe data) :
    Least data ↔ data.length = scriptNumberWidth (ofLe data) := by
  rcases List.eq_nil_or_concat data with rfl | ⟨init, last, rfl⟩
  · cases positive
  rw [List.concat_eq_append] at positive ⊢
  have width : (init ++ [last]).length = scriptNumberWidth (ofLe (init ++ [last])) ↔
      8 * init.length ≤ (ofLe (init ++ [last])).size ∧
        (ofLe (init ++ [last])).size < 8 * init.length + 8 := by
    rw [scriptNumberWidth, List.length_append, List.length_singleton]
    omega
  rw [width, ← last_clear]
  simp only [Least, List.getLast?_concat, Option.some.injEq, exists_eq_left']
  rw [and_comm]
  refine and_congr_left fun clear => ?_
  -- the byte before the last one decides whether the last one is needed
  rcases List.eq_nil_or_concat init with rfl | ⟨before, previous, rfl⟩
  · have nonzero : last ≠ 0 := by
      rintro rfl
      cases positive
    simp [nonzero]
  · have previous_at : (before.concat previous ++ [last]).getD
        ((before.concat previous ++ [last]).length - 2) 0 = previous := by
      simp
    have value : ofLe (before.concat previous ++ [last])
        = ofLe before + 256 ^ before.length * (previous.toNat + 256 * last.toNat) := by
      rw [ofLe_concat, List.concat_eq_append, ofLe_concat, List.length_append,
        List.length_singleton, Nat.pow_succ, Nat.mul_add, Nat.mul_assoc, Nat.add_assoc]
    rw [previous_at, signBit_clear]
    have size : 8 * (before.concat previous).length
          ≤ (ofLe (before.concat previous ++ [last])).size ↔
        8 * before.length + 7 < (ofLe (before.concat previous ++ [last])).size := by
      rw [List.length_concat]
      omega
    rw [size, Nat.lt_size, two_pow_eq, value, ← Nat.not_lt, add_mul_lt_iff (ofLe_lt before),
      not_iff_not, ← UInt8.toNat_inj]
    simp only [List.length_append, List.length_concat, List.length_singleton, UInt8.toNat_zero]
    omega

def Pushed (first : UInt8) (tail : Bytes) (value : UInt64) : Prop :=
  (1 ≤ first ∧ first ≤ 4) ∧ first.toNat ≤ tail.length ∧ Least (tail.take first.toNat) ∧
    value = UInt64.ofNat (ofLe (tail.take first.toNat)) ∧ 16 < value

theorem positiveScriptNumber_cons {first : UInt8} {tail : Bytes} {value : UInt64} {consumed : Nat} :
    positiveScriptNumber (first :: tail) = some (value, consumed) ↔
      (0x51 ≤ first ∧ first ≤ 0x60) ∧ value = (first - 0x50).toUInt64 ∧ consumed = 1 ∨
      ¬ (0x51 ≤ first ∧ first ≤ 0x60) ∧ Pushed first tail value ∧ consumed = first.toNat + 1 := by
  simp only [positiveScriptNumber, List.head?_cons, Option.bind_eq_bind, Option.bind_some,
    List.drop_one, List.tail_cons, List.length_cons, Nat.lt_succ_iff]
  split
  · rename_i opcode
    simp only [opcode, Option.some.injEq, Prod.mk.injEq, eq_comm (a := value),
      eq_comm (a := consumed)]
    simp
  · rename_i push
    simp only [push, Option.bind_eq_some_iff, Option.guard_eq_some', Option.some.injEq,
      Prod.mk.injEq, false_and, false_or, not_false_eq_true, true_and, Pushed, Least]
    constructor
    · rintro ⟨_, small, _, fits, last, isLast, _, clear, _, least, _, above, rfl, rfl⟩
      refine ⟨⟨small, fits, ⟨last, isLast, clear, least⟩, rfl, above⟩, ?_⟩
      rw [List.length_take_of_le fits]
    · rintro ⟨⟨small, fits, ⟨last, isLast, clear, least⟩, rfl, above⟩, rfl⟩
      refine ⟨(), small, (), fits, last, isLast, (), clear, (), least, (), above, rfl, ?_⟩
      rw [List.length_take_of_le fits]

theorem lt_of_width {n w : Nat} (fits : scriptNumberWidth n ≤ w) : n < 2 ^ (8 * w - 1) := by
  rw [← Nat.size_le]
  rw [scriptNumberWidth] at fits
  omega

theorem width_le_four {n : Nat} (small : n < 2 ^ 31) : scriptNumberWidth n ≤ 4 := by
  rw [← Nat.size_le] at small
  rw [scriptNumberWidth]
  omega

theorem ofLe_scriptNumber (n : Nat) : ofLe (natLe (scriptNumberWidth n) n) = n := by
  rw [ofLe_natLe, Nat.mod_eq_of_lt]
  calc n < 2 ^ (8 * scriptNumberWidth n - 1) := lt_of_width le_rfl
    _ ≤ 2 ^ (8 * scriptNumberWidth n) := Nat.pow_le_pow_right (by decide) (Nat.sub_le _ _)
    _ = 256 ^ scriptNumberWidth n := Nat.pow_mul 2 8 _

theorem pushed_iff {first : UInt8} {tail : Bytes} {value : UInt64} :
    Pushed first tail value ↔ (16 < value.toNat ∧ value.toNat < 2 ^ 31) ∧
      first.toNat = scriptNumberWidth value.toNat ∧
      ∃ rest, tail = natLe (scriptNumberWidth value.toNat) value.toNat ++ rest := by
  constructor
  · rintro ⟨⟨-, small⟩, fits, least, rfl, above⟩
    rw [UInt8.le_iff_toNat_le] at small
    generalize data_eq : tail.take first.toNat = data at least above ⊢
    have length : data.length = first.toNat := by rw [← data_eq, List.length_take_of_le fits]
    have four : first.toNat ≤ 4 := small
    have bound : ofLe data < 256 ^ 4 :=
      (ofLe_lt data).trans_le (Nat.pow_le_pow_right (by decide) (length ▸ four))
    have value : (UInt64.ofNat (ofLe data)).toNat = ofLe data :=
      UInt64.toNat_ofNat_of_lt' (bound.trans (by decide))
    rw [UInt64.lt_iff_toNat_lt, value] at above
    have width := (least_iff (Nat.lt_of_le_of_lt (Nat.zero_le _) above)).mp least
    rw [value, ← width, length]
    refine ⟨⟨above, ?_⟩, rfl, tail.drop first.toNat, ?_⟩
    · exact (lt_of_width (by rw [← width, length])).trans_le
        (Nat.pow_le_pow_right (by decide) (by omega))
    · have same : natLe first.toNat (ofLe data) = data := by
        refine ofLe_inj (by rw [natLe_length, length]) ?_
        rw [← length, width]
        exact ofLe_scriptNumber _
      rw [same, ← data_eq, List.take_append_drop]
  · rintro ⟨⟨above, small⟩, first_eq, rest, rfl⟩
    have four := width_le_four small
    have taken : (natLe (scriptNumberWidth value.toNat) value.toNat ++ rest).take first.toNat
        = natLe (scriptNumberWidth value.toNat) value.toNat := by
      rw [first_eq, List.take_left' (natLe_length _ _)]
    refine ⟨⟨?_, ?_⟩, ?_, ?_, ?_, ?_⟩
    · rw [UInt8.le_iff_toNat_le, first_eq]
      exact Nat.succ_le_succ (Nat.zero_le _)
    · rw [UInt8.le_iff_toNat_le, first_eq]
      exact four
    · rw [first_eq, List.length_append, natLe_length]
      omega
    · rw [taken, least_iff (by rw [ofLe_scriptNumber]; omega), ofLe_scriptNumber, natLe_length]
    · rw [taken, ofLe_scriptNumber, UInt64.ofNat_toNat]
    · rw [UInt64.lt_iff_toNat_lt]
      exact above

theorem scriptNumber_above {n : Nat} (above : 16 < n) :
    scriptNumber n = UInt8.ofNat (scriptNumberWidth n) :: natLe (scriptNumberWidth n) n :=
  if_neg (Nat.not_le.mpr above)

theorem toNat_sub_opcode {first : UInt8} (low : 80 ≤ first.toNat) :
    (first - 0x50).toNat = first.toNat - 80 :=
  UInt8.toNat_sub_of_le first 0x50 (UInt8.le_iff_toNat_le.mpr low)

theorem opcode_iff {first : UInt8} {value : UInt64} :
    ((0x51 ≤ first ∧ first ≤ 0x60) ∧ value = (first - 0x50).toUInt64) ↔
      (0 < value.toNat ∧ value.toNat ≤ 16) ∧ scriptNumber value.toNat = [first] := by
  simp only [UInt8.le_iff_toNat_le]
  constructor
  · rintro ⟨⟨low, high⟩, rfl⟩
    have low : 81 ≤ first.toNat := low
    have high : first.toNat ≤ 96 := high
    have value : (first - 0x50).toUInt64.toNat = first.toNat - 80 := by
      rw [UInt8.toNat_toUInt64, toNat_sub_opcode (by omega)]
    rw [value, scriptNumber, if_pos (by omega),
      show 0x50 + (first.toNat - 80) = first.toNat by omega, UInt8.ofNat_toNat]
    exact ⟨by omega, rfl⟩
  · rintro ⟨⟨positive, small⟩, same⟩
    rw [scriptNumber, if_pos small] at same
    have first_eq : first.toNat = 80 + value.toNat := by
      rw [← List.head_eq_of_cons_eq same, UInt8.toNat_ofNat_of_lt' (show _ < 256 by omega)]
    have back : (first - 0x50).toNat = value.toNat := by
      rw [toNat_sub_opcode (by omega), first_eq, Nat.add_sub_cancel_left]
    refine ⟨⟨show 81 ≤ first.toNat by omega, show first.toNat ≤ 96 by omega⟩, ?_⟩
    rw [← UInt64.toNat_inj, UInt8.toNat_toUInt64, back]

theorem positiveScriptNumber_eq_some {bytes : Bytes} {value : UInt64} {consumed : Nat} :
    positiveScriptNumber bytes = some (value, consumed) ↔
      (0 < value.toNat ∧ value.toNat < 2 ^ 31) ∧ consumed = (scriptNumber value.toNat).length ∧
      ∃ rest, bytes = scriptNumber value.toNat ++ rest := by
  cases bytes with
  | nil =>
      refine ⟨nofun, ?_⟩
      rintro ⟨-, -, rest, same⟩
      rw [scriptNumber] at same
      split at same
      · cases same
      · cases same
  | cons first tail =>
      rw [positiveScriptNumber_cons, ← and_assoc, opcode_iff, pushed_iff]
      constructor
      · rintro (⟨⟨⟨positive, small⟩, same⟩, rfl⟩ | ⟨-, ⟨⟨above, small⟩, width, rest, rfl⟩, rfl⟩)
        · exact ⟨⟨positive, by omega⟩, by rw [same]; rfl, tail, by rw [same]; rfl⟩
        · rw [scriptNumber_above above, ← width, UInt8.ofNat_toNat]
          refine ⟨⟨by omega, small⟩, ?_, rest, rfl⟩
          rw [List.length_cons, natLe_length]
      · rintro ⟨⟨positive, small⟩, rfl, rest, same⟩
        by_cases opcode : value.toNat ≤ 16
        · have single : scriptNumber value.toNat = [UInt8.ofNat (0x50 + value.toNat)] :=
            if_pos opcode
          rw [single] at same ⊢
          obtain ⟨rfl, rfl⟩ := List.cons.inj same
          exact .inl ⟨⟨⟨positive, opcode⟩, rfl⟩, rfl⟩
        · have above : 16 < value.toNat := by omega
          rw [scriptNumber_above above] at same ⊢
          obtain ⟨rfl, rfl⟩ := List.cons.inj same
          have four := width_le_four small
          have width : (UInt8.ofNat (scriptNumberWidth value.toNat)).toNat
              = scriptNumberWidth value.toNat := UInt8.toNat_ofNat_of_lt' (show _ < 256 by omega)
          refine .inr ⟨?_, ⟨⟨above, small⟩, width, rest, rfl⟩, ?_⟩
          · rw [UInt8.le_iff_toNat_le, width]
            exact fun range => absurd range.1 (show ¬ 81 ≤ _ by omega)
          · rw [width, List.length_cons, natLe_length]

theorem scriptNumber_length_le {n : Nat} (small : n < 2 ^ 31) : (scriptNumber n).length ≤ 5 := by
  have four := width_le_four small
  rw [scriptNumber]
  split
  · simp
  · rw [List.length_cons, natLe_length]
    omega

end ScriptNumber

def xOnlyPush (opcode : UInt8) (key : XOnlyPublicKey) : Bytes := 32 :: (key.val ++ [opcode])

def compressedPush (key : Word 33) : Bytes := 33 :: key.val

/-- The leaves that have an estimate, with their keys and how many must sign. -/
inductive LeafForm (btc : PsbtCrate) : Script → UInt64 → UInt64 → Prop where
  | checksig (key : XOnlyPublicKey) (valid : btc.isXOnly key = true) :
      LeafForm btc (xOnlyPush OP_CHECKSIG key) 1 1
  | multiA (first : XOnlyPublicKey) (others : List XOnlyPublicKey) (n k : UInt64)
      (valid : ∀ key ∈ first :: others, btc.isXOnly key = true)
      (count : n.toNat = (first :: others).length) (atMost : n ≤ 1000) (least : 1 ≤ k)
      (most : k ≤ n) :
      LeafForm btc (xOnlyPush OP_CHECKSIG first ++ others.flatMap (xOnlyPush OP_CHECKSIGADD)
        ++ scriptNumber k.toNat ++ [OP_NUMEQUAL]) n k

/-- The `CHECKMULTISIG` scripts that have an estimate. -/
inductive MultisigForm (btc : PsbtCrate) : Script → UInt64 → Prop where
  | checkMultisig (keys : List (Word 33)) (n k : UInt64)
      (valid : ∀ key ∈ keys, btc.isPublicKey key = true) (count : n.toNat = keys.length)
      (atMost : n ≤ 20) (least : 1 ≤ k) (most : k ≤ n) :
      MultisigForm btc (scriptNumber k.toNat ++ keys.flatMap compressedPush
        ++ scriptNumber n.toNat ++ [OP_CHECKMULTISIG]) k

section Loops

variable {btc : PsbtCrate} {size fuel slots n : Nat} {bytes rest : Bytes}
  {valid : Word size → Bool} {isPush : Nat → Bytes → Bool} {push : Nat → Word size → Bytes}
  {keys : List (Word size)}

/-- The test of a loop finds the pushes of this form. -/
structure Finds (isPush : Nat → Bytes → Bool) (push : Nat → Word size → Bytes) : Prop where
  length : ∀ slots key, (push slots key).length = 34
  body : ∀ slots key rest, ((push slots key ++ rest).drop 1).take size = key.val
  found : ∀ slots key rest, isPush slots (push slots key ++ rest) = true
  split : ∀ {slots bytes} {key : Word size}, 34 ≤ bytes.length → isPush slots bytes = true →
    (bytes.drop 1).take size = key.val → bytes = push slots key ++ bytes.drop 34

def pushesFrom (push : Nat → Word size → Bytes) : Nat → List (Word size) → Bytes
  | _, [] => []
  | slots, key :: rest => push slots key ++ pushesFrom push (slots + 1) rest

theorem scanKeys_succ : scanKeys valid isPush (fuel + 1) slots bytes =
    if bytes.length < 34 ∨ isPush slots bytes = false then some (slots, bytes)
    else (Word.ofBytes? size ((bytes.drop 1).take size)).bind fun key =>
      (guard (valid key = true) : Option Unit).bind fun _ =>
        scanKeys valid isPush fuel (slots + 1) (bytes.drop 34) := rfl

theorem scanKeys_some (finds : Finds isPush push)
    (found : scanKeys valid isPush fuel slots bytes = some (n, rest)) :
    ∃ keys : List (Word size), (∀ key ∈ keys, valid key = true) ∧
      n = slots + keys.length ∧ bytes = pushesFrom push slots keys ++ rest := by
  induction fuel generalizing slots bytes with
  | zero =>
      cases found
      exact ⟨[], nofun, rfl, rfl⟩
  | succ fuel ih =>
      rw [scanKeys_succ] at found
      split at found
      · cases found
        exact ⟨[], nofun, rfl, rfl⟩
      · rename_i one
        rw [not_or, Nat.not_lt, Bool.not_eq_false] at one
        obtain ⟨key, read, checked⟩ := Option.bind_eq_some_iff.mp found
        obtain ⟨_, isValid, later⟩ := Option.bind_eq_some_iff.mp checked
        obtain ⟨keys, allValid, count, tail⟩ := ih later
        have first := finds.split one.1 one.2 (Word.ofBytes?_eq_some.mp read)
        refine ⟨key :: keys, List.forall_mem_cons.mpr ⟨by simpa using isValid, allValid⟩, ?_, ?_⟩
        · rw [count, List.length_cons]
          omega
        · rw [pushesFrom, List.append_assoc, ← tail]
          exact first

theorem scanKeys_pushes (finds : Finds isPush push) (allValid : ∀ key ∈ keys, valid key = true)
    (short : rest.length < 34) (enough : keys.length ≤ fuel) :
    scanKeys valid isPush fuel slots (pushesFrom push slots keys ++ rest)
      = some (slots + keys.length, rest) := by
  induction keys generalizing fuel slots with
  | nil =>
      rw [pushesFrom, List.nil_append]
      cases fuel with
      | zero => rfl
      | succ fuel => rw [scanKeys_succ, if_pos (.inl short)]; rfl
  | cons key keys ih =>
      rw [List.length_cons] at enough
      obtain ⟨fuel, rfl⟩ : ∃ less, fuel = less + 1 := ⟨fuel - 1, by omega⟩
      obtain ⟨first, others⟩ := List.forall_mem_cons.mp allValid
      have length := finds.length slots key
      rw [pushesFrom, List.append_assoc, scanKeys_succ, if_neg, finds.body,
        Word.ofBytes?_eq_some.mpr rfl, List.drop_left' length]
      · simp only [first, Option.bind_some, guard_true, Option.pure_def]
        rw [ih others (by omega), List.length_cons, Nat.add_assoc, Nat.add_comm 1]
      · rw [finds.found, List.length_append, length]
        simp

theorem length_le_pushesFrom (finds : Finds isPush push) (slots : Nat) (keys : List (Word size)) :
    keys.length ≤ (pushesFrom push slots keys).length := by
  induction keys generalizing slots with
  | nil => exact Nat.zero_le _
  | cons key rest ih =>
      have tail := ih (slots + 1)
      rw [pushesFrom, List.length_append, finds.length, List.length_cons]
      omega

theorem getD_cons_drop {i : Nat} (inside : i < bytes.length) :
    bytes.getD i 0 :: bytes.drop (i + 1) = bytes.drop i := by
  rw [List.drop_eq_getElem_cons inside, List.getD_eq_getElem?_getD,
    List.getElem?_eq_getElem inside, Option.getD_some]

theorem push_split (size : Nat) (long : size < bytes.length) :
    bytes.getD 0 0 :: ((bytes.drop 1).take size ++ bytes.drop (size + 1)) = bytes := by
  have tail : (bytes.drop 1).take size ++ bytes.drop (size + 1) = bytes.drop 1 := by
    rw [Nat.add_comm, ← List.drop_drop, List.take_append_drop]
  rw [tail, getD_cons_drop (by omega), List.drop_zero]

def keyOpcode (slots : Nat) : UInt8 := if slots = 0 then OP_CHECKSIG else OP_CHECKSIGADD

theorem tapscript_finds : Finds (fun slots bytes =>
    decide (bytes.getD 0 0 = 32 ∧ bytes.getD 33 0 = keyOpcode slots))
    (fun slots => xOnlyPush (keyOpcode slots)) where
  length slots key := by simp [xOnlyPush, key.property]
  body slots key rest := by
    rw [xOnlyPush, List.cons_append, List.append_assoc]
    exact List.take_left' key.property
  found slots key rest := by
    have word : key.val.length = 32 := key.property
    rw [xOnlyPush, List.cons_append, List.append_assoc, decide_eq_true_eq]
    refine ⟨rfl, ?_⟩
    rw [List.getD_eq_getElem?_getD, List.getElem?_cons_succ,
      List.getElem?_append_right (by omega), word]
    rfl
  split {slots bytes key} long isPush read := by
    obtain ⟨size, opcode⟩ := of_decide_eq_true isPush
    rw [xOnlyPush, ← read, ← opcode, ← size, List.cons_append, List.append_assoc,
      List.singleton_append, getD_cons_drop (by omega), push_split 32 (by omega)]

theorem multisig_finds : Finds (fun _ bytes => decide (bytes.getD 0 0 = 33))
    (fun _ => compressedPush) where
  length _ key := by simp [compressedPush, key.property]
  body _ key _ := List.take_left' key.property
  found _ _ _ := rfl
  split {_ bytes key} long isPush read := by
    rw [compressedPush, ← read, ← of_decide_eq_true isPush, List.cons_append,
      push_split 33 (by omega)]

theorem pushesFrom_tapscript (first : XOnlyPublicKey) (others : List XOnlyPublicKey) :
    pushesFrom (fun slots => xOnlyPush (keyOpcode slots)) 0 (first :: others) =
      xOnlyPush OP_CHECKSIG first ++ others.flatMap (xOnlyPush OP_CHECKSIGADD) := by
  have later : ∀ slots, pushesFrom (fun slots => xOnlyPush (keyOpcode slots)) (slots + 1) others =
      others.flatMap (xOnlyPush OP_CHECKSIGADD) := by
    induction others with
    | nil => exact fun _ => rfl
    | cons key rest ih => exact fun slots => by rw [pushesFrom, ih, List.flatMap_cons]; rfl
  rw [pushesFrom, later]
  rfl

theorem pushesFrom_multisig (slots : Nat) (keys : List (Word 33)) :
    pushesFrom (fun _ => compressedPush) slots keys = keys.flatMap compressedPush := by
  induction keys generalizing slots with
  | nil => rfl
  | cons key rest ih => rw [pushesFrom, ih, List.flatMap_cons]

theorem tapscriptThreshold_eq_some {script : Script} {n k : UInt64} :
    tapscriptThreshold btc script = some (n, k) ↔ LeafForm btc script n k := by
  simp only [tapscriptThreshold, Option.bind_eq_bind, Option.bind_eq_some_iff, Prod.exists]
  constructor
  · rintro ⟨slots, rest, found, answer⟩
    obtain ⟨keys, valid, count, rfl⟩ := scanKeys_some tapscript_finds found
    rw [Nat.zero_add] at count
    split at answer
    · rename_i single
      obtain ⟨one, rfl⟩ := single
      obtain ⟨key, rfl⟩ := List.length_eq_one_iff.mp (count.symm.trans one)
      cases answer
      rw [List.append_nil, pushesFrom_tapscript, List.flatMap_nil, List.append_nil]
      exact .checksig key (valid key List.mem_cons_self)
    · simp only [Option.bind_eq_some_iff, Option.guard_eq_some', Prod.exists] at answer
      obtain ⟨_, ⟨some_keys, atMost⟩, required, consumed, read, _, ⟨fits, ends⟩, same⟩ := answer
      obtain ⟨⟨positive, -⟩, rfl, tail, rfl⟩ := positiveScriptNumber_eq_some.mp read
      rw [List.drop_left] at ends
      cases same
      subst ends
      obtain ⟨first, others, rfl⟩ := List.exists_cons_of_ne_nil
        (show keys ≠ [] by rintro rfl; exact some_keys count)
      have whole : (UInt64.ofNat slots).toNat = slots :=
        UInt64.toNat_ofNat_of_lt' (show slots < 2 ^ 64 by omega)
      rw [pushesFrom_tapscript, ← List.append_assoc]
      refine .multiA first others _ k valid (by rw [whole, count]) ?_ ?_ ?_
      · rw [UInt64.le_iff_toNat_le, whole]
        exact atMost
      · rw [UInt64.le_iff_toNat_le]
        exact positive
      · rw [UInt64.le_iff_toNat_le, whole]
        exact fits
  · intro form
    cases form with
    | checksig key valid =>
        refine ⟨1, [], ?_, rfl⟩
        have taken := @scanKeys_pushes 32 (xOnlyPush OP_CHECKSIG key).length 0 [] _ _ _ [key]
          tapscript_finds (by simpa using valid) (by decide) (by simp [xOnlyPush])
        rwa [pushesFrom_tapscript, List.flatMap_nil, List.append_nil, List.append_nil] at taken
    | multiA first others n k valid count atMost least most =>
        rw [UInt64.le_iff_toNat_le] at atMost least most
        have atMost : n.toNat ≤ 1000 := atMost
        have least : 1 ≤ k.toNat := least
        have small : k.toNat < 2 ^ 31 := by omega
        have encoded := scriptNumber_length_le small
        have fewer := length_le_pushesFrom tapscript_finds 0 (first :: others)
        rw [pushesFrom_tapscript] at fewer
        have taken := @scanKeys_pushes 32 (xOnlyPush OP_CHECKSIG first ++
          others.flatMap (xOnlyPush OP_CHECKSIGADD) ++ scriptNumber k.toNat
            ++ [OP_NUMEQUAL]).length 0 (scriptNumber k.toNat ++ [OP_NUMEQUAL]) _ _ _
          (first :: others) tapscript_finds valid
          (by rw [List.length_append, List.length_singleton]; omega)
          (by rw [List.length_append, List.length_append]; omega)
        rw [pushesFrom_tapscript, ← List.append_assoc, Nat.zero_add, ← count] at taken
        refine ⟨n.toNat, _, taken, ?_⟩
        have read : positiveScriptNumber (scriptNumber k.toNat ++ [OP_NUMEQUAL])
            = some (k, (scriptNumber k.toNat).length) :=
          positiveScriptNumber_eq_some.mpr ⟨⟨least, small⟩, rfl, _, rfl⟩
        rw [if_neg (by simp), read]
        simp only [Option.bind_eq_some_iff, Option.guard_eq_some', Option.bind_some,
          List.drop_left, UInt64.ofNat_toNat]
        exact ⟨(), ⟨by omega, atMost⟩, (), ⟨most, trivial⟩, trivial⟩

theorem multisigThreshold_eq_some {script : Script} {k : UInt64} :
    multisigThreshold btc script = some k ↔ MultisigForm btc script k := by
  simp only [multisigThreshold, Option.bind_eq_bind, Option.bind_eq_some_iff, Prod.exists,
    Option.guard_eq_some']
  constructor
  · rintro ⟨required, _, read, count, _, found, declared, _, again, _, ⟨atMost, most, same, ends⟩,
      answer⟩
    obtain ⟨⟨positive, -⟩, rfl, tail, rfl⟩ := positiveScriptNumber_eq_some.mp read
    rw [List.drop_left] at found
    obtain ⟨keys, valid, sum, rfl⟩ := scanKeys_some multisig_finds found
    rw [pushesFrom_multisig]
    obtain ⟨-, rfl, last, rfl⟩ := positiveScriptNumber_eq_some.mp again
    rw [List.drop_left] at ends
    cases answer
    subst ends
    rw [Nat.zero_add] at sum
    rw [← List.append_assoc, ← List.append_assoc]
    refine .checkMultisig keys declared k valid (same.trans sum) ?_ ?_ ?_
    · rw [UInt64.le_iff_toNat_le, same]
      exact atMost
    · rw [UInt64.le_iff_toNat_le]
      exact positive
    · rw [UInt64.le_iff_toNat_le, same]
      exact most
  · intro form
    cases form with
    | checkMultisig keys n k valid count atMost least most =>
        rw [UInt64.le_iff_toNat_le] at atMost least most
        have atMost : n.toNat ≤ 20 := atMost
        have least : 1 ≤ k.toNat := least
        have encoded : (scriptNumber n.toNat).length ≤ 5 := scriptNumber_length_le (by omega)
        rw [List.append_assoc, List.append_assoc]
        refine ⟨k, _, positiveScriptNumber_eq_some.mpr ⟨⟨least, by omega⟩, rfl, _, rfl⟩,
          keys.length, scriptNumber n.toNat ++ [OP_CHECKMULTISIG], ?_, n, _,
          positiveScriptNumber_eq_some.mpr ⟨⟨by omega, by omega⟩, rfl, _, rfl⟩, (),
          ⟨count ▸ atMost, count ▸ most, count, List.drop_left⟩, rfl⟩
        have enough := length_le_pushesFrom multisig_finds 0 keys
        rw [List.drop_left, ← pushesFrom_multisig 0, multisigKeys,
          scanKeys_pushes multisig_finds valid ?_ ?_, Nat.zero_add]
        · rw [List.length_append, List.length_singleton]
          omega
        · rw [List.length_append, List.length_append]
          omega

end Loops

/-- The two scanners accept exactly the scripts of the two grammars, with their
    numbers of keys and of signatures. -/
theorem script_thresholds_are_grammars (btc : PsbtCrate) (script : Script) :
    (∀ n k, tapscriptThreshold btc script = some (n, k) ↔ LeafForm btc script n k) ∧
    ∀ k, multisigThreshold btc script = some k ↔ MultisigForm btc script k :=
  ⟨fun _ _ => tapscriptThreshold_eq_some, fun _ => multisigThreshold_eq_some⟩

end EnclaveSigner.Rgb.PsbtFeeSize
