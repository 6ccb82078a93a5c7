import Mathlib.Data.List.Basic
import Mathlib.Data.Set.Function
import Mathlib.Tactic.Ring
import Mathlib.Tactic.Linarith

/-! # Byte strings and fixed-width words

Byte strings are lists. A `Word n` carries the proof that it has exactly `n`
bytes, so a reader of one never checks a length again. Integers enter a byte
string at a fixed width, in either byte order, and the width alone makes the
encoding injective below `256 ^ width`.
-/

namespace EnclaveSigner.Lib

abbrev Bytes := List UInt8

abbrev Word (n : Nat) := { bytes : Bytes // bytes.length = n }

namespace Word

def ofBytes? (n : Nat) (bytes : Bytes) : Option (Word n) :=
  if length : bytes.length = n then some ⟨bytes, length⟩ else none

theorem length_val {n : Nat} (word : Word n) : word.val.length = n := word.property

def zero (n : Nat) : Word n := ⟨List.replicate n 0, List.length_replicate⟩

def fill (n : Nat) (byte : UInt8) : Word n := ⟨List.replicate n byte, List.length_replicate⟩

def reverse {n : Nat} (word : Word n) : Word n :=
  ⟨word.val.reverse, by rw [List.length_reverse, word.property]⟩

@[simp] theorem reverse_reverse {n : Nat} (word : Word n) : word.reverse.reverse = word := by
  apply Subtype.ext
  simp [reverse]

theorem ofBytes?_eq_some {n : Nat} {bytes : Bytes} {word : Word n} :
    ofBytes? n bytes = some word ↔ bytes = word.val := by
  unfold ofBytes?
  split
  · simp only [Option.some.injEq, Subtype.ext_iff]
  · rename_i short
    constructor
    · intro impossible; cases impossible
    · intro same; exact absurd (same ▸ word.property) short

end Word

/-- Little-endian bytes of `value`, cut to `width` bytes. -/
def natLe : Nat → Nat → Bytes
  | 0, _ => []
  | width + 1, value => UInt8.ofNat value :: natLe width (value / 256)

def ofLe : Bytes → Nat
  | [] => 0
  | byte :: rest => byte.toNat + 256 * ofLe rest

def natBe (width value : Nat) : Bytes := (natLe width value).reverse

def ofBe (bytes : Bytes) : Nat := ofLe bytes.reverse

@[simp] theorem natLe_length (width value : Nat) : (natLe width value).length = width := by
  induction width generalizing value with
  | zero => rfl
  | succ width ih => simp only [natLe, List.length_cons, ih]

@[simp] theorem natBe_length (width value : Nat) : (natBe width value).length = width := by
  simp only [natBe, List.length_reverse, natLe_length]

theorem ofLe_natLe (width value : Nat) : ofLe (natLe width value) = value % 256 ^ width := by
  induction width generalizing value with
  | zero => simp [natLe, ofLe, Nat.mod_one]
  | succ width ih =>
      have byte : (UInt8.ofNat value).toNat = value % 256 := by simp [UInt8.toNat_ofNat']
      rw [natLe, ofLe, ih, byte, Nat.pow_succ', Nat.mod_mul]

theorem natLe_inj {width a b : Nat} (ha : a < 256 ^ width) (hb : b < 256 ^ width)
    (same : natLe width a = natLe width b) : a = b := by
  have read := congrArg ofLe same
  rwa [ofLe_natLe, ofLe_natLe, Nat.mod_eq_of_lt ha, Nat.mod_eq_of_lt hb] at read

theorem natBe_inj {width a b : Nat} (ha : a < 256 ^ width) (hb : b < 256 ^ width)
    (same : natBe width a = natBe width b) : a = b :=
  natLe_inj ha hb (List.reverse_injective same)

theorem ofLe_lt (bytes : Bytes) : ofLe bytes < 256 ^ bytes.length := by
  induction bytes with
  | nil => simp [ofLe]
  | cons byte rest ih =>
      have small : byte.toNat < 256 := byte.toNat_lt
      rw [ofLe, List.length_cons, Nat.pow_succ']
      omega

theorem ofLe_inj {a b : Bytes} (length : a.length = b.length) (same : ofLe a = ofLe b) :
    a = b := by
  induction a generalizing b with
  | nil => exact (List.length_eq_zero_iff.mp length.symm).symm
  | cons x xs ih =>
      cases b with
      | nil => cases length
      | cons y ys =>
          have hx : x.toNat < 256 := x.toNat_lt
          have hy : y.toNat < 256 := y.toNat_lt
          simp only [ofLe] at same
          have head : x = y := UInt8.toNat_inj.mp (by omega)
          have tail : xs = ys := ih (by simpa using length) (by omega)
          rw [head, tail]

theorem ofBe_inj {a b : Bytes} (length : a.length = b.length) (same : ofBe a = ofBe b) :
    a = b :=
  List.reverse_injective (ofLe_inj (by simpa using length) same)

theorem ofBe_lt (bytes : Bytes) : ofBe bytes < 256 ^ bytes.length := by
  simpa only [ofBe, List.length_reverse] using ofLe_lt bytes.reverse

theorem ofBe_natBe {width value : Nat} (small : value < 256 ^ width) :
    ofBe (natBe width value) = value := by
  rw [ofBe, natBe, List.reverse_reverse, ofLe_natLe, Nat.mod_eq_of_lt small]

theorem ofLe_append (a b : Bytes) : ofLe (a ++ b) = ofLe a + 256 ^ a.length * ofLe b := by
  induction a with
  | nil => simp [ofLe]
  | cons byte rest ih =>
      rw [List.cons_append, ofLe, ih, ofLe, List.length_cons, Nat.pow_succ', Nat.mul_add,
        Nat.mul_assoc, Nat.add_assoc]

theorem ofBe_cons (byte : UInt8) (rest : Bytes) :
    ofBe (byte :: rest) = ofBe rest + 256 ^ rest.length * byte.toNat := by
  rw [ofBe, List.reverse_cons, ofLe_append, List.length_reverse]
  rfl

theorem ofBe_dropWhile_zero (bytes : Bytes) : ofBe (bytes.dropWhile (· = 0)) = ofBe bytes := by
  induction bytes with
  | nil => rfl
  | cons byte rest ih =>
      rw [List.dropWhile_cons]
      split
      · rename_i zero
        rw [ih, ofBe_cons, of_decide_eq_true zero]
        rfl
      · rfl

theorem pow_le_ofBe {byte : UInt8} {rest : Bytes} (nonzero : byte ≠ 0) :
    256 ^ rest.length ≤ ofBe (byte :: rest) := by
  have positive : 0 < byte.toNat := by
    refine Nat.pos_of_ne_zero fun zero => nonzero ?_
    exact UInt8.toNat_inj.mp zero
  rw [ofBe_cons]
  exact Nat.le_trans (Nat.le_mul_of_pos_right _ positive) (Nat.le_add_left _ _)

theorem natBe_ofBe {n : Nat} (word : Word n) : natBe n (ofBe word.val) = word.val := by
  have small : ofBe word.val < 256 ^ n := by
    simpa only [word.property] using ofBe_lt word.val
  exact ofBe_inj (by rw [natBe_length, word.property]) (ofBe_natBe small)

theorem append_parts {n : Nat} {a b : Word n} {x y : Bytes}
    (same : a.val ++ x = b.val ++ y) : a = b ∧ x = y := by
  obtain ⟨head, tail⟩ := List.append_inj same (a.property.trans b.property.symm)
  exact ⟨Subtype.ext head, tail⟩

def u32Le (value : UInt32) : Word 4 := ⟨natLe 4 value.toNat, natLe_length 4 _⟩

def u64Le (value : UInt64) : Word 8 := ⟨natLe 8 value.toNat, natLe_length 8 _⟩

def u32Be (value : UInt32) : Word 4 := ⟨natBe 4 value.toNat, natBe_length 4 _⟩

theorem u32Le_injective : Function.Injective u32Le := by
  intro a b same
  exact UInt32.toNat_inj.mp
    (natLe_inj a.toNat_lt b.toNat_lt (congrArg Subtype.val same))

theorem u32Be_injective : Function.Injective u32Be := by
  intro a b same
  have small : ∀ value : UInt32, value.toNat < 256 ^ 4 := fun value => value.toNat_lt
  exact UInt32.toNat_inj.mp (natBe_inj (small a) (small b) (congrArg Subtype.val same))

theorem u64Le_injective : Function.Injective u64Le := by
  intro a b same
  exact UInt64.toNat_inj.mp
    (natLe_inj a.toNat_lt b.toNat_lt (congrArg Subtype.val same))

def readU32Le (bytes : Bytes) : UInt32 := UInt32.ofNat (ofLe (bytes.take 4))

theorem readU32Le_append (value : UInt32) (rest : Bytes) :
    readU32Le ((u32Le value).val ++ rest) = value := by
  have small : value.toNat < 256 ^ 4 := value.toNat_lt
  rw [readU32Le, List.take_left' (Word.length_val _), u32Le, ofLe_natLe,
    Nat.mod_eq_of_lt small, UInt32.ofNat_toNat]

theorem ofLe_u64Le (value : UInt64) : ofLe (u64Le value).val = value.toNat := by
  rw [u64Le, ofLe_natLe]
  exact Nat.mod_eq_of_lt value.toNat_lt

def Word.ofNatBe (n value : Nat) : Word n := ⟨natBe n value, natBe_length n value⟩

def tableHash {n : Nat} (table : List (Bytes × Word n)) (bytes : Bytes) : Word n :=
  (table.lookup bytes).getD (Word.zero n)

def utf8 (text : String) : Bytes := text.toUTF8.data.toList

def ofUtf8? (bytes : Bytes) : Option String := String.fromUTF8? ⟨bytes.toArray⟩

/-- A text in quotes, as the `Debug` format of Rust writes it. Only the control characters
    count as not printable here. -/
def debugQuote (text : String) : String :=
  let escape (c : Char) : String :=
    match c.toNat with
    | 0 => "\\0"
    | 9 => "\\t"
    | 10 => "\\n"
    | 13 => "\\r"
    | 34 => "\\\""
    | 92 => "\\\\"
    | n => if n < 0x20 ∨ 0x7F ≤ n ∧ n < 0xA0 then
        "\\u\x7b" ++ String.ofList (Nat.toDigits 16 n) ++ "\x7d"
      else c.toString
  "\"" ++ String.join (text.toList.map escape) ++ "\""

theorem ofUtf8?_eq_some {bytes : Bytes} {text : String} :
    ofUtf8? bytes = some text ↔ bytes = utf8 text := by
  unfold ofUtf8? String.fromUTF8?
  constructor
  · intro read
    split at read
    · cases read
      rfl
    · cases read
  · rintro rfl
    exact dif_pos text.isValidUTF8

theorem utf8_injective : Function.Injective utf8 := by
  intro a b same
  have read : ofUtf8? (utf8 b) = some a := ofUtf8?_eq_some.mpr same.symm
  rw [ofUtf8?_eq_some.mpr rfl] at read
  exact (Option.some.inj read).symm

theorem utf8_eq_flatMap (text : String) : utf8 text = text.toList.flatMap String.utf8EncodeChar := by
  rw [utf8, String.toUTF8, ← String.utf8Encode_toList, List.utf8Encode]
  simp

/-- Every character takes at least one byte. -/
theorem length_toList_le_utf8 (text : String) : text.toList.length ≤ (utf8 text).length := by
  rw [utf8_eq_flatMap, List.length_flatMap]
  generalize text.toList = chars
  induction chars with
  | nil => simp
  | cons c chars ih =>
      have positive : 0 < (String.utf8EncodeChar c).length := by simp [Char.utf8Size_pos]
      simp only [List.length_cons, List.map_cons, List.sum_cons]
      omega

private def hexDigit (value : Nat) : Char :=
  "0123456789abcdef".toList.getD value '0'

def hexEncode (bytes : Bytes) : String :=
  String.ofList (bytes.flatMap fun byte =>
    [hexDigit (byte.toNat / 16), hexDigit (byte.toNat % 16)])

private def hexValue (digit : Char) : Option Nat :=
  "0123456789abcdef".toList.idxOf? digit.toLower

private def hexPairs : List Char → Option Bytes
  | [] => some []
  | [_] => none
  | high :: low :: rest => do
      let high ← hexValue high
      let low ← hexValue low
      let bytes ← hexPairs rest
      pure (UInt8.ofNat (16 * high + low) :: bytes)

def hexDecode (text : String) : Option Bytes := hexPairs text.toList

end EnclaveSigner.Lib
