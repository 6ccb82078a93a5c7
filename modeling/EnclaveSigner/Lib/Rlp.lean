import EnclaveSigner.Lib.Bytes

/-! # Recursive length prefixes

A byte string or a list of items, each behind a header that holds its length.
Digits never start with a zero and a length has one form, so that a byte string
starts with the encoding of at most one item.
-/

namespace EnclaveSigner.Lib

/-- The big-endian digits of a number, without a zero in front. -/
def minimalBe (n : Nat) : Bytes := (natBe (n.log2 / 8 + 1) n).dropWhile (· = 0)

theorem ofBe_minimalBe (n : Nat) : ofBe (minimalBe n) = n := by
  rw [minimalBe, ofBe_dropWhile_zero]
  apply ofBe_natBe
  calc
    n < 2 ^ (n.log2 + 1) := Nat.lt_log2_self
    _ ≤ 2 ^ (8 * (n.log2 / 8 + 1)) := Nat.pow_le_pow_right (by decide) (by omega)
    _ = 256 ^ (n.log2 / 8 + 1) := Nat.pow_mul 2 8 _

theorem head_minimalBe (n : Nat) : (minimalBe n).head? ≠ some 0 := by
  intro zero
  have stopped := List.head?_dropWhile_not (· = (0 : UInt8)) (natBe (n.log2 / 8 + 1) n)
  rw [← minimalBe, zero] at stopped
  exact absurd stopped (by decide)

theorem length_le_of_ofBe_le {a b : Bytes} (canonical : a.head? ≠ some 0)
    (below : ofBe a ≤ ofBe b) : a.length ≤ b.length := by
  cases a with
  | nil => exact Nat.zero_le _
  | cons byte rest =>
      have nonzero : byte ≠ 0 := fun zero => canonical (congrArg some zero)
      have pow : 256 ^ rest.length < 256 ^ b.length :=
        Nat.lt_of_le_of_lt ((pow_le_ofBe nonzero).trans below) (ofBe_lt b)
      exact (Nat.pow_lt_pow_iff_right (by decide)).mp pow

theorem canonical_digits_inj {a b : Bytes} (canonical : a.head? ≠ some 0)
    (canonical' : b.head? ≠ some 0) (same : ofBe a = ofBe b) : a = b :=
  ofBe_inj (Nat.le_antisymm (length_le_of_ofBe_le canonical same.le)
    (length_le_of_ofBe_le canonical' same.ge)) same

theorem minimalBe_ofBe {digits : Bytes} (canonical : digits.head? ≠ some 0) :
    minimalBe (ofBe digits) = digits :=
  canonical_digits_inj (head_minimalBe _) canonical (ofBe_minimalBe _)

theorem length_minimalBe_le {n width : Nat} (small : n < 256 ^ width) :
    (minimalBe n).length ≤ width := by
  have read : ofBe (minimalBe n) ≤ ofBe (natBe width n) := by
    rw [ofBe_minimalBe, ofBe_natBe small]
  simpa only [natBe_length] using length_le_of_ofBe_le (head_minimalBe n) read

/-- A byte string, or a list of items. -/
inductive Rlp where
  | str (bytes : Bytes)
  | list (items : List Rlp)

namespace Rlp

/-- How a length enters a header: a number below 64 and the digits that follow. -/
def lengthCode (len : Nat) : Nat × Bytes :=
  if len ≤ 55 then (len, []) else (55 + (minimalBe len).length, minimalBe len)

def header (offset len : Nat) : Bytes :=
  UInt8.ofNat (offset + (lengthCode len).1) :: (lengthCode len).2

mutual

/-- The canonical encoding. -/
def encode : Rlp → Bytes
  | str bytes =>
      if bytes.length = 1 ∧ bytes.headD 0 < 0x80 then bytes else header 0x80 bytes.length ++ bytes
  | list items => header 0xc0 (encodeAll items).length ++ encodeAll items

def encodeAll : List Rlp → Bytes
  | [] => []
  | item :: items => encode item ++ encodeAll items

end

mutual

/-- How deep the lists of an item nest: zero for an item without items in it. -/
def height : Rlp → Nat
  | str _ => 0
  | list items => heightAll items

def heightAll : List Rlp → Nat
  | [] => 0
  | item :: items => max (height item + 1) (heightAll items)

end

mutual

/-- How many items there are in an item, itself included. -/
def count : Rlp → Nat
  | str _ => 1
  | list items => countAll items + 1

def countAll : List Rlp → Nat
  | [] => 0
  | item :: items => count item + countAll items

end

theorem height_lt_of_mem {item : Rlp} {items : List Rlp} (member : item ∈ items) :
    height item < heightAll items := by
  induction items with
  | nil => exact absurd member List.not_mem_nil
  | cons first items ih =>
      rw [heightAll]
      rcases List.mem_cons.mp member with rfl | later
      · omega
      · have deeper := ih later
        omega

theorem encode_byte {byte : UInt8} (small : byte < 0x80) : encode (str [byte]) = [byte] :=
  if_pos ⟨rfl, small⟩

theorem encode_str {bytes : Bytes} (several : ¬ (bytes.length = 1 ∧ bytes.headD 0 < 0x80)) :
    encode (str bytes) = header 0x80 bytes.length ++ bytes :=
  if_neg several

def scalar (n : Nat) : Rlp := str (minimalBe n)

theorem lengthCode_lt {len : Nat} (short : len < 2 ^ 64) : (lengthCode len).1 < 64 := by
  have digits : (minimalBe len).length ≤ 8 := length_minimalBe_le short
  unfold lengthCode
  split <;> dsimp only <;> omega

theorem lengthCode_short {len : Nat} (short : len ≤ 55) : lengthCode len = (len, []) :=
  if_pos short

theorem lengthCode_long {len : Nat} (long : 55 < len) :
    lengthCode len = (55 + (minimalBe len).length, minimalBe len) :=
  if_neg (Nat.not_le.mpr long)

theorem minimalBe_length_pos {n : Nat} (positive : 0 < n) : 0 < (minimalBe n).length := by
  refine List.length_pos_iff.mpr fun none => ?_
  have read := ofBe_minimalBe n
  rw [none] at read
  exact absurd read (Nat.ne_of_lt positive)

/-- The first part of a length code tells how many digits follow, and with them
    the length. -/
theorem lengthCode_parts {a b : Nat} {x y : Bytes} (first : (lengthCode a).1 = (lengthCode b).1)
    (rest : (lengthCode a).2 ++ x = (lengthCode b).2 ++ y) : a = b ∧ x = y := by
  rcases le_or_gt a 55 with short | long <;> rcases le_or_gt b 55 with short' | long'
  · rw [lengthCode_short short, lengthCode_short short'] at first rest
    exact ⟨first, rest⟩
  · have digits := minimalBe_length_pos (Nat.zero_lt_of_lt long')
    simp only [lengthCode_short short, lengthCode_long long'] at first
    omega
  · have digits := minimalBe_length_pos (Nat.zero_lt_of_lt long)
    simp only [lengthCode_long long, lengthCode_short short'] at first
    omega
  · rw [lengthCode_long long, lengthCode_long long'] at first rest
    obtain ⟨digits, tails⟩ := List.append_inj rest (Nat.add_left_cancel first)
    have read := congrArg ofBe digits
    rw [ofBe_minimalBe, ofBe_minimalBe] at read
    exact ⟨read, tails⟩

def IsOffset (offset : Nat) : Prop := offset = 0x80 ∨ offset = 0xc0

theorem toNat_header {offset len : Nat} (isOffset : IsOffset offset) (short : len < 2 ^ 64) :
    (UInt8.ofNat (offset + (lengthCode len).1)).toNat = offset + (lengthCode len).1 := by
  have below := lengthCode_lt short
  rw [UInt8.toNat_ofNat', Nat.mod_eq_of_lt]
  rcases isOffset with rfl | rfl <;> omega

theorem header_parts {offset offset' : Nat} {payload payload' x y : Bytes}
    (isOffset : IsOffset offset) (isOffset' : IsOffset offset')
    (short : payload.length < 2 ^ 64) (short' : payload'.length < 2 ^ 64)
    (same : header offset payload.length ++ payload ++ x =
      header offset' payload'.length ++ payload' ++ y) :
    offset = offset' ∧ payload = payload' ∧ x = y := by
  rw [List.append_assoc, List.append_assoc] at same
  obtain ⟨first, rest⟩ := List.cons.inj same
  have heads := congrArg UInt8.toNat first
  rw [toNat_header isOffset short, toNat_header isOffset' short'] at heads
  have below := lengthCode_lt short
  have below' := lengthCode_lt short'
  have offsets : offset = offset' := by
    rcases isOffset with rfl | rfl <;> rcases isOffset' with rfl | rfl <;> omega
  subst offsets
  obtain ⟨lengths, payloads⟩ := lengthCode_parts (Nat.add_left_cancel heads) rest
  exact ⟨rfl, List.append_inj payloads lengths⟩

theorem induct {motive : Rlp → Prop} (str : ∀ bytes, motive (.str bytes))
    (list : ∀ items, (∀ item ∈ items, motive item) → motive (.list items)) :
    ∀ item, motive item
  | .str bytes => str bytes
  | .list items => list items fun item _ => induct str list item

inductive Form : Rlp → Bytes → Prop where
  | byte (byte : UInt8) : byte < 0x80 → Form (str [byte]) [byte]
  | str (bytes : Bytes) : Form (str bytes) (header 0x80 bytes.length ++ bytes)
  | list (items : List Rlp) :
      Form (list items) (header 0xc0 (encodeAll items).length ++ encodeAll items)

theorem encode_form (item : Rlp) : Form item item.encode := by
  cases item with
  | list items => exact .list items
  | str bytes =>
      by_cases single : bytes.length = 1 ∧ bytes.headD 0 < 0x80
      · obtain ⟨byte, rfl⟩ := List.length_eq_one_iff.mp single.1
        have small : byte < 0x80 := single.2
        rw [encode_byte small]
        exact .byte byte small
      · rw [encode_str single]
        exact .str bytes

theorem encode_length_pos (item : Rlp) : 0 < item.encode.length := by
  generalize encoded : item.encode = bytes
  cases encoded ▸ encode_form item with
  | byte | str | list => exact Nat.zero_lt_succ _

theorem length_le_encodeAll (items : List Rlp) : items.length ≤ (encodeAll items).length := by
  induction items with
  | nil => exact Nat.zero_le _
  | cons item items ih =>
      have positive := encode_length_pos item
      rw [encodeAll, List.length_append, List.length_cons]
      omega

theorem byte_ne_header {byte : UInt8} {offset : Nat} {payload x y : Bytes} (small : byte < 0x80)
    (isOffset : IsOffset offset) (short : payload.length < 2 ^ 64) :
    [byte] ++ x ≠ header offset payload.length ++ payload ++ y := by
  intro same
  have heads := congrArg UInt8.toNat (List.cons.inj same).1
  rw [toNat_header isOffset short] at heads
  rw [UInt8.lt_iff_toNat_lt] at small
  rcases isOffset with rfl | rfl <;> simp at small <;> omega

theorem encodeAll_inj {items items' : List Rlp}
    (each : ∀ item ∈ items, ∀ {b x y}, (item.encode ++ x).length < 2 ^ 64 →
      item.encode ++ x = encode b ++ y → item = b ∧ x = y)
    (short : (encodeAll items).length < 2 ^ 64) (same : encodeAll items = encodeAll items') :
    items = items' := by
  induction items generalizing items' with
  | nil =>
      cases items' with
      | nil => rfl
      | cons item rest =>
          have lengths := congrArg List.length same
          have positive := encode_length_pos item
          simp only [encodeAll, List.length_nil, List.length_append] at lengths
          omega
  | cons item rest ih =>
      cases items' with
      | nil =>
          have lengths := congrArg List.length same
          have positive := encode_length_pos item
          simp only [encodeAll, List.length_nil, List.length_append] at lengths
          omega
      | cons item' rest' =>
          obtain ⟨rfl, tails⟩ := each item List.mem_cons_self short same
          have shorter : (encodeAll rest).length < 2 ^ 64 := by
            simp only [encodeAll, List.length_append] at short
            omega
          rw [ih (fun item member => each item (List.mem_cons_of_mem _ member)) shorter tails]

theorem payload_short {offset : Nat} {payload x : Bytes}
    (short : (header offset payload.length ++ payload ++ x).length < 2 ^ 64) :
    payload.length < 2 ^ 64 := by
  simp only [List.length_append] at short
  omega

theorem head_encode_list {items : List Rlp} {first : UInt8}
    (short : (encode (list items)).length < 2 ^ 64)
    (head : (encode (list items)).head? = some first) : 0xc0 ≤ first.toNat := by
  have shorter : (encodeAll items).length < 2 ^ 64 := by
    rw [encode, List.length_append] at short
    omega
  rw [← Option.some.inj head, toNat_header (.inr rfl) shorter]
  exact Nat.le_add_right _ _

/-- Two forms at the start of one byte string have the same kind and payload. -/
theorem Form.parts {a b : Rlp} {p q x y : Bytes} (left : Form a p) (right : Form b q)
    (short : (p ++ x).length < 2 ^ 64) (same : p ++ x = q ++ y) :
    x = y ∧ ((∃ bytes, a = .str bytes ∧ b = .str bytes) ∨ ∃ items items',
      a = .list items ∧ b = .list items' ∧ encodeAll items = encodeAll items') := by
  have short' : (q ++ y).length < 2 ^ 64 := same ▸ short
  cases left with
  | byte byte small =>
      cases right with
      | byte byte' =>
          obtain ⟨rfl, tails⟩ := List.cons.inj same
          exact ⟨tails, .inl ⟨_, rfl, rfl⟩⟩
      | str => exact absurd same (byte_ne_header small (.inl rfl) (payload_short short'))
      | list => exact absurd same (byte_ne_header small (.inr rfl) (payload_short short'))
  | str bytes =>
      have shorter := payload_short short
      cases right with
      | byte byte small => exact absurd same.symm (byte_ne_header small (.inl rfl) shorter)
      | str bytes' =>
          obtain ⟨-, rfl, tails⟩ :=
            header_parts (.inl rfl) (.inl rfl) shorter (payload_short short') same
          exact ⟨tails, .inl ⟨_, rfl, rfl⟩⟩
      | list items' =>
          have offsets := header_parts (.inl rfl) (.inr rfl) shorter (payload_short short') same
          exact absurd offsets.1 (by decide)
  | list items =>
      have shorter := payload_short short
      cases right with
      | byte byte small => exact absurd same.symm (byte_ne_header small (.inr rfl) shorter)
      | str bytes' =>
          have offsets := header_parts (.inr rfl) (.inl rfl) shorter (payload_short short') same
          exact absurd offsets.1 (by decide)
      | list items' =>
          obtain ⟨-, payloads, tails⟩ :=
            header_parts (.inr rfl) (.inr rfl) shorter (payload_short short') same
          exact ⟨tails, .inr ⟨_, _, rfl, rfl, payloads⟩⟩

/-- At most one item is encoded at the start of a byte string. -/
theorem encode_parts {a b : Rlp} {x y : Bytes} (short : (a.encode ++ x).length < 2 ^ 64)
    (same : a.encode ++ x = b.encode ++ y) : a = b ∧ x = y := by
  induction a using induct generalizing b x y with
  | str bytes =>
      obtain ⟨tails, kind⟩ := (encode_form _).parts (encode_form b) short same
      rcases kind with ⟨_, ⟨⟩, rfl⟩ | ⟨_, _, ⟨⟩, -⟩
      exact ⟨rfl, tails⟩
  | list items ih =>
      obtain ⟨tails, kind⟩ := (encode_form _).parts (encode_form b) short same
      rcases kind with ⟨_, ⟨⟩, -⟩ | ⟨_, items', ⟨⟩, rfl, payloads⟩
      refine ⟨congrArg list (encodeAll_inj ih ?_ payloads), tails⟩
      exact payload_short short

end Rlp

end EnclaveSigner.Lib
