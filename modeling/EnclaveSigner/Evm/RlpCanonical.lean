import EnclaveSigner.Evm.GasLimits

/-! # The decoder accepts canonical RLP

Every encoding within the two limits is read back, and nothing else is. With the
soundness of the decoder this says exactly which byte strings it accepts.
-/

namespace EnclaveSigner.Evm.Gas

open Lib Rlp

section Headers

variable {payload rest : Bytes}

theorem readLongLen_digits (first : UInt8) (rest : Bytes) {lenOfLen : UInt8}
    (long : 55 < payload.length) (short : payload.length < 2 ^ 64)
    (width : lenOfLen.toNat = (minimalBe payload.length).length) :
    ∃ len : UInt64, len.toNat = payload.length ∧
      readLongLen (first :: (minimalBe payload.length ++ (payload ++ rest))) lenOfLen
        = .ok (len, 1 + lenOfLen.toNat) := by
  have few : (minimalBe payload.length).length ≤ 8 := length_minimalBe_le short
  have taken : ((first :: (minimalBe payload.length ++ (payload ++ rest))).take
      (1 + lenOfLen.toNat)).drop 1 = minimalBe payload.length := by
    rw [Nat.add_comm, List.take_succ_cons, List.drop_one, List.tail_cons, width, List.take_left]
  obtain ⟨len, folded, value⟩ :=
    foldlM_checkedAdd (reject "rlp: length exceeds usize") (room_zero few)
  rw [UInt64.toNat_zero, Nat.zero_mul, Nat.zero_add, ofBe_minimalBe] at value
  refine ⟨len, value, ?_⟩
  simp only [readLongLen, taken, bind_ok, refuse_ok, Nat.not_lt, UInt64.le_iff_toNat_le]
  refine ⟨(), ?_, (), ?_, len, folded, (), ?_, rfl⟩
  · rw [List.length_cons, List.length_append]
    omega
  · intro zero
    have digits := minimalBe_length_pos (Nat.zero_lt_of_lt long)
    have head := head_minimalBe payload.length
    cases written : minimalBe payload.length with
    | nil => rw [written] at digits; cases digits
    | cons byte more =>
        rw [written] at zero head
        exact head (congrArg some zero)
  · rw [value]
    exact Nat.not_le.mpr long

theorem readLongLen_header {offset : Nat} (base : UInt8) (isOffset : IsOffset offset)
    (start : base.toNat = offset + 55) (long : 55 < payload.length)
    (short : (header offset payload.length ++ (payload ++ rest)).length < 2 ^ 64) :
    ∃ (b0 : UInt8) (len : UInt64),
      header offset payload.length = b0 :: minimalBe payload.length ∧
      b0.toNat = offset + 55 + (minimalBe payload.length).length ∧
      0 < (minimalBe payload.length).length ∧ (minimalBe payload.length).length ≤ 8 ∧
      readLongLen (b0 :: (minimalBe payload.length ++ (payload ++ rest))) (b0 - base)
        = .ok (len, 1 + (minimalBe payload.length).length) ∧
      longEnd (1 + (minimalBe payload.length).length) len
        = .ok (1 + (minimalBe payload.length).length + payload.length) := by
  have small : payload.length < 2 ^ 64 := by
    rw [List.length_append, List.length_append] at short
    omega
  have value := toNat_header isOffset small
  have head : header offset payload.length
      = UInt8.ofNat (offset + (lengthCode payload.length).1) :: minimalBe payload.length := by
    rw [header, lengthCode_long long]
  rw [head, List.cons_append, List.length_cons, List.length_append, List.length_append] at short
  generalize UInt8.ofNat (offset + (lengthCode payload.length).1) = b0 at value head
  rw [lengthCode_long long, ← Nat.add_assoc] at value
  have width : (b0 - base).toNat = (minimalBe payload.length).length := by
    rw [UInt8.toNat_sub_of_le b0 base (UInt8.le_iff_toNat_le.mpr (by omega)), value, start]
    exact Nat.add_sub_cancel_left _ _
  obtain ⟨len, length, read⟩ := readLongLen_digits b0 rest long small width
  refine ⟨b0, len, head, value, minimalBe_length_pos (Nat.zero_lt_of_lt long),
    length_minimalBe_le small, by rw [read, width], ?_⟩
  rw [longEnd, length]
  exact if_pos (by omega)

end Headers

section ReadBack

variable {levels itemsLeft itemsLeft' : Nat} {payload rest : Bytes}

theorem header_short (base : UInt8) (short : payload.length ≤ 55) (small : base ≤ 0xc0) :
    ∃ b0, header base.toNat payload.length = [b0] ∧
      b0.toNat = base.toNat + payload.length ∧ (b0 - base).toNat = payload.length := by
  have small := UInt8.le_iff_toNat_le.mp small
  have value : (UInt8.ofNat (base.toNat + payload.length)).toNat = base.toNat + payload.length := by
    rw [UInt8.toNat_ofNat', Nat.mod_eq_of_lt (by simp at small; omega)]
  have above : base ≤ UInt8.ofNat (base.toNat + payload.length) := by
    rw [UInt8.le_iff_toNat_le, value]
    exact Nat.le_add_right _ _
  refine ⟨_, by rw [header, lengthCode_short short], value, ?_⟩
  rw [UInt8.toNat_sub_of_le _ base above, value, Nat.add_sub_cancel_left]

theorem payload_of_short {b0 : UInt8} :
    ((b0 :: (payload ++ rest)).take (1 + payload.length)).drop 1 = payload := by
  rw [Nat.add_comm, List.take_succ_cons, List.drop_one, List.tail_cons, List.take_left]

theorem payload_of_long {b0 : UInt8} {digits : Bytes} :
    ((b0 :: (digits ++ (payload ++ rest))).take (1 + digits.length + payload.length)).drop
      (1 + digits.length) = payload := by
  rw [Nat.add_comm 1, Nat.add_right_comm, List.take_succ_cons, List.drop_succ_cons,
    List.take_length_add_append, List.drop_left, List.take_left]

theorem decodeOne_str (several : ¬ (payload.length = 1 ∧ payload.headD 0 < 0x80))
    (short : (header 0x80 payload.length ++ (payload ++ rest)).length < 2 ^ 64) :
    decodeOne (levels + 1) (header 0x80 payload.length ++ (payload ++ rest)) (itemsLeft + 1) =
      .ok (.str payload, (header 0x80 payload.length).length + payload.length) itemsLeft := by
  rcases Nat.lt_or_ge 55 payload.length with long | few
  · obtain ⟨b0, len, head, value, positive, few, read, ends⟩ :=
      readLongLen_header 0xb7 (.inl rfl) rfl long short
    rw [head, List.cons_append]
    refine run_bind_ok.mpr ⟨(), itemsLeft, rfl, run_bind_ok.mpr ⟨b0, _, rfl, ?_⟩⟩
    simp only [UInt8.le_iff_toNat_le, UInt8.reduceToNat, value]
    rw [if_neg (by omega), if_neg (by omega), if_pos (by omega)]
    refine run_bind_ok.mpr ⟨_, _, lift_ok.mpr ⟨read, rfl⟩,
      run_bind_ok.mpr ⟨_, _, lift_ok.mpr ⟨ends, rfl⟩,
        run_bind_ok.mpr ⟨(), _, lift_ok.mpr ⟨refuse_ok.mpr ?_, rfl⟩, ?_⟩⟩⟩
    · rw [List.length_cons, List.length_append, List.length_append]
      omega
    · rw [payload_of_long, List.length_cons, Nat.add_comm 1]
      rfl
  · obtain ⟨b0, head, value, len⟩ := header_short 0x80 few (by decide)
    change header 0x80 _ = _ at head
    rw [head, List.singleton_append]
    refine run_bind_ok.mpr ⟨(), itemsLeft, rfl, run_bind_ok.mpr ⟨b0, _, rfl, ?_⟩⟩
    simp only [UInt8.le_iff_toNat_le, UInt8.reduceToNat, value, len, payload_of_short]
    rw [if_neg (by omega), if_pos (by omega)]
    refine run_bind_ok.mpr ⟨(), _, lift_ok.mpr ⟨refuse_ok.mpr ?_, rfl⟩,
      run_bind_ok.mpr ⟨(), _, lift_ok.mpr ⟨refuse_ok.mpr several, rfl⟩, rfl⟩⟩
    rw [List.length_cons, List.length_append]
    omega

theorem decodeOne_list {items : List Rlp}
    (short : (header 0xc0 payload.length ++ (payload ++ rest)).length < 2 ^ 64)
    (filled : decodeList (decodeOne levels)
      (header 0xc0 payload.length ++ (payload ++ rest)).length payload itemsLeft
        = .ok items itemsLeft') :
    decodeOne (levels + 1) (header 0xc0 payload.length ++ (payload ++ rest)) (itemsLeft + 1) =
      .ok (.list items, (header 0xc0 payload.length).length + payload.length) itemsLeft' := by
  rcases Nat.lt_or_ge 55 payload.length with long | few
  · obtain ⟨b0, len, head, value, positive, few, read, ends⟩ :=
      readLongLen_header 0xf7 (.inr rfl) rfl long short
    rw [head, List.cons_append] at filled ⊢
    refine run_bind_ok.mpr ⟨(), itemsLeft, rfl, run_bind_ok.mpr ⟨b0, _, rfl, ?_⟩⟩
    simp only [UInt8.le_iff_toNat_le, UInt8.reduceToNat, value]
    rw [if_neg (by omega), if_neg (by omega), if_neg (by omega), if_neg (by omega)]
    refine run_bind_ok.mpr ⟨_, _, lift_ok.mpr ⟨read, rfl⟩,
      run_bind_ok.mpr ⟨_, _, lift_ok.mpr ⟨ends, rfl⟩,
        run_bind_ok.mpr ⟨(), _, lift_ok.mpr ⟨refuse_ok.mpr ?_, rfl⟩,
          run_bind_ok.mpr ⟨items, itemsLeft', ?_, ?_⟩⟩⟩⟩
    · rw [List.length_cons, List.length_append, List.length_append]
      omega
    · rw [payload_of_long]
      exact filled
    · rw [List.length_cons, Nat.add_comm 1]
      rfl
  · obtain ⟨b0, head, value, len⟩ := header_short 0xc0 few (by decide)
    change header 0xc0 _ = _ at head
    rw [head, List.singleton_append] at filled ⊢
    refine run_bind_ok.mpr ⟨(), itemsLeft, rfl, run_bind_ok.mpr ⟨b0, _, rfl, ?_⟩⟩
    simp only [UInt8.le_iff_toNat_le, UInt8.reduceToNat, value, len, payload_of_short]
    rw [if_neg (by omega), if_neg (by omega), if_neg (by omega), if_pos (by omega)]
    refine run_bind_ok.mpr ⟨(), _, lift_ok.mpr ⟨refuse_ok.mpr ?_, rfl⟩,
      run_bind_ok.mpr ⟨_, _, filled, rfl⟩⟩
    rw [List.length_cons, List.length_append]
    omega

theorem decodeList_step {decodeItem : Bytes → Decoder (Rlp × Nat)} {fuel used middle : Nat}
    {buf : Bytes} {item : Rlp} {items : List Rlp} (nonempty : 0 < buf.length)
    (first : decodeItem buf itemsLeft = .ok (item, used) middle)
    (others : decodeList decodeItem fuel (buf.drop used) middle = .ok items itemsLeft') :
    decodeList decodeItem (fuel + 1) buf itemsLeft = .ok (item :: items) itemsLeft' := by
  cases buf with
  | nil => cases nonempty
  | cons byte rest =>
      exact run_bind_ok.mpr ⟨_, _, first, run_bind_ok.mpr ⟨_, _, others, rfl⟩⟩

def ReadsBack (decodeItem : Bytes → Decoder (Rlp × Nat)) (item : Rlp) : Prop :=
  ∀ rest itemsLeft, (item.encode ++ rest).length < 2 ^ 64 →
    decodeItem (item.encode ++ rest) (itemsLeft + item.count)
      = .ok (item, item.encode.length) itemsLeft

theorem decodeList_encodeAll {decodeItem : Bytes → Decoder (Rlp × Nat)} {items : List Rlp}
    (each : ∀ item ∈ items, ReadsBack decodeItem item)
    (short : (encodeAll items).length < 2 ^ 64) {fuel : Nat} (enough : items.length ≤ fuel) :
    decodeList decodeItem fuel (encodeAll items) (itemsLeft + countAll items)
      = .ok items itemsLeft := by
  induction items generalizing fuel with
  | nil => cases fuel <;> rfl
  | cons item items ih =>
      cases fuel with
      | zero => cases enough
      | succ fuel =>
          have positive := encode_length_pos item
          rw [encodeAll] at short ⊢
          rw [countAll, Nat.add_comm item.count, ← Nat.add_assoc]
          refine decodeList_step ?_ (each item List.mem_cons_self _ _ short) ?_
          · rw [List.length_append]
            omega
          · rw [List.drop_left]
            rw [List.length_append] at short
            exact ih (fun other later => each other (List.mem_cons_of_mem _ later)) (by omega)
              (Nat.le_of_succ_le_succ enough)

theorem decodeOne_encode (item : Rlp) : ∀ levels, item.height < levels →
    ReadsBack (decodeOne levels) item := by
  induction item using induct with
  | str bytes =>
      intro levels shallow rest itemsLeft short
      obtain ⟨levels, rfl⟩ := Nat.exists_eq_succ_of_ne_zero (Nat.ne_zero_of_lt shallow)
      rw [count]
      by_cases single : bytes.length = 1 ∧ bytes.headD 0 < 0x80
      · obtain ⟨byte, rfl⟩ := List.length_eq_one_iff.mp single.1
        have small : byte < 0x80 := single.2
        have below : byte ≤ 0x7f := by
          rw [UInt8.lt_iff_toNat_lt] at small
          exact UInt8.le_iff_toNat_le.mpr (Nat.le_of_lt_succ small)
        rw [encode_byte small]
        refine run_bind_ok.mpr ⟨(), itemsLeft, rfl, run_bind_ok.mpr ⟨byte, _, rfl, ?_⟩⟩
        rw [if_pos below]
        rfl
      · rw [encode_str single, List.append_assoc] at *
        rw [List.length_append]
        exact decodeOne_str single short
  | list items ih =>
      intro levels shallow rest itemsLeft short
      obtain ⟨levels, rfl⟩ := Nat.exists_eq_succ_of_ne_zero (Nat.ne_zero_of_lt shallow)
      rw [height] at shallow
      rw [count, ← Nat.add_assoc, encode, List.append_assoc, List.length_append]
      rw [encode, List.append_assoc] at short
      have payload : (encodeAll items).length < 2 ^ 64 := by
        rw [List.length_append, List.length_append] at short
        omega
      have each : ∀ item ∈ items, ReadsBack (decodeOne levels) item := by
        intro item member
        have deeper := height_lt_of_mem member
        exact ih item member levels (by omega)
      have enough : items.length ≤ (header 0xc0 (encodeAll items).length
          ++ (encodeAll items ++ rest)).length := by
        have fewer := length_le_encodeAll items
        rw [List.length_append, List.length_append]
        omega
      exact decodeOne_list short (decodeList_encodeAll each payload enough)

end ReadBack

theorem decodeCanonical_of_encode {item : Rlp} (short : item.encode.length < 2 ^ 64)
    (shallow : item.height ≤ MAX_RLP_DEPTH) (few : item.count ≤ MAX_RLP_ITEMS) :
    decodeCanonical item.encode = .ok item := by
  have read := decodeOne_encode item (MAX_RLP_DEPTH + 1) (Nat.lt_succ_of_le shallow) []
    (MAX_RLP_ITEMS - item.count) (by rwa [List.append_nil])
  rw [List.append_nil, Nat.sub_add_cancel few] at read
  simp only [decodeCanonical, read]
  exact refuse_bind_ok.mpr ⟨fun differs => differs rfl, rfl⟩

end EnclaveSigner.Evm.Gas
