import EnclaveSigner.Evm.GasTx

/-! # What a gas signature can spend

The decoder accepts only the encoding of what it returns, and an encoding has one
reading. The limits checked on the parsed fields are therefore limits of every
transaction that the chain can read from the signed bytes.
-/

namespace EnclaveSigner.Evm.Gas

open Lib

section Numbers

theorem accumulate_step {width : Nat} {v : BitVec width} {b : UInt8}
    (room : (v.toNat + 1) * 256 ≤ 2 ^ width) :
    (v <<< 8 ||| b.toBitVec.setWidth width).toNat = v.toNat * 256 + b.toNat := by
  have small : b.toNat < 2 ^ 8 := b.toNat_lt
  have wide : b.toNat < 2 ^ width := by omega
  have shifted : (v <<< 8).toNat = v.toNat <<< 8 := by
    rw [BitVec.toNat_shiftLeft, Nat.mod_eq_of_lt]
    rw [Nat.shiftLeft_eq]
    omega
  have byte : (b.toBitVec.setWidth width).toNat = b.toNat := by
    rw [BitVec.toNat_setWidth]
    exact Nat.mod_eq_of_lt wide
  rw [BitVec.toNat_or, shifted, byte, ← Nat.shiftLeft_add_eq_or_of_lt small, Nat.shiftLeft_eq]

theorem room_step {v b len width : Nat} (small : b < 256)
    (room : (v + 1) * 256 ^ (len + 1) ≤ 2 ^ width) :
    (v + 1) * 256 ≤ 2 ^ width ∧ (v * 256 + b + 1) * 256 ^ len ≤ 2 ^ width := by
  have more : 256 ^ (len + 1) = 256 * 256 ^ len := Nat.pow_succ'
  have one : 1 ≤ 256 ^ len := Nat.one_le_two_pow.trans (Nat.pow_le_pow_left (by decide) len)
  rw [more, ← Nat.mul_assoc] at room
  constructor
  · exact (Nat.le_mul_of_pos_right _ one).trans room
  · exact (Nat.mul_le_mul_right _ (by omega)).trans room

theorem foldl_accumulate {width : Nat} (digits : Bytes) (v : BitVec width)
    (room : (v.toNat + 1) * 256 ^ digits.length ≤ 2 ^ width) :
    (digits.foldl (fun (v : BitVec width) b => v <<< 8 ||| b.toBitVec.setWidth width) v).toNat =
      v.toNat * 256 ^ digits.length + ofBe digits := by
  induction digits generalizing v with
  | nil => simp [ofBe, ofLe]
  | cons b rest ih =>
      obtain ⟨now, later⟩ := room_step b.toNat_lt room
      have step := accumulate_step (b := b) now
      rw [List.foldl_cons, ih _ (by rw [step]; exact later), step, ofBe_cons, List.length_cons,
        Nat.pow_succ']
      ring

theorem toNat_accumulate {width : Nat} {digits : Bytes} (room : 8 * digits.length ≤ width) :
    (accumulate width digits).toNat = ofBe digits := by
  have enough : (0 + 1) * 256 ^ digits.length ≤ 2 ^ width := by
    rw [Nat.zero_add, Nat.one_mul, show 256 = 2 ^ 8 from rfl, ← Nat.pow_mul]
    exact Nat.pow_le_pow_right (by decide) room
  rw [accumulate, foldl_accumulate]
  · simp
  · simpa using enough

theorem checkedAdd_shift {v : UInt64} (b : UInt8) (room : (v.toNat + 1) * 256 ≤ 2 ^ 64) :
    ∃ next, checkedAdd64 (v <<< 8) b.toUInt64 = some next ∧
      next.toNat = v.toNat * 256 + b.toNat := by
  have shifted : (v <<< 8).toNat = v.toNat * 256 := by
    rw [UInt64.toNat_shiftLeft, Nat.shiftLeft_eq]
    exact Nat.mod_eq_of_lt (by change v.toNat * 256 < _; omega)
  have byte := b.toNat_lt
  have fits : (v <<< 8).toNat + b.toUInt64.toNat < 2 ^ 64 := by
    rw [shifted, UInt8.toNat_toUInt64]
    omega
  refine ⟨_, if_pos fits, ?_⟩
  rw [toNat_add64 fits, shifted, UInt8.toNat_toUInt64]

theorem room_zero {digits : Bytes} (few : digits.length ≤ 8) :
    ((0 : UInt64).toNat + 1) * 256 ^ digits.length ≤ 2 ^ 64 :=
  (Nat.mul_le_mul_left _ (Nat.pow_le_pow_right (by decide) few)).trans (by decide)

theorem foldlM_checkedAdd (error : EnclaveError) {digits : Bytes} {v : UInt64}
    (room : (v.toNat + 1) * 256 ^ digits.length ≤ 2 ^ 64) :
    ∃ len, digits.foldlM (fun (len : UInt64) b =>
      okOr error (checkedAdd64 (len <<< 8) b.toUInt64)) v = .ok len ∧
        len.toNat = v.toNat * 256 ^ digits.length + ofBe digits := by
  induction digits generalizing v with
  | nil => exact ⟨v, rfl, by simp [ofBe, ofLe]⟩
  | cons b rest ih =>
      obtain ⟨now, later⟩ := room_step b.toNat_lt room
      obtain ⟨next, added, step⟩ := checkedAdd_shift b now
      obtain ⟨len, folded, value⟩ := ih (by rw [step]; exact later)
      refine ⟨len, ?_, ?_⟩
      · rw [List.foldlM_cons]
        exact bind_ok.mpr ⟨_, okOr_ok.mpr added, folded⟩
      · rw [value, step, ofBe_cons, List.length_cons, Nat.pow_succ']
        ring

end Numbers

section Decoder

/-- The bytes up to `stop` are a header and the payload that it announces. -/
def Framed (offset : Nat) (buf payload : Bytes) (stop : Nat) : Prop :=
  buf.take stop = Rlp.header offset payload.length ++ payload

theorem framed_short (offset : Nat) {buf : Bytes} {b0 : UInt8} {len : Nat}
    (first : buf.head? = some b0) (value : b0.toNat = offset + len) (short : len ≤ 55)
    (fits : 1 + len ≤ buf.length) :
    Framed offset buf ((buf.take (1 + len)).drop 1) (1 + len) ∧
      ((buf.take (1 + len)).drop 1).length = len := by
  have length : ((buf.take (1 + len)).drop 1).length = len := by
    rw [List.length_drop, List.length_take]
    omega
  refine ⟨?_, length⟩
  obtain ⟨rest, rfl⟩ := List.head?_eq_some_iff.mp first
  rw [Framed, length, Rlp.header, Rlp.lengthCode_short short, ← value, UInt8.ofNat_toNat,
    Nat.add_comm 1 len, List.take_succ_cons]
  rfl

theorem readLongLen_ok {buf : Bytes} {lenOfLen : UInt8} {len : UInt64} {header : Nat}
    (small : lenOfLen.toNat ≤ 8) (read : readLongLen buf lenOfLen = .ok (len, header)) :
    header = 1 + lenOfLen.toNat ∧ header ≤ buf.length ∧ 55 < len.toNat ∧
      (buf.take header).drop 1 = minimalBe len.toNat := by
  simp only [readLongLen, bind_ok, refuse_ok, Nat.not_lt] at read
  obtain ⟨-, fits, -, nonzero, value, folded, -, long, ⟨⟩⟩ := read
  have length : ((buf.take (1 + lenOfLen.toNat)).drop 1).length = lenOfLen.toNat := by
    rw [List.length_drop, List.length_take]
    omega
  obtain ⟨_, computed, digits⟩ :=
    foldlM_checkedAdd (reject "rlp: length exceeds usize") (room_zero (length ▸ small))
  obtain ⟨⟩ := computed.symm.trans folded
  rw [UInt64.le_iff_toNat_le, Nat.not_le] at long
  refine ⟨rfl, fits, long, ?_⟩
  have canonical : ((buf.take (1 + lenOfLen.toNat)).drop 1).head? ≠ some 0 := by
    intro zero
    rw [List.headD_eq_head?_getD, zero] at nonzero
    exact nonzero rfl
  rw [digits, UInt64.toNat_zero, Nat.zero_mul, Nat.zero_add, minimalBe_ofBe canonical]

theorem framed_long (offset : Nat) {buf : Bytes} {b0 lenOfLen : UInt8} {len : UInt64}
    {header stop : Nat} (first : buf.head? = some b0)
    (value : b0.toNat = offset + 55 + lenOfLen.toNat) (small : lenOfLen.toNat ≤ 8)
    (read : readLongLen buf lenOfLen = .ok (len, header)) (ends : longEnd header len = .ok stop)
    (fits : stop ≤ buf.length) :
    Framed offset buf ((buf.take stop).drop header) stop ∧
      55 < ((buf.take stop).drop header).length := by
  obtain ⟨rfl, room, long, digits⟩ := readLongLen_ok small read
  have stops : stop = 1 + lenOfLen.toNat + len.toNat := by
    unfold longEnd at ends
    split at ends
    · exact (Except.ok.inj ends).symm
    · cases ends
  subst stops
  have length : ((buf.take (1 + lenOfLen.toNat + len.toNat)).drop
      (1 + lenOfLen.toNat)).length = len.toNat := by
    rw [List.length_drop, List.length_take]
    omega
  refine ⟨?_, by rw [length]; exact long⟩
  obtain ⟨rest, rfl⟩ := List.head?_eq_some_iff.mp first
  have count : (minimalBe len.toNat).length = lenOfLen.toNat := by
    rw [← digits, List.length_drop, List.length_take]
    omega
  have head : Rlp.header offset len.toNat = (b0 :: rest).take (1 + lenOfLen.toNat) := by
    rw [Rlp.header, Rlp.lengthCode_long long, count, ← Nat.add_assoc, ← value,
      UInt8.ofNat_toNat, ← digits, Nat.add_comm 1, List.take_succ_cons, List.drop_one,
      List.tail_cons]
  rw [Framed, length, head, List.take_add, List.drop_left' (by rw [List.length_take]; omega)]

theorem takeItem_ok {itemsLeft itemsLeft' : Nat} :
    takeItem itemsLeft = .ok () itemsLeft' ↔ itemsLeft = itemsLeft' + 1 := by
  cases itemsLeft with
  | zero => exact ⟨nofun, nofun⟩
  | succ left =>
      constructor
      · rintro ⟨⟩
        rfl
      · rintro ⟨⟩
        rfl

theorem decodeOne_ok {levels : Nat} {buf : Bytes} {itemsLeft itemsLeft' used : Nat} {item : Rlp}
    (decoded : decodeOne (levels + 1) buf itemsLeft = .ok (item, used) itemsLeft') :
    used ≤ buf.length ∧
    ((∃ byte, byte ≤ 0x7f ∧ buf.take used = [byte] ∧ item = .str [byte] ∧
      itemsLeft = itemsLeft' + 1) ∨
    (∃ payload, Framed 0x80 buf payload used ∧ item = .str payload ∧
      ¬ (payload.length = 1 ∧ payload.headD 0 < 0x80) ∧ itemsLeft = itemsLeft' + 1) ∨
    ∃ payload items middle, Framed 0xc0 buf payload used ∧ item = .list items ∧
      decodeList (decodeOne levels) buf.length payload middle = .ok items itemsLeft' ∧
      itemsLeft = middle + 1) := by
  rw [decodeOne] at decoded
  obtain ⟨_, middle, taken, started⟩ := run_bind_ok.mp decoded
  have one := takeItem_ok.mp taken
  obtain ⟨b0, _, headed, form⟩ := run_bind_ok.mp started
  obtain ⟨head, rfl⟩ := lift_ok.mp headed
  have first : buf.head? = some b0 := okOr_ok.mp head
  have bound : b0.toNat < 256 := b0.toNat_lt
  simp only [UInt8.le_iff_toNat_le, UInt8.reduceToNat] at form
  split_ifs at form with single shortStr longStr shortList
  · cases form
    obtain ⟨rest, rfl⟩ := List.head?_eq_some_iff.mp first
    exact ⟨Nat.succ_le_succ (Nat.zero_le _),
      .inl ⟨b0, UInt8.le_iff_toNat_le.mpr single, rfl, rfl, one⟩⟩
  · have value : (b0 - 0x80).toNat = b0.toNat - 0x80 :=
      UInt8.toNat_sub_of_le b0 0x80 (UInt8.le_iff_toNat_le.mpr (Nat.not_le.mp single))
    obtain ⟨_, _, whole, rest⟩ := run_bind_ok.mp form
    obtain ⟨fits, rfl⟩ := lift_ok.mp whole
    obtain ⟨_, _, canonical, done⟩ := run_bind_ok.mp rest
    obtain ⟨several, rfl⟩ := lift_ok.mp canonical
    cases done
    obtain ⟨framed, length⟩ := framed_short 0x80 first (by omega) (by omega)
      (Nat.not_lt.mp (refuse_ok.mp fits))
    refine ⟨Nat.not_lt.mp (refuse_ok.mp fits), .inr (.inl ⟨_, framed, rfl, ?_, one⟩)⟩
    rw [length]
    exact refuse_ok.mp several
  · obtain ⟨⟨len, header⟩, _, measured, rest⟩ := run_bind_ok.mp form
    obtain ⟨read, rfl⟩ := lift_ok.mp measured
    obtain ⟨stop, _, ended, last⟩ := run_bind_ok.mp rest
    obtain ⟨ends, rfl⟩ := lift_ok.mp ended
    obtain ⟨_, _, whole, done⟩ := run_bind_ok.mp last
    obtain ⟨fits, rfl⟩ := lift_ok.mp whole
    cases done
    have value : (b0 - 0xb7).toNat = b0.toNat - 0xb7 :=
      UInt8.toNat_sub_of_le b0 0xb7 (UInt8.le_iff_toNat_le.mpr (Nat.not_le.mp shortStr).le)
    obtain ⟨framed, long⟩ := framed_long 0x80 first (by omega) (by omega) read ends
      (Nat.not_lt.mp (refuse_ok.mp fits))
    exact ⟨Nat.not_lt.mp (refuse_ok.mp fits),
      .inr (.inl ⟨_, framed, rfl, fun single => by omega, one⟩)⟩
  · have value : (b0 - 0xc0).toNat = b0.toNat - 0xc0 :=
      UInt8.toNat_sub_of_le b0 0xc0 (UInt8.le_iff_toNat_le.mpr (Nat.not_le.mp longStr))
    obtain ⟨_, _, whole, rest⟩ := run_bind_ok.mp form
    obtain ⟨fits, rfl⟩ := lift_ok.mp whole
    obtain ⟨items, _, filled, done⟩ := run_bind_ok.mp rest
    cases done
    obtain ⟨framed, -⟩ := framed_short 0xc0 first (by omega) (by omega)
      (Nat.not_lt.mp (refuse_ok.mp fits))
    exact ⟨Nat.not_lt.mp (refuse_ok.mp fits),
      .inr (.inr ⟨_, items, _, framed, rfl, filled, one⟩)⟩
  · obtain ⟨⟨len, header⟩, _, measured, rest⟩ := run_bind_ok.mp form
    obtain ⟨read, rfl⟩ := lift_ok.mp measured
    obtain ⟨stop, _, ended, last⟩ := run_bind_ok.mp rest
    obtain ⟨ends, rfl⟩ := lift_ok.mp ended
    obtain ⟨_, _, whole, final⟩ := run_bind_ok.mp last
    obtain ⟨fits, rfl⟩ := lift_ok.mp whole
    obtain ⟨items, _, filled, done⟩ := run_bind_ok.mp final
    cases done
    have value : (b0 - 0xf7).toNat = b0.toNat - 0xf7 :=
      UInt8.toNat_sub_of_le b0 0xf7 (UInt8.le_iff_toNat_le.mpr (Nat.not_le.mp shortList).le)
    obtain ⟨framed, -⟩ := framed_long 0xc0 first (by omega) (by omega) read ends
      (Nat.not_lt.mp (refuse_ok.mp fits))
    exact ⟨Nat.not_lt.mp (refuse_ok.mp fits),
      .inr (.inr ⟨_, items, _, framed, rfl, filled, one⟩)⟩

/-- A decoder returns an item only for the encoding of the item. It stays within
    `levels` and accounts for the items that it reads. -/
def Sound (decodeItem : Bytes → Decoder (Rlp × Nat)) (levels : Nat) : Prop :=
  ∀ {buf itemsLeft item used itemsLeft'},
    decodeItem buf itemsLeft = .ok (item, used) itemsLeft' →
    buf.take used = item.encode ∧ item.height < levels ∧ itemsLeft = itemsLeft' + item.count

theorem Sound.decodeList {decodeItem : Bytes → Decoder (Rlp × Nat)} {levels : Nat}
    (sound : Sound decodeItem levels) {fuel itemsLeft itemsLeft' : Nat} {buf : Bytes}
    {items : List Rlp}
    (decoded : decodeList decodeItem fuel buf itemsLeft = .ok items itemsLeft') :
    buf = Rlp.encodeAll items ∧ Rlp.heightAll items ≤ levels ∧
      itemsLeft = itemsLeft' + Rlp.countAll items := by
  induction fuel generalizing buf itemsLeft items with
  | zero =>
      cases buf with
      | nil => cases decoded; exact ⟨rfl, Nat.zero_le _, rfl⟩
      | cons byte rest => cases decoded
  | succ fuel ih =>
      cases buf with
      | nil => cases decoded; exact ⟨rfl, Nat.zero_le _, rfl⟩
      | cons byte rest =>
          obtain ⟨⟨item, used⟩, _, first, later⟩ := run_bind_ok.mp decoded
          obtain ⟨items, _, others, done⟩ := run_bind_ok.mp later
          cases done
          obtain ⟨taken, shallow, one⟩ := sound first
          obtain ⟨left, shallower, more⟩ := ih others
          refine ⟨?_, ?_⟩
          · rw [Rlp.encodeAll, ← taken, ← left, List.take_append_drop]
          · rw [Rlp.heightAll, Rlp.countAll]
            omega

theorem decodeOne_sound (levels : Nat) : Sound (decodeOne levels) levels := by
  induction levels with
  | zero => intro buf itemsLeft item used itemsLeft' decoded; cases decoded
  | succ levels ih =>
      intro buf itemsLeft item used itemsLeft' decoded
      rcases (decodeOne_ok decoded).2 with ⟨byte, small, taken, rfl, one⟩ |
        ⟨payload, framed, rfl, several, one⟩ | ⟨payload, items, middle, framed, rfl, filled, one⟩
      · have below : byte < 0x80 := by
          rw [UInt8.le_iff_toNat_le] at small
          rw [UInt8.lt_iff_toNat_lt]
          exact Nat.lt_succ_of_le small
        exact ⟨by rw [taken, Rlp.encode_byte below], Nat.zero_lt_succ _, one⟩
      · exact ⟨by rw [Rlp.encode_str several, framed], Nat.zero_lt_succ _, one⟩
      · obtain ⟨encoded, shallow, more⟩ := ih.decodeList filled
        refine ⟨by rw [Rlp.encode, framed, encoded], ?_⟩
        rw [Rlp.height, Rlp.count]
        omega

theorem decodeCanonical_ok {buf : Bytes} {item : Rlp} (decoded : decodeCanonical buf = .ok item) :
    buf = item.encode ∧ item.height ≤ MAX_RLP_DEPTH ∧ item.count ≤ MAX_RLP_ITEMS := by
  unfold decodeCanonical at decoded
  split at decoded
  · cases decoded
  · rename_i item' used itemsLeft read
    obtain ⟨all, ⟨⟩⟩ := refuse_bind_ok.mp decoded
    obtain ⟨taken, shallow, count⟩ := decodeOne_sound _ read
    rw [not_not.mp all, List.take_length] at taken
    exact ⟨taken, Nat.le_of_lt_succ shallow, count ▸ Nat.le_add_left _ _⟩

theorem decodeCanonical_encode {item read : Rlp} (short : item.encode.length < 2 ^ 64)
    (decoded : decodeCanonical item.encode = .ok read) : read = item := by
  have same : item.encode ++ [] = read.encode ++ [] := by
    rw [List.append_nil, List.append_nil]
    exact (decodeCanonical_ok decoded).1
  exact (Rlp.encode_parts (by rwa [List.append_nil]) same).1.symm

end Decoder

section Fields

theorem asScalar_ok {item : Rlp} {digits : Bytes} (read : asScalar item = .ok digits) :
    item = .str digits := by
  cases item with
  | list items => cases read
  | str s =>
      simp only [asScalar] at read
      split_ifs at read
      rw [Except.ok.inj read]

theorem scalarU64_scalar {n : Nat} {v : UInt64} (read : scalarU64 (.scalar n) = .ok v) :
    v.toNat = n := by
  simp only [scalarU64, bind_ok, refuse_ok] at read
  obtain ⟨digits, scalar, -, few, ⟨⟩⟩ := read
  obtain ⟨⟩ := asScalar_ok scalar
  exact (toNat_accumulate (by omega)).trans (ofBe_minimalBe n)

theorem scalarU128_scalar {n : Nat} {v : BitVec 128} (read : scalarU128 (.scalar n) = .ok v) :
    v.toNat = n := by
  simp only [scalarU128, bind_ok, refuse_ok] at read
  obtain ⟨digits, scalar, -, few, ⟨⟩⟩ := read
  obtain ⟨⟩ := asScalar_ok scalar
  exact (toNat_accumulate (by omega)).trans (ofBe_minimalBe n)

theorem asCalldataSelector_some {data : Bytes} {selector : Word 4}
    (read : asCalldataSelector (.str data) = .ok (some selector)) : selector.val <+: data := by
  cases data with
  | nil => cases read
  | cons byte rest =>
      obtain ⟨word, found, ⟨⟩⟩ := bind_ok.mp read
      rw [← Word.ofBytes?_eq_some.mp (okOr_ok.mp found)]
      exact List.take_prefix _ _

end Fields

/-! Transactions as the chain reads them. Nothing bounds a number here. -/

inductive Fee where
  /-- A legacy transaction. -/
  | eip155 (gasPrice : Nat)
  | eip1559 (maxPriorityFeePerGas maxFeePerGas : Nat)
      (accessList : List (Address × List (Word 32)))

/-- An unsigned transaction of either type. -/
structure UnsignedTx where
  chainId : Nat
  nonce : Nat
  gasLimit : Nat
  /-- None creates a contract. -/
  destination : Option Address
  value : Nat
  data : Bytes
  fee : Fee

namespace UnsignedTx

def maxFeePerGas (tx : UnsignedTx) : Nat :=
  match tx.fee with
  | .eip155 gasPrice => gasPrice
  | .eip1559 _ maxFeePerGas _ => maxFeePerGas

def destinationItem (tx : UnsignedTx) : Rlp :=
  .str (match tx.destination with
    | some address => address.val
    | none => [])

def accessItem (entry : Address × List (Word 32)) : Rlp :=
  .list [.str entry.1.val, .list (entry.2.map fun key => .str key.val)]

/-- The bytes whose hash a signature of the transaction signs. -/
def signingPreimage (tx : UnsignedTx) : Bytes :=
  match tx.fee with
  | .eip155 gasPrice =>
      Rlp.encode (.list [.scalar tx.nonce, .scalar gasPrice, .scalar tx.gasLimit,
        tx.destinationItem, .scalar tx.value, .str tx.data, .scalar tx.chainId,
        .scalar 0, .scalar 0])
  | .eip1559 maxPriorityFeePerGas maxFeePerGas accessList =>
      TX_TYPE_EIP1559 :: Rlp.encode (.list [.scalar tx.chainId, .scalar tx.nonce,
        .scalar maxPriorityFeePerGas, .scalar maxFeePerGas, .scalar tx.gasLimit,
        tx.destinationItem, .scalar tx.value, .str tx.data, .list (accessList.map accessItem)])

/-- The transaction keeps to the pinned destination, selectors and caps. -/
structure Within (cfg : BridgeConfig) (tx : UnsignedTx) : Prop where
  chain : tx.chainId = cfg.chainId.toNat
  /-- It calls the pinned destination, so that it does not create a contract. -/
  destination : ∃ allowed, cfg.gasTxAllowedTo = some allowed ∧ tx.destination = some allowed
  selector : ∃ selector ∈ cfg.gasTxAllowedSelectors, selector.val <+: tx.data
  fee : tx.gasLimit * tx.maxFeePerGas ≤
    cfg.gasTxMaxGasLimit.toNat * cfg.gasTxMaxFeePerGas.toNat
  value : tx.value ≠ 0 → ONCHAIN_LZ_FUNDS_OUT_CALL_SELECTOR <+: tx.data ∧
    tx.destination = some cfg.bridgeContract ∧
    ∃ max, cfg.gasTxMaxValueWei = some max ∧ tx.value ≤ max.toNat

structure Parses (tx : UnsignedTx) (parsed : GasTx) : Prop where
  chainId : parsed.chainId.toNat = tx.chainId
  destination : tx.destination = some parsed.destination
  value : parsed.value.toNat = tx.value
  gasLimit : parsed.gasLimit.toNat = tx.gasLimit
  maxFeePerGas : parsed.maxFeePerGas.toNat = tx.maxFeePerGas
  selector : ∀ selector, parsed.selector = some selector → selector.val <+: tx.data
  data : parsed.data = tx.data

theorem asAddress_destinationItem {tx : UnsignedTx} {address : Address}
    (read : asAddress tx.destinationItem = .ok address) : tx.destination = some address := by
  unfold destinationItem at read
  cases found : tx.destination with
  | none => rw [found] at read; cases read
  | some word =>
      obtain ⟨bytes, length⟩ := word
      rw [found] at read
      cases bytes with
      | nil => cases length
      | cons byte rest =>
          have whole := Word.ofBytes?_eq_some.mp (okOr_ok.mp read)
          exact congrArg some (Subtype.ext whole)

theorem parses {tx : UnsignedTx} {parsed : GasTx} (short : tx.signingPreimage.length < 2 ^ 64)
    (read : parseGasTx tx.signingPreimage = .ok parsed) : tx.Parses parsed := by
  obtain ⟨first, head, branch⟩ := bind_ok.mp read
  cases fee : tx.fee with
  | eip1559 maxPriorityFeePerGas maxFeePerGas accessList =>
      simp only [signingPreimage, fee] at short head branch
      obtain ⟨⟩ := okOr_ok.mp head
      rw [if_pos rfl] at branch
      obtain ⟨body, decoded, listed⟩ := bind_ok.mp branch
      obtain rfl := decodeCanonical_encode (Nat.lt_of_succ_lt short) decoded
      obtain ⟨_, ⟨⟩, fields⟩ := bind_ok.mp listed
      simp only [bind_ok] at fields
      obtain ⟨_, chainId, _, -, _, maxFee, _, gas, _, destination, _, value, _, selector,
        _, ⟨⟩, ⟨⟩⟩ := fields
      exact {
        chainId := scalarU64_scalar chainId
        destination := asAddress_destinationItem destination
        value := scalarU128_scalar value
        gasLimit := scalarU64_scalar gas
        maxFeePerGas := by rw [UnsignedTx.maxFeePerGas, fee]; exact scalarU128_scalar maxFee
        selector := fun _ some => asCalldataSelector_some (some ▸ selector)
        data := rfl }
  | eip155 gasPrice =>
      simp only [signingPreimage, fee] at short head branch
      have list : (0xc0 : UInt8) ≤ first :=
        UInt8.le_iff_toNat_le.mpr (Rlp.head_encode_list short (okOr_ok.mp head))
      rw [if_neg (by rintro rfl; exact absurd list (by decide)), if_pos list] at branch
      obtain ⟨body, decoded, listed⟩ := bind_ok.mp branch
      obtain rfl := decodeCanonical_encode short decoded
      obtain ⟨_, ⟨⟩, fields⟩ := bind_ok.mp listed
      simp only [bind_ok] at fields
      obtain ⟨_, -, _, -, _, price, _, chainId, _, gas, _, destination, _, value,
        _, selector, _, ⟨⟩, ⟨⟩⟩ := fields
      exact {
        chainId := scalarU64_scalar chainId
        destination := asAddress_destinationItem destination
        value := scalarU128_scalar value
        gasLimit := scalarU64_scalar gas
        maxFeePerGas := by rw [UnsignedTx.maxFeePerGas, fee]; exact scalarU128_scalar price
        selector := fun _ some => asCalldataSelector_some (some ▸ selector)
        data := rfl }

theorem Parses.within {cfg : BridgeConfig} {tx : UnsignedTx} {parsed : GasTx}
    (parses : tx.Parses parsed) (valid : validateGasTx cfg parsed = .ok ()) : tx.Within cfg := by
  obtain ⟨-, chain, allowed, value, fees, selected⟩ := validateGasTx_ok.mp valid
  refine ⟨?_, ⟨_, allowed, parses.destination⟩, ?_, ?_, fun carries => ?_⟩
  · rw [← parses.chainId, chain]
  · obtain ⟨selector, member, found⟩ := validateSelector_ok.mp selected
    exact ⟨selector, member, parses.selector selector found⟩
  · obtain ⟨-, -, gas, fee, -⟩ := validateFees_ok.mp fees
    rw [← parses.gasLimit, ← parses.maxFeePerGas]
    exact Nat.mul_le_mul (UInt64.le_iff_toNat_le.mp gas) (BitVec.le_def.mp fee)
  · rw [← parses.value] at carries ⊢
    obtain ⟨call, -, proxy, max, ceiling, below⟩ :=
      validateValue_ok.mp value fun zero => carries (by rw [zero]; rfl)
    exact ⟨parses.data ▸ call, by rw [parses.destination, proxy],
      max, ceiling, BitVec.le_def.mp below⟩

end UnsignedTx

/-- A validated request signs the hash of its bytes, and every transaction with
    these bytes keeps within the pinned limits. -/
theorem gas_spending_limit (keccak256 : Bytes → Word 32) (req : SignRawDigestRequest)
    (cfg : BridgeConfig) (digest : Word 32)
    (accepted : validateGasTxRequest keccak256 req cfg = .ok digest) :
    digest = keccak256 req.unsignedTx ∧
      ∀ tx : UnsignedTx, tx.signingPreimage = req.unsignedTx → tx.Within cfg := by
  simp only [validateGasTxRequest, bind_ok, refuse_ok] at accepted
  obtain ⟨-, -, -, small, parsed, read, ⟨⟩, valid, -, -, ⟨⟩⟩ := accepted
  refine ⟨rfl, fun tx same => ?_⟩
  rw [← same] at small read
  refine (UnsignedTx.parses ?_ read).within valid
  exact Nat.lt_of_le_of_lt (Nat.not_lt.mp small) (by decide)

/-! A payable release that pays a messaging fee of 0.003 ether. -/

def sampleGasConfig : BridgeConfig where
  chainId := 42161
  bridgeContract := .fill 20 0x11
  rgbAssetId := "rgb:asset"
  fundsInContract := .fill 20 0x22
  tokenContract := .fill 20 0x55
  gasTxAllowedTo := some (.fill 20 0x11)
  gasTxMaxGasLimit := 1000000
  gasTxMaxFeePerGas := 200000000000
  gasTxAllowedSelectors := [⟨ONCHAIN_LZ_FUNDS_OUT_CALL_SELECTOR, lzFundsOutCallSelector_length⟩]
  gasTxMaxValueWei := some 10000000000000000

def sampleGasTx : UnsignedTx where
  chainId := 42161
  nonce := 7
  gasLimit := 600000
  destination := some (.fill 20 0x11)
  value := 3000000000000000
  data := ONCHAIN_LZ_FUNDS_OUT_CALL_SELECTOR ++ List.replicate 64 0x11
  fee := .eip1559 1000000000 100000000000 []

def sampleKeccak256 : Bytes → Word 32 :=
  tableHash [(sampleGasTx.signingPreimage, Word.ofNatBe 32
    0xa2d597ee04c22ac12f9499c70801aed1bb3e385c55c164f62ee918066df970c8)]

theorem gas_spending_limit_messagingFee :
    (validateGasTxRequest sampleKeccak256 ⟨[], sampleGasTx.signingPreimage⟩ sampleGasConfig).isOk ∧
      sampleGasTx.Within sampleGasConfig := by
  have accepted : validateGasTxRequest sampleKeccak256 ⟨[], sampleGasTx.signingPreimage⟩
      sampleGasConfig = .ok (sampleKeccak256 sampleGasTx.signingPreimage) := by decide +kernel
  exact ⟨by rw [accepted]; rfl, (gas_spending_limit _ _ _ _ accepted).2 sampleGasTx rfl⟩

end EnclaveSigner.Evm.Gas
