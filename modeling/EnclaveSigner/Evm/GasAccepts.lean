import EnclaveSigner.Evm.RlpCanonical

/-! # Requests that the gas path accepts

The decoder reads every small encoding back. An operator who pins a destination,
both caps and a selector can therefore sign at least one gas transaction.
-/

namespace EnclaveSigner.Evm.Gas

open Lib

theorem length_encode_str {payload : Bytes} (short : payload.length ≤ 55) :
    (Rlp.str payload).encode.length ≤ payload.length + 1 := by
  by_cases single : payload.length = 1 ∧ payload.headD 0 < 0x80
  · rw [Rlp.encode, if_pos single]
    exact Nat.le_succ _
  · rw [Rlp.encode_str single, Rlp.header, Rlp.lengthCode_short short, List.length_append,
      Nat.add_comm]
    rfl

section Fields

theorem scalarU64_ofNat (v : UInt64) : scalarU64 (.scalar v.toNat) = .ok v := by
  have few : (minimalBe v.toNat).length ≤ 8 := length_minimalBe_le v.toNat_lt
  have digits : asScalar (.scalar v.toNat) = .ok (minimalBe v.toNat) := if_neg (head_minimalBe _)
  refine bind_ok.mpr ⟨_, digits, refuse_bind_ok.mpr ⟨Nat.not_lt.mpr few, ?_⟩⟩
  refine congrArg Except.ok (UInt64.toNat_inj.mp ?_)
  exact (toNat_accumulate (by omega)).trans (ofBe_minimalBe _)

theorem asAddress_word (address : Address) : asAddress (.str address.val) = .ok address := by
  obtain ⟨bytes, length⟩ := address
  cases bytes with
  | nil => cases length
  | cons byte rest => exact okOr_ok.mpr (Word.ofBytes?_eq_some.mpr rfl)

theorem asCalldataSelector_word (selector : Word 4) :
    asCalldataSelector (.str selector.val) = .ok (some selector) := by
  obtain ⟨bytes, length⟩ := selector
  cases bytes with
  | nil => cases length
  | cons byte rest =>
      refine bind_ok.mpr ⟨_, okOr_ok.mpr (Word.ofBytes?_eq_some.mpr ?_), rfl⟩
      exact List.take_of_length_le length.le

end Fields

def bareCall (chainId : UInt64) (destination : Address) (selector : Word 4) : UnsignedTx where
  chainId := chainId.toNat
  nonce := 0
  gasLimit := 0
  destination := some destination
  value := 0
  data := selector.val
  fee := .eip155 0

def parsedBareCall (chainId : UInt64) (destination : Address) (selector : Word 4) : GasTx where
  chainId
  destination
  value := 0
  gasLimit := 0
  maxFeePerGas := 0
  maxPriorityFeePerGas := 0
  selector := some selector
  data := selector.val

def bareCallFields (chainId : UInt64) (destination : Address) (selector : Word 4) : List Bytes :=
  [[], [], [], destination.val, [], selector.val, minimalBe chainId.toNat, [], []]

theorem bareCall_preimage (chainId : UInt64) (destination : Address) (selector : Word 4) :
    (bareCall chainId destination selector).signingPreimage =
      Rlp.encode (.list ((bareCallFields chainId destination selector).map .str)) := by
  have zero : Rlp.scalar 0 = .str [] := congrArg Rlp.str (by decide +kernel)
  simp only [UnsignedTx.signingPreimage, bareCall, zero]
  rfl

section BareCall

variable (chainId : UInt64) (destination : Address) (selector : Word 4)

theorem bareCall_payload_short :
    (Rlp.encodeAll ((bareCallFields chainId destination selector).map .str)).length ≤ 55 := by
  have few : (minimalBe chainId.toNat).length ≤ 8 := length_minimalBe_le chainId.toNat_lt
  have chainItem := length_encode_str (few.trans (by decide))
  have destinationItem := length_encode_str (destination.property.trans_le (by decide))
  have selectorItem := length_encode_str (selector.property.trans_le (by decide))
  have empty : (Rlp.str []).encode.length = 1 := rfl
  rw [destination.property] at destinationItem
  rw [selector.property] at selectorItem
  simp only [bareCallFields, List.map_cons, List.map_nil, Rlp.encodeAll, List.length_append, empty,
    List.length_nil]
  omega

theorem bareCall_head : ∃ first : UInt8, 0xc0 ≤ first ∧
    (bareCall chainId destination selector).signingPreimage =
      first :: Rlp.encodeAll ((bareCallFields chainId destination selector).map .str) := by
  obtain ⟨first, head, value, -⟩ :=
    header_short 0xc0 (bareCall_payload_short chainId destination selector) (by decide)
  refine ⟨first, UInt8.le_iff_toNat_le.mpr (value ▸ Nat.le_add_right _ _), ?_⟩
  rw [bareCall_preimage, Rlp.encode]
  exact congrArg (· ++ _) head

theorem bareCall_length :
    (bareCall chainId destination selector).signingPreimage.length ≤ 56 := by
  obtain ⟨first, -, whole⟩ := bareCall_head chainId destination selector
  rw [whole]
  exact Nat.succ_le_succ (bareCall_payload_short chainId destination selector)

theorem decodeCanonical_bareCall :
    decodeCanonical (bareCall chainId destination selector).signingPreimage =
      .ok (.list ((bareCallFields chainId destination selector).map .str)) := by
  have short := bareCall_length chainId destination selector
  rw [bareCall_preimage] at short ⊢
  refine decodeCanonical_of_encode (short.trans_lt (by decide)) ?_ ?_
  · simp [bareCallFields, Rlp.height, Rlp.heightAll, MAX_RLP_DEPTH]
  · simp [bareCallFields, Rlp.count, Rlp.countAll, MAX_RLP_ITEMS]

theorem parseGasTx_bareCall :
    parseGasTx (bareCall chainId destination selector).signingPreimage =
      .ok (parsedBareCall chainId destination selector) := by
  have decoded := decodeCanonical_bareCall chainId destination selector
  obtain ⟨first, list, whole⟩ := bareCall_head chainId destination selector
  refine bind_ok.mpr ⟨first, okOr_ok.mpr (congrArg List.head? whole), ?_⟩
  rw [if_neg (by rintro rfl; exact absurd list (by decide)), if_pos list]
  refine bind_ok.mpr ⟨_, decoded, bind_ok.mpr ⟨_, rfl, ?_⟩⟩
  simp only [bareCallFields, List.map_cons, List.map_nil]
  refine bind_ok.mpr ⟨true, rfl, refuse_bind_ok.mpr ⟨by decide, bind_ok.mpr ⟨0, rfl, ?_⟩⟩⟩
  refine bind_ok.mpr ⟨chainId, scalarU64_ofNat chainId, bind_ok.mpr ⟨0, rfl, ?_⟩⟩
  refine bind_ok.mpr ⟨destination, asAddress_word destination, bind_ok.mpr ⟨0, rfl, ?_⟩⟩
  exact bind_ok.mpr ⟨some selector, asCalldataSelector_word selector, rfl⟩

end BareCall

theorem validateGasTx_bareCall {cfg : BridgeConfig} {destination : Address} {selector : Word 4}
    (chain : cfg.chainId ≠ 0) (pinned : cfg.gasTxAllowedTo = some destination)
    (gas : cfg.gasTxMaxGasLimit ≠ 0) (fee : cfg.gasTxMaxFeePerGas ≠ 0)
    (allowed : selector ∈ cfg.gasTxAllowedSelectors) :
    validateGasTx cfg (parsedBareCall cfg.chainId destination selector) = .ok () := by
  have free : (0 : BitVec 128) ≤ cfg.gasTxMaxFeePerGas := BitVec.not_lt.mp BitVec.not_lt_zero
  exact validateGasTx_ok.mpr ⟨chain, rfl, pinned, rfl,
    validateFees_ok.mpr ⟨gas, fee, UInt64.zero_le, free, free⟩,
    validateSelector_ok.mpr ⟨selector, allowed, rfl⟩⟩

theorem validateGasTxRequest_bareCall (keccak256 : Bytes → Word 32) {cfg : BridgeConfig}
    {destination : Address} {selector : Word 4} (chain : cfg.chainId ≠ 0)
    (pinned : cfg.gasTxAllowedTo = some destination) (gas : cfg.gasTxMaxGasLimit ≠ 0)
    (fee : cfg.gasTxMaxFeePerGas ≠ 0) (allowed : selector ∈ cfg.gasTxAllowedSelectors) :
    validateGasTxRequest keccak256
      ⟨[], (bareCall cfg.chainId destination selector).signingPreimage⟩ cfg =
      .ok (keccak256 (bareCall cfg.chainId destination selector).signingPreimage) := by
  have size := bareCall_length cfg.chainId destination selector
  have nonempty : (bareCall cfg.chainId destination selector).signingPreimage ≠ [] := by
    rw [bareCall_preimage]
    exact List.ne_nil_of_length_pos (Rlp.encode_length_pos _)
  have valid := validateGasTx_bareCall chain pinned gas fee allowed
  simp only [validateGasTxRequest, bind_ok, refuse_ok]
  exact ⟨(), nonempty, (), Nat.not_lt.mpr (size.trans (by decide)), _, parseGasTx_bareCall .., (),
    valid, (), fun bad => bad.1 rfl, rfl⟩

end EnclaveSigner.Evm.Gas
