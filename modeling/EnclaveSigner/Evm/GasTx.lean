import EnclaveSigner.Config
import EnclaveSigner.Lib.MachineInt
import EnclaveSigner.Lib.Rlp

/-! # Gas transactions

The gas key signs the hash of an unsigned transaction that the enclave decodes
itself, with a strict decoder, and holds against the pinned destination, caps
and selectors.
-/

namespace EnclaveSigner.Evm.Gas

open Lib

def TX_TYPE_EIP1559 : UInt8 := 0x02

/-- The selector of `MultisigProxy.lzFundsOutCall` on the chain, the one call that
    may carry value. -/
def ONCHAIN_LZ_FUNDS_OUT_CALL_SELECTOR : Bytes := [0x8f, 0x6b, 0x30, 0x31]

theorem lzFundsOutCallSelector_length : ONCHAIN_LZ_FUNDS_OUT_CALL_SELECTOR.length = 4 := rfl

def MAX_RLP_DEPTH : Nat := 8

def MAX_RLP_ITEMS : Nat := 1024

def MAX_GAS_TX_BYTES : Nat := 1024 * 1024

def reject (msg : String) : EnclaveError := .crossCheck msg

structure SignRawDigestRequest where
  digest : Bytes
  unsignedTx : Bytes
  deriving DecidableEq

structure GasTx where
  chainId : UInt64
  /-- `to`. -/
  destination : Address
  value : BitVec 128
  gasLimit : UInt64
  /-- `maxFeePerGas`, or the `gasPrice` of a legacy transaction. -/
  maxFeePerGas : BitVec 128
  /-- `maxPriorityFeePerGas`, or the `gasPrice` of a legacy transaction. -/
  maxPriorityFeePerGas : BitVec 128
  /-- The first four bytes of the calldata. None for empty calldata. -/
  selector : Option (Word 4)
  data : Bytes
  deriving DecidableEq

/-- The decoder counts down how many more items it may read. -/
abbrev Decoder := EStateM EnclaveError Nat

/-- Read the length after the header byte. Returns it with the size of the header. -/
def readLongLen (buf : Bytes) (lenOfLen : UInt8) : Result (UInt64 × Nat) := do
  let header := 1 + lenOfLen.toNat
  refuse (buf.length < header) (reject "rlp: length header truncated")
  let lenBytes := (buf.take header).drop 1
  refuse (lenBytes.headD 0 = 0) (reject "rlp: non-canonical length (leading zero)")
  -- `checked_shl` refuses a shift that is too wide, not the bits that it shifts out
  let len ← lenBytes.foldlM (fun (len : UInt64) b =>
    okOr (reject "rlp: length exceeds usize") (checkedAdd64 (len <<< 8) b.toUInt64)) 0
  refuse (len ≤ 55) (reject "rlp: non-canonical long form for short payload")
  pure (len, header)

def longEnd (header : Nat) (len : UInt64) : Result Nat :=
  if header + len.toNat < 2 ^ 64 then .ok (header + len.toNat)
  else .error (reject "rlp: length overflow")

def takeItem : Decoder Unit := do
  let itemsLeft ← get
  refuse (itemsLeft = 0) (reject s!"rlp: more than {MAX_RLP_ITEMS} items")
  set (itemsLeft - 1)

/-- Decode a list payload completely. An item takes at least one byte, so that the
    number of bytes is enough for the loop. -/
def decodeList (decodeItem : Bytes → Decoder (Rlp × Nat)) : Nat → Bytes → Decoder (List Rlp)
  | _, [] => pure []
  | 0, _ :: _ => throw (reject "rlp: unexpected end of input")
  | fuel + 1, buf => do
      let (item, used) ← decodeItem buf
      let items ← decodeList decodeItem fuel (buf.drop used)
      pure (item :: items)

/-- Decode one item from the front of `buf`. Returns the item and the number of
    bytes used. `levels` counts the nesting depths that are left. -/
def decodeOne : Nat → Bytes → Decoder (Rlp × Nat)
  | 0, _ => throw (reject "rlp: nesting too deep")
  | levels + 1, buf => do
      takeItem
      let b0 ← okOr (reject "rlp: unexpected end of input") buf.head?
      if b0 ≤ 0x7f then pure (.str (buf.take 1), 1)
      else if b0 ≤ 0xb7 then
        let len := (b0 - 0x80).toNat
        let stop := 1 + len
        refuse (buf.length < stop) (reject "rlp: short string truncated")
        let payload := (buf.take stop).drop 1
        refuse (len = 1 ∧ payload.headD 0 < 0x80)
          (reject "rlp: non-canonical single-byte string")
        pure (.str payload, stop)
      else if b0 ≤ 0xbf then
        let (len, header) ← readLongLen buf (b0 - 0xb7)
        let stop ← longEnd header len
        refuse (buf.length < stop) (reject "rlp: long string truncated")
        pure (.str ((buf.take stop).drop header), stop)
      else if b0 ≤ 0xf7 then
        let stop := 1 + (b0 - 0xc0).toNat
        refuse (buf.length < stop) (reject "rlp: short list truncated")
        let items ← decodeList (decodeOne levels) buf.length ((buf.take stop).drop 1)
        pure (.list items, stop)
      else
        let (len, header) ← readLongLen buf (b0 - 0xf7)
        let stop ← longEnd header len
        refuse (buf.length < stop) (reject "rlp: long list truncated")
        let items ← decodeList (decodeOne levels) buf.length ((buf.take stop).drop header)
        pure (.list items, stop)

/-- Decode an item that takes up all of `buf`. -/
def decodeCanonical (buf : Bytes) : Result Rlp :=
  match decodeOne (MAX_RLP_DEPTH + 1) buf MAX_RLP_ITEMS with
  | .error e _ => .error e
  | .ok (item, used) _ => do
      refuse (used ≠ buf.length) (reject "rlp: trailing bytes after top-level item")
      pure item

def asList : Rlp → Result (List Rlp)
  | .list items => .ok items
  | .str _ => .error (reject "rlp: expected a list, found a string")

def asBytes : Rlp → Result Bytes
  | .str bytes => .ok bytes
  | .list _ => .error (reject "rlp: expected a byte string, found a list")

def asScalar : Rlp → Result Bytes
  | .str s =>
      if s.head? = some 0 then .error (reject "rlp: non-canonical scalar (leading zero)") else .ok s
  | .list _ => .error (reject "rlp: expected a scalar, found a list")

def accumulate (width : Nat) (digits : Bytes) : BitVec width :=
  digits.foldl (fun v b => v <<< 8 ||| b.toBitVec.setWidth width) 0

def scalarU64 (item : Rlp) : Result UInt64 := do
  let s ← asScalar item
  refuse (s.length > 8) (reject "rlp: integer exceeds u64")
  pure ⟨accumulate 64 s⟩

def scalarU128 (item : Rlp) : Result (BitVec 128) := do
  let s ← asScalar item
  refuse (s.length > 16) (reject "gas tx: integer exceeds u128 (far above any pinnable ceiling)")
  pure (accumulate 128 s)

def scalarIsZero (item : Rlp) : Result Bool := do
  let s ← asScalar item
  pure s.isEmpty

def asAddress : Rlp → Result Address
  | .str [] =>
      .error (reject "gas tx: contract creation (empty `to`) is not allowed for the gas key")
  | .str s => okOr (reject "gas tx: `to` must be a 20-byte address") (Word.ofBytes? 20 s)
  | .list _ => .error (reject "rlp: expected an address string, found a list")

def asCalldataSelector : Rlp → Result (Option (Word 4))
  | .str [] => .ok none
  | .str s => do
      let selector ← okOr (reject "gas tx: calldata is shorter than a 4-byte function selector")
        (Word.ofBytes? 4 (s.take 4))
      pure (some selector)
  | .list _ => .error (reject "rlp: expected calldata string, found a list")

/-- The trailer of a legacy transaction is zero. A second item is read only after a
    first one that is zero. -/
def isUnsigned (r s : Rlp) : Result Bool := do
  let rIsZero ← scalarIsZero r
  if rIsZero then scalarIsZero s else pure false

def parseGasTx (raw : Bytes) : Result GasTx := do
  let first ← okOr (reject "gas tx: empty unsigned_tx") raw.head?
  if first = TX_TYPE_EIP1559 then
    let body ← decodeCanonical (raw.drop 1)
    let items ← asList body
    match items with
    | [chainId, _nonce, maxPriorityFee, maxFee, gas, destination, value, data, _accessList] =>
        let chainId ← scalarU64 chainId
        let maxPriorityFeePerGas ← scalarU128 maxPriorityFee
        let maxFeePerGas ← scalarU128 maxFee
        let gasLimit ← scalarU64 gas
        let destination ← asAddress destination
        let value ← scalarU128 value
        let selector ← asCalldataSelector data
        let data ← asBytes data
        pure { chainId, destination, value, gasLimit, maxFeePerGas, maxPriorityFeePerGas
               selector, data }
    | _ => throw (reject
        s!"gas tx: EIP-1559 unsigned tx must have 9 fields, got {items.length}")
  else if first ≥ 0xc0 then
    let body ← decodeCanonical raw
    let items ← asList body
    match items with
    | [_nonce, gasPrice, gas, destination, value, data, chainId, r, s] =>
        let unsigned ← isUnsigned r s
        refuse (unsigned = false) (reject
          ("gas tx: legacy EIP-155 trailer must be (chainId, 0, 0) - " ++
            "refusing a signed or pre-EIP-155 transaction"))
        let gasPrice ← scalarU128 gasPrice
        let chainId ← scalarU64 chainId
        let gasLimit ← scalarU64 gas
        let destination ← asAddress destination
        let value ← scalarU128 value
        let selector ← asCalldataSelector data
        let data ← asBytes data
        pure { chainId, destination, value, gasLimit, maxFeePerGas := gasPrice
               maxPriorityFeePerGas := gasPrice, selector, data }
    | _ => throw (reject
        s!"gas tx: legacy EIP-155 unsigned tx must have 9 fields, got {items.length}")
  else
    throw (reject (s!"gas tx: unsupported envelope (first byte 0x{hexEncode [first]}); only " ++
      "EIP-1559 (0x02) and legacy EIP-155 transactions are accepted"))

def validateLzValue (cfg : BridgeConfig) (tx : GasTx) : Result Unit := do
  refuse (ONCHAIN_LZ_FUNDS_OUT_CALL_SELECTOR.isPrefixOf tx.data = false)
    (reject "gas tx: value must be 0 unless calldata is the payable lzFundsOutCall")
  refuse (cfg.bridgeContract = Word.zero 20)
    (reject ("gas tx: non-zero value requires a pinned EVM_PROXY_CONTRACT_ADDRESS to check the " ++
      "destination against (unset) - refusing to sign"))
  refuse (tx.destination ≠ cfg.bridgeContract)
    (reject ("gas tx: non-zero value is only allowed to the pinned MultisigProxy " ++
      s!"{hexEncode cfg.bridgeContract.val}, not {hexEncode tx.destination.val}"))
  let max ← okOr (reject ("gas tx: non-zero value requires a pinned ceiling " ++
    "(GAS_TX_MAX_VALUE_WEI unset) - refusing to sign")) cfg.gasTxMaxValueWei
  refuse (tx.value > max)
    (reject s!"gas tx: value {tx.value.toNat} exceeds pinned GAS_TX_MAX_VALUE_WEI {max.toNat}")

def validateValue (cfg : BridgeConfig) (tx : GasTx) : Result Unit :=
  if tx.value ≠ 0 then validateLzValue cfg tx else .ok ()

def validateFees (cfg : BridgeConfig) (tx : GasTx) : Result Unit := do
  refuse (cfg.gasTxMaxGasLimit = 0)
    (reject "gas tx: gas-limit cap not pinned (GAS_TX_MAX_GAS_LIMIT unset) - refusing to sign")
  refuse (cfg.gasTxMaxFeePerGas = 0)
    (reject "gas tx: fee cap not pinned (GAS_TX_MAX_FEE_PER_GAS unset) - refusing to sign")
  refuse (tx.gasLimit > cfg.gasTxMaxGasLimit)
    (reject s!"gas tx: gasLimit {tx.gasLimit} exceeds pinned cap {cfg.gasTxMaxGasLimit}")
  refuse (tx.maxFeePerGas > cfg.gasTxMaxFeePerGas)
    (reject (s!"gas tx: maxFeePerGas {tx.maxFeePerGas.toNat} exceeds pinned cap " ++
      s!"{cfg.gasTxMaxFeePerGas.toNat}"))
  refuse (tx.maxPriorityFeePerGas > cfg.gasTxMaxFeePerGas)
    (reject (s!"gas tx: maxPriorityFeePerGas {tx.maxPriorityFeePerGas.toNat} exceeds pinned cap " ++
      s!"{cfg.gasTxMaxFeePerGas.toNat}"))

def validateSelector (cfg : BridgeConfig) (tx : GasTx) : Result Unit :=
  match tx.selector with
  | some selector =>
      refuse (selector ∉ cfg.gasTxAllowedSelectors)
        (reject (s!"gas tx: calldata selector 0x{hexEncode selector.val} is not in the operator " ++
          "allowlist (GAS_TX_ALLOWED_SELECTORS)"))
  | none => .error (reject ("gas tx: empty calldata is not permitted - a gas tx must invoke an " ++
      "allowlisted function selector on the pinned destination; a bare call would still invoke " ++
      "the destination contract's fallback/receive, which is outside the allowlist"))

def validateGasTx (cfg : BridgeConfig) (tx : GasTx) : Result Unit := do
  refuse (cfg.chainId = 0)
    (reject "gas tx: chain_id not pinned (EVM_CHAIN_ID unset) - refusing to sign")
  refuse (tx.chainId ≠ cfg.chainId)
    (reject s!"gas tx: chain_id {tx.chainId} != pinned {cfg.chainId}")
  let allowed ← okOr (reject ("gas tx: destination not pinned (GAS_TX_ALLOWED_TO unset) - " ++
    "refusing to sign (this enclave will not sign gas transactions until the allowed " ++
    "destination is pinned)")) cfg.gasTxAllowedTo
  refuse (tx.destination ≠ allowed)
    (reject (s!"gas tx: destination {hexEncode tx.destination.val} != pinned " ++
      s!"{hexEncode allowed.val}"))
  validateValue cfg tx
  validateFees cfg tx
  validateSelector cfg tx

/-- Validate a request of the gas key. Returns the digest to sign, which is
    computed here. -/
def validateGasTxRequest (keccak256 : Bytes → Word 32) (req : SignRawDigestRequest)
    (cfg : BridgeConfig) : Result (Word 32) := do
  refuse (req.unsignedTx = [])
    (reject ("gas tx signing requires the unsigned transaction preimage (unsigned_tx); " ++
      "refusing to sign an opaque digest"))
  refuse (req.unsignedTx.length > MAX_GAS_TX_BYTES)
    (reject (s!"gas tx: unsigned_tx is {req.unsignedTx.length} bytes; the limit is " ++
      s!"{MAX_GAS_TX_BYTES}"))
  let tx ← parseGasTx req.unsignedTx
  validateGasTx cfg tx
  let digest := keccak256 req.unsignedTx
  refuse (req.digest ≠ [] ∧ req.digest ≠ digest.val)
    (reject "gas tx: supplied digest does not match keccak256(unsigned_tx)")
  pure digest

section Accepted

variable {cfg : BridgeConfig} {tx : GasTx}

theorem validateValue_ok :
    validateValue cfg tx = .ok () ↔ (tx.value ≠ 0 →
      ONCHAIN_LZ_FUNDS_OUT_CALL_SELECTOR <+: tx.data ∧ cfg.bridgeContract ≠ Word.zero 20 ∧
        tx.destination = cfg.bridgeContract ∧
        ∃ max, cfg.gasTxMaxValueWei = some max ∧ tx.value ≤ max) := by
  unfold validateValue
  split_ifs with carries
  · simp only [validateLzValue, bind_ok, refuse_ok, ne_eq, not_not, Bool.not_eq_false,
      List.isPrefixOf_iff_prefix, exists_const, okOr_ok, BitVec.not_lt, gt_iff_lt, carries,
      not_false_eq_true, true_imp_iff]
  · simp only [carries, false_imp_iff]

theorem validateFees_ok :
    validateFees cfg tx = .ok () ↔ cfg.gasTxMaxGasLimit ≠ 0 ∧ cfg.gasTxMaxFeePerGas ≠ 0 ∧
      tx.gasLimit ≤ cfg.gasTxMaxGasLimit ∧ tx.maxFeePerGas ≤ cfg.gasTxMaxFeePerGas ∧
      tx.maxPriorityFeePerGas ≤ cfg.gasTxMaxFeePerGas := by
  simp only [validateFees, bind_ok, refuse_ok, exists_const, gt_iff_lt, UInt64.not_lt,
    BitVec.not_lt, ne_eq]

theorem validateSelector_ok :
    validateSelector cfg tx = .ok () ↔
      ∃ selector ∈ cfg.gasTxAllowedSelectors, tx.selector = some selector := by
  unfold validateSelector
  split
  · rename_i selector found
    rw [refuse_ok, not_not]
    exact ⟨fun allowed => ⟨selector, allowed, found⟩,
      fun ⟨_, allowed, same⟩ => Option.some.inj (found.symm.trans same) ▸ allowed⟩
  · rename_i none
    exact ⟨nofun, fun ⟨_, _, same⟩ => nomatch none.symm.trans same⟩

theorem validateGasTx_ok :
    validateGasTx cfg tx = .ok () ↔ cfg.chainId ≠ 0 ∧ tx.chainId = cfg.chainId ∧
      cfg.gasTxAllowedTo = some tx.destination ∧ validateValue cfg tx = .ok () ∧
      validateFees cfg tx = .ok () ∧ validateSelector cfg tx = .ok () := by
  simp only [validateGasTx, bind_ok, refuse_ok, exists_const, ne_eq, not_not, okOr_ok]
  constructor
  · rintro ⟨pinned, chain, _, allowed, rfl, ⟨⟩, value, ⟨⟩, fees, selector⟩
    exact ⟨pinned, chain, allowed, value, fees, selector⟩
  · rintro ⟨pinned, chain, allowed, value, fees, selector⟩
    exact ⟨pinned, chain, _, allowed, rfl, (), value, (), fees, selector⟩

end Accepted

end EnclaveSigner.Evm.Gas
