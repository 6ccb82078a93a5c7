import EnclaveSigner.Evm.Abi
import EnclaveSigner.Lib.MachineInt
import EnclaveSigner.Rgb.Consignment

/-! # Deposits on the EVM chain

The enclave reads the receipt of a deposit from its pinned node and looks for
the logs that authorise a mint. The node is a state that may change from one
read to the next. The head of the configured tag is read first, and again after
the receipt, so that a reorg between the reads is seen.
-/

namespace EnclaveSigner.Evm

open Lib Rgb

structure LogEntry where
  address : Address
  topics : List (Word 32)
  data : Bytes
  deriving DecidableEq

structure ReceiptData where
  statusSuccess : Bool
  blockNumber : UInt64
  blockHash : Word 32
  logs : List LogEntry
  deriving DecidableEq

structure BlockData where
  number : UInt64
  hash : Word 32
  deriving DecidableEq

/-- What the enclave reads from a node whose state is `ν`. A node without
    `call` refuses it. -/
structure EvmReceiptProvider (ν : Type) where
  getTransactionReceipt : Word 32 → EStateM EnclaveError ν (Option ReceiptData)
  getBlockByTag : EvmFinalityTag → EStateM EnclaveError ν (Option BlockData)
  getBlockByNumber : UInt64 → EStateM EnclaveError ν (Option BlockData)
  getChainId : EStateM EnclaveError ν UInt64
  call : Address → Bytes → UInt64 → EStateM EnclaveError ν Bytes := fun _ _ _ =>
    throw (.crossCheck "evm-rpc: this provider makes no eth_call - refusing to sign")

/-- A number of 32 bytes at an offset, where it fits into 64 bits. -/
def extractUint256AsU64 (data : Bytes) (offset : Nat) : Result UInt64 := do
  let last := offset + 32
  refuse (data.length < last)
    (.crossCheck s!"call_data too short: need {last} bytes, got {data.length}")
  let slot := (data.drop offset).take 32
  refuse ((slot.take 24).any (· != 0) = true) (.crossCheck "uint256 value exceeds u64 range")
  pure (UInt64.ofNat (ofBe (slot.drop 24)))

def BRIDGE_FUNDS_IN_SIG : String :=
  "BridgeFundsIn(bytes32,bytes32,address,uint256,uint256," ++
    "uint256,uint256,uint256,uint256,uint256,string,bytes)"

def BFI_OPERATION_ID_TOPIC : Nat := 1

def BFI_AMOUNT_OFF : Nat := 32

def BFI_NET_AMOUNT_OFF : Nat := 64

def BFI_TOKEN_COMMISSION_OFF : Nat := 96

def BFI_DEST_CHAIN_ID_OFF : Nat := 192

def BFI_DEST_ADDRESS_HEAD_OFF : Nat := 224

def BFI_MAX_DEST_ADDRESS_LEN : Nat := 2048

def BFI_MIN_DATA_LEN : Nat := 9 * 32

def FUNDS_IN_SIG : String := "FundsIn(address,uint256,uint64)"

def FUNDS_IN_LOCK_ID_TOPIC : Nat := 2

def eventTopic0 (codec : Codec) (sig : String) : Word 32 := codec.keccak (utf8 sig)

def decodeU64Word (data : Bytes) (offset : Nat) (field : String) : Result UInt64 :=
  (extractUint256AsU64 data offset).mapError fun e =>
    .crossCheck (s!"FundsIn {field}: {e.message} (the proto carries this field as u64; a larger " ++
      "on-chain value is rejected, never truncated)")

def abiStringError (field reason : String) : EnclaveError :=
  .crossCheck s!"BridgeFundsIn {field}: {reason}"

/-- The dynamic string whose head word is at `headOff`. A word fits into the
    address width of the target, so only sums of offsets can leave it. -/
def decodeAbiString (data : Bytes) (headOff : Nat) (field : String) :
    Result String := do
  let offset ← (extractUint256AsU64 data headOff).mapError (abiStringError field ·.message)
  refuse (2 ^ 64 ≤ offset.toNat + 32) (abiStringError field "tail offset overflow")
  let lenOff := offset.toNat + 32
  refuse (lenOff > data.length)
    (abiStringError field
      s!"tail offset {offset} is past the {data.length} bytes of log data")
  let len ← (extractUint256AsU64 data offset.toNat).mapError (abiStringError field ·.message)
  refuse (len.toNat > BFI_MAX_DEST_ADDRESS_LEN)
    (abiStringError field s!"tail length {len} exceeds the {BFI_MAX_DEST_ADDRESS_LEN}-byte cap")
  refuse (2 ^ 64 ≤ lenOff + len.toNat) (abiStringError field "tail length overflow")
  refuse (lenOff + len.toNat > data.length)
    (abiStringError field
      s!"tail claims {len} bytes at {lenOff} but the log data is {data.length} bytes")
  okOr (abiStringError field "tail is not valid UTF-8")
    (String.fromUTF8? ⟨((data.drop lenOff).take len.toNat).toArray⟩)

structure BridgeFundsInRecord where
  operationId : Word 32
  gross : UInt64
  net : UInt64
  commission : UInt64
  destChainId : UInt64
  destinationAddress : String
  deriving DecidableEq

def decodeBridgeFundsIn (log : LogEntry) : Result BridgeFundsInRecord := do
  let operationId ← okOr (.crossCheck (s!"BridgeFundsIn log has {log.topics.length} topic(s); " ++
      s!"operationId is expected in topic{BFI_OPERATION_ID_TOPIC}"))
    log.topics[BFI_OPERATION_ID_TOPIC]?
  refuse (log.data.length < BFI_MIN_DATA_LEN)
    (.crossCheck (s!"BridgeFundsIn data too short: {log.data.length} bytes (need " ++
      s!"{BFI_MIN_DATA_LEN})"))
  let gross ← decodeU64Word log.data BFI_AMOUNT_OFF "amount"
  let net ← decodeU64Word log.data BFI_NET_AMOUNT_OFF "netAmount"
  let commission ← decodeU64Word log.data BFI_TOKEN_COMMISSION_OFF "tokenCommission"
  let destChainId ← decodeU64Word log.data BFI_DEST_CHAIN_ID_OFF "destinationChainId"
  let destinationAddress ←
    decodeAbiString log.data BFI_DEST_ADDRESS_HEAD_OFF "destinationAddress"
  pure { operationId, gross, net, commission, destChainId, destinationAddress }

def selectUniqueLog (receipt : ReceiptData) (emitter : Address) (topic0 : Word 32)
    (idTopic : Nat) (id : Word 32) (data : Option Bytes) (event : String)
    (evmTxHash : Word 32) : Result LogEntry := do
  let candidates := receipt.logs.filter fun log =>
    log.address == emitter && log.topics.head? == some topic0 &&
      log.topics[idTopic]? == some id && data.all (log.data == ·)
  refuse (candidates.length > 1)
    (.crossCheck (s!"ambiguous: multiple {event} logs with topic{idTopic} " ++
      s!"0x{hexEncode id.val} from bridge contract 0x{hexEncode emitter.val} in tx " ++
      s!"0x{hexEncode evmTxHash.val} - refusing to guess which authorises this release"))
  okOr (.crossCheck (s!"no {event} log with topic{idTopic} 0x{hexEncode id.val} from bridge " ++
      s!"contract 0x{hexEncode emitter.val} in tx 0x{hexEncode evmTxHash.val}"))
    candidates.head?

def decodeFundsIn (codec : Codec) (log : LogEntry) (expectedLockId : Word 32) :
    Result UInt64 := do
  refuse (log.topics.head? ≠ some (eventTopic0 codec FUNDS_IN_SIG))
    (.crossCheck "log is not a FundsIn event")
  refuse (log.topics.length ≠ 3 ∨ log.data.length ≠ 32)
    (.crossCheck "unexpected FundsIn event layout")
  let lockId := log.topics.getD FUNDS_IN_LOCK_ID_TOPIC (Word.zero 32)
  let amount ← extractUint256AsU64 log.data 0
  refuse (lockId ≠ expectedLockId)
    (.crossCheck (s!"FundsIn lockId mismatch: on-chain 0x{hexEncode lockId.val} != the mint's " ++
      s!"0x{hexEncode expectedLockId.val}"))
  pure amount

section Reads

variable {ν : Type} (provider : EvmReceiptProvider ν) (codec : Codec)

def fetchSuccessfulReceipt (evmTxHash : Word 32) : EStateM EnclaveError ν ReceiptData := do
  let found ← provider.getTransactionReceipt evmTxHash
  let receipt ← okOr (EnclaveError.crossCheck (s!"FundsIn receipt not found for tx " ++
      s!"0x{hexEncode evmTxHash.val} (not mined, or host withheld it) - refusing to sign")) found
  refuse (receipt.statusSuccess = false)
    (EnclaveError.crossCheck
      s!"FundsIn tx 0x{hexEncode evmTxHash.val} reverted (receipt status != success)")
  pure receipt

def fetchFinalityBlock (tag : EvmFinalityTag) : EStateM EnclaveError ν BlockData := do
  let found ← provider.getBlockByTag tag
  okOr (EnclaveError.crossCheck
    s!"FundsIn {tag.asStr} block unavailable from RPC - refusing to sign") found

/-- A receipt above the head is refused, and may be tried again for a head that
    only moves on. -/
def checkBelowHead (tag : EvmFinalityTag) (head : BlockData) (receipt : ReceiptData) :
    Result Unit :=
  match tag with
  | .latest =>
      refuse (receipt.blockNumber > head.number)
        (.crossCheck (s!"FundsIn receipt block {receipt.blockNumber} is above RPC {tag.asStr} " ++
          s!"block {head.number} - refusing to sign"))
  | .safe | .finalized =>
      refuse (receipt.blockNumber > head.number)
        (.evmFinalityPending receipt.blockNumber tag head.number)

def checkFinalityInclusion (tag : EvmFinalityTag) (head : BlockData) (receipt : ReceiptData) :
    EStateM EnclaveError ν Unit := do
  checkBelowHead tag head receipt
  let found ← provider.getBlockByNumber receipt.blockNumber
  let canonical ← okOr (EnclaveError.crossCheck
    s!"FundsIn canonical block {receipt.blockNumber} unavailable from RPC - refusing to sign")
    found
  refuse (canonical.number ≠ receipt.blockNumber)
    (EnclaveError.crossCheck (s!"FundsIn canonical block number mismatch: RPC returned " ++
      s!"{canonical.number} for requested {receipt.blockNumber} - refusing to sign"))
  refuse (canonical.hash ≠ receipt.blockHash)
    (EnclaveError.crossCheck (s!"FundsIn receipt block hash does not match canonical block " ++
      s!"{receipt.blockNumber} (reorg?) - refusing to sign"))
  refuse (receipt.blockNumber = head.number ∧ receipt.blockHash ≠ head.hash)
    (EnclaveError.crossCheck (s!"FundsIn receipt block hash does not match {tag.asStr} block " ++
      "snapshot (reorg?) - refusing to sign"))

/-- The block at the height of the first head: the new head itself while it has
    not moved, and the canonical block otherwise. -/
def originalBlock (tag : EvmFinalityTag) (initial current : BlockData) :
    EStateM EnclaveError ν BlockData :=
  if current.number = initial.number then pure current
  else do
    let found ← provider.getBlockByNumber initial.number
    okOr (EnclaveError.crossCheck (s!"FundsIn original {tag.asStr} block {initial.number} " ++
      "unavailable from RPC - refusing to sign")) found

def checkFinalitySnapshot (tag : EvmFinalityTag) (initial : BlockData) :
    EStateM EnclaveError ν Unit := do
  let current ← fetchFinalityBlock provider tag
  refuse (current.number < initial.number)
    (EnclaveError.crossCheck (s!"FundsIn {tag.asStr} block regressed from {initial.number} to " ++
      s!"{current.number} during verification (reorg?) - refusing to sign"))
  let original ← originalBlock provider tag initial current
  refuse (original ≠ initial)
    (EnclaveError.crossCheck (s!"FundsIn {tag.asStr} block snapshot changed during verification " ++
      "(reorg?) - refusing to sign"))

def checkEq (field : String) (got want : UInt64) : Result Unit :=
  refuse (got ≠ want)
    (.crossCheck s!"FundsIn {field} mismatch: on-chain {got} != request {want}")

/-- The credited amount is at most what the deposit leaves after the commission. -/
def checkNet (record : BridgeFundsInRecord) : Result Unit := do
  let maxNet ← okOr (.crossCheck (s!"BridgeFundsIn commission ({record.commission}) exceeds " ++
    s!"gross amount ({record.gross})")) (checkedSub64 record.gross record.commission)
  refuse (record.net > maxNet)
    (.crossCheck (s!"BridgeFundsIn netAmount ({record.net}) exceeds gross - commission " ++
      s!"({maxNet}) - refusing to sign a release for more than the deposit backs"))

structure VerifiedFundsIn where
  destinationAddress : String
  deriving DecidableEq

/-- The deposit of a mint: one log with the operation id and the amounts. -/
def verifyFundsInEvent (bridgeContract : Address) (finalityTag : EvmFinalityTag)
    (evmTxHash : Word 32) (expectedOperationId : Bytes)
    (expectedGrossAmount expectedCommission : UInt64) :
    EStateM EnclaveError ν VerifiedFundsIn := do
  let expectedId ← okOr (EnclaveError.crossCheck (s!"FundsIn expected operationId must be " ++
    "exactly 32 bytes (the contract-derived BridgeFundsIn.operationId from indexed topic1), " ++
    s!"got {expectedOperationId.length}")) (Word.ofBytes? 32 expectedOperationId)
  let head ← fetchFinalityBlock provider finalityTag
  let receipt ← fetchSuccessfulReceipt provider evmTxHash
  let log ← selectUniqueLog receipt bridgeContract (eventTopic0 codec BRIDGE_FUNDS_IN_SIG)
    BFI_OPERATION_ID_TOPIC expectedId none "BridgeFundsIn" evmTxHash
  let record ← decodeBridgeFundsIn log
  refuse (expectedId ≠ record.operationId)
    (EnclaveError.crossCheck (s!"FundsIn operationId mismatch: on-chain " ++
      s!"0x{hexEncode record.operationId.val} != request 0x{hexEncode expectedOperationId}"))
  checkEq "amount" record.gross expectedGrossAmount
  checkEq "tokenCommission" record.commission expectedCommission
  checkNet record
  checkFinalityInclusion provider finalityTag head receipt
  checkFinalitySnapshot provider finalityTag head
  pure { destinationAddress := record.destinationAddress }

/-- The lock of a mint claim, in a block below the tagged head. -/
def verifyRgbFundsIn (fundsInContract : Address) (finalityTag : EvmFinalityTag)
    (evmTxHash lockId operationId : Word 32) (minted beforeBlock : UInt64) :
    EStateM EnclaveError ν VerifiedLock := do
  let head ← fetchFinalityBlock provider finalityTag
  let receipt ← fetchSuccessfulReceipt provider evmTxHash
  let log ← selectUniqueLog receipt fundsInContract (eventTopic0 codec FUNDS_IN_SIG)
    FUNDS_IN_LOCK_ID_TOPIC lockId (some (abiEncodeU256 minted).val) "FundsIn" evmTxHash
  let minted ← decodeFundsIn codec log lockId
  let bridgeLog ← selectUniqueLog receipt fundsInContract (eventTopic0 codec BRIDGE_FUNDS_IN_SIG)
    BFI_OPERATION_ID_TOPIC operationId none "BridgeFundsIn" evmTxHash
  let record ← decodeBridgeFundsIn bridgeLog
  refuse (record.destChainId ≠ RGB_CHAIN_ID)
    (EnclaveError.crossCheck (s!"BridgeFundsIn destinationChainId {record.destChainId} != RGB " ++
      s!"network id {RGB_CHAIN_ID}"))
  refuse (receipt.blockNumber ≥ beforeBlock)
    (EnclaveError.crossCheck (s!"FundsIn block {receipt.blockNumber} is not before the mint's " ++
      s!"beforeBlock {beforeBlock} - an RGB receiver refuses this lock, refusing to sign"))
  checkFinalityInclusion provider finalityTag head receipt
  checkFinalitySnapshot provider finalityTag head
  pure { lockId, minted, operationId := record.operationId, netAmount := record.net }

def checkNodeChainId (pinned : UInt64) : EStateM EnclaveError ν UInt64 := do
  let node ← provider.getChainId
  refuse (node ≠ pinned)
    (EnclaveError.crossCheck (s!"EVM RPC node reports chain id {node}, but this enclave is " ++
      s!"pinned to EVM_CHAIN_ID {pinned} - refusing to read deposits from another chain"))
  pure node

end Reads

section DepositId

variable (codec : Codec) (cfg : BridgeConfig)

def RGB_MINT_DEPOSIT_TYPEHASH_STR : String :=
  "UtexoRgbMintDeposit(address bridge,uint256 chainId," ++
    "address token,uint256 rgbNetwork,uint256 rgbOpId,uint256 netAmount)"

def mintDepositPreimage (lockId : Word 32) (minted : UInt64) : Bytes :=
  (codec.keccak (utf8 RGB_MINT_DEPOSIT_TYPEHASH_STR)).val ++
    ((abiEncodeAddress cfg.fundsInContract).val ++ ((abiEncodeU256 cfg.chainId).val ++
      ((abiEncodeAddress cfg.tokenContract).val ++ ((abiEncodeU256 RGB_CHAIN_ID).val ++
        (lockId.val ++ (abiEncodeU256 minted).val)))))

def rgbMintDepositId (lockId : Word 32) (minted : UInt64) : Result (Word 32) := do
  refuse (cfg.tokenContract = Word.zero 20 ∨ cfg.chainId = 0)
    (.crossCheck ("TOKEN_CONTRACT and EVM_CHAIN_ID must be pinned to derive a mint's deposit id " ++
      "- refusing to sign"))
  refuse (minted = 0)
    (.crossCheck (s!"BFA mint of lockId 0x{hexEncode lockId.val} mints nothing, so no deposit " ++
      "can back it"))
  pure (codec.keccak (mintDepositPreimage codec cfg lockId minted))

def derivedLock (lockId : Word 32) (minted : UInt64) : Result VerifiedLock := do
  let operationId ← rgbMintDepositId codec cfg lockId minted
  pure { lockId, minted, operationId, netAmount := minted }

variable {codec cfg}

theorem mintDepositPreimage_inj {lockId lockId' : Word 32} {minted minted' : UInt64}
    (same : mintDepositPreimage codec cfg lockId minted
      = mintDepositPreimage codec cfg lockId' minted') : lockId = lockId' ∧ minted = minted' := by
  have rest := List.append_cancel_left same
  have rest := List.append_cancel_left rest
  have rest := List.append_cancel_left rest
  have rest := List.append_cancel_left rest
  have rest := List.append_cancel_left rest
  obtain ⟨lock, amount⟩ := append_parts rest
  exact ⟨lock, abiEncodeU256_injective (Subtype.ext amount)⟩

theorem derivedLock_ok {lockId : Word 32} {minted : UInt64} {lock : VerifiedLock}
    (derived : derivedLock codec cfg lockId minted = .ok lock) :
    lock.operationId = codec.keccak (mintDepositPreimage codec cfg lockId minted) := by
  simp only [derivedLock, rgbMintDepositId, bind_ok] at derived
  obtain ⟨operationId, ⟨_, -, _, -, hashed⟩, same⟩ := derived
  cases hashed
  cases same
  rfl

end DepositId

end EnclaveSigner.Evm
