import EnclaveSigner.Evm.Abi
import EnclaveSigner.Proto

/-! # Burn destination

The 32-byte reason of a burn commits to its payout. A reason that starts with
twelve zeros is the legacy form, an EVM address. Any other reason is the hash of
a record, which the backend has to send.
-/

namespace EnclaveSigner.Evm

open Lib Proto

def VERSION_V1 : UInt32 := 1

def UTEXO_BURN_DESTINATION_V1 : String :=
  "UtexoBurnDestinationV1(uint64 destinationChainId,uint32 dstEid,bytes recipient)"

structure BurnTarget where
  /-- None in the legacy form, where only the pinned chain applies. -/
  destinationChainId : Option UInt64
  /-- None for the direct route. -/
  dstEid : Option UInt32
  recipient : Word 32
  deriving DecidableEq

section

variable (codec : Codec)

/-- What a version 1 record hashes: its type and three words. -/
def recordPreimage (record : BurnDestination) : Bytes :=
  (codec.keccak (utf8 UTEXO_BURN_DESTINATION_V1)).val ++
    ((abiEncodeU256 record.destinationChainId).val ++
      ((abiEncodeU32 record.dstEid).val ++ (codec.keccak record.recipient).val))

def hashV1 (record : BurnDestination) : Word 32 := codec.keccak (recordPreimage codec record)

/-- An address on the direct route, up to one word on the LayerZero route. -/
def recipientLengthOk (record : BurnDestination) : Bool :=
  if record.dstEid = 0 then record.recipient.length == ADDRESS_LEN
  else 1 ≤ record.recipient.length && record.recipient.length ≤ HASH_LEN

def resolveV1 (reason : Word 32) (record : BurnDestination) : Result BurnTarget := do
  refuse (record.destinationChainId = 0)
    (.crossCheck "burn_destination destinationChainId must be > 0")
  refuse (recipientLengthOk record = false)
    (.crossCheck (s!"burn_destination recipient is {record.recipient.length} bytes " ++
      s!"(dstEid {record.dstEid})"))
  let hash := hashV1 codec record
  refuse (hash ≠ reason)
    (.crossCheck (s!"burn_destination hash 0x{hexEncode hash.val} != burn burnReason " ++
      s!"0x{hexEncode reason.val}"))
  pure {
    destinationChainId := some record.destinationChainId
    dstEid := if record.dstEid = 0 then none else some record.dstEid
    recipient := leftPadWord record.recipient }

def isLegacyReason (reason : Word 32) : Bool :=
  reason.val.take (HASH_LEN - ADDRESS_LEN) == List.replicate (HASH_LEN - ADDRESS_LEN) 0

def resolveRecord (reason : Word 32) (record : BurnDestination) :
    Result BurnTarget :=
  if record.version = VERSION_V1 then resolveV1 codec reason record
  else .error (.crossCheck s!"unknown burn_destination version {record.version}")

def resolve (reason : Word 32) (record : Option BurnDestination) :
    Result BurnTarget :=
  if isLegacyReason reason then do
    refuse (record.isSome = true) (.crossCheck "burn_destination sent for a legacy (V0) burn")
    pure { destinationChainId := none, dstEid := none, recipient := reason }
  else do
    let record ← okOr (.crossCheck ("burn commits to a destination hash, but the request has no " ++
      "burn_destination")) record
    resolveRecord codec reason record

end

end EnclaveSigner.Evm
