import EnclaveSigner.Evm.Validation

/-! # Release digests

The EIP-712 digests that the `MultisigProxy` verifies, for both routes. Strings
and byte strings enter a struct hash through their own hash.
-/

namespace EnclaveSigner.Evm

open Lib Proto

def DOMAIN_TYPE_HASH_STR : String :=
  "EIP712Domain(string name,string version,uint256 chainId,address verifyingContract)"

def TEE_FUNDS_OUT_TYPE_HASH_STR : String :=
  "TeeFundsOut(address recipient,uint256 amount,uint256 burnId,uint256 sourceChainId," ++
    "uint256 destinationChainId,string sourceAddress,bytes proof,bytes settlementData," ++
    "bytes32 sourceBurnTxId,uint256 nonce,uint256 deadline)"

def TEE_LZ_FUNDS_OUT_TYPE_HASH_STR : String :=
  "TeeLzFundsOut(uint256 amount,uint256 burnId,uint256 sourceChainId," ++
    "uint256 destinationChainId,string sourceAddress,bytes proof,bytes settlementData," ++
    "uint32 dstEid,bytes32 recipient,uint256 minAmountLD,bytes extraOptions," ++
    "bytes32 sourceBurnTxId,uint256 nonce,uint256 deadline)"

structure Eip712Domain where
  name : String
  version : String
  chainId : UInt64
  verifyingContract : Address
  deriving DecidableEq

section

variable (codec : Codec)

def textHash (text : String) : Word 32 := codec.keccak (utf8 text)

def words (parts : List (Word 32)) : Bytes := parts.flatMap Subtype.val

def Eip712Domain.separatorData (domain : Eip712Domain) : Bytes :=
  words [
    textHash codec DOMAIN_TYPE_HASH_STR,
    textHash codec domain.name,
    textHash codec domain.version,
    abiEncodeU256 domain.chainId,
    abiEncodeAddress domain.verifyingContract]

def Eip712Domain.separatorHash (domain : Eip712Domain) : Word 32 :=
  codec.keccak (domain.separatorData codec)

def buildEvmDomain (req : EvmDestination) : Result Eip712Domain := do
  refuse (req.chainId = 0) (.crossCheck "chain_id must be > 0")
  let verifyingContract ← okOr (.crossCheck (s!"proxy_contract must be {ADDRESS_LEN} bytes, got " ++
      s!"{req.proxyContract.length}")) (Word.ofBytes? 20 req.proxyContract)
  pure { name := "MultisigProxy", version := "1", chainId := req.chainId, verifyingContract }

def digestData (domain : Eip712Domain) (structHash : Word 32) : Bytes :=
  [0x19, 0x01] ++ ((domain.separatorHash codec).val ++ structHash.val)

def eip712Digest (domain : Eip712Domain) (structHash : Word 32) : Word 32 :=
  codec.keccak (digestData codec domain structHash)

def fundsOutStructData (params : FundsOutParams) (nonce deadline : UInt64) : Bytes :=
  words [
    textHash codec TEE_FUNDS_OUT_TYPE_HASH_STR,
    abiEncodeAddress params.recipient,
    u256Be params.amount,
    u256Be params.burnId,
    u256Be params.sourceChainId,
    u256Be params.destinationChainId,
    textHash codec params.sourceAddress,
    codec.keccak params.proof,
    codec.keccak params.settlementData,
    params.sourceBurnTxId,
    abiEncodeU256 nonce,
    abiEncodeU256 deadline]

def fundsOutStructHash (params : FundsOutParams) (nonce deadline : UInt64) : Word 32 :=
  codec.keccak (fundsOutStructData codec params nonce deadline)

def fundsOutDigest (domain : Eip712Domain) (params : FundsOutParams) (nonce deadline : UInt64) :
    Word 32 :=
  eip712Digest codec domain (fundsOutStructHash codec params nonce deadline)

def lzFundsOutStructData (params : LzFundsOutCall) (nonce deadline : UInt64) : Bytes :=
  words [
    textHash codec TEE_LZ_FUNDS_OUT_TYPE_HASH_STR,
    u256Be params.amount,
    u256Be params.burnId,
    u256Be params.sourceChainId,
    u256Be params.destinationChainId,
    textHash codec params.sourceAddress,
    codec.keccak params.proof,
    codec.keccak params.settlementData,
    abiEncodeU32 params.dstEid,
    params.recipient,
    u256Be params.minAmountLD,
    codec.keccak params.extraOptions,
    params.sourceBurnTxId,
    abiEncodeU256 nonce,
    abiEncodeU256 deadline]

def lzFundsOutStructHash (params : LzFundsOutCall) (nonce deadline : UInt64) : Word 32 :=
  codec.keccak (lzFundsOutStructData codec params nonce deadline)

/-- The LayerZero fields of the request must match the decoded calldata. -/
def lzFundsOutDigest (domain : Eip712Domain) (callData : Bytes) (lzRelease : LzReleaseParams)
    (nonce deadline : UInt64) : Result (Word 32) := do
  refuse (callData.length < 4)
    (.crossCheck s!"lzFundsOut call_data must be at least 4 bytes, got {callData.length}")
  let params ← decodeLzFundsOutParams codec callData
  refuse (lzRelease.dstEid ≠ params.dstEid)
    (.crossCheck (s!"lz_release.dst_eid {lzRelease.dstEid} != calldata dstEid " ++
      s!"{params.dstEid}"))
  refuse (lzRelease.recipient ≠ params.recipient.val)
    (.crossCheck "lz_release.recipient does not match calldata recipient")
  let minAmountLd ← okOr (.crossCheck "lzFundsOut minAmountLD exceeds u64 range")
    (u64OfU256 params.minAmountLD)
  refuse (lzRelease.minAmountLd ≠ minAmountLd)
    (.crossCheck (s!"lz_release.min_amount_ld {lzRelease.minAmountLd} != calldata minAmountLD " ++
      s!"{minAmountLd}"))
  pure (eip712Digest codec domain (lzFundsOutStructHash codec params nonce deadline))

end

end EnclaveSigner.Evm
