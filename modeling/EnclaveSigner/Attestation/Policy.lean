import EnclaveSigner.Error
import EnclaveSigner.Lib.Ascending
import EnclaveSigner.Lib.Reader

/-! # The attested policy

The security posture of an enclave, in the form that the attestation commits to.
The encoding is a version, a kind and, for a production posture, its fields in a
fixed order: fixed-width values, texts behind their length, and optional values
behind a flag. The selectors are sorted and repeat nothing.
-/

namespace EnclaveSigner.Attestation

open Lib Reader

def POLICY_COMMITMENT_V1 : UInt8 := 1

inductive SignerRole where
  | combined
  | mint
  | burn
  deriving DecidableEq, Repr

inductive AttestationMode where
  | mock
  | real
  deriving DecidableEq, Repr

inductive EvmDataSource where
  | disabled
  | rawRpc
  | pinnedTlsRpc
  deriving DecidableEq, Repr

inductive BtcDataSource where
  | spvVerified
  deriving DecidableEq, Repr

inductive BitcoinNetwork where
  | mainnet
  | testnet3
  | signet
  | regtest
  | testnet4
  | signetCustom
  deriving DecidableEq, Repr

structure EvmRpcTlsPin where
  host : String
  caSha256 : Word 32
  deriving DecidableEq

structure KmsPin where
  keyArn : String
  region : String
  seedId : String
  expectedEvmAddress : Option (Word 20)
  deriving DecidableEq

structure ProductionPolicy where
  allowVanillaPsbt : Bool
  signerRole : SignerRole
  attestation : AttestationMode
  evmSource : EvmDataSource
  btcSource : BtcDataSource
  chainId : UInt64
  bitcoinNetwork : BitcoinNetwork
  bridgeContract : Word 20
  rgbAssetId : String
  fundsInContract : Word 20
  evmFinalityTag : EvmFinalityTag
  spvMinConfirmations : UInt32
  electrumHost : String
  evmRpcTls : Option EvmRpcTlsPin
  gasTxAllowedTo : Word 20
  gasTxMaxGasLimit : UInt64
  gasTxMaxFeePerGas : BitVec 128
  gasTxMaxValueWei : BitVec 128
  gasTxAllowedSelectors : List (Word 4)
  tokenContract : Word 20
  kms : Option KmsPin
  clonePeerPcr3 : Option (Word 48)
  deriving DecidableEq

/-- The form of a policy that the attestation commits to. -/
inductive AttestedPolicy where
  | production (policy : ProductionPolicy)
  | development
  deriving DecidableEq

structure PolicyDecodeError where
  reason : String
  deriving DecidableEq, Repr

def PolicyDecodeError.message (error : PolicyDecodeError) : String :=
  s!"cannot decode the attested policy: {error.reason}"

section Discriminants

def SignerRole.toU8 : SignerRole → UInt8
  | combined => 0
  | mint => 1
  | burn => 2

def SignerRole.ofU8? : UInt8 → Option SignerRole
  | 0 => some combined
  | 1 => some mint
  | 2 => some burn
  | _ => none

def AttestationMode.toU8 : AttestationMode → UInt8
  | mock => 0
  | real => 1

def AttestationMode.ofU8? : UInt8 → Option AttestationMode
  | 0 => some mock
  | 1 => some real
  | _ => none

def EvmDataSource.toU8 : EvmDataSource → UInt8
  | disabled => 0
  | rawRpc => 1
  | pinnedTlsRpc => 3

def EvmDataSource.ofU8? : UInt8 → Option EvmDataSource
  | 0 => some disabled
  | 1 => some rawRpc
  | 3 => some pinnedTlsRpc
  | _ => none

def BtcDataSource.toU8 : BtcDataSource → UInt8
  | spvVerified => 1

def BtcDataSource.ofU8? : UInt8 → Option BtcDataSource
  | 1 => some spvVerified
  | _ => none

def BitcoinNetwork.toU8 : BitcoinNetwork → UInt8
  | mainnet => 0
  | testnet3 => 1
  | signet => 2
  | regtest => 3
  | testnet4 => 4
  | signetCustom => 5

def BitcoinNetwork.ofU8? : UInt8 → Option BitcoinNetwork
  | 0 => some mainnet
  | 1 => some testnet3
  | 2 => some signet
  | 3 => some regtest
  | 4 => some testnet4
  | 5 => some signetCustom
  | _ => none

def finalityTagToU8 : EvmFinalityTag → UInt8
  | .latest => 0
  | .safe => 1
  | .finalized => 2

def finalityTagOfU8? : UInt8 → Option EvmFinalityTag
  | 0 => some .latest
  | 1 => some .safe
  | 2 => some .finalized
  | _ => none

end Discriminants

section Writing

def flagByte (flag : Bool) : Bytes := [if flag then 0x01 else 0x00]

def writeString (text : String) : Bytes :=
  (u32Be (UInt32.ofNat (utf8 text).length)).val ++ utf8 text

def EvmRpcTlsPin.write (pin : EvmRpcTlsPin) : Bytes := writeString pin.host ++ pin.caSha256.val

def KmsPin.write (pin : KmsPin) : Bytes :=
  writeString pin.keyArn ++ writeString pin.region ++ writeString pin.seedId ++
    writeOption flagByte (·.val) pin.expectedEvmAddress

def writeSelectors (selectors : List (Word 4)) : Bytes :=
  (u32Be (UInt32.ofNat selectors.length)).val ++ selectors.flatMap (·.val)

def ProductionPolicy.write (policy : ProductionPolicy) : Bytes :=
  List.flatten [
    flagByte policy.allowVanillaPsbt,
    [policy.signerRole.toU8],
    [policy.attestation.toU8],
    [policy.evmSource.toU8],
    [policy.btcSource.toU8],
    natBe 8 policy.chainId.toNat,
    [policy.bitcoinNetwork.toU8],
    policy.bridgeContract.val,
    writeString policy.rgbAssetId,
    policy.fundsInContract.val,
    [finalityTagToU8 policy.evmFinalityTag],
    natBe 4 policy.spvMinConfirmations.toNat,
    writeString policy.electrumHost,
    writeOption flagByte EvmRpcTlsPin.write policy.evmRpcTls,
    policy.gasTxAllowedTo.val,
    natBe 8 policy.gasTxMaxGasLimit.toNat,
    natBe 16 policy.gasTxMaxFeePerGas.toNat,
    natBe 16 policy.gasTxMaxValueWei.toNat,
    -- Sorted and without repetitions, so that the order of the environment does
    -- not change the commitment.
    writeSelectors (sortDedup Word.le policy.gasTxAllowedSelectors),
    policy.tokenContract.val,
    writeOption flagByte KmsPin.write policy.kms,
    writeOption flagByte (·.val) policy.clonePeerPcr3 ]

/-- The version, the kind and the fields. -/
def AttestedPolicy.toBytes : AttestedPolicy → Bytes
  | production policy => POLICY_COMMITMENT_V1 :: 0x01 :: policy.write
  | development => [POLICY_COMMITMENT_V1, 0x00]

/-- What is hashed of a policy where there is no key. -/
def policyPreimage (policy : Bytes) : Bytes := utf8 "utexo/attested-policy/v1" ++ 0 :: policy

def policyCommitment (sha256 : Bytes → Word 32) (policy : Bytes) : Word 32 :=
  sha256 (policyPreimage policy)

end Writing

section Reading

abbrev PolicyReader := Reader PolicyDecodeError

def truncated : PolicyDecodeError := ⟨"truncated"⟩

def u8 : PolicyReader UInt8 := byte truncated

def array (n : Nat) : PolicyReader (Word n) := word truncated n

def flag : PolicyReader Bool :=
  tagged truncated ⟨"unknown presence byte"⟩ fun
    | 0x00 => some false
    | 0x01 => some true
    | _ => none

def len : PolicyReader UInt32 := number truncated 4 UInt32.ofNat

def string : PolicyReader String := do
  let n ← len
  let bytes ← take truncated n.toNat
  okOr (PolicyDecodeError.mk "not UTF-8") (ofUtf8? bytes)

/-- The loop over the selectors. Each must be above the last one read. -/
def selectors : Nat → List (Word 4) → PolicyReader (List (Word 4))
  | 0, before => pure before
  | count + 1, before => do
      let selector ← array 4
      refuse (∃ last ∈ before.getLast?, Word.le selector last)
        (PolicyDecodeError.mk "selectors are not sorted and unique")
      selectors count (before ++ [selector])

def selectorList : PolicyReader (List (Word 4)) := do
  let count ← len
  selectors count.toNat []

def evmRpcTlsPin : PolicyReader EvmRpcTlsPin := do
  let host ← string
  let caSha256 ← array 32
  pure { host, caSha256 }

def kmsPin : PolicyReader KmsPin := do
  let keyArn ← string
  let region ← string
  let seedId ← string
  let expectedEvmAddress ← optional flag (array 20)
  pure { keyArn, region, seedId, expectedEvmAddress }

def productionPolicy : PolicyReader ProductionPolicy := do
  let allowVanillaPsbt ← flag
  let signerRole ← tagged truncated ⟨"unknown signer role"⟩ SignerRole.ofU8?
  let attestation ← tagged truncated ⟨"unknown attestation mode"⟩ AttestationMode.ofU8?
  let evmSource ← tagged truncated ⟨"unknown EVM data source"⟩ EvmDataSource.ofU8?
  let btcSource ← tagged truncated ⟨"unknown BTC data source"⟩ BtcDataSource.ofU8?
  let chainId ← number truncated 8 UInt64.ofNat
  let bitcoinNetwork ← tagged truncated ⟨"unknown Bitcoin network"⟩ BitcoinNetwork.ofU8?
  let bridgeContract ← array 20
  let rgbAssetId ← string
  let fundsInContract ← array 20
  let evmFinalityTag ← tagged truncated ⟨"unknown EVM finality tag"⟩ finalityTagOfU8?
  let spvMinConfirmations ← number truncated 4 UInt32.ofNat
  let electrumHost ← string
  let evmRpcTls ← optional flag evmRpcTlsPin
  let gasTxAllowedTo ← array 20
  let gasTxMaxGasLimit ← number truncated 8 UInt64.ofNat
  let gasTxMaxFeePerGas ← number truncated 16 (BitVec.ofNat 128)
  let gasTxMaxValueWei ← number truncated 16 (BitVec.ofNat 128)
  let gasTxAllowedSelectors ← selectorList
  let tokenContract ← array 20
  let kms ← optional flag kmsPin
  let clonePeerPcr3 ← optional flag (array 48)
  pure {
    allowVanillaPsbt, signerRole, attestation, evmSource, btcSource, chainId, bitcoinNetwork,
    bridgeContract, rgbAssetId, fundsInContract, evmFinalityTag, spvMinConfirmations,
    electrumHost, evmRpcTls, gasTxAllowedTo, gasTxMaxGasLimit, gasTxMaxFeePerGas,
    gasTxMaxValueWei, gasTxAllowedSelectors, tokenContract, kms, clonePeerPcr3 }

def policy : PolicyReader AttestedPolicy := do
  let version ← u8
  refuse (version ≠ POLICY_COMMITMENT_V1) (PolicyDecodeError.mk "unknown policy version")
  match ← u8 with
  | 0x00 => pure .development
  | 0x01 =>
      let production ← productionPolicy
      pure (.production production)
  | _ => throw ⟨"unknown policy kind"⟩

/-- Decode a policy that takes up all of the bytes. -/
def AttestedPolicy.fromBytes (bytes : Bytes) : Except PolicyDecodeError AttestedPolicy := do
  let (policy, rest) ← policy bytes
  refuse (rest ≠ []) ⟨"trailing bytes"⟩
  pure policy

end Reading

end EnclaveSigner.Attestation
