import EnclaveSigner.Error
import EnclaveSigner.Lib.Bytes
import EnclaveSigner.Lib.Checks

/-! # Request messages

The fields of the wire messages that a signer reads. A `bytes` field can have
any length.
-/

namespace EnclaveSigner.Proto

open Lib

structure MerkleProofEntry where
  /-- In display byte order. -/
  txid : Bytes
  blockHeight : UInt32
  txPosition : UInt32
  /-- The siblings from the leaf to the root, in display byte order. -/
  merklePath : List Bytes
  deriving DecidableEq

structure RgbSource where
  assetId : String
  consignment : Bytes
  consignmentHash : Bytes
  merkleProofs : List MerkleProofEntry
  deriving DecidableEq

structure BurnDestination where
  version : UInt32
  destinationChainId : UInt64
  dstEid : UInt32
  recipient : Bytes
  deriving DecidableEq

structure LzReleaseParams where
  dstEid : UInt32
  minAmountLd : UInt64
  recipient : Bytes
  deriving DecidableEq

structure EvmDestination where
  callData : Bytes
  nonce : UInt64
  deadline : UInt64
  chainId : UInt64
  proxyContract : Bytes
  calldataAmount : UInt64
  lzRelease : Option LzReleaseParams
  burnDestination : Option BurnDestination
  deriving DecidableEq

structure EvmSource where
  txHash : Bytes
  eventValid : Bool
  eventFinalized : Bool
  token : Bytes
  recipient : Bytes
  commission : UInt64
  /-- The operation id of the deposit on chain. -/
  fundsInOperationId : Bytes
  deriving DecidableEq

structure RgbDestination where
  operationIdx : UInt64
  psbtBytes : Bytes
  psbtOutputAmount : UInt64
  assetId : String
  consignment : Bytes
  consignmentHash : Bytes
  fascia : Bytes
  parentFascia : Bytes
  deriving DecidableEq

structure MintRequest where
  amount : UInt64
  source : EvmSource
  destination : RgbDestination
  deriving DecidableEq

structure SignRightsRefillRequest where
  psbtBytes : Bytes
  fascia : Bytes
  parentFascia : Bytes
  assetId : String
  deriving DecidableEq

structure SignedPsbtResponse where
  signedPsbt : Bytes
  inputsSigned : UInt32
  deriving DecidableEq

/-- A coloured signing that signs no input is refused. -/
def signedPsbtResponse (signed : Bytes × Nat) : Result SignedPsbtResponse := do
  refuse (signed.2 = 0)
    (.signing ("sign_psbt signed 0 inputs: no PSBT input belongs to this enclave - refusing to " ++
      "return a no-op as a successful signing response"))
  pure { signedPsbt := signed.1, inputsSigned := .ofNat signed.2 }

end EnclaveSigner.Proto
