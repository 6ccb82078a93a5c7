import EnclaveSigner.Attestation.Policy
import EnclaveSigner.Spv.Types

/-! # Pinned configuration

The values that an operator pins in the image. An address of zeros and a chain
id of zero mean that nothing is pinned.
-/

namespace EnclaveSigner

open Lib

abbrev Address := Word 20

/-- What the commitment words of a release proof are compared to. -/
inductive BtcRelayMode where
  | required
  | none
  deriving DecidableEq, Repr

def BTC_RELAY_MODE_ENV : String := "BTC_RELAY_MODE"

def DEFAULT_MAX_CONSIGNMENT_BYTES : Nat := 10 * 1024 * 1024

def DEFAULT_MAX_MERKLE_PROOFS : Nat := 16384

def DEFAULT_MAX_TOTAL_PROOF_BYTES : Nat := 8 * 1024 * 1024

def DEFAULT_SPV_MIN_CONFIRMATIONS : UInt32 := 3

def DEFAULT_MINT_WITNESS_SAT : UInt64 := 1500

/-- The pins of the image, with the defaults for what is unset. -/
structure BridgeConfig where
  chainId : UInt64 := 0
  /-- The `MultisigProxy`, which verifies the signatures. -/
  bridgeContract : Address := .zero 20
  rgbAssetId : String := ""
  /-- The Bridge, which emits the deposit events and derives the burn ids. -/
  fundsInContract : Address := .zero 20
  evmFinalityTag : EvmFinalityTag := .finalized
  tokenContract : Address := .zero 20
  btcRelayMode : BtcRelayMode := .required
  maxConsignmentBytes : Nat := DEFAULT_MAX_CONSIGNMENT_BYTES
  maxMerkleProofs : Nat := DEFAULT_MAX_MERKLE_PROOFS
  maxTotalProofBytes : Nat := DEFAULT_MAX_TOTAL_PROOF_BYTES
  spvMinConfirmations : UInt32 := DEFAULT_SPV_MIN_CONFIRMATIONS
  /-- The only destination of a gas transaction. Without one none is signed. -/
  gasTxAllowedTo : Option Address := none
  /-- Zero means unset here and in the next field. -/
  gasTxMaxGasLimit : UInt64 := 0
  gasTxMaxFeePerGas : BitVec 128 := 0
  gasTxAllowedSelectors : List (Word 4) := []
  gasTxMaxValueWei : Option (BitVec 128) := none
  /-- The limits of a plain-BTC transaction. Zero means unset. -/
  btcMaxTotalSats : UInt64 := 0
  btcMaxUnownedSats : UInt64 := 0
  bitcoinNetwork : Attestation.BitcoinNetwork := .mainnet
  /-- What a witness mint pays to the output of its recipient. -/
  mintWitnessSat : UInt64 := DEFAULT_MINT_WITNESS_SAT
  /-- The hash of the endpoints that an image which trusts its indexer takes. -/
  endpointsSha256 : Option (Word 32) := none
  /-- The accounts that a KMS key may live in. -/
  kmsAllowedAccounts : List String := []
  deriving DecidableEq

def BridgeConfig.isConfigured (cfg : BridgeConfig) : Bool :=
  cfg.chainId != 0 && cfg.bridgeContract != .zero 20 && cfg.rgbAssetId != ""

def BridgeConfig.validateIndexerOnly (cfg : BridgeConfig) : Except String Unit := do
  refuse (cfg.bitcoinNetwork ≠ .signet)
    "RGB validation without SPV requires BITCOIN_NETWORK=signet (public signet)"
  refuse (cfg.btcRelayMode ≠ .none) "RGB validation without SPV requires BTC_RELAY_MODE=none"
  refuse (cfg.spvMinConfirmations = 0)
    "indexer-trusted validation requires at least one Bitcoin confirmation"
  refuse (cfg.endpointsSha256 = none ∨ cfg.endpointsSha256 = some (.zero 32))
    "RGB validation without SPV requires a nonzero ENDPOINTS_SHA256 pin"
  refuse (cfg.isConfigured = false ∨ cfg.fundsInContract = .zero 20 ∨
      cfg.tokenContract = .zero 20)
    ("RGB validation without SPV requires EVM_CHAIN_ID, EVM_PROXY_CONTRACT_ADDRESS, " ++
      "RGB_ASSET_ID, FUNDS_IN_CONTRACT and TOKEN_CONTRACT pins")

def BridgeConfig.allowsVanillaBtc (cfg : BridgeConfig) : Bool := cfg.btcMaxTotalSats != 0

end EnclaveSigner
