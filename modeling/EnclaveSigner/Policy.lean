import EnclaveSigner.Config

/-! # Security policy

The policy of an enclave as one object, resolved from the build, the pinned
configuration and the launch endpoints. Only a release bridge build with every
pin set is in production. Its commitment form goes into the attestation.
-/

namespace EnclaveSigner.Policy

open Lib
open Attestation (SignerRole AttestationMode EvmDataSource BtcDataSource BitcoinNetwork
  EvmRpcTlsPin KmsPin AttestedPolicy)

def MAINNET_EVM_CHAIN_IDS : List UInt64 := [1, 42161]

def MAX_ENDPOINT_STRING_BYTES : Nat := 2048

structure ProductionPolicy where
  chainId : UInt64
  bitcoinNetwork : BitcoinNetwork
  bridgeContract : Address
  rgbAssetId : String
  fundsInContract : Address
  evmFinalityTag : EvmFinalityTag
  tokenContract : Address
  spvMinConfirmations : UInt32
  btcRelayRequired : Bool
  allowVanillaPsbt : Bool
  signerRole : SignerRole
  attestation : AttestationMode
  evmSource : EvmDataSource
  electrumHost : String
  evmRpcTls : Option EvmRpcTlsPin
  btcSource : BtcDataSource
  gasTxAllowedTo : Option Address
  gasTxMaxGasLimit : UInt64
  gasTxMaxFeePerGas : BitVec 128
  gasTxMaxValueWei : Option (BitVec 128)
  gasTxAllowedSelectors : List (Word 4)
  kms : Option KmsPin
  clonePeerPcr3 : Option (Word 48)
  deriving DecidableEq

inductive DevReason where
  | indexerTrusted
  | debugBuild
  | mockAttestation
  | allowSeedImport
  | nonBridgeBuild
  | unconfigured
  deriving DecidableEq, Repr

/-- The policy of an enclave. -/
inductive SecurityPolicy where
  | production (policy : ProductionPolicy)
  | development (reason : DevReason)
  deriving DecidableEq

structure BuildContext where
  debugOrTest : Bool
  mockAttestation : Bool
  allowSeedImport : Bool
  rgbValidation : Bool
  spv : Bool
  signerRole : SignerRole
  deriving DecidableEq

def BuildContext.indexerTrusted (ctx : BuildContext) : Bool := ctx.rgbValidation && !ctx.spv

/-- What the launch adds. Each text is part of one that `Endpoints::parse` accepted,
    after it had checked the length. -/
structure Launch where
  evmSource : EvmDataSource
  evmRpcTls : Option EvmRpcTlsPin
  electrumHost : String
  kms : Option KmsPin
  electrumHostShort : (utf8 electrumHost).length ≤ MAX_ENDPOINT_STRING_BYTES
  evmRpcTlsShort : ∀ pin ∈ evmRpcTls, (utf8 pin.host).length ≤ MAX_ENDPOINT_STRING_BYTES
  kmsShort : ∀ pin ∈ kms, ∀ text ∈ [pin.keyArn, pin.region, pin.seedId],
    (utf8 text).length ≤ MAX_ENDPOINT_STRING_BYTES

theorem noKms_short : ∀ pin ∈ (none : Option KmsPin),
    ∀ text ∈ [pin.keyArn, pin.region, pin.seedId],
      (utf8 text).length ≤ MAX_ENDPOINT_STRING_BYTES := by
  intro pin member
  cases member

/-- The policy of a release bridge build. A path that the role does not compile is
    attested as off. -/
def productionPolicy (role : SignerRole) (bridge : BridgeConfig) (launch : Launch) :
    ProductionPolicy :=
  let signsPlainBtc := role != .burn
  let signsGasTx := role != .mint
  { chainId := bridge.chainId
    bitcoinNetwork := bridge.bitcoinNetwork
    bridgeContract := bridge.bridgeContract
    rgbAssetId := bridge.rgbAssetId
    fundsInContract := bridge.fundsInContract
    evmFinalityTag := bridge.evmFinalityTag
    tokenContract := bridge.tokenContract
    spvMinConfirmations := bridge.spvMinConfirmations
    btcRelayRequired := bridge.btcRelayMode == .required
    allowVanillaPsbt := signsPlainBtc && bridge.allowsVanillaBtc
    signerRole := role
    attestation := .real
    evmSource := launch.evmSource
    electrumHost := launch.electrumHost
    evmRpcTls := launch.evmRpcTls
    btcSource := .spvVerified
    gasTxAllowedTo := bridge.gasTxAllowedTo.filter fun _ => signsGasTx
    gasTxMaxGasLimit := if signsGasTx then bridge.gasTxMaxGasLimit else 0
    gasTxMaxFeePerGas := if signsGasTx then bridge.gasTxMaxFeePerGas else 0
    gasTxMaxValueWei := bridge.gasTxMaxValueWei.filter fun _ => signsGasTx
    gasTxAllowedSelectors := if signsGasTx then bridge.gasTxAllowedSelectors else []
    kms := none
    clonePeerPcr3 := none }

namespace SecurityPolicy

def resolve (ctx : BuildContext) (bridge : BridgeConfig) (launch : Launch) : SecurityPolicy :=
  if ctx.rgbValidation && ctx.indexerTrusted then
    .development (if bridge.validateIndexerOnly.isOk then .indexerTrusted else .unconfigured)
  else if ctx.mockAttestation then .development .mockAttestation
  else if ctx.allowSeedImport then .development .allowSeedImport
  else if ctx.debugOrTest then .development .debugBuild
  else if !ctx.rgbValidation then .development .nonBridgeBuild
  else if !bridge.isConfigured then .development .unconfigured
  else .production (productionPolicy ctx.signerRole bridge launch)

def withKms (kms : Option KmsPin) : SecurityPolicy → SecurityPolicy
  | production policy => production { policy with kms }
  | development reason => development reason

def withClonePeerPcr3 (readPcr3 : Result (Word 48)) :
    SecurityPolicy → Result SecurityPolicy
  | production policy =>
      if policy.signerRole ≠ .mint then do
        let pcr3 ← readPcr3
        pure (production { policy with clonePeerPcr3 := some pcr3 })
      else .ok (production policy)
  | development reason => .ok (development reason)

/-- The form that the attestation commits to. -/
def attested : SecurityPolicy → AttestedPolicy
  | production p => .production {
      allowVanillaPsbt := p.allowVanillaPsbt
      signerRole := p.signerRole
      attestation := p.attestation
      evmSource := p.evmSource
      btcSource := p.btcSource
      chainId := p.chainId
      bitcoinNetwork := p.bitcoinNetwork
      bridgeContract := p.bridgeContract
      rgbAssetId := p.rgbAssetId
      fundsInContract := p.fundsInContract
      evmFinalityTag := p.evmFinalityTag
      tokenContract := p.tokenContract
      spvMinConfirmations := p.spvMinConfirmations
      electrumHost := p.electrumHost
      evmRpcTls := p.evmRpcTls
      gasTxAllowedTo := p.gasTxAllowedTo.getD (.zero 20)
      gasTxMaxGasLimit := p.gasTxMaxGasLimit
      gasTxMaxFeePerGas := p.gasTxMaxFeePerGas
      gasTxMaxValueWei := p.gasTxMaxValueWei.getD 0
      gasTxAllowedSelectors := p.gasTxAllowedSelectors
      kms := p.kms
      clonePeerPcr3 := p.clonePeerPcr3 }
  | development _ => .development

/-- The bytes of the attested policy. -/
def commitmentBytes (policy : SecurityPolicy) : Bytes := policy.attested.toBytes

theorem resolve_production {ctx : BuildContext} {bridge : BridgeConfig} {launch : Launch}
    {policy : ProductionPolicy} (resolved : resolve ctx bridge launch = .production policy) :
    policy = productionPolicy ctx.signerRole bridge launch := by
  unfold resolve at resolved
  split_ifs at resolved
  exact (SecurityPolicy.production.inj resolved).symm

theorem withClonePeerPcr3_production {policy : ProductionPolicy} {launched : SecurityPolicy}
    {readPcr3 : Result (Word 48)} (clones : policy.signerRole ≠ .mint)
    (read : withClonePeerPcr3 readPcr3 (.production policy) = .ok launched) :
    ∃ pcr3, readPcr3 = .ok pcr3 ∧
      launched = .production { policy with clonePeerPcr3 := some pcr3 } := by
  rw [withClonePeerPcr3, if_pos clones] at read
  obtain ⟨pcr3, own, same⟩ := bind_ok.mp read
  exact ⟨pcr3, own, (Except.ok.inj same).symm⟩

end SecurityPolicy

def networkName : BitcoinNetwork → String
  | .mainnet => "Mainnet"
  | .testnet3 => "Testnet3"
  | .signet => "Signet"
  | .regtest => "Regtest"
  | .testnet4 => "Testnet4"
  | .signetCustom => "SignetCustom"

namespace ProductionPolicy

def checkBuildInvariants (policy : ProductionPolicy) : Except String Unit := do
  refuse (policy.chainId = 0 ∨ policy.bridgeContract = .zero 20 ∨ policy.rgbAssetId = "")
    "production policy is missing one or more of the chain/contract/asset pins"
  refuse (policy.chainId ∈ MAINNET_EVM_CHAIN_IDS ∧ policy.bitcoinNetwork ≠ .mainnet)
    (s!"production policy pins mainnet EVM chain {policy.chainId} with Bitcoin " ++
      s!"{networkName policy.bitcoinNetwork}; a mainnet EVM chain requires " ++
      "BITCOIN_NETWORK=bitcoin")
  refuse (policy.fundsInContract = .zero 20)
    "production policy must pin a non-zero FundsIn contract"
  refuse (policy.tokenContract = .zero 20)
    "production policy must pin a non-zero TOKEN_CONTRACT (burnId preimage input)"
  refuse (policy.evmFinalityTag = .latest)
    "production policy must not accept EVM_FINALITY_TAG=latest; use safe or finalized"
  refuse (policy.spvMinConfirmations = 0)
    "production policy must require at least one Bitcoin confirmation (SPV_MIN_CONFIRMATIONS)"
  refuse (policy.btcRelayRequired = false)
    ("production policy must verify BtcRelay commitments on fundsOut: " ++
      s!"{BTC_RELAY_MODE_ENV}=none is only for a local stand that has no BtcRelay")
  refuse (policy.attestation ≠ .real)
    "production policy must use real (NSM) attestation, not the mock path"
  refuse (policy.btcSource ≠ .spvVerified)
    "production policy must anchor Bitcoin witness txs via the SPV header chain"

def checkClonePeerPcr3 (policy : ProductionPolicy) : Except String Unit :=
  match decide (policy.signerRole ≠ .mint), policy.clonePeerPcr3 with
  | true, some pcr3 => refuse (pcr3 = .zero 48) noRole
  | true, none => .error noRole
  | false, none => .ok ()
  | false, some _ => .error "production policy of a role that does not clone has a PCR3"
where
  noRole := "production policy has no clone-peer PCR3: the parent instance has no IAM role " ++
    "(PCR3 is all zero). Attach the IAM role to the instance before launch."

def checkInvariants (policy : ProductionPolicy) : Except String Unit := do
  policy.checkBuildInvariants
  refuse (policy.electrumHost = "")
    "production policy has no Electrum host. Set it at launch."
  refuse (policy.evmSource = .rawRpc)
    ("production policy reads the EVM RPC over plaintext; plaintext is for dev and test " ++
      "builds only.")
  refuse (policy.evmSource = .pinnedTlsRpc ∧ policy.evmRpcTls = none)
    ("production policy uses the pinned TLS EVM source without a valid pin. Set the EVM RPC " ++
      "host and CA at launch.")
  policy.checkClonePeerPcr3

theorem checkInvariants_pcr3 {policy : ProductionPolicy} {u : Unit} {pcr3 : Word 48}
    (valid : policy.checkInvariants = .ok u) (clones : policy.signerRole ≠ .mint)
    (set : policy.clonePeerPcr3 = some pcr3) : pcr3 ≠ .zero 48 := by
  simp only [checkInvariants, bind_ok] at valid
  obtain ⟨_, -, _, -, _, -, _, -, peers⟩ := valid
  rw [checkClonePeerPcr3, set, decide_eq_true clones] at peers
  exact refuse_ok.mp peers

end ProductionPolicy

def DevReason.name : DevReason → String
  | indexerTrusted => "IndexerTrusted"
  | debugBuild => "DebugBuild"
  | mockAttestation => "MockAttestation"
  | allowSeedImport => "AllowSeedImport"
  | nonBridgeBuild => "NonBridgeBuild"
  | unconfigured => "Unconfigured"

namespace SecurityPolicy

def assertValidForBuild (policy : SecurityPolicy) (ctx : BuildContext) : Except String Unit :=
  if ctx.rgbValidation && ctx.indexerTrusted then
    refuse (policy ≠ .development .indexerTrusted)
      "RGB validation without SPV requires a valid public-signet policy"
  else if ctx.debugOrTest || !ctx.rgbValidation then .ok ()
  else match policy with
    | production policy => policy.checkInvariants
    | development reason => .error
        ("release rgb-validation (bridge-signing) build resolved to a non-production security " ++
          s!"policy ({reason.name}); refusing to boot. A production bridge enclave must pin " ++
          "EVM_CHAIN_ID / EVM_PROXY_CONTRACT_ADDRESS / RGB_ASSET_ID and be built without any dev " ++
          "feature (mock-attestation / allow-seed-import).")

def assertValidAtBoot (policy : SecurityPolicy) (ctx : BuildContext) : Except String Unit :=
  match policy with
  | production pins =>
      if !ctx.debugOrTest && ctx.rgbValidation then pins.checkBuildInvariants
      else policy.assertValidForBuild ctx
  | development _ => policy.assertValidForBuild ctx

end SecurityPolicy

end EnclaveSigner.Policy
