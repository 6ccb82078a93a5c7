import EnclaveSigner.Attestation.PolicyEncoding
import EnclaveSigner.Config.FromEnv
import EnclaveSigner.Evm.GasAccepts
import EnclaveSigner.Evm.Validation
import EnclaveSigner.Policy

/-! # The attested policy and what is enforced

Two production enclaves with one attested policy enforce the same rules, except
that the attested policy does not tell an unset gas destination from the zero
address.
-/

namespace EnclaveSigner.Policy

open Lib Evm SecurityPolicy

/-- The pins of the policy are those of the configuration. -/
structure HoldsPins (policy : ProductionPolicy) (config : BridgeConfig) : Prop where
  chainId : policy.chainId = config.chainId
  bridgeContract : policy.bridgeContract = config.bridgeContract
  rgbAssetId : policy.rgbAssetId = config.rgbAssetId
  fundsInContract : policy.fundsInContract = config.fundsInContract
  tokenContract : policy.tokenContract = config.tokenContract
  gasTxAllowedTo : policy.gasTxAllowedTo = config.gasTxAllowedTo
  gasTxMaxGasLimit : policy.gasTxMaxGasLimit = config.gasTxMaxGasLimit
  gasTxMaxFeePerGas : policy.gasTxMaxFeePerGas = config.gasTxMaxFeePerGas
  gasTxMaxValueWei : policy.gasTxMaxValueWei = config.gasTxMaxValueWei
  gasTxAllowedSelectors : policy.gasTxAllowedSelectors = config.gasTxAllowedSelectors

theorem productionPolicy_fits {env : Env} {config : BridgeConfig}
    (fromEnv : BridgeConfig.fromEnv env = .ok config) (role : Attestation.SignerRole)
    (launch : Launch) (clonePeerPcr3 : Option (Word 48)) :
    (SecurityPolicy.production { productionPolicy role config launch with
      kms := launch.kms, clonePeerPcr3 }).attested.Fits := by
  obtain ⟨asset, selectors⟩ := BridgeConfig.fromEnv_short fromEnv
  have fits : ∀ {len : Nat}, len ≤ MAX_ENDPOINT_STRING_BYTES → len < 2 ^ 32 :=
    fun short => Nat.lt_of_le_of_lt short (by decide)
  refine ⟨asset, fits launch.electrumHostShort,
    fun pin pinned => fits (launch.evmRpcTlsShort pin pinned), ?_, fun pin pinned => ?_⟩
  · change (if role != .mint then config.gasTxAllowedSelectors else []).length < 2 ^ 32
    split
    · exact selectors
    · decide
  · have short := launch.kmsShort pin pinned
    exact ⟨fits (short _ (by simp)), fits (short _ (by simp)), fits (short _ (by simp))⟩

/-- A launched production enclave of a role that signs gas transactions. -/
structure GasSigner where
  env : Env
  config : BridgeConfig
  build : BuildContext
  launch : Launch
  /-- What the device answers for PCR3. -/
  readPcr3 : Result (Word 48)
  policy : ProductionPolicy
  fromEnv : BridgeConfig.fromEnv env = .ok config
  resolved : ((SecurityPolicy.resolve build config launch).withKms launch.kms).withClonePeerPcr3
    readPcr3 = .ok (.production policy)
  valid : policy.checkInvariants = .ok ()
  signsGasTx : build.signerRole ≠ .mint

namespace GasSigner

/-- The bytes of the attested policy of the signer. -/
def commitmentBytes (signer : GasSigner) : Bytes :=
  (SecurityPolicy.production signer.policy).commitmentBytes

theorem policy_eq (signer : GasSigner) : ∃ pcr3,
    signer.policy = { productionPolicy signer.build.signerRole signer.config signer.launch with
      kms := signer.launch.kms, clonePeerPcr3 := some pcr3 } := by
  have launched := signer.resolved
  cases resolved : SecurityPolicy.resolve signer.build signer.config signer.launch with
  | development reason => rw [resolved] at launched; cases launched
  | production policy =>
      obtain rfl := resolve_production resolved
      rw [resolved, SecurityPolicy.withKms] at launched
      obtain ⟨pcr3, -, same⟩ :=
        withClonePeerPcr3_production signer.signsGasTx launched
      exact ⟨pcr3, SecurityPolicy.production.inj same⟩

theorem holdsPins (signer : GasSigner) : HoldsPins signer.policy signer.config := by
  obtain ⟨pcr3, policy⟩ := signer.policy_eq
  have signsGasTx : (signer.build.signerRole != .mint) = true := bne_iff_ne.mpr signer.signsGasTx
  have kept : ∀ {α : Type} (pin : Option α), pin.filter (fun _ => true) = pin := by
    intro α pin
    cases pin <;> rfl
  constructor <;> simp only [policy, productionPolicy, signsGasTx, kept, if_true]

theorem chainId_ne_zero (signer : GasSigner) : signer.config.chainId ≠ 0 := by
  have valid := signer.valid
  simp only [ProductionPolicy.checkInvariants, ProductionPolicy.checkBuildInvariants, bind_ok,
    refuse_ok] at valid
  obtain ⟨-, ⟨-, pins, -⟩, -⟩ := valid
  rw [← signer.holdsPins.chainId]
  exact fun zero => pins (.inl zero)

theorem attested_fits (signer : GasSigner) :
    (SecurityPolicy.production signer.policy).attested.Fits := by
  obtain ⟨pcr3, policy⟩ := signer.policy_eq
  rw [policy]
  exact productionPolicy_fits signer.fromEnv _ signer.launch _

end GasSigner

structure GasPinsAgree (cfg other : BridgeConfig) : Prop where
  chainId : cfg.chainId = other.chainId
  bridgeContract : cfg.bridgeContract = other.bridgeContract
  maxGasLimit : cfg.gasTxMaxGasLimit = other.gasTxMaxGasLimit
  maxFeePerGas : cfg.gasTxMaxFeePerGas = other.gasTxMaxFeePerGas
  maxValueWei : cfg.gasTxMaxValueWei.getD 0 = other.gasTxMaxValueWei.getD 0
  selectors : ∀ selector,
    selector ∈ cfg.gasTxAllowedSelectors ↔ selector ∈ other.gasTxAllowedSelectors

/-- What the release checks read, and the attested form of the gas destination. -/
structure PinsAgree (cfg other : BridgeConfig) : Prop extends GasPinsAgree cfg other where
  fundsInContract : cfg.fundsInContract = other.fundsInContract
  tokenContract : cfg.tokenContract = other.tokenContract
  configured : cfg.isConfigured = other.isConfigured
  destination : cfg.gasTxAllowedTo.getD (.zero 20) = other.gasTxAllowedTo.getD (.zero 20)

theorem GasSigner.pinsAgree {a b : GasSigner} (same : a.commitmentBytes = b.commitmentBytes) :
    PinsAgree a.config b.config := by
  have canonical := Attestation.AttestedPolicy.canonical_eq_of_toBytes_eq a.attested_fits
    b.attested_fits same
  have fields := Attestation.AttestedPolicy.production.inj canonical
  have left := a.holdsPins
  have right := b.holdsPins
  have chainId : a.config.chainId = b.config.chainId :=
    left.chainId ▸ right.chainId ▸ congrArg Attestation.ProductionPolicy.chainId fields
  have bridgeContract : a.config.bridgeContract = b.config.bridgeContract :=
    left.bridgeContract ▸ right.bridgeContract ▸
      congrArg Attestation.ProductionPolicy.bridgeContract fields
  have asset : a.config.rgbAssetId = b.config.rgbAssetId :=
    left.rgbAssetId ▸ right.rgbAssetId ▸ congrArg Attestation.ProductionPolicy.rgbAssetId fields
  have sorted : sortDedup Word.le a.policy.gasTxAllowedSelectors =
      sortDedup Word.le b.policy.gasTxAllowedSelectors :=
    congrArg Attestation.ProductionPolicy.gasTxAllowedSelectors fields
  exact {
    chainId
    bridgeContract
    maxGasLimit := left.gasTxMaxGasLimit ▸ right.gasTxMaxGasLimit ▸
      congrArg Attestation.ProductionPolicy.gasTxMaxGasLimit fields
    maxFeePerGas := left.gasTxMaxFeePerGas ▸ right.gasTxMaxFeePerGas ▸
      congrArg Attestation.ProductionPolicy.gasTxMaxFeePerGas fields
    maxValueWei := left.gasTxMaxValueWei ▸ right.gasTxMaxValueWei ▸
      congrArg Attestation.ProductionPolicy.gasTxMaxValueWei fields
    selectors := fun selector =>
      calc selector ∈ a.config.gasTxAllowedSelectors
        _ ↔ selector ∈ sortDedup Word.le a.policy.gasTxAllowedSelectors := by
          rw [mem_sortDedup, left.gasTxAllowedSelectors]
        _ ↔ selector ∈ sortDedup Word.le b.policy.gasTxAllowedSelectors := by rw [sorted]
        _ ↔ selector ∈ b.config.gasTxAllowedSelectors := by
          rw [mem_sortDedup, right.gasTxAllowedSelectors]
    fundsInContract := left.fundsInContract ▸ right.fundsInContract ▸
      congrArg Attestation.ProductionPolicy.fundsInContract fields
    tokenContract := left.tokenContract ▸ right.tokenContract ▸
      congrArg Attestation.ProductionPolicy.tokenContract fields
    configured := by simp only [BridgeConfig.isConfigured, chainId, bridgeContract, asset]
    destination := left.gasTxAllowedTo ▸ right.gasTxAllowedTo ▸
      congrArg Attestation.ProductionPolicy.gasTxAllowedTo fields }

/-- Two configurations that give the same verdicts under one hash and one codec: on a
    gas request the digest or a refusal, on a release the whole answer. -/
structure SameEnforcement (keccak256 : Bytes → Word 32) (codec : Codec)
    (cfg other : BridgeConfig) : Prop where
  gas : ∀ req, (Gas.validateGasTxRequest keccak256 req cfg).toOption =
    (Gas.validateGasTxRequest keccak256 req other).toOption
  destination : ∀ destination now, validateDestination codec cfg destination now =
    validateDestination codec other destination now
  burnId : ∀ release, validateBurnId codec cfg release = validateBurnId codec other release

/-- A cap or the selectors are not pinned, so no gas transaction is signed. -/
def GasPathClosed (cfg : BridgeConfig) : Prop :=
  cfg.gasTxMaxGasLimit = 0 ∨ cfg.gasTxMaxFeePerGas = 0 ∨ cfg.gasTxAllowedSelectors = []

theorem GasPinsAgree.symm {cfg other : BridgeConfig} (agree : GasPinsAgree cfg other) :
    GasPinsAgree other cfg :=
  ⟨agree.chainId.symm, agree.bridgeContract.symm, agree.maxGasLimit.symm, agree.maxFeePerGas.symm,
    agree.maxValueWei.symm, fun selector => (agree.selectors selector).symm⟩

theorem ceiling_getD {value : BitVec 128} {ceiling : Option (BitVec 128)} (carries : value ≠ 0) :
    (∃ max, ceiling = some max ∧ value ≤ max) ↔ value ≤ ceiling.getD 0 := by
  cases ceiling with
  | some max => simp
  | none => simpa using carries

theorem GasPinsAgree.validateGasTx {cfg other : BridgeConfig} {tx : Gas.GasTx}
    (agree : GasPinsAgree cfg other)
    (destination : cfg.gasTxAllowedTo = other.gasTxAllowedTo ∨ GasPathClosed cfg)
    (valid : Gas.validateGasTx cfg tx = .ok ()) : Gas.validateGasTx other tx = .ok () := by
  obtain ⟨pinned, chain, allowed, value, fees, selected⟩ := Gas.validateGasTx_ok.mp valid
  obtain ⟨gasCap, feeCap, gas, fee, priority⟩ := Gas.validateFees_ok.mp fees
  obtain ⟨selector, member, found⟩ := Gas.validateSelector_ok.mp selected
  have same : cfg.gasTxAllowedTo = other.gasTxAllowedTo := by
    rcases destination with same | closed | closed | closed
    · exact same
    · exact absurd closed gasCap
    · exact absurd closed feeCap
    · rw [closed] at member
      cases member
  refine Gas.validateGasTx_ok.mpr ⟨agree.chainId ▸ pinned, agree.chainId ▸ chain, same ▸ allowed,
    Gas.validateValue_ok.mpr fun carries => ?_, Gas.validateFees_ok.mpr ?_,
    Gas.validateSelector_ok.mpr ⟨selector, (agree.selectors selector).mp member, found⟩⟩
  · rw [ceiling_getD carries, ← agree.maxValueWei, ← ceiling_getD carries, ← agree.bridgeContract]
    exact Gas.validateValue_ok.mp value carries
  · rw [← agree.maxGasLimit, ← agree.maxFeePerGas]
    exact ⟨gasCap, feeCap, gas, fee, priority⟩

theorem GasPinsAgree.validateGasTxRequest {cfg other : BridgeConfig}
    {keccak256 : Bytes → Word 32} {req : Gas.SignRawDigestRequest} {digest : Word 32}
    (agree : GasPinsAgree cfg other)
    (destination : cfg.gasTxAllowedTo = other.gasTxAllowedTo ∨ GasPathClosed cfg)
    (accepted : Gas.validateGasTxRequest keccak256 req cfg = .ok digest) :
    Gas.validateGasTxRequest keccak256 req other = .ok digest := by
  simp only [Gas.validateGasTxRequest, bind_ok] at accepted ⊢
  obtain ⟨_, nonempty, _, small, tx, read, ⟨⟩, valid, rest⟩ := accepted
  exact ⟨_, nonempty, _, small, tx, read, (), agree.validateGasTx destination valid, rest⟩

theorem GasPinsAgree.closed {cfg other : BridgeConfig} (agree : GasPinsAgree cfg other)
    (closed : GasPathClosed cfg) : GasPathClosed other := by
  rcases closed with gas | fee | selectors
  · exact .inl (agree.maxGasLimit ▸ gas)
  · exact .inr (.inl (agree.maxFeePerGas ▸ fee))
  · refine .inr (.inr (List.eq_nil_iff_forall_not_mem.mpr fun selector member => ?_))
    rw [← agree.selectors, selectors] at member
    cases member

theorem toOption_congr {ε α : Type} {x y : Except ε α} (same : ∀ a, x = .ok a ↔ y = .ok a) :
    x.toOption = y.toOption := by
  cases x with
  | ok a => rw [(same a).mp rfl]
  | error e =>
      cases y with
      | ok a => exact absurd ((same a).mpr rfl) nofun
      | error e' => rfl

theorem PinsAgree.sameEnforcement {keccak256 : Bytes → Word 32} {codec : Codec}
    {cfg other : BridgeConfig} (agree : PinsAgree cfg other)
    (destination : cfg.gasTxAllowedTo = other.gasTxAllowedTo ∨ GasPathClosed cfg) :
    SameEnforcement keccak256 codec cfg other where
  gas req := by
    refine toOption_congr fun digest => ⟨agree.validateGasTxRequest destination, ?_⟩
    exact agree.symm.validateGasTxRequest (destination.imp Eq.symm agree.closed)
  destination destination now := by
    simp only [validateDestination, checkDomain, checkDestinationChain, checkProxy, agree.chainId,
      agree.bridgeContract, agree.configured]
  burnId release := by
    have expected : expectedBurnId codec cfg release = expectedBurnId codec other release := by
      simp only [expectedBurnId, burnIdPreimage, agree.fundsInContract, agree.tokenContract,
        agree.chainId]
    rw [validateBurnId, validateBurnId, expected]
    exact if_congr (by rw [agree.tokenContract]) rfl rfl

theorem unpinned_refuses {keccak256 : Bytes → Word 32} {req : Gas.SignRawDigestRequest}
    {cfg : BridgeConfig} (unpinned : cfg.gasTxAllowedTo = none) :
    (Gas.validateGasTxRequest keccak256 req cfg).toOption = none := by
  cases verdict : Gas.validateGasTxRequest keccak256 req cfg with
  | error e => rfl
  | ok digest =>
      simp only [Gas.validateGasTxRequest, bind_ok] at verdict
      obtain ⟨-, -, -, -, tx, -, ⟨⟩, valid, -⟩ := verdict
      obtain ⟨-, -, allowed, -⟩ := Gas.validateGasTx_ok.mp valid
      cases unpinned.symm.trans allowed

theorem pinned_accepts (keccak256 : Bytes → Word 32) {cfg : BridgeConfig} {destination : Address}
    (chain : cfg.chainId ≠ 0) (pinned : cfg.gasTxAllowedTo = some destination)
    (isOpen : ¬ GasPathClosed cfg) :
    ∃ req, (Gas.validateGasTxRequest keccak256 req cfg).toOption ≠ none := by
  simp only [GasPathClosed, not_or] at isOpen
  obtain ⟨gas, fee, selectors⟩ := isOpen
  obtain ⟨selector, member⟩ := List.exists_mem_of_ne_nil _ selectors
  have accepted := Gas.validateGasTxRequest_bareCall keccak256 chain pinned gas fee member
  exact ⟨_, by rw [accepted]; exact nofun⟩

theorem pinned_ne_unpinned {keccak256 : Bytes → Word 32} {cfg other : BridgeConfig}
    {destination : Address} (chain : cfg.chainId ≠ 0)
    (pinned : cfg.gasTxAllowedTo = some destination)
    (unpinned : other.gasTxAllowedTo = none) (isOpen : ¬ GasPathClosed cfg) :
    ¬ ∀ req, (Gas.validateGasTxRequest keccak256 req cfg).toOption =
      (Gas.validateGasTxRequest keccak256 req other).toOption := by
  intro same
  obtain ⟨req, accepted⟩ := pinned_accepts keccak256 chain pinned isOpen
  exact accepted ((same req).trans (unpinned_refuses unpinned))

theorem PinsAgree.allowedTo_eq {cfg other : BridgeConfig} (agree : PinsAgree cfg other)
    (set : cfg.gasTxAllowedTo.isSome = other.gasTxAllowedTo.isSome) :
    cfg.gasTxAllowedTo = other.gasTxAllowedTo := by
  have destinations := agree.destination
  cases left : cfg.gasTxAllowedTo <;> cases right : other.gasTxAllowedTo <;>
    simp only [left, right, Option.getD_some, Option.isSome_some, Option.isSome_none,
      reduceCtorEq] at set destinations ⊢
  rw [destinations]

/-- Two enclaves with one attested policy enforce the same rules exactly when both
    or neither pin a gas destination, or no gas transaction passes anyway. -/
theorem attested_policy_enforced_iff (keccak256 : Bytes → Word 32) (codec : Codec)
    (a b : GasSigner) (same : a.commitmentBytes = b.commitmentBytes) :
    SameEnforcement keccak256 codec a.config b.config ↔
      a.config.gasTxAllowedTo.isSome = b.config.gasTxAllowedTo.isSome ∨
        GasPathClosed a.config := by
  have agree := GasSigner.pinsAgree same
  constructor
  · intro enforced
    refine or_iff_not_imp_right.mpr fun isOpen => ?_
    cases left : a.config.gasTxAllowedTo with
    | none =>
        cases right : b.config.gasTxAllowedTo with
        | none => rfl
        | some destination =>
            have closed := mt agree.symm.closed isOpen
            exact absurd (fun req => (enforced.gas req).symm)
              (pinned_ne_unpinned b.chainId_ne_zero right left closed)
    | some destination =>
        cases right : b.config.gasTxAllowedTo with
        | none => exact absurd enforced.gas (pinned_ne_unpinned a.chainId_ne_zero left right isOpen)
        | some other => rfl
  · intro condition
    exact agree.sameEnforcement (condition.imp_left agree.allowedTo_eq)

/-! Images that differ in the gas pins alone. -/

def sampleVars (gasPins : List (String × String)) : List (String × String) :=
  [("EVM_CHAIN_ID", "42161"),
    ("EVM_PROXY_CONTRACT_ADDRESS", "0x1111111111111111111111111111111111111111"),
    ("RGB_ASSET_ID", "rgb:asset"),
    ("FUNDS_IN_CONTRACT", "0x2222222222222222222222222222222222222222"),
    ("TOKEN_CONTRACT", "0x5555555555555555555555555555555555555555"),
    ("GAS_TX_MAX_GAS_LIMIT", "1000000"), ("GAS_TX_MAX_FEE_PER_GAS", "200000000000")] ++ gasPins

def sampleConfig (gasTxAllowedTo : Option Address) (gasTxAllowedSelectors : List (Word 4))
    (gasTxMaxValueWei : Option (BitVec 128)) : BridgeConfig where
  chainId := 42161
  bridgeContract := .fill 20 0x11
  rgbAssetId := "rgb:asset"
  fundsInContract := .fill 20 0x22
  tokenContract := .fill 20 0x55
  gasTxAllowedTo
  gasTxMaxGasLimit := 1000000
  gasTxMaxFeePerGas := 200000000000
  gasTxAllowedSelectors
  gasTxMaxValueWei

def sampleBuild : BuildContext where
  debugOrTest := false
  mockAttestation := false
  allowSeedImport := false
  rgbValidation := true
  spv := true
  signerRole := .burn

def sampleLaunch : Launch where
  evmSource := .pinnedTlsRpc
  evmRpcTls := some ⟨"rpc.example.org", .fill 32 0xCA⟩
  electrumHost := "electrum.example.org"
  kms := none
  electrumHostShort := by decide
  evmRpcTlsShort := by decide
  kmsShort := noKms_short

def sampleSigner (gasPins : List (String × String)) (config : BridgeConfig)
    (short : ∀ entry ∈ sampleVars gasPins, (utf8 entry.2).length < 2 ^ 21)
    (fromEnv : BridgeConfig.fromEnv (.ofVars (sampleVars gasPins) short) = .ok config)
    (configured : config.isConfigured = true) (valid : ProductionPolicy.checkInvariants
      { productionPolicy .burn config sampleLaunch with clonePeerPcr3 := some (.fill 48 0x33) } =
        .ok ()) : GasSigner where
  env := .ofVars (sampleVars gasPins) short
  config
  build := sampleBuild
  launch := sampleLaunch
  readPcr3 := .ok (.fill 48 0x33)
  policy := { productionPolicy .burn config sampleLaunch with
    clonePeerPcr3 := some (.fill 48 0x33) }
  fromEnv
  resolved := by
    have resolved : SecurityPolicy.resolve sampleBuild config sampleLaunch =
        .production (productionPolicy .burn config sampleLaunch) := by
      simp [SecurityPolicy.resolve, sampleBuild, BuildContext.indexerTrusted, configured]
    rw [resolved]
    rfl
  valid
  signsGasTx := by decide

def lzSelector : Word 4 :=
  ⟨Gas.ONCHAIN_LZ_FUNDS_OUT_CALL_SELECTOR, Gas.lzFundsOutCallSelector_length⟩

def zeroPinned : GasSigner :=
  sampleSigner [("GAS_TX_ALLOWED_SELECTORS", "0x8f6b3031"),
      ("GAS_TX_ALLOWED_TO", "0x0000000000000000000000000000000000000000")]
    (sampleConfig (some (.zero 20)) [lzSelector] none)
    (by decide +kernel) (by decide +kernel) (by decide +kernel) (by decide +kernel)

def unpinned : GasSigner :=
  sampleSigner [("GAS_TX_ALLOWED_SELECTORS", "0x8f6b3031")]
    (sampleConfig none [lzSelector] none)
    (by decide +kernel) (by decide +kernel) (by decide +kernel) (by decide +kernel)

def zeroCall : Gas.UnsignedTx where
  chainId := 42161
  nonce := 0
  gasLimit := 100000
  destination := some (.zero 20)
  value := 0
  data := Gas.ONCHAIN_LZ_FUNDS_OUT_CALL_SELECTOR
  fee := .eip155 1000000000

def zeroCallKeccak256 : Bytes → Word 32 :=
  tableHash [(zeroCall.signingPreimage, .ofNatBe 32
    0xada6ca3f70589bd04b28e7b09aecdb346f8bf88463aa977039f7429eeee35109)]

/-- The zero address and no address are attested alike. With the zero address a call
    to it is signed. Without an address it is refused. -/
theorem zero_destination_attested_as_unset :
    zeroPinned.commitmentBytes = unpinned.commitmentBytes ∧
    (Gas.validateGasTxRequest zeroCallKeccak256 ⟨[], zeroCall.signingPreimage⟩
      zeroPinned.config).toOption = some (zeroCallKeccak256 zeroCall.signingPreimage) ∧
    (Gas.validateGasTxRequest zeroCallKeccak256 ⟨[], zeroCall.signingPreimage⟩
      unpinned.config).toOption = none ∧
    ∀ codec, ¬ SameEnforcement zeroCallKeccak256 codec zeroPinned.config unpinned.config := by
  have accepted : (Gas.validateGasTxRequest zeroCallKeccak256 ⟨[], zeroCall.signingPreimage⟩
      zeroPinned.config).toOption = some (zeroCallKeccak256 zeroCall.signingPreimage) := by
    decide +kernel
  have refused : (Gas.validateGasTxRequest zeroCallKeccak256 ⟨[], zeroCall.signingPreimage⟩
      unpinned.config).toOption = none := unpinned_refuses rfl
  refine ⟨by decide +kernel, accepted, refused, fun codec same => ?_⟩
  exact absurd (accepted.symm.trans ((same.gas _).trans refused)) nofun

def proxyPinned : GasSigner :=
  sampleSigner [("GAS_TX_ALLOWED_SELECTORS", "0x8f6b3031,0x340276aa"),
      ("GAS_TX_ALLOWED_TO", "0x1111111111111111111111111111111111111111")]
    (sampleConfig (some (.fill 20 0x11)) [lzSelector, ⟨FUNDS_OUT_SELECTOR_POOLS, rfl⟩] none)
    (by decide +kernel) (by decide +kernel) (by decide +kernel) (by decide +kernel)

/-- The same destination, with the selectors in another order and a ceiling of zero. -/
def proxyPinnedAgain : GasSigner :=
  sampleSigner [("GAS_TX_ALLOWED_SELECTORS", " 340276aa, 8F6B3031 ,0x340276AA"),
      ("GAS_TX_ALLOWED_TO", "1111111111111111111111111111111111111111"),
      ("GAS_TX_MAX_VALUE_WEI", "0")]
    (sampleConfig (some (.fill 20 0x11)) [⟨FUNDS_OUT_SELECTOR_POOLS, rfl⟩, lzSelector,
      ⟨FUNDS_OUT_SELECTOR_POOLS, rfl⟩] (some 0))
    (by decide +kernel) (by decide +kernel) (by decide +kernel) (by decide +kernel)

theorem attested_policy_enforced_iff_reordered :
    (∀ codec, SameEnforcement zeroCallKeccak256 codec proxyPinned.config proxyPinnedAgain.config) ∧
      ∀ codec, ¬ SameEnforcement zeroCallKeccak256 codec zeroPinned.config unpinned.config := by
  have closed : ¬ GasPathClosed zeroPinned.config := by
    rintro (gas | fee | selectors)
    · exact absurd gas (by decide)
    · exact absurd fee (by decide)
    · exact absurd selectors (by decide)
  constructor
  · exact fun codec => (attested_policy_enforced_iff _ codec _ _ (by decide +kernel)).mpr (.inl rfl)
  · intro codec
    rw [attested_policy_enforced_iff _ codec _ _ (by decide +kernel)]
    exact fun condition => condition.elim (nomatch ·) closed

end EnclaveSigner.Policy
