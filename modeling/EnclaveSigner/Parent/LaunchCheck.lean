import EnclaveSigner.Attestation.Document
import EnclaveSigner.Attestation.PolicyEncoding
import EnclaveSigner.Config.Endpoints

/-! # The launch check

The operator's tool computes the policy that a production enclave must attest,
from the environment of the image and the endpoints of the deploy. It compares
that policy with the attested one, field by field and then byte by byte.
-/

namespace EnclaveSigner.Parent

open Lib Attestation

section ImageEnv

/-- The variables of an image. An entry without an equals sign is none. -/
def imageVars (entries : List String) : List (String × String) :=
  entries.filterMap (splitOnce '=')

/-- The value of a variable. Of two entries with one name the last counts. -/
def imageVar (vars : List (String × String)) (key : String) : Option String :=
  (vars.reverse.find? (·.1 = key)).map (·.2)

variable (env : String → Option String)

def required (key : String) : Except String String :=
  okOr s!"IMAGE-ENV.json has no {key}" (env key)

def optional (key : String) : Option String := (env key).filter (· ≠ "")

/-- A variable of the gas path, which the mint role does not compile. -/
def gas (role : SignerRole) (key : String) : Option String :=
  (optional env key).filter fun _ => role != .mint

end ImageEnv

def number {α : Type} [OfNat α 0] (parse : String → Option α) (key : String) :
    Option String → Except String α
  | none => .ok 0
  | some value => okOr s!"{key} {debugQuote value} is not a number" (parse value)

def address20 (key value : String) : Except String (Word 20) :=
  okOr s!"{key} {debugQuote value} is not a 20-byte hex address"
    ((decodePrefixedHex value).bind (Word.ofBytes? 20))

def networkOfEnvStr (text : String) : Option BitcoinNetwork :=
  if text = "bitcoin" ∨ text = "mainnet" then some .mainnet
  else if text = "testnet" ∨ text = "testnet3" then some .testnet3
  else if text = "signet" then some .signet
  else if text = "signetcustom" then some .signetCustom
  else if text = "testnet4" then some .testnet4
  else if text = "regtest" then some .regtest
  else none

def imageFinalityTag (env : String → Option String) : Except String EvmFinalityTag :=
  match env "EVM_FINALITY_TAG" with
  | none => .ok .finalized
  | some value => (EvmFinalityTag.fromStr value).mapError fun e => s!"EVM_FINALITY_TAG: {e}"

def expectedFinalityTag (env : String → Option String) : Except String EvmFinalityTag := do
  let tag ← imageFinalityTag env
  refuse (tag = .latest)
    "EVM_FINALITY_TAG=latest is not a production policy; use safe or finalized"
  pure tag

/-- What is behind the scheme, and whether the port may be left out. -/
def indexerRest (url : String) : Except String (String × Bool) :=
  match (stripPrefix "ssl://" url).orElse fun _ => stripPrefix "tcp://" url,
      (stripPrefix "https://" url).orElse fun _ => stripPrefix "http://" url with
  | some rest, _ => .ok (rest, false)
  | none, some rest => .ok (rest, true)
  | none, none => .error s!"electrum_url {debugQuote url} is not ssl://, tcp://, https:// or http://"

def indexerHost (electrumUrl : String) : Except String String := do
  let url := (stripSuffix "/" electrumUrl).getD electrumUrl
  let (rest, portOptional) ← indexerRest url
  match rsplitOnce ':' rest with
  | some (host, _) => pure host.toLower
  | none =>
      if portOptional then pure rest.toLower
      else throw s!"electrum_url {debugQuote url} has no port"

def expectedEvmRpcTls (sha256 : Bytes → Word 32) (endpoints : SetEndpointsRequest) :
    Option EvmRpcTlsPin :=
  if endpoints.evmRpcCaDer.isEmpty then none
  else some {
    host := endpoints.evmRpcHost.toLower
    caSha256 := sha256 endpoints.evmRpcCaDer }

def expectedKmsAddress (address : String) : Except String (Option (Word 20)) :=
  if address = "" then .ok none
  else some <$> address20 "KMS_EXPECTED_EVM_ADDRESS" address

def expectedKms (endpoints : SetEndpointsRequest) : Except String (Option KmsPin) :=
  if [endpoints.kmsKeyArn, endpoints.kmsRegion, endpoints.kmsSeedId,
      endpoints.kmsExpectedEvmAddress].all (· = "") then .ok none
  else do
    let expectedEvmAddress ← expectedKmsAddress endpoints.kmsExpectedEvmAddress
    pure (some {
      keyArn := endpoints.kmsKeyArn
      region := endpoints.kmsRegion
      seedId := endpoints.kmsSeedId
      expectedEvmAddress })

def expectedAllowVanillaPsbt (env : String → Option String) (role : SignerRole) :
    Except String Bool :=
  if role = .burn then pure false
  else do
    let sats ← number parseU64 "BTC_MAX_TOTAL_SATS" (optional env "BTC_MAX_TOTAL_SATS")
    pure (sats != 0)

def expectedNetwork (env : String → Option String) : Except String BitcoinNetwork :=
  let name := (optional env "BITCOIN_NETWORK").getD "bitcoin"
  okOr s!"BITCOIN_NETWORK {debugQuote name} is not a known network" (networkOfEnvStr name)

def expectedGasTxAllowedTo (value : Option String) : Except String (Word 20) :=
  match value with
  | none => .ok (Word.zero 20)
  | some value => address20 "GAS_TX_ALLOWED_TO" value

def expectedSelectors (text : String) : Except String (List (Word 4)) :=
  (commaSeparated text).mapM fun entry =>
    okOr s!"GAS_TX_ALLOWED_SELECTORS entry {debugQuote entry} is not 4 bytes"
      ((decodePrefixedHex entry).bind (Word.ofBytes? 4))

/-- The policy for the variables of an image. The PCR3 of the clone peers comes later,
    from the verified document. -/
def policyOfVars (env : String → Option String) (sha256 : Bytes → Word 32) (role : SignerRole)
    (endpoints : SetEndpointsRequest) : Except String AttestedPolicy := do
  let evmFinalityTag ← expectedFinalityTag env
  let electrumHost ← indexerHost endpoints.electrumUrl
  let evmRpcTls := expectedEvmRpcTls sha256 endpoints
  let kms ← expectedKms endpoints
  let allowVanillaPsbt ← expectedAllowVanillaPsbt env role
  let chainId ← required env "EVM_CHAIN_ID"
  let chainId ← number parseU64 "EVM_CHAIN_ID" (some chainId)
  let bitcoinNetwork ← expectedNetwork env
  let bridgeContract ← required env "EVM_PROXY_CONTRACT_ADDRESS"
  let bridgeContract ← address20 "EVM_PROXY_CONTRACT_ADDRESS" bridgeContract
  let rgbAssetId ← required env "RGB_ASSET_ID"
  let fundsInContract ← required env "FUNDS_IN_CONTRACT"
  let fundsInContract ← address20 "FUNDS_IN_CONTRACT" fundsInContract
  let spvMinConfirmations ← required env "SPV_MIN_CONFIRMATIONS"
  let spvMinConfirmations ← number parseU32 "SPV_MIN_CONFIRMATIONS" (some spvMinConfirmations)
  let gasTxAllowedTo ← expectedGasTxAllowedTo (gas env role "GAS_TX_ALLOWED_TO")
  let gasTxMaxGasLimit ← number parseU64 "GAS_TX_MAX_GAS_LIMIT" (gas env role "GAS_TX_MAX_GAS_LIMIT")
  let gasTxMaxFeePerGas ←
    number parseU128 "GAS_TX_MAX_FEE_PER_GAS" (gas env role "GAS_TX_MAX_FEE_PER_GAS")
  let gasTxMaxValueWei ←
    number parseU128 "GAS_TX_MAX_VALUE_WEI" (gas env role "GAS_TX_MAX_VALUE_WEI")
  let gasTxAllowedSelectors ← expectedSelectors ((gas env role "GAS_TX_ALLOWED_SELECTORS").getD "")
  let tokenContract ← required env "TOKEN_CONTRACT"
  let tokenContract ← address20 "TOKEN_CONTRACT" tokenContract
  pure (.production {
    allowVanillaPsbt, signerRole := role, attestation := .real, evmSource := .pinnedTlsRpc
    btcSource := .spvVerified, chainId, bitcoinNetwork, bridgeContract, rgbAssetId
    fundsInContract, evmFinalityTag, spvMinConfirmations, electrumHost, evmRpcTls
    gasTxAllowedTo, gasTxMaxGasLimit, gasTxMaxFeePerGas, gasTxMaxValueWei
    gasTxAllowedSelectors, tokenContract, kms, clonePeerPcr3 := none })

/-- The policy that a production enclave of `role` must attest. `fromStr` reads the
    JSON list of the image. -/
def expectedPolicy (fromStr : String → Option (List String)) (sha256 : Bytes → Word 32)
    (role : SignerRole) (imageEnv : String) (endpoints : SetEndpointsRequest) :
    Except String AttestedPolicy := do
  let entries ← okOr "IMAGE-ENV.json is not a list of strings" (fromStr imageEnv)
  policyOfVars (imageVar (imageVars entries)) sha256 role endpoints

theorem expectedPolicy_of_listed {fromStr : String → Option (List String)}
    {sha256 : Bytes → Word 32} {role : SignerRole} {imageEnv : String} {entries : List String}
    {endpoints : SetEndpointsRequest} (listed : fromStr imageEnv = some entries) :
    expectedPolicy fromStr sha256 role imageEnv endpoints =
      policyOfVars (imageVar (imageVars entries)) sha256 role endpoints := by
  rw [expectedPolicy, listed]
  rfl

section DocumentPcr3

/-- The PCR3 that an enclave of `role` must attest. A role that clones binds its
    peers to its own PCR3, which the device signs. -/
def clonePeerPcr3 (role : SignerRole) (docPcrs : Pcrs) : Except String (Option (Word 48)) :=
  if role = .mint then .ok none
  else do
    let pcr3 ← okOr "the attestation document has no PCR3" (docPcrs.lookup 3)
    let pcr3 ← okOr "the document PCR3 is not 48 bytes" (Word.ofBytes? 48 pcr3)
    refuse (pcr3 = Word.zero 48) ("the document PCR3 is all zero: the parent instance has no IAM " ++
      "role, so the enclave cannot bind clone peers")
    pure (some pcr3)

/-- Fill in the peer register of the attested document. -/
def withDocumentPcr3 (expected : AttestedPolicy) (docPcrs : Pcrs) :
    Except String AttestedPolicy :=
  match expected with
  | .production policy => do
      let pcr3 ← clonePeerPcr3 policy.signerRole docPcrs
      pure (.production { policy with clonePeerPcr3 := pcr3 })
  | .development => pure .development

end DocumentPcr3

section Fields

def roleName : SignerRole → String
  | .combined => "Combined"
  | .mint => "Mint"
  | .burn => "Burn"

def attestationName : AttestationMode → String
  | .mock => "Mock"
  | .real => "Real"

def evmSourceName : EvmDataSource → String
  | .disabled => "Disabled"
  | .rawRpc => "RawRpc"
  | .pinnedTlsRpc => "PinnedTlsRpc"

def btcSourceName : BtcDataSource → String
  | .spvVerified => "SpvVerified"

def hex (bytes : Bytes) : String := s!"0x{hexEncode bytes}"

def presence {α : Type} (value : Option α) : String :=
  if value.isSome then "present" else "absent"

def evmRpcTlsFields (pin : EvmRpcTlsPin) : List (String × String) :=
  [("evm_rpc_tls.host", pin.host), ("evm_rpc_tls.ca_sha256", hex pin.caSha256.val)]

def kmsFields (pin : KmsPin) : List (String × String) :=
  [("kms.key_arn", pin.keyArn), ("kms.region", pin.region), ("kms.seed_id", pin.seedId),
    ("kms.expected_evm_address",
      (pin.expectedEvmAddress.map fun address => hex address.val).getD "none")]

def fields : AttestedPolicy → List (String × String)
  | .development => [("policy", "Development")]
  | .production policy =>
      [("policy", "Production"),
        ("allow_vanilla_psbt", toString policy.allowVanillaPsbt),
        ("signer_role", roleName policy.signerRole),
        ("attestation", attestationName policy.attestation),
        ("evm_source", evmSourceName policy.evmSource),
        ("btc_source", btcSourceName policy.btcSource),
        ("chain_id", toString policy.chainId),
        ("bitcoin_network", Policy.networkName policy.bitcoinNetwork),
        ("bridge_contract", hex policy.bridgeContract.val),
        ("rgb_asset_id", policy.rgbAssetId),
        ("funds_in_contract", hex policy.fundsInContract.val),
        ("evm_finality_tag", policy.evmFinalityTag.asStr),
        ("spv_min_confirmations", toString policy.spvMinConfirmations),
        ("electrum_host", policy.electrumHost),
        ("evm_rpc_tls", presence policy.evmRpcTls)] ++
      policy.evmRpcTls.toList.flatMap evmRpcTlsFields ++
      [("gas_tx_allowed_to", hex policy.gasTxAllowedTo.val),
        ("gas_tx_max_gas_limit", toString policy.gasTxMaxGasLimit),
        ("gas_tx_max_fee_per_gas", toString policy.gasTxMaxFeePerGas.toNat),
        ("gas_tx_max_value_wei", toString policy.gasTxMaxValueWei.toNat),
        ("gas_tx_allowed_selectors", ",".intercalate
          ((sortDedup Word.le policy.gasTxAllowedSelectors).map fun selector => hex selector.val)),
        ("token_contract", hex policy.tokenContract.val),
        ("kms", presence policy.kms)] ++
      policy.kms.toList.flatMap kmsFields ++
      [("clone_peer_pcr3", presence policy.clonePeerPcr3)] ++
      policy.clonePeerPcr3.toList.map fun pcr3 => ("clone_peer_pcr3.value", hex pcr3.val)

end Fields

/-- The error names the first field that differs. -/
def comparePolicy (expected : AttestedPolicy) (attested : Bytes) :
    Except String AttestedPolicy := do
  let decoded ← (AttestedPolicy.fromBytes attested).mapError PolicyDecodeError.message
  ((fields expected).zip (fields decoded)).forM fun ((field, want), (_, got)) =>
    refuse (want ≠ got) s!"{field} mismatch: expected {want}, attested {got}"
  refuse (expected.toBytes ≠ attested) "attested policy bytes differ from the expected policy"
  pure decoded

theorem fields_canonical (policy : AttestedPolicy) : fields policy.canonical = fields policy := by
  cases policy with
  | development => rfl
  | production policy =>
      have again : sortDedup Word.le (sortDedup Word.le policy.gasTxAllowedSelectors) = _ :=
        (sortDedup_ascending _).sortDedup_eq
      simp only [AttestedPolicy.canonical, AttestedPolicy.withSelectors, AttestedPolicy.selectors,
        fields, again]

theorem comparePolicy_ok {expected decoded : AttestedPolicy} {attested : Bytes}
    (fits : expected.Fits) :
    comparePolicy expected attested = .ok decoded ↔
      attested = expected.toBytes ∧ decoded = expected.canonical := by
  simp only [comparePolicy, bind_ok, mapError_ok, refuse_ok, not_not, ne_eq]
  constructor
  · rintro ⟨read, opened, _, -, _, rfl, ⟨⟩⟩
    rw [AttestedPolicy.fromBytes_toBytes fits] at opened
    exact ⟨rfl, (Except.ok.inj opened).symm⟩
  · rintro ⟨rfl, rfl⟩
    refine ⟨_, AttestedPolicy.fromBytes_toBytes fits, (), forM_ok.mpr ?_, (), rfl, rfl⟩
    rintro ⟨⟨field, want⟩, ⟨field', got⟩⟩ paired
    rw [fields_canonical] at paired
    obtain ⟨i, _, same⟩ := List.mem_iff_getElem.mp paired
    rw [List.getElem_zip] at same
    have pair : (field, want) = (field', got) :=
      (congrArg Prod.fst same).symm.trans (congrArg Prod.snd same)
    exact refuse_ok.mpr (not_not.mpr (congrArg Prod.snd pair))

end EnclaveSigner.Parent
