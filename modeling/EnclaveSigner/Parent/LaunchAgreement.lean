import EnclaveSigner.Parent.LaunchCheck
import EnclaveSigner.Policy.Enforcement
import EnclaveSigner.Server.Endpoints

/-! # The launch check against the enclave

The enclave reads the image leniently and the operator's tool strictly. Where both
accept, they agree in every field, so that the tool accepts exactly the policy
that the enclave commits to.
-/

namespace EnclaveSigner.Parent

open Lib Attestation Policy Server

section Image

/-- The environment holds the entries of the image, and nothing else. -/
def HoldsImage (env : Env) (entries : List String) : Prop :=
  ∀ name, env.var name = match (imageVars entries).find? (·.1 = name) with
    | some entry => .ok entry.2
    | none => .error .notPresent

theorem find?_key {vars : List (String × String)} (distinct : (vars.map Prod.fst).Nodup)
    {key : String} {entry : String × String} :
    vars.find? (·.1 = key) = some entry ↔ entry ∈ vars ∧ entry.1 = key := by
  constructor
  · intro found
    exact ⟨List.mem_of_find?_eq_some found, of_decide_eq_true (List.find?_some found :)⟩
  · rintro ⟨listed, named⟩
    cases found : vars.find? (·.1 = key) with
    | none => exact absurd (decide_eq_true named) (List.find?_eq_none.mp found entry listed)
    | some other =>
        have same : other.1 = entry.1 :=
          (of_decide_eq_true (List.find?_some found :)).trans named.symm
        rw [List.inj_on_of_nodup_map distinct (List.mem_of_find?_eq_some found) listed same]

theorem HoldsImage.var_eq {env : Env} {entries : List String} (holds : HoldsImage env entries)
    (distinct : ((imageVars entries).map Prod.fst).Nodup) (name : String) :
    env.var name = match imageVar (imageVars entries) name with
      | some value => .ok value
      | none => .error .notPresent := by
  have last : (imageVars entries).reverse.find? (·.1 = name) =
      (imageVars entries).find? (·.1 = name) := by
    have reversed : ((imageVars entries).reverse.map Prod.fst).Nodup := by
      rw [List.map_reverse]
      exact List.nodup_reverse.mpr distinct
    refine Option.ext fun entry => ?_
    rw [find?_key distinct, find?_key reversed, List.mem_reverse]
  rw [imageVar, last, holds name]
  cases (imageVars entries).find? (·.1 = name) <;> rfl

theorem HoldsImage.get?_eq {env : Env} {entries : List String} (holds : HoldsImage env entries)
    (distinct : ((imageVars entries).map Prod.fst).Nodup) (name : String) :
    env.get? name = imageVar (imageVars entries) name := by
  rw [Env.get?, holds.var_eq distinct]
  cases imageVar (imageVars entries) name <;> rfl

end Image

section Values

theorem number_getD {α : Type} [OfNat α 0] {parse lenient : String → Option α} {key : String}
    {value : Option String} {n : α} (empty : lenient "" = none)
    (wider : ∀ {text n}, parse text = some n → lenient text = some n)
    (read : number parse key (value.filter (· ≠ "")) = .ok n) :
    (value.bind lenient).getD 0 = n := by
  cases value with
  | none => exact Except.ok.inj read
  | some text =>
      by_cases blank : text = ""
      · subst blank
        rw [Option.bind_some, empty]
        exact Except.ok.inj read
      · rw [Option.filter_some, if_pos (decide_eq_true blank)] at read
        rw [Option.bind_some, wider (okOr_ok.mp read)]
        rfl

theorem address20_ok {key value : String} {address : Word 20}
    (read : address20 key value = .ok address) : parseEthAddress value = some address :=
  okOr_ok.mp read

section Required

variable {env : String → Option String} {key text : String}

theorem requiredNumber_eq {α : Type} [OfNat α 0] {parse : String → Option α} {n : α}
    (set : required env key = .ok text) (read : number parse key (some text) = .ok n) :
    ((env key).bind parse).getD 0 = n := by
  have parsed : parse text = some n := okOr_ok.mp read
  rw [okOr_ok.mp set, Option.bind_some, parsed]
  rfl

theorem requiredAddress_eq {address : Word 20} (fallback : Address)
    (set : required env key = .ok text) (read : address20 key text = .ok address) :
    ((env key).bind parseEthAddress).getD fallback = address := by
  rw [okOr_ok.mp set, Option.bind_some, address20_ok read]
  rfl

end Required

theorem allowVanillaPsbt_eq {env : String → Option String} {role : SignerRole} {allowed : Bool}
    (read : expectedAllowVanillaPsbt env role = .ok allowed) :
    (role != .burn && ((env "BTC_MAX_TOTAL_SATS").bind parseU64).getD 0 != 0) = allowed := by
  unfold expectedAllowVanillaPsbt at read
  split_ifs at read with burn
  · rw [burn]
    exact Except.ok.inj read
  · obtain ⟨sats, summed, ⟨⟩⟩ := bind_ok.mp read
    rw [number_getD rfl (fun parsed => parsed) summed, bne_iff_ne.mpr burn, Bool.true_and]

theorem parseU128_trim {text : String} {n : BitVec 128} (read : parseU128 text = some n) :
    parseU128 (trim text) = some n := by
  obtain ⟨value, digits, rfl⟩ := Option.map_eq_some_iff.mp read
  rw [trim_of_parseUnsigned digits]
  exact read

theorem parseSpvMinConfirmations_eq {text : String} {n depth : UInt32}
    (read : parseU32 text = some n)
    (set : parseSpvMinConfirmations (some text) = .ok depth) : depth = n := by
  obtain ⟨value, digits, rfl⟩ := Option.map_eq_some_iff.mp read
  have filled : text ≠ "" := by
    rintro rfl
    cases read
  rw [parseSpvMinConfirmations, parseSetting, Option.map_some, trim_of_parseUnsigned digits,
    Option.filter_some, if_pos (decide_eq_true filled)] at set
  have kept := okOr_ok.mp set
  rw [read] at kept
  exact (Option.some.inj (Option.eq_some_of_filter_eq_some kept)).symm

theorem networkOfEnvStr_eq (text : String) :
    networkOfEnvStr text = (networkFromEnvStr text).toOption := by
  unfold networkOfEnvStr networkFromEnvStr
  split_ifs <;> simp_all [Except.toOption]

theorem expectedNetwork_eq {env : String → Option String} {network expected : BitcoinNetwork}
    (set : networkFromEnvStr ((env "BITCOIN_NETWORK").getD "bitcoin") = .ok network)
    (read : expectedNetwork env = .ok expected) : network = expected := by
  have known := okOr_ok.mp read
  rw [networkOfEnvStr_eq, toOption_eq_some] at known
  have filled : (optional env "BITCOIN_NETWORK").getD "bitcoin" =
      (env "BITCOIN_NETWORK").getD "bitcoin" := by
    unfold optional
    cases value : env "BITCOIN_NETWORK" with
    | none => rfl
    | some text =>
        rw [value] at set
        have named : text ≠ "" := by
          rintro rfl
          cases set
        rw [Option.filter_some, if_pos (decide_eq_true named)]
  rw [filled, set] at known
  exact Except.ok.inj known

theorem expectedFinalityTag_eq {entries : List String} {env : Env} {tag expected : EvmFinalityTag}
    (holds : HoldsImage env entries) (distinct : ((imageVars entries).map Prod.fst).Nodup)
    (set : parseEvmFinalityTag (env.var "EVM_FINALITY_TAG") = .ok tag)
    (read : expectedFinalityTag (imageVar (imageVars entries)) = .ok expected) :
    tag = expected := by
  obtain ⟨read', found, checked⟩ := bind_ok.mp read
  obtain ⟨-, ⟨⟩⟩ := refuse_bind_ok.mp checked
  rw [holds.var_eq distinct] at set
  unfold imageFinalityTag at found
  cases value : imageVar (imageVars entries) "EVM_FINALITY_TAG" with
  | none =>
      rw [value] at set found
      exact (Except.ok.inj set).symm.trans (Except.ok.inj found)
  | some text =>
      rw [value] at set found
      exact Except.ok.inj (set.symm.trans (mapError_ok.mp found))

section Gas

variable {env : String → Option String} {role : SignerRole}

theorem gas_eq (key : String) :
    gas env role key = if role = .mint then none else optional env key := by
  unfold gas
  by_cases mint : role = .mint
  · rw [if_pos mint, mint]
    cases optional env key <;> rfl
  · rw [if_neg mint, bne_iff_ne.mpr mint]
    cases optional env key <;> rfl

theorem gasNumber_eq {α : Type} [OfNat α 0] {parse lenient : String → Option α} {key : String}
    {n : α} (empty : lenient "" = none)
    (wider : ∀ {text n}, parse text = some n → lenient text = some n)
    (read : number parse key (gas env role key) = .ok n) :
    (if role != .mint then ((env key).bind lenient).getD 0 else 0) = n := by
  rw [gas_eq] at read
  by_cases mint : role = .mint
  · rw [if_pos mint] at read
    rw [mint]
    exact Except.ok.inj read
  · rw [if_neg mint] at read
    rw [bne_iff_ne.mpr mint]
    exact number_getD empty wider read

theorem filter_getD {α : Type} (pin : Option α) (kept : Bool) (unset : α) :
    (pin.filter fun _ => kept).getD unset = if kept then pin.getD unset else unset := by
  cases pin <;> cases kept <;> rfl

theorem gasTxAllowedTo_eq {key : String} {address : Word 20}
    (read : expectedGasTxAllowedTo (gas env role key) = .ok address) :
    (if role != .mint then ((env key).bind parseEthAddress).getD (.zero 20)
      else .zero 20) = address := by
  rw [gas_eq] at read
  by_cases mint : role = .mint
  · rw [if_pos mint] at read
    rw [mint]
    exact Except.ok.inj read
  · rw [if_neg mint, optional] at read
    rw [bne_iff_ne.mpr mint, if_pos rfl]
    cases value : env key with
    | none =>
        rw [value] at read
        exact Except.ok.inj read
    | some text =>
        rw [value, Option.filter_some] at read
        by_cases blank : text = ""
        · subst blank
          exact Except.ok.inj read
        · rw [if_pos (decide_eq_true blank)] at read
          rw [Option.bind_some, address20_ok read]
          rfl

theorem expectedSelectors_ok {text : String} {selectors : List (Word 4)}
    (read : expectedSelectors text = .ok selectors) : parseSelectors text = selectors := by
  have each := congrArg (List.filterMap id) (mapM_okOr_ok.mp read)
  simpa [List.filterMap_map, parseSelectors] using each

theorem gasSelectors_eq {key : String} {selectors : List (Word 4)}
    (read : expectedSelectors ((gas env role key).getD "") = .ok selectors) :
    (if role != .mint then ((env key).map parseSelectors).getD [] else []) = selectors := by
  have parsed := expectedSelectors_ok read
  rw [gas_eq] at parsed
  by_cases mint : role = .mint
  · rw [if_pos mint] at parsed
    rw [mint]
    exact parsed
  · rw [if_neg mint, optional] at parsed
    rw [bne_iff_ne.mpr mint, if_pos rfl]
    cases value : env key with
    | none =>
        rw [value] at parsed
        exact parsed
    | some text =>
        rw [value, Option.filter_some] at parsed
        by_cases blank : text = ""
        · subst blank
          exact parsed
        · rw [if_pos (decide_eq_true blank)] at parsed
          exact parsed

end Gas

end Values

section Endpoints

theorem https_ne_tcp {url rest : String} (https : stripPrefix "https://" url = some rest) :
    stripPrefix "tcp://" url = none := by
  obtain ⟨chars, cut, -⟩ := Option.map_eq_some_iff.mp https
  rw [stripPrefix, ← List.isPrefixOf?_eq_some_iff_append_eq.mp cut]
  rfl

theorem indexerRest_eq {url rest : String} {allowPlaintext : Bool} {defaultPort : Option UInt32}
    (found : stripScheme url allowPlaintext = .ok (rest, defaultPort)) :
    indexerRest url = .ok (rest, defaultPort.isSome) := by
  unfold stripScheme stripScheme.plaintext at found
  unfold indexerRest
  split at found
  · rename_i ssl
    cases found
    rw [ssl]
    rfl
  · rename_i ssl https
    cases found
    rw [ssl, https, https_ne_tcp https]
    rfl
  · rename_i ssl https tcp
    split_ifs at found
    cases found
    rw [ssl, tcp]
    rfl
  · rename_i ssl https tcp http
    split_ifs at found
    cases found
    rw [ssl, https, tcp, http]
    rfl
  · cases found

theorem indexerHost_eq {libs : EndpointLibs} {build : Build} {req : SetEndpointsRequest}
    {host : String} {port : UInt16} (bridge : build.rgbValidation = true)
    (parsed : Endpoints.parseElectrum libs build req = .ok (host, port)) :
    indexerHost req.electrumUrl = .ok host := by
  obtain ⟨rest, defaultPort, scheme, defaulted, rfl⟩ := Endpoints.parseElectrum_ok bridge parsed
  have read := indexerRest_eq scheme
  rw [withoutSlash] at read
  simp only [indexerHost, read, bind_ok]
  refine ⟨_, rfl, ?_⟩
  cases parts : rsplitOnce ':' rest with
  | some pair => simp [hostPart, parts, pure, Except.pure]
  | none => simp [hostPart, parts, pure, Except.pure, defaulted parts]

theorem expectedKmsAddress_eq {text : String} {address : Option Address}
    (read : Endpoints.parseExpectedAddress text = .ok address) :
    expectedKmsAddress text = .ok address := by
  unfold Endpoints.parseExpectedAddress at read
  unfold expectedKmsAddress
  split_ifs at read ⊢
  · exact read
  · obtain ⟨parsed, found, rfl⟩ := Option.map_eq_some_iff.mp (okOr_ok.mp read)
    have known : address20 "KMS_EXPECTED_EVM_ADDRESS" text = .ok parsed := okOr_ok.mpr found
    rw [known]
    rfl

theorem expectedKms_eq {build : Build} {req : SetEndpointsRequest} {accounts : List String}
    {allowUnpinned : Bool} {electrumHost : String} {pin : KmsPin}
    (parsed : Endpoints.parseKms build req accounts allowUnpinned electrumHost = .ok (some pin)) :
    expectedKms req = .ok (some pin) := by
  obtain ⟨region, address, read, rfl⟩ := Endpoints.parseKms_some parsed
  have set : ¬ [req.kmsKeyArn, req.kmsRegion, req.kmsSeedId,
      req.kmsExpectedEvmAddress].all (· = "") = true := by simp [region]
  rw [expectedKms, if_neg set]
  exact bind_ok.mpr ⟨address, expectedKmsAddress_eq read, rfl⟩

end Endpoints

section Launch

/-- A bridge build as it is released. -/
def releaseBuild (role : SignerRole) (spv : Bool) : Build where
  debugOrTest := false
  mockAttestation := false
  allowSeedImport := false
  rgbValidation := true
  spv
  signerRole := role
  evmRpc := true
  kmsPersistence := true

theorem launchPolicy_ok {role : SignerRole} {config : BridgeConfig} {launch : Policy.Launch}
    {getOwnPcr3 : Result (Word 48)} {policy : SecurityPolicy}
    (resolved : launchPolicy (releaseBuild role true).toBuildContext config launch getOwnPcr3 =
      .ok policy) :
    ∃ clonePeerPcr3, policy = .production { productionPolicy role config launch with
        kms := launch.kms, clonePeerPcr3 } ∧
      (role = .mint ∧ clonePeerPcr3 = none ∨
        role ≠ .mint ∧ ∃ pcr3, getOwnPcr3 = .ok pcr3 ∧ clonePeerPcr3 = some pcr3 ∧
          pcr3 ≠ .zero 48) := by
  obtain ⟨read, withPcr3, gated⟩ := bind_ok.mp resolved
  obtain ⟨_, valid, ⟨⟩⟩ := bind_ok.mp gated
  have valid := mapError_ok.mp valid
  cases resolved : SecurityPolicy.resolve (releaseBuild role true).toBuildContext config launch with
  | development reason =>
      rw [resolved] at withPcr3
      cases withPcr3
      cases valid
  | production bare =>
      obtain rfl := SecurityPolicy.resolve_production resolved
      rw [resolved, SecurityPolicy.withKms] at withPcr3
      by_cases mint : role = .mint
      · subst mint
        cases withPcr3
        exact ⟨none, rfl, .inl ⟨rfl, rfl⟩⟩
      · obtain ⟨pcr3, own, rfl⟩ := SecurityPolicy.withClonePeerPcr3_production mint withPcr3
        refine ⟨some pcr3, rfl, .inr ⟨mint, pcr3, own, rfl, ?_⟩⟩
        exact ProductionPolicy.checkInvariants_pcr3 valid mint rfl

structure LaunchExpected (sha256 : Bytes → Word 32) (req : SetEndpointsRequest)
    (launch : Policy.Launch) : Prop where
  evmSource : launch.evmSource = .pinnedTlsRpc
  evmRpcTls : launch.evmRpcTls = expectedEvmRpcTls sha256 req
  electrumHost : indexerHost req.electrumUrl = .ok launch.electrumHost
  kms : expectedKms req = .ok launch.kms

theorem launchOf_expected {libs : EndpointLibs} {role : SignerRole} {spv : Bool}
    {req : SetEndpointsRequest} {accounts : List String} {endpoints : Endpoints}
    (parsed : Endpoints.parse libs (releaseBuild role spv) req accounts false = .ok endpoints) :
    LaunchExpected libs.sha256 req (launchOf libs endpoints (Endpoints.parse_short parsed)) := by
  have parts := parsed
  simp only [Endpoints.parse, bind_ok] at parts
  obtain ⟨_, -, ⟨host, port⟩, electrum, tls, pinned, kms, custody, ⟨⟩⟩ := parts
  obtain ⟨tlsPort, rfl, certified⟩ := Endpoints.parseEvmRpcTls_ok rfl pinned
  obtain ⟨pin, rfl⟩ := Endpoints.parseKms_isSome rfl rfl custody
  refine ⟨rfl, ?_, indexerHost_eq rfl electrum, expectedKms_eq custody⟩
  rw [expectedEvmRpcTls, if_neg (by simpa using certified)]
  rfl

theorem expectedPolicy_eq {fromStr : String → Option (List String)} {sha256 : Bytes → Word 32}
    {imageEnv : String} {entries : List String} {env : Env} {role : SignerRole}
    {req : SetEndpointsRequest} {expected : AttestedPolicy} {config : BridgeConfig}
    {launch : Policy.Launch} (listed : fromStr imageEnv = some entries)
    (distinct : ((imageVars entries).map Prod.fst).Nodup) (holds : HoldsImage env entries)
    (computed : expectedPolicy fromStr sha256 role imageEnv req = .ok expected)
    (loaded : BridgeConfig.fromEnv env = .ok config) (agrees : LaunchExpected sha256 req launch) :
    expected = (SecurityPolicy.production
      { productionPolicy role config launch with kms := launch.kms }).attested := by
  have value := holds.get?_eq distinct
  simp only [BridgeConfig.fromEnv, bind_ok, mapError_ok, value] at loaded
  obtain ⟨tag, tagged, network, networked, _, -, depth, deep, _, -, _, -, _, -, ⟨⟩⟩ := loaded
  simp only [expectedPolicy_of_listed listed, policyOfVars, bind_ok] at computed
  obtain ⟨tag', tagRead, host, hostRead, kms, kmsRead, vanilla, vanillaRead, chainText,
    chainSet, chainId, chainRead, network', networkRead, bridgeText, bridgeSet, bridge, bridgeRead,
    asset, assetSet, fundsText, fundsSet, funds, fundsRead, depthText, depthSet, depth', depthRead,
    destination, destinationRead, gasLimit, gasRead, fee, feeRead, wei, weiRead, selectors,
    selectorsRead, tokenText, tokenSet, token, tokenRead, ⟨⟩⟩ := computed
  obtain rfl := expectedFinalityTag_eq holds distinct tagged tagRead
  obtain rfl := Except.ok.inj (agrees.electrumHost.symm.trans hostRead)
  obtain rfl := Except.ok.inj (agrees.kms.symm.trans kmsRead)
  obtain rfl := allowVanillaPsbt_eq vanillaRead
  obtain rfl := requiredNumber_eq chainSet chainRead
  obtain rfl := expectedNetwork_eq networked networkRead
  obtain rfl := requiredAddress_eq (.zero 20) bridgeSet bridgeRead
  obtain rfl := requiredAddress_eq
    (((imageVar (imageVars entries) "EVM_PROXY_CONTRACT_ADDRESS").bind parseEthAddress).getD
      (.zero 20)) fundsSet fundsRead
  rw [SPV_MIN_CONFIRMATIONS_ENV, okOr_ok.mp depthSet] at deep
  obtain rfl := parseSpvMinConfirmations_eq (okOr_ok.mp depthRead) deep
  obtain rfl := gasTxAllowedTo_eq destinationRead
  obtain rfl := gasNumber_eq rfl (fun parsed => parsed) gasRead
  obtain rfl := gasNumber_eq rfl (fun parsed => parsed) feeRead
  obtain rfl := gasSelectors_eq selectorsRead
  obtain rfl := gasNumber_eq rfl parseU128_trim weiRead
  obtain rfl := requiredAddress_eq (.zero 20) tokenSet tokenRead
  simp only [SecurityPolicy.attested, Policy.productionPolicy, BridgeConfig.allowsVanillaBtc,
    agrees.evmSource, agrees.evmRpcTls, okOr_ok.mp assetSet, filter_getD, Option.getD_some]

theorem withDocumentPcr3_eq {role : SignerRole} {config : BridgeConfig} {launch : Policy.Launch}
    {getOwnPcr3 : Result (Word 48)} {policy : SecurityPolicy} {docPcrs : Pcrs}
    (resolved : launchPolicy (releaseBuild role true).toBuildContext config launch getOwnPcr3 =
      .ok policy)
    (own : ∀ pcr3, getOwnPcr3 = .ok pcr3 → docPcrs.lookup 3 = some pcr3.val) :
    withDocumentPcr3 (SecurityPolicy.production { Policy.productionPolicy role config launch with
      kms := launch.kms }).attested docPcrs = .ok policy.attested := by
  obtain ⟨pcr3, rfl, ⟨rfl, rfl⟩ | ⟨clones, word, read, rfl, nonzero⟩⟩ := launchPolicy_ok resolved
  · rfl
  · have peers : clonePeerPcr3 role docPcrs = .ok (some word) := by
      rw [clonePeerPcr3, if_neg clones, own word read]
      exact bind_ok.mpr ⟨_, rfl, bind_ok.mpr ⟨word, okOr_ok.mpr (Word.ofBytes?_eq_some.mpr rfl),
        refuse_bind_ok.mpr ⟨nonzero, rfl⟩⟩⟩
    exact bind_ok.mpr ⟨some word, peers, rfl⟩

end Launch

/-- A release enclave with SPV that booted on the image and accepted the endpoints
    commits to the expected policy with the PCR3 of its document. The comparison
    accepts those bytes and no others. -/
theorem launch_check_accepts_exactly_the_commitment {libs : EndpointLibs}
    {fromStr : String → Option (List String)} {imageEnv : String} {entries : List String}
    {env : Env} {role : SignerRole} {req : SetEndpointsRequest} {expected : AttestedPolicy}
    {memory : Except String Unit} {config : BridgeConfig}
    {getOwnPcr3 : Result (Word 48)} {system : LaunchSystem}
    {slot : Option Launched} {launched : Launched} {docPcrs : Pcrs}
    (listed : fromStr imageEnv = some entries)
    (distinct : ((imageVars entries).map Prod.fst).Nodup) (holds : HoldsImage env entries)
    (computed : expectedPolicy fromStr libs.sha256 role imageEnv req = .ok expected)
    (booted : boot (releaseBuild role true).toBuildContext memory env = .ok config)
    (accepted : handleSetEndpoints libs (releaseBuild role true) config getOwnPcr3 system req slot =
      .ok () (some launched))
    (own : ∀ pcr3, getOwnPcr3 = .ok pcr3 → docPcrs.lookup 3 = some pcr3.val) :
    ∃ policy, withDocumentPcr3 expected docPcrs = .ok policy ∧
      policy.toBytes = launched.policy.commitmentBytes ∧
      ∀ attested decoded, comparePolicy policy attested = .ok decoded ↔
        attested = launched.policy.commitmentBytes ∧
          decoded = launched.policy.attested.canonical := by
  have loaded := boot_ok booted
  obtain ⟨-, _, prepared, ⟨⟩⟩ := handleSetEndpoints_ok accepted
  obtain ⟨parsed, resolved⟩ := prepareLaunch_ok prepared
  obtain rfl :=
    expectedPolicy_eq listed distinct holds computed loaded (launchOf_expected parsed)
  refine ⟨launched.policy.attested, withDocumentPcr3_eq resolved own, rfl, fun attested decoded => ?_⟩
  obtain ⟨pcr3, same, -⟩ := launchPolicy_ok resolved
  refine comparePolicy_ok ?_
  rw [same]
  exact productionPolicy_fits loaded ..

/-! One image of a mint signer on signet, for a build with SPV and, with two more
variables, for one that trusts its indexer. -/

def sampleCaDer : Bytes :=
  natBe 40 0x3082019f30820145a00302010202141d01267b91d4804e7986745180fd885eb8f98621300a06082a ++
    natBe 40 0x8648ce3d040302301c311a301806035504030c11546573742045564d205250432043412041302017 ++
    natBe 40 0x0d3236303932383230323631305a180f32313236303930343230323631305a301c311a3018060355 ++
    natBe 40 0x04030c11546573742045564d2052504320434120413059301306072a8648ce3d020106082a8648ce ++
    natBe 40 0x3d0301070342000422d9e31140ba12da946ebcfac34f701d7c9877e5b7749788dd2a961b2cfba12e ++
    natBe 40 0xca07c1dc175376931e772ce9de03b47affb7f703d0e6d9e0e541381d31e4a46aa3633061301d0603 ++
    natBe 40 0x551d0e04160414c1ddfdf51af07363204d9a4689f14e160ced94ee301f0603551d23041830168014 ++
    natBe 40 0xc1ddfdf51af07363204d9a4689f14e160ced94ee300f0603551d130101ff040530030101ff300e06 ++
    natBe 40 0x03551d0f0101ff040403020106300a06082a8648ce3d0403020348003045022100f63eab247b78b6 ++
    natBe 40 0x7f24ab2c767cb9876fbbebf214e8c784ab710cd0518ff68c52022054f2b7d30a10f0f3d468c59ef8 ++
    natBe 19 0x1db6ea7a2e469242db92a3c3b44a10fed6ff4f

def sampleEndpoints : SetEndpointsRequest where
  electrumUrl := "ssl://electrum.example:50002"
  evmRpcHost := "rpc.example"
  evmRpcCaDer := sampleCaDer
  evmRpcTlsPort := 443
  kmsKeyArn := "arn:aws:kms:eu-west-1:123456789012:key/mrk-0123456789abcdef0123456789abcdef"
  kmsRegion := "eu-west-1"
  kmsSeedId := "seed-1"
  kmsExpectedEvmAddress := ""
  evmRpcPath := ""

def sampleVarint (n : Nat) : Bytes :=
  if n < 128 then [UInt8.ofNat n] else [UInt8.ofNat (n % 128 + 128), UInt8.ofNat (n / 128)]

def sampleField (key : UInt8) (bytes : Bytes) : Bytes :=
  if bytes.isEmpty then [] else key :: sampleVarint bytes.length ++ bytes

def sampleEncode (req : SetEndpointsRequest) : Bytes :=
  sampleField 0x0A (utf8 req.electrumUrl) ++ sampleField 0x12 (utf8 req.evmRpcHost) ++
    sampleField 0x1A req.evmRpcCaDer ++ 0x20 :: sampleVarint req.evmRpcTlsPort.toNat ++
    sampleField 0x2A (utf8 req.kmsKeyArn) ++ sampleField 0x32 (utf8 req.kmsRegion) ++
    sampleField 0x3A (utf8 req.kmsSeedId) ++ sampleField 0x42 (utf8 req.kmsExpectedEvmAddress) ++
    sampleField 0x4A (utf8 req.evmRpcPath)

def sampleLibs : EndpointLibs where
  dnsName host := if host.toList.all fun c => c.isAlphanum || c = '-' || c = '.' then
    some host.toLower else none
  anchorFromTrustedCert der := if der = sampleCaDer then .ok () else .error "BadDer"
  encodeToVec := sampleEncode
  sha256 := tableHash [
    (sampleCaDer, .ofNatBe 32
      0x58c6acf2c15d81e939016026ec90047f88282fb3bef4d19dd2a1ff893f2349a8),
    (sampleEncode { sampleEndpoints with kmsKeyArn := "", kmsRegion := "", kmsSeedId := "" },
      .ofNatBe 32 0x7399ceaddeef2fbce4093c64d285bbd3380e0b75d17d7a648202f67e11d2bf57)]
  dnsName_lower {host name} found := by
    split_ifs at found
    exact (Option.some.inj found).symm
  anchorFromTrustedCert_nil := by decide +kernel

def mintVars (more : List (String × String)) : List (String × String) :=
  [("PATH", "/usr/bin"), ("EVM_CHAIN_ID", "421614"), ("BITCOIN_NETWORK", "signet"),
    ("EVM_PROXY_CONTRACT_ADDRESS", "0x1111111111111111111111111111111111111111"),
    ("RGB_ASSET_ID", "rgb:asset"),
    ("FUNDS_IN_CONTRACT", "0x2222222222222222222222222222222222222222"),
    ("TOKEN_CONTRACT", "0x5555555555555555555555555555555555555555"),
    ("SPV_MIN_CONFIRMATIONS", "6"), ("BTC_MAX_TOTAL_SATS", "1000000"),
    ("KMS_ALLOWED_ACCOUNT_IDS", "123456789012")] ++ more

def indexerTrustedVars : List (String × String) :=
  [("BTC_RELAY_MODE", "none"),
    ("ENDPOINTS_SHA256", "7399ceaddeef2fbce4093c64d285bbd3380e0b75d17d7a648202f67e11d2bf57")]

def imageOf (vars : List (String × String)) : List String :=
  vars.map fun (name, value) => name ++ "=" ++ value

theorem splitOnce_entry {name value : String} (plain : '=' ∉ name.toList) :
    splitOnce '=' (name ++ "=" ++ value) = some (name, value) := by
  have named : ∀ c ∈ name.toList, decide (c ≠ '=') = true := by
    intro c listed
    exact decide_eq_true fun same => plain (same ▸ listed)
  have chars : (name ++ "=" ++ value).toList = name.toList ++ '=' :: value.toList := by simp
  rw [splitOnce, chars, List.takeWhile_append_of_pos named, List.dropWhile_append_of_pos named]
  simp

theorem imageVars_imageOf {vars : List (String × String)}
    (plain : ∀ entry ∈ vars, '=' ∉ entry.1.toList) : imageVars (imageOf vars) = vars := by
  induction vars with
  | nil => rfl
  | cons entry vars ih =>
      have first : splitOnce '=' (entry.1 ++ "=" ++ entry.2) = some entry :=
        splitOnce_entry (plain entry List.mem_cons_self)
      have rest := ih fun other listed => plain other (List.mem_cons_of_mem _ listed)
      rw [imageVars, imageOf, List.map_cons, List.filterMap_cons, first]
      exact congrArg (entry :: ·) rest

def jsonList (entries : List String) : String :=
  "[" ++ ",".intercalate (entries.map fun entry => "\"" ++ entry ++ "\"") ++ "]"

def sampleFromStr (entries : List String) (text : String) : Option (List String) :=
  if text = jsonList entries then some entries else none

theorem sampleFromStr_jsonList (entries : List String) :
    sampleFromStr entries (jsonList entries) = some entries := if_pos rfl

theorem holdsImage_imageOf {vars : List (String × String)}
    (plain : ∀ entry ∈ vars, '=' ∉ entry.1.toList)
    (short : ∀ entry ∈ vars, (utf8 entry.2).length < 2 ^ 21) :
    HoldsImage (.ofVars vars short) (imageOf vars) := by
  intro name
  rw [imageVars_imageOf plain]
  rfl

theorem mintVars_short : ∀ entry ∈ mintVars [], (utf8 entry.2).length < 2 ^ 21 := by
  decide +kernel

theorem mintVars_plain : ∀ entry ∈ mintVars [], '=' ∉ entry.1.toList := by decide +kernel

theorem indexerTrustedVars_short :
    ∀ entry ∈ mintVars indexerTrustedVars, (utf8 entry.2).length < 2 ^ 21 := by decide +kernel

theorem indexerTrustedVars_plain :
    ∀ entry ∈ mintVars indexerTrustedVars, '=' ∉ entry.1.toList := by decide +kernel

def sampleBridgeConfig (btcRelayMode : BtcRelayMode) (endpointsSha256 : Option (Word 32)) :
    BridgeConfig where
  chainId := 421614
  bridgeContract := .fill 20 0x11
  rgbAssetId := "rgb:asset"
  fundsInContract := .fill 20 0x22
  tokenContract := .fill 20 0x55
  btcRelayMode
  spvMinConfirmations := 6
  btcMaxTotalSats := 1000000
  bitcoinNetwork := .signet
  endpointsSha256
  kmsAllowedAccounts := ["123456789012"]

def sampleSystem : LaunchSystem where
  persistentSeed _ := .ok ()
  bindAll _ := .ok ()
  buildsRgbValidator _ := true
  buildsEvmRpcClient _ := true
  pinHosts _ := .ok ()
  setSeedSource _ := .ok ()

def sampleExpected : AttestedPolicy :=
  .production {
    allowVanillaPsbt := true, signerRole := .mint, attestation := .real
    evmSource := .pinnedTlsRpc, btcSource := .spvVerified, chainId := 421614
    bitcoinNetwork := .signet, bridgeContract := .fill 20 0x11, rgbAssetId := "rgb:asset"
    fundsInContract := .fill 20 0x22, evmFinalityTag := .finalized, spvMinConfirmations := 6
    electrumHost := "electrum.example", evmRpcTls := some ⟨"rpc.example", .ofNatBe 32
      0x58c6acf2c15d81e939016026ec90047f88282fb3bef4d19dd2a1ff893f2349a8⟩
    gasTxAllowedTo := .zero 20, gasTxMaxGasLimit := 0, gasTxMaxFeePerGas := 0
    gasTxMaxValueWei := 0, gasTxAllowedSelectors := [], tokenContract := .fill 20 0x55
    kms := some ⟨"arn:aws:kms:eu-west-1:123456789012:key/mrk-0123456789abcdef0123456789abcdef",
      "eu-west-1", "seed-1", none⟩
    clonePeerPcr3 := none }

theorem launch_check_accepts_exactly_the_commitment_mint :
    ∃ launched, handleSetEndpoints sampleLibs (releaseBuild .mint true)
        (sampleBridgeConfig .required none) (.ok (.zero 48)) sampleSystem sampleEndpoints none =
          .ok () (some launched) ∧
      ∃ policy, withDocumentPcr3 sampleExpected [(3, (Word.zero 48).val)] = .ok policy ∧
        comparePolicy policy launched.policy.commitmentBytes =
          .ok launched.policy.attested.canonical := by
  have prepares : (prepareLaunch sampleLibs (releaseBuild .mint true)
      (sampleBridgeConfig .required none) (.ok (.zero 48)) sampleSystem
      sampleEndpoints).toOption.isSome = true := by decide +kernel
  have computed : policyOfVars (imageVar (mintVars [])) sampleLibs.sha256 .mint sampleEndpoints =
      .ok sampleExpected := by decide +kernel
  have booted : boot (releaseBuild .mint true).toBuildContext (.ok ())
      (.ofVars (mintVars []) mintVars_short) = .ok (sampleBridgeConfig .required none) := by
    decide +kernel
  obtain ⟨launched, prepared⟩ := Option.isSome_iff_exists.mp prepares
  have accepted := handleSetEndpoints_of_prepared (toOption_eq_some.mp prepared)
  have listed := sampleFromStr_jsonList (imageOf (mintVars []))
  have vars := imageVars_imageOf mintVars_plain
  obtain ⟨policy, completed, -, compared⟩ := launch_check_accepts_exactly_the_commitment listed
    (vars ▸ by decide +kernel) (holdsImage_imageOf mintVars_plain mintVars_short)
    ((expectedPolicy_of_listed listed).trans (vars ▸ computed)) booted accepted
    (show ∀ pcr3, _ → List.lookup 3 [(3, (Word.zero 48).val)] = _ by rintro pcr3 ⟨⟩; rfl)
  exact ⟨launched, accepted, policy, completed, (compared _ _).mpr ⟨rfl, rfl⟩⟩

/-- A release enclave that trusts its indexer attests a development policy, which the
    tool refuses. -/
theorem indexer_trusted_release_refused :
    ∃ (entries : List String) (env : Env) (launched : Launched),
      ((imageVars entries).map Prod.fst).Nodup ∧ HoldsImage env entries ∧
      expectedPolicy (sampleFromStr entries) sampleLibs.sha256 .mint (jsonList entries)
        sampleEndpoints = .ok sampleExpected ∧
      boot (releaseBuild .mint false).toBuildContext (.ok ()) env = .ok (sampleBridgeConfig .none
        (some (chainEndpointsSha256 sampleLibs sampleEndpoints))) ∧
      handleSetEndpoints sampleLibs (releaseBuild .mint false) (sampleBridgeConfig .none
        (some (chainEndpointsSha256 sampleLibs sampleEndpoints))) (.ok (.zero 48))
        sampleSystem sampleEndpoints none = .ok () (some launched) ∧
      withDocumentPcr3 sampleExpected [(3, (Word.zero 48).val)] = .ok sampleExpected ∧
      sampleExpected.toBytes ≠ launched.policy.commitmentBytes ∧
      comparePolicy sampleExpected launched.policy.commitmentBytes =
        .error "policy mismatch: expected Production, attested Development" := by
  have attests : (prepareLaunch sampleLibs (releaseBuild .mint false) (sampleBridgeConfig .none
      (some (chainEndpointsSha256 sampleLibs sampleEndpoints))) (.ok (.zero 48)) sampleSystem
      sampleEndpoints).toOption.map Launched.policy =
        some (.development .indexerTrusted) := by decide +kernel
  have computed : policyOfVars (imageVar (mintVars indexerTrustedVars)) sampleLibs.sha256 .mint
      sampleEndpoints = .ok sampleExpected := by decide +kernel
  obtain ⟨launched, prepared, policy⟩ := Option.map_eq_some_iff.mp attests
  have accepted := handleSetEndpoints_of_prepared (toOption_eq_some.mp prepared)
  have vars := imageVars_imageOf indexerTrustedVars_plain
  refine ⟨imageOf (mintVars indexerTrustedVars), _, launched, vars ▸ by decide +kernel,
    holdsImage_imageOf indexerTrustedVars_plain indexerTrustedVars_short,
    (expectedPolicy_of_listed (sampleFromStr_jsonList _)).trans (vars ▸ computed),
    by decide +kernel, accepted, rfl, ?_⟩
  rw [policy]
  exact ⟨by decide +kernel, by decide +kernel⟩

end EnclaveSigner.Parent
