import EnclaveSigner.Config.FromEnv
import EnclaveSigner.Kms.Config
import EnclaveSigner.Policy

/-! # Launch endpoints

The operator sets the chain endpoints and the KMS key once, after the launch. A
build checks the values it uses and refuses the others.
-/

namespace EnclaveSigner

open Lib Policy
open Attestation (KmsPin EvmRpcTlsPin)

structure SetEndpointsRequest where
  electrumUrl : String
  evmRpcHost : String
  evmRpcCaDer : Bytes
  evmRpcTlsPort : UInt32
  kmsKeyArn : String
  kmsRegion : String
  kmsSeedId : String
  kmsExpectedEvmAddress : String
  evmRpcPath : String
  deriving DecidableEq

/-- The libraries that read the values: the DNS names, the trust anchors, the
    protobuf encoding and SHA-256. A DNS name is given back in lower case, and no
    certificate is empty. -/
structure EndpointLibs where
  dnsName : String → Option String
  anchorFromTrustedCert : Bytes → Except String Unit
  encodeToVec : SetEndpointsRequest → Bytes
  sha256 : Bytes → Word 32
  dnsName_lower : ∀ {host name}, dnsName host = some name → name = host.toLower
  anchorFromTrustedCert_nil : anchorFromTrustedCert [] ≠ .ok ()

structure Build extends BuildContext where
  evmRpc : Bool
  kmsPersistence : Bool
  deriving DecidableEq

def MAX_EVM_RPC_CA_DER_BYTES : Nat := 16 * 1024

structure EvmRpcTls where
  host : String
  caDer : Bytes
  tlsPort : UInt16
  deriving DecidableEq

structure Endpoints where
  electrumUrl : String
  electrumHost : String
  electrumPort : UInt16
  evmRpcTls : Option EvmRpcTls
  kms : Option KmsPin
  deriving DecidableEq

def unused (name : String) (empty : Bool) : Except String Unit :=
  refuse (empty = false) s!"{name} is set, but this build does not use it"

def parsePort (name : String) (port : UInt32) : Except String UInt16 :=
  okOr s!"{name} {port} is not in 1-65535"
    (if 0 < port.toNat ∧ port.toNat < 2 ^ 16 then some (UInt16.ofNat port.toNat) else none)

/-- A DNS host name, in lower case. The library takes an underscore and a dot at the
    end, which are refused first. -/
def parseHost (libs : EndpointLibs) (name host : String) : Except String String := do
  refuse ('_' ∈ host.toList ∨ host.toList.getLast? = some '.')
    s!"{name} {debugQuote host} is not a host name"
  okOr s!"{name} {debugQuote host} is not a host name" (libs.dnsName host)

def stripScheme (url : String) (allowPlaintext : Bool) :
    Except String (String × Option UInt32) :=
  match stripPrefix "ssl://" url, stripPrefix "https://" url, stripPrefix "tcp://" url,
      stripPrefix "http://" url with
  | some rest, _, _, _ => .ok (rest, none)
  | none, some rest, _, _ => .ok (rest, some 443)
  | none, none, some rest, _ => plaintext "tcp://" (rest, none)
  | none, none, none, some rest => plaintext "http://" (rest, some 80)
  | none, none, none, none =>
      .error s!"electrum_url {debugQuote url} is not ssl://, tcp://, https:// or http://"
where
  plaintext (scheme : String) (found : String × Option UInt32) :
      Except String (String × Option UInt32) :=
    if allowPlaintext then .ok found
    else .error (s!"electrum_url {debugQuote url} is plaintext ({scheme}); a release image " ++
      "accepts only ssl:// or https://")

/-- The host and the number behind the last colon, or the port of the scheme. -/
def splitPort (url rest : String) (defaultPort : Option UInt32) :
    Except String (String × UInt32) :=
  match rsplitOnce ':' rest, defaultPort with
  | some (host, port), _ => do
      let port ← okOr s!"electrum_url {debugQuote url} has a bad port" (parseU32 port)
      pure (host, port)
  | none, some port => .ok (rest, port)
  | none, none => .error s!"electrum_url {debugQuote url} has no port"

def parseIndexerUrl (libs : EndpointLibs) (url : String) (allowPlaintext : Bool) :
    Except String (String × UInt16) := do
  let (rest, defaultPort) ← stripScheme url allowPlaintext
  let (host, port) ← splitPort url rest defaultPort
  let host ← parseHost libs "electrum_url host" host
  let port ← parsePort "electrum_url port" port
  pure (host, port)

def plaintextIndexerAllowed (build : Build) : Bool :=
  build.debugOrTest || build.mockAttestation || build.allowSeedImport

def parseElectrumUrl (libs : EndpointLibs) (build : Build) (url : String) :
    Except String (String × UInt16) :=
  parseIndexerUrl libs url (plaintextIndexerAllowed build)

def withoutSlash (url : String) : String := (stripSuffix "/" url).getD url

def endpointTexts (req : SetEndpointsRequest) : List (String × String) :=
  [("electrum_url", req.electrumUrl),
    ("evm_rpc_host", req.evmRpcHost),
    ("kms_key_arn", req.kmsKeyArn),
    ("kms_region", req.kmsRegion),
    ("kms_seed_id", req.kmsSeedId),
    ("kms_expected_evm_address", req.kmsExpectedEvmAddress)]

def kmsValues (req : SetEndpointsRequest) : List (String × String) :=
  [("kms_key_arn", req.kmsKeyArn),
    ("kms_region", req.kmsRegion),
    ("kms_seed_id", req.kmsSeedId),
    ("kms_expected_evm_address", req.kmsExpectedEvmAddress)]

namespace Endpoints

/-- The size limit comes first, as the parsers take more memory than the texts. -/
def checkSizes (req : SetEndpointsRequest) : Except String Unit :=
  (endpointTexts req).forM fun (name, value) =>
    refuse ((utf8 value).length > MAX_ENDPOINT_STRING_BYTES)
      s!"{name} is {(utf8 value).length} bytes; the limit is {MAX_ENDPOINT_STRING_BYTES}"

def parseElectrum (libs : EndpointLibs) (build : Build) (req : SetEndpointsRequest) :
    Except String (String × UInt16) :=
  if build.rgbValidation then parseElectrumUrl libs build (withoutSlash req.electrumUrl)
  else do
    unused "electrum_url" (req.electrumUrl == "")
    pure ("", 0)

def parseEvmRpcTls (libs : EndpointLibs) (build : Build) (req : SetEndpointsRequest)
    (electrumPort : UInt16) : Except String (Option EvmRpcTls) :=
  if build.evmRpc then do
    let host ← parseHost libs "evm_rpc_host" req.evmRpcHost
    refuse (req.evmRpcCaDer.length > MAX_EVM_RPC_CA_DER_BYTES)
      (s!"evm_rpc_ca_der is {req.evmRpcCaDer.length} bytes; the limit is " ++
        s!"{MAX_EVM_RPC_CA_DER_BYTES}")
    (libs.anchorFromTrustedCert req.evmRpcCaDer).mapError fun e =>
      s!"evm_rpc_ca_der is not a valid CA certificate: {e}"
    let tlsPort ← parsePort "evm_rpc_tls_port" req.evmRpcTlsPort
    -- Both forwarders listen on one address in the enclave.
    refuse (tlsPort = electrumPort) s!"evm_rpc_tls_port {tlsPort} is also the Electrum port"
    pure (some { host, caDer := req.evmRpcCaDer, tlsPort })
  else do
    unused "evm_rpc_host" (req.evmRpcHost == "")
    unused "evm_rpc_ca_der" req.evmRpcCaDer.isEmpty
    unused "evm_rpc_tls_port" (req.evmRpcTlsPort == 0)
    pure none

def parseExpectedAddress (address : String) : Except String (Option Address) :=
  if address = "" then .ok none
  else okOr "kms_expected_evm_address must be 20-byte hex" ((parseEthAddress address).map some)

def parseKms (build : Build) (req : SetEndpointsRequest) (kmsAccounts : List String)
    (allowUnpinned : Bool) (electrumHost : String) : Except String (Option KmsPin) :=
  if build.kmsPersistence then
    -- An import-only dev build has no KMS values.
    if build.allowSeedImport ∧ (kmsValues req).all (·.2 = "") then .ok none
    else do
      let config : Kms.KmsConfig :=
        { keyArn := req.kmsKeyArn, region := req.kmsRegion, seedId := req.kmsSeedId }
      config.validate.mapError EnclaveError.message
      (config.validateAccount kmsAccounts allowUnpinned).mapError EnclaveError.message
      refuse (electrumHost = Kms.endpointHost config.region)
        s!"electrum_url host {electrumHost} is the KMS host"
      let expectedEvmAddress ← parseExpectedAddress req.kmsExpectedEvmAddress
      pure (some {
        keyArn := config.keyArn, region := config.region, seedId := config.seedId
        expectedEvmAddress })
  else do
    (kmsValues req).forM fun (name, value) => unused name (value == "")
    pure none

/-- Check the values that the build uses. The others must be empty. -/
def parse (libs : EndpointLibs) (build : Build) (req : SetEndpointsRequest)
    (kmsAccounts : List String) (allowUnpinned : Bool) : Except String Endpoints := do
  checkSizes req
  let (electrumHost, electrumPort) ← parseElectrum libs build req
  let evmRpcTls ← parseEvmRpcTls libs build req electrumPort
  let kms ← parseKms build req kmsAccounts allowUnpinned electrumHost
  pure {
    electrumUrl := withoutSlash req.electrumUrl
    electrumHost
    electrumPort
    evmRpcTls
    kms }

end Endpoints

/-- The pin of the endpoints without SPV. The KMS values are not part of it. -/
def chainEndpointsSha256 (libs : EndpointLibs) (req : SetEndpointsRequest) : Word 32 :=
  libs.sha256 (libs.encodeToVec { req with
    kmsKeyArn := "", kmsRegion := "", kmsSeedId := "", kmsExpectedEvmAddress := "" })

section Accepted

variable {libs : EndpointLibs} {build : Build} {req : SetEndpointsRequest}

theorem parseHost_ok {name host found : String} (parsed : parseHost libs name host = .ok found) :
    found = host.toLower := by
  obtain ⟨-, accepted⟩ := refuse_bind_ok.mp parsed
  exact libs.dnsName_lower (okOr_ok.mp accepted)

def hostPart (rest : String) : String := ((rsplitOnce ':' rest).map (·.1)).getD rest

theorem splitPort_ok {url rest host : String} {defaultPort : Option UInt32} {port : UInt32}
    (found : splitPort url rest defaultPort = .ok (host, port)) :
    host = hostPart rest ∧ (rsplitOnce ':' rest = none → defaultPort.isSome) := by
  unfold splitPort at found
  unfold hostPart
  split at found
  · rename_i name number parts
    obtain ⟨_, -, ⟨⟩⟩ := bind_ok.mp found
    simp [parts]
  · rename_i number parts
    cases found
    simp [parts]
  · cases found

theorem parseIndexerUrl_ok {url host : String} {port : UInt16} {allowPlaintext : Bool}
    (parsed : parseIndexerUrl libs url allowPlaintext = .ok (host, port)) :
    ∃ rest defaultPort, stripScheme url allowPlaintext = .ok (rest, defaultPort) ∧
      (rsplitOnce ':' rest = none → defaultPort.isSome) ∧ host = (hostPart rest).toLower := by
  simp only [parseIndexerUrl, bind_ok] at parsed
  obtain ⟨⟨rest, defaultPort⟩, scheme, ⟨name, number⟩, parts, lower, named, _, -, ⟨⟩⟩ := parsed
  obtain ⟨rfl, defaulted⟩ := splitPort_ok parts
  exact ⟨rest, defaultPort, scheme, defaulted, parseHost_ok named⟩

section Length

theorem stripScheme_length {url rest : String} {allowPlaintext : Bool}
    {defaultPort : Option UInt32}
    (found : stripScheme url allowPlaintext = .ok (rest, defaultPort)) :
    (utf8 rest).length ≤ (utf8 url).length := by
  unfold stripScheme stripScheme.plaintext at found
  split at found
  · cases found
    exact stripPrefix_length ‹stripPrefix "ssl://" url = _›
  · cases found
    exact stripPrefix_length ‹stripPrefix "https://" url = some _›
  · split_ifs at found
    cases found
    exact stripPrefix_length ‹stripPrefix "tcp://" url = some _›
  · split_ifs at found
    cases found
    exact stripPrefix_length ‹stripPrefix "http://" url = _›
  · cases found

theorem hostPart_length (rest : String) : (utf8 (hostPart rest)).length ≤ (utf8 rest).length := by
  unfold hostPart
  cases parts : rsplitOnce ':' rest with
  | none => exact le_rfl
  | some pair => exact rsplitOnce_length parts

theorem withoutSlash_length (url : String) :
    (utf8 (withoutSlash url)).length ≤ (utf8 url).length := by
  unfold withoutSlash
  cases cut : stripSuffix "/" url with
  | none => exact le_rfl
  | some rest => exact stripSuffix_length cut

theorem checkSizes_ok {u : Unit} (sized : Endpoints.checkSizes req = .ok u) :
    ∀ entry ∈ endpointTexts req, (utf8 entry.2).length ≤ MAX_ENDPOINT_STRING_BYTES := by
  intro entry listed
  have passed := forM_ok.mp sized entry listed
  exact Nat.not_lt.mp (refuse_ok.mp passed)

end Length

namespace Endpoints

theorem parseElectrum_ok {host : String} {port : UInt16} (bridge : build.rgbValidation = true)
    (parsed : parseElectrum libs build req = .ok (host, port)) :
    ∃ rest defaultPort, stripScheme (withoutSlash req.electrumUrl)
        (plaintextIndexerAllowed build) = .ok (rest, defaultPort) ∧
      (rsplitOnce ':' rest = none → defaultPort.isSome) ∧ host = (hostPart rest).toLower := by
  rw [parseElectrum, if_pos bridge] at parsed
  exact parseIndexerUrl_ok parsed

theorem parseElectrum_length {host : String} {port : UInt16}
    (parsed : parseElectrum libs build req = .ok (host, port)) :
    (utf8 host).length ≤ (utf8 req.electrumUrl).length := by
  by_cases bridge : build.rgbValidation = true
  · obtain ⟨rest, _, scheme, -, rfl⟩ := parseElectrum_ok bridge parsed
    calc (utf8 (hostPart rest).toLower).length
      _ = (utf8 (hostPart rest)).length := utf8_toLower_length _
      _ ≤ (utf8 rest).length := hostPart_length rest
      _ ≤ (utf8 (withoutSlash req.electrumUrl)).length := stripScheme_length scheme
      _ ≤ (utf8 req.electrumUrl).length := withoutSlash_length _
  · rw [parseElectrum, if_neg bridge] at parsed
    obtain ⟨_, -, ⟨⟩⟩ := bind_ok.mp parsed
    exact Nat.zero_le _

theorem parseEvmRpcTls_ok {electrumPort : UInt16} {found : Option EvmRpcTls}
    (evmRpc : build.evmRpc = true)
    (parsed : parseEvmRpcTls libs build req electrumPort = .ok found) :
    ∃ tlsPort, found = some ⟨req.evmRpcHost.toLower, req.evmRpcCaDer, tlsPort⟩ ∧
      req.evmRpcCaDer ≠ [] := by
  rw [parseEvmRpcTls, if_pos evmRpc] at parsed
  simp only [bind_ok, mapError_ok] at parsed
  obtain ⟨host, named, _, -, ⟨⟩, anchored, tlsPort, -, _, -, ⟨⟩⟩ := parsed
  refine ⟨tlsPort, by rw [parseHost_ok named], fun empty => ?_⟩
  exact libs.anchorFromTrustedCert_nil (empty ▸ anchored)

theorem parseEvmRpcTls_length {electrumPort : UInt16} {found : Option EvmRpcTls}
    (parsed : parseEvmRpcTls libs build req electrumPort = .ok found) :
    ∀ tls ∈ found, (utf8 tls.host).length ≤ (utf8 req.evmRpcHost).length := by
  rintro tls ⟨⟩
  by_cases evmRpc : build.evmRpc = true
  · obtain ⟨_, same, -⟩ := parseEvmRpcTls_ok evmRpc parsed
    cases same
    exact (utf8_toLower_length _).le
  · rw [parseEvmRpcTls, if_neg evmRpc] at parsed
    simp only [bind_ok] at parsed
    obtain ⟨_, -, _, -, _, -, ⟨⟩⟩ := parsed

theorem parseKms_some {accounts : List String} {allowUnpinned : Bool} {electrumHost : String}
    {pin : KmsPin} (parsed : parseKms build req accounts allowUnpinned electrumHost =
      .ok (some pin)) :
    req.kmsRegion ≠ "" ∧ ∃ address, parseExpectedAddress req.kmsExpectedEvmAddress = .ok address ∧
      pin = ⟨req.kmsKeyArn, req.kmsRegion, req.kmsSeedId, address⟩ := by
  unfold parseKms at parsed
  split_ifs at parsed
  · cases parsed
  · simp only [bind_ok, mapError_ok] at parsed
    obtain ⟨_, valid, _, -, _, -, address, read, ⟨⟩⟩ := parsed
    exact ⟨Kms.KmsConfig.validate_region valid, address, read, rfl⟩
  · obtain ⟨_, -, ⟨⟩⟩ := bind_ok.mp parsed

theorem parseKms_isSome {accounts : List String} {allowUnpinned : Bool} {electrumHost : String}
    {found : Option KmsPin} (persistence : build.kmsPersistence = true)
    (release : build.allowSeedImport = false)
    (parsed : parseKms build req accounts allowUnpinned electrumHost = .ok found) :
    ∃ pin, found = some pin := by
  rw [parseKms, if_pos persistence, if_neg (by simp [release])] at parsed
  simp only [bind_ok] at parsed
  obtain ⟨_, -, _, -, _, -, _, -, ⟨⟩⟩ := parsed
  exact ⟨_, rfl⟩

structure Short (endpoints : Endpoints) : Prop where
  electrumHost : (utf8 endpoints.electrumHost).length ≤ MAX_ENDPOINT_STRING_BYTES
  evmRpcTls : ∀ tls ∈ endpoints.evmRpcTls, (utf8 tls.host).length ≤ MAX_ENDPOINT_STRING_BYTES
  kms : ∀ pin ∈ endpoints.kms, ∀ text ∈ [pin.keyArn, pin.region, pin.seedId],
    (utf8 text).length ≤ MAX_ENDPOINT_STRING_BYTES

theorem parse_short {accounts : List String} {allowUnpinned : Bool} {endpoints : Endpoints}
    (parsed : parse libs build req accounts allowUnpinned = .ok endpoints) : endpoints.Short := by
  simp only [parse, bind_ok] at parsed
  obtain ⟨_, sized, ⟨host, port⟩, electrum, tls, pinned, kms, custody, ⟨⟩⟩ := parsed
  have short := checkSizes_ok sized
  refine ⟨?_, ?_, ?_⟩
  · exact (parseElectrum_length electrum).trans (short ("electrum_url", _) (by simp [endpointTexts]))
  · intro pin listed
    exact (parseEvmRpcTls_length pinned pin listed).trans
      (short ("evm_rpc_host", _) (by simp [endpointTexts]))
  · rintro pin ⟨⟩ text listed
    obtain ⟨-, _, -, rfl⟩ := parseKms_some custody
    simp only [List.mem_cons, List.not_mem_nil, or_false] at listed
    rcases listed with rfl | rfl | rfl
    · exact short ("kms_key_arn", _) (by simp [endpointTexts])
    · exact short ("kms_region", _) (by simp [endpointTexts])
    · exact short ("kms_seed_id", _) (by simp [endpointTexts])

end Endpoints

end Accepted

end EnclaveSigner
