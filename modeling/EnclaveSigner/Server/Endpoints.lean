import EnclaveSigner.Config.Endpoints

/-! # Boot and launch

An enclave boots on the environment of its image. It has no policy until the
operator sets the endpoints. All steps that can fail come before the set, so that
a refused set can be tried again, and a second set is refused.
-/

namespace EnclaveSigner.Server

open Lib Policy
open Attestation (KmsPin EvmRpcTlsPin EvmDataSource BitcoinNetwork)

section Boot

def resolveNetwork (name : String) : Except String BitcoinNetwork :=
  (networkFromEnvStr name).mapError fun e =>
    s!"BITCOIN_NETWORK '{name}' is not valid ({e}): use bitcoin, signet, signetcustom, " ++
      "testnet3, testnet4 or regtest"

def noLaunch : Policy.Launch where
  evmSource := .disabled
  evmRpcTls := none
  electrumHost := ""
  kms := none
  electrumHostShort := Nat.zero_le _
  evmRpcTlsShort := nofun
  kmsShort := noKms_short

/-- The configuration that an enclave starts with. The error is the panic that stops
    it. `memory` is the verdict on the memory of the machine. -/
def boot (ctx : BuildContext) (memory : Except String Unit) (env : Env) :
    Except String BridgeConfig := do
  let _ ← resolveNetwork ((env.get? "BITCOIN_NETWORK").getD "bitcoin")
  let config ← BridgeConfig.fromEnv env
  if ctx.indexerTrusted then
    config.validateIndexerOnly.mapError fun e =>
      s!"invalid indexer-only configuration: {debugQuote e}"
  (SecurityPolicy.resolve ctx config noLaunch).assertValidAtBoot ctx
  memory
  pure config

theorem boot_ok {ctx : BuildContext} {memory : Except String Unit} {env : Env}
    {config : BridgeConfig} (booted : boot ctx memory env = .ok config) :
    BridgeConfig.fromEnv env = .ok config := by
  simp only [boot, bind_ok] at booted
  obtain ⟨_, -, read, loaded, booted⟩ := booted
  split_ifs at booted
  all_goals
    simp only [bind_ok] at booted
    obtain ⟨_, -, booted⟩ := booted
  · obtain ⟨_, -, _, -, ⟨⟩⟩ := booted
    exact loaded
  · obtain ⟨_, -, ⟨⟩⟩ := booted
    exact loaded

end Boot

section Launch

def resolveEvmDataSource (libs : EndpointLibs) (tls : EvmRpcTls) :
    EvmDataSource × Option EvmRpcTlsPin :=
  (.pinnedTlsRpc, some { host := tls.host, caSha256 := libs.sha256 tls.caDer })

/-- What the endpoints add to the policy. Without `evm-rpc` there is no pin. -/
def launchOf (libs : EndpointLibs) (endpoints : Endpoints) (short : endpoints.Short) :
    Policy.Launch where
  evmSource := (endpoints.evmRpcTls.map fun tls => (resolveEvmDataSource libs tls).1).getD .disabled
  evmRpcTls := endpoints.evmRpcTls.bind fun tls => (resolveEvmDataSource libs tls).2
  electrumHost := endpoints.electrumHost
  kms := endpoints.kms
  electrumHostShort := short.electrumHost
  evmRpcTlsShort pin pinned := by
    obtain ⟨tls, found, same⟩ := Option.bind_eq_some_iff.mp pinned
    cases same
    exact short.evmRpcTls tls found
  kmsShort := short.kms

def launchPolicy (build : BuildContext) (config : BridgeConfig) (launch : Policy.Launch)
    (getOwnPcr3 : Result (Word 48)) : Result SecurityPolicy := do
  let policy ← ((SecurityPolicy.resolve build config launch).withKms launch.kms).withClonePeerPcr3
    getOwnPcr3
  (policy.assertValidForBuild build).mapError .invalidRequest
  pure policy

/-- How the machine answers the steps that come after the checks. -/
structure LaunchSystem where
  persistentSeed : KmsPin → Result Unit
  bindAll : Endpoints → Result Unit
  buildsRgbValidator : String → Bool
  buildsEvmRpcClient : EvmRpcTls → Bool
  pinHosts : Endpoints → Except String Unit
  setSeedSource : KmsPin → Result Unit

def startServices (build : Build) (system : LaunchSystem) (endpoints : Endpoints) :
    Result Unit := do
  endpoints.kms.toList.forM system.persistentSeed
  system.bindAll endpoints
  refuse (build.rgbValidation = true ∧ system.buildsRgbValidator endpoints.electrumUrl = false)
    (.internal "cannot build the RGB validator")
  refuse (∃ tls ∈ endpoints.evmRpcTls, system.buildsEvmRpcClient tls = false)
    (.internal "cannot build the EVM RPC client")
  (system.pinHosts endpoints).mapError fun e => .internal s!"cannot pin hosts in /etc/hosts: {e}"
  endpoints.kms.toList.forM system.setSeedSource

/-- What a set of the endpoints fixes. -/
structure Launched where
  endpoints : Endpoints
  policy : SecurityPolicy
  deriving DecidableEq

def prepareLaunch (libs : EndpointLibs) (build : Build) (config : BridgeConfig)
    (getOwnPcr3 : Result (Word 48)) (system : LaunchSystem)
    (req : SetEndpointsRequest) : Result Launched := do
  refuse (build.indexerTrusted = true ∧
      config.endpointsSha256 ≠ some (chainEndpointsSha256 libs req))
    (.invalidRequest "SetEndpoints does not match the measured ENDPOINTS_SHA256 pin")
  match parsed : Endpoints.parse libs build req config.kmsAllowedAccounts build.debugOrTest with
  | .error reason => .error (.invalidRequest reason)
  | .ok endpoints =>
      refuse (build.evmRpc = true ∧ endpoints.evmRpcTls = none)
        (.invalidRequest "the EVM RPC endpoint is not set")
      let launch := launchOf libs endpoints (Endpoints.parse_short parsed)
      let policy ← launchPolicy build.toBuildContext config launch getOwnPcr3
      startServices build system endpoints
      pure { endpoints, policy }

/-- `SetEndpoints`: once only, and only after every check. -/
def handleSetEndpoints (libs : EndpointLibs) (build : Build) (config : BridgeConfig)
    (getOwnPcr3 : Result (Word 48)) (system : LaunchSystem)
    (req : SetEndpointsRequest) : EStateM EnclaveError (Option Launched) Unit := do
  if (← get).isSome then throw (.invalidRequest "endpoints are already set")
  let launched ← liftM (prepareLaunch libs build config getOwnPcr3 system req)
  set (some launched)

variable {libs : EndpointLibs} {build : Build} {config : BridgeConfig}
  {getOwnPcr3 : Result (Word 48)} {system : LaunchSystem}
  {req : SetEndpointsRequest} {launched : Launched}

theorem handleSetEndpoints_ok {slot slot' : Option Launched}
    (accepted : handleSetEndpoints libs build config getOwnPcr3 system req slot = .ok () slot') :
    slot = none ∧ ∃ launched, prepareLaunch libs build config getOwnPcr3 system req =
      .ok launched ∧ slot' = some launched := by
  cases slot with
  | some before => cases accepted
  | none =>
      obtain ⟨launched, prepared, done⟩ := lift_bind_ok.mp accepted
      cases done
      exact ⟨rfl, launched, prepared, rfl⟩

theorem handleSetEndpoints_of_prepared
    (prepared : prepareLaunch libs build config getOwnPcr3 system req = .ok launched) :
    handleSetEndpoints libs build config getOwnPcr3 system req none = .ok () (some launched) :=
  lift_bind_ok.mpr ⟨launched, prepared, rfl⟩

theorem prepareLaunch_ok
    (prepared : prepareLaunch libs build config getOwnPcr3 system req = .ok launched) :
    ∃ parsed : Endpoints.parse libs build req config.kmsAllowedAccounts build.debugOrTest =
        .ok launched.endpoints,
      launchPolicy build.toBuildContext config
        (launchOf libs launched.endpoints (Endpoints.parse_short parsed)) getOwnPcr3 =
          .ok launched.policy := by
  obtain ⟨-, prepared⟩ := refuse_bind_ok.mp prepared
  split at prepared
  · cases prepared
  · rename_i endpoints parsed
    simp only [bind_ok] at prepared
    obtain ⟨_, -, policy, resolved, _, -, ⟨⟩⟩ := prepared
    exact ⟨parsed, resolved⟩

end Launch

end EnclaveSigner.Server
