import EnclaveSigner.Evm.LzOptions
import EnclaveSigner.Rgb.SpvCrosscheck

/-! # Release validation

The destination checks decode the calldata of a release on either route, refuse
a non-canonical encoding, and hold the payload against the pinned chain and
proxy. `ReleaseIdentity` is what both routes have in common: it names the
settled burn and its payout. The burn id is recomputed as the Bridge derives it.
-/

namespace EnclaveSigner.Evm

open Lib Proto

def FUNDS_OUT_SELECTOR_POOLS : Bytes := [0x34, 0x02, 0x76, 0xaa]

def LZ_FUNDS_OUT_SIGNATURE : String :=
  "lzFundsOut(uint256,uint256,uint256,uint256,string,bytes,bytes,uint32,bytes32,uint256,bytes," ++
    "bytes32)"

def MAX_FUNDS_OUT_CALL_DATA_LEN : Nat := 96 * 1024

def MAX_TEE_DEADLINE_SECS : UInt64 := 24 * 60 * 60

/-- What a source or destination validator proves, whatever its network. -/
structure RouteProof where
  amount : UInt64
  operationId : Option String
  deriving DecidableEq

/-- The settled burn and its payout, as either route names them. -/
structure ReleaseIdentity where
  burnId : U256
  amount : U256
  sourceChainId : U256
  sourceAddress : String
  settlementData : Bytes
  sourceBurnTxId : Word 32
  /-- The payee, an address behind twelve zeros on the direct route. -/
  recipient : Word 32
  destinationChainId : U256
  /-- None on the direct route. -/
  dstEid : Option UInt32
  proof : Bytes
  deriving DecidableEq

def ReleaseIdentity.fromFundsOut (params : FundsOutParams) : ReleaseIdentity where
  burnId := params.burnId
  amount := params.amount
  sourceChainId := params.sourceChainId
  sourceAddress := params.sourceAddress
  settlementData := params.settlementData
  sourceBurnTxId := params.sourceBurnTxId
  recipient := abiEncodeAddress params.recipient
  destinationChainId := params.destinationChainId
  dstEid := none
  proof := params.proof

def ReleaseIdentity.fromLzFundsOut (call : LzFundsOutCall) : ReleaseIdentity where
  burnId := call.burnId
  amount := call.amount
  sourceChainId := call.sourceChainId
  sourceAddress := call.sourceAddress
  settlementData := call.settlementData
  sourceBurnTxId := call.sourceBurnTxId
  recipient := call.recipient
  destinationChainId := call.destinationChainId
  dstEid := some call.dstEid
  proof := call.proof

def BURN_TYPEHASH_STR : String :=
  "UtexoBurnId(address bridge,uint256 chainId,address token,uint256 amount," ++
    "uint256 sourceChainId,bytes32 sourceAddressHash,bytes32 sourceBurnTxId)"

section

variable (codec : Codec) (cfg : BridgeConfig)

/-- The selector that `alloy` gives the wire format of the LayerZero release. -/
def lzFundsOutSelector : Bytes := (codec.keccak (utf8 LZ_FUNDS_OUT_SIGNATURE)).val.take 4

def burnIdPreimage (release : ReleaseIdentity) : Bytes :=
  (codec.keccak (utf8 BURN_TYPEHASH_STR)).val ++ ((abiEncodeAddress cfg.fundsInContract).val ++
    ((abiEncodeU256 cfg.chainId).val ++ ((abiEncodeAddress cfg.tokenContract).val ++
      ((u256Be release.amount).val ++ ((u256Be release.sourceChainId).val ++
        ((codec.keccak (utf8 release.sourceAddress)).val ++ release.sourceBurnTxId.val))))))

def expectedBurnId (release : ReleaseIdentity) : U256 :=
  u256OfBe (codec.keccak (burnIdPreimage codec cfg release))

/-- Skipped while no token contract is pinned. -/
def validateBurnId (release : ReleaseIdentity) : Result Unit :=
  let expected := expectedBurnId codec cfg release
  refuse (cfg.tokenContract ≠ Word.zero 20 ∧ release.burnId ≠ expected)
    (.crossCheck (s!"calldata burnId {hexNat release.burnId.toNat} != " ++
      s!"{hexNat expected.toNat}, the burnId the Bridge derives from the bound fields " ++
      "(FUNDS_IN_CONTRACT, EVM_CHAIN_ID, TOKEN_CONTRACT, amount, sourceChainId, " ++
      "sourceAddress, sourceBurnTxId) - refusing to sign a release the contract would revert " ++
      "with InvalidBurnId"))

def validateRgbSourceIdentity (source : ReleaseIdentity) : Result Unit := do
  refuse (source.sourceChainId ≠ u256OfU64 RGB_CHAIN_ID)
    (.crossCheck (s!"calldata sourceChainId {source.sourceChainId.toNat} != RGB network id " ++
      s!"{RGB_CHAIN_ID}: the source chain selects the verifier, settlement module and " ++
      "commission rate - refusing to sign an RGB release under a foreign source chain"))
  refuse (source.sourceAddress ≠ "")
    (.crossCheck ("calldata sourceAddress must be empty on an RGB route (RGB has no " ++
      s!"source-address concept and it is hashed into burnId), got {debugQuote source.sourceAddress}"))

/-- Decode a call and refuse bytes that its own encoding does not reproduce. -/
def decodeCanonical {α : Type} (decode : Bytes → Except String α) (encode : α → Bytes)
    (name rejection : String) (callData : Bytes) : Result α := do
  let decoded ← (decode callData).mapError fun e =>
    .crossCheck s!"invalid {name} calldata: {e}"
  refuse (encode decoded ≠ callData) (.crossCheck rejection)
  pure decoded

def decodeFundsOutParams (callData : Bytes) : Result FundsOutParams :=
  decodeCanonical codec.decodeFundsOut codec.encodeFundsOut "fundsOut"
    ("non-canonical fundsOut calldata encoding: re-encoding the decoded call does not " ++
      "reproduce the input bytes") callData

def decodeLzFundsOutParams (callData : Bytes) : Result LzFundsOutCall :=
  decodeCanonical codec.decodeLzFundsOut codec.encodeLzFundsOut "lzFundsOut"
    "non-canonical lzFundsOut calldata encoding: re-encoding does not reproduce input" callData

def releaseRouteProof (name : String) (amount : U256) : Result RouteProof := do
  let amount ← okOr (.crossCheck s!"{name} amount exceeds u64 range") (u64OfU256 amount)
  pure { amount, operationId := none }

def routeProofFromParams (params : FundsOutParams) : Result RouteProof :=
  releaseRouteProof "fundsOut" params.amount

def lzRouteProofFromParams (decoded : LzFundsOutCall) : Result RouteProof :=
  releaseRouteProof "lzFundsOut" decoded.amount

def validateMinAmountLd (decoded : LzFundsOutCall) : Result Unit := do
  refuse (decoded.minAmountLD = 0) (.crossCheck "lzFundsOut minAmountLD must be > 0")
  refuse (decoded.minAmountLD > decoded.amount)
    (.crossCheck (s!"lzFundsOut minAmountLD {decoded.minAmountLD.toNat} exceeds amount " ++
      s!"{decoded.amount.toNat}"))

/-- A decoded release: its proof, its parameters on the direct route, and its
    identity. -/
abbrev Release := RouteProof × Option FundsOutParams × ReleaseIdentity

def decodeLzRelease (callData : Bytes) : Result Release := do
  let decoded ← decodeLzFundsOutParams codec callData
  validateMinAmountLd decoded
  validateExtraOptions decoded.extraOptions
  let proof ← lzRouteProofFromParams decoded
  pure (proof, none, .fromLzFundsOut decoded)

def decodeDirectRelease (callData : Bytes) : Result Release := do
  let params ← decodeFundsOutParams codec callData
  let proof ← routeProofFromParams params
  pure (proof, some params, .fromFundsOut params)

def decodeRelease (isEntrypointRoute : Bool) (callData : Bytes) : Result Release :=
  if isEntrypointRoute then decodeLzRelease codec callData
  else decodeDirectRelease codec callData

def releaseSelector (callData : Bytes) : Result Bytes := do
  refuse (callData.length < 4)
    (.crossCheck (s!"call_data too short: need at least 4 bytes for selector, got " ++
      s!"{callData.length}"))
  refuse (callData.length > MAX_FUNDS_OUT_CALL_DATA_LEN)
    (.crossCheck (s!"call_data too large: {callData.length} bytes (max " ++
      s!"{MAX_FUNDS_OUT_CALL_DATA_LEN})"))
  let selector := callData.take 4
  refuse (selector ∉ [FUNDS_OUT_SELECTOR_POOLS, lzFundsOutSelector codec])
    (.crossCheck (s!"unexpected calldata selector 0x{hexEncode selector}: not in fundsOut " ++
      "whitelist"))
  pure selector

def checkLzRelease (isEntrypointRoute hasLzRelease : Bool) : Result Unit := do
  refuse (isEntrypointRoute ∧ ¬ hasLzRelease)
    (.crossCheck "lzFundsOut calldata requires lz_release")
  refuse (¬ isEntrypointRoute ∧ hasLzRelease)
    (.crossCheck "lz_release is only valid with lzFundsOut calldata")

/-- A direct payout settles on the pinned chain, a LayerZero payout on another
    one. -/
def checkDestinationChain (isEntrypointRoute : Bool) (destinationChainId : U256) :
    Result Unit :=
  if isEntrypointRoute then do
    refuse (destinationChainId = 0)
      (.crossCheck "calldata destinationChainId must be > 0")
    refuse (cfg.chainId ≠ 0 ∧ destinationChainId = u256OfU64 cfg.chainId)
      (.crossCheck (s!"calldata destinationChainId {destinationChainId.toNat} equals the " ++
        "pinned execution chain - a local payout must use the direct fundsOut route"))
  else
    refuse (cfg.chainId ≠ 0 ∧ destinationChainId ≠ u256OfU64 cfg.chainId)
      (.crossCheck (s!"calldata destinationChainId mismatch: {destinationChainId.toNat} != " ++
        s!"pinned {cfg.chainId}"))

def checkDomain (destination : EvmDestination) : Result Unit := do
  refuse (destination.chainId = 0) (.crossCheck "chain_id must be > 0")
  refuse (destination.proxyContract.length ≠ ADDRESS_LEN)
    (.crossCheck (s!"proxy_contract must be {ADDRESS_LEN} bytes, got " ++
      s!"{destination.proxyContract.length}"))
  refuse (cfg.isConfigured = false)
    (.crossCheck ("bridge config unconfigured: set EVM_CHAIN_ID / " ++
      "EVM_PROXY_CONTRACT_ADDRESS / RGB_ASSET_ID - refusing to sign in listener-trusting mode"))
  refuse (cfg.chainId ≠ 0 ∧ destination.chainId ≠ cfg.chainId)
    (.crossCheck (s!"chain_id mismatch: request {destination.chainId} != pinned " ++
      s!"{cfg.chainId}"))

def checkProxy (destination : EvmDestination) : Result Unit :=
  refuse (cfg.bridgeContract ≠ Word.zero 20 ∧ destination.proxyContract ≠ cfg.bridgeContract.val)
    (.crossCheck (s!"proxy_contract mismatch: request {hexEncode destination.proxyContract} != " ++
      s!"pinned {hexEncode cfg.bridgeContract.val}"))

def checkDeadline (deadline : UInt64) (now : Rgb.SystemTime) : Result Unit := do
  let now ← okOr (.internal "system time error: second time provided was later than self") now
  refuse (deadline ≤ now) (.crossCheck "request deadline expired")
  refuse (deadline > satAdd64 now MAX_TEE_DEADLINE_SECS)
    (.crossCheck (s!"request deadline {deadline} is more than {MAX_TEE_DEADLINE_SECS}s after " ++
      s!"now ({now})"))

def validateDestination (destination : EvmDestination) (now : Rgb.SystemTime) :
    Result Release := do
  let selector ← releaseSelector codec destination.callData
  let isEntrypointRoute := selector == lzFundsOutSelector codec
  checkLzRelease isEntrypointRoute destination.lzRelease.isSome
  let (proof, params, release) ← decodeRelease codec isEntrypointRoute destination.callData
  refuse (proof.amount ≠ destination.calldataAmount)
    (.crossCheck (s!"calldata amount mismatch: decoded {proof.amount} != declared " ++
      s!"{destination.calldataAmount}"))
  checkDomain cfg destination
  checkDestinationChain cfg isEntrypointRoute release.destinationChainId
  checkProxy cfg destination
  checkDeadline destination.deadline now
  pure (proof, params, release)

end

end EnclaveSigner.Evm
