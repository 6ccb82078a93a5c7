import EnclaveSigner.Evm.Validation
import EnclaveSigner.Lib.LockedProgram
import EnclaveSigner.Rgb.Flow

/-! # RGB source

All checks on the RGB side of a release, from the shape of the payload to the
Bitcoin evidence. The header-chain lock is taken twice: for the positions that
consensus reads, and for the proofs and pins after consensus. The chain may
change in between.
-/

namespace EnclaveSigner.Rgb

open Lib Bitcoin Spv Proto

inductive AssetBindMode where
  | source
  | destination
  deriving DecidableEq

def AssetBindMode.declarer : AssetBindMode → String
  | source => "RGB source"
  | destination => "RGB destination"

def assetPinApplies (cfg : BridgeConfig) : AssetBindMode → Result Bool
  | .source =>
      if cfg.isConfigured then do
        refuse (cfg.rgbAssetId = "")
          (.crossCheck ("bridge config pinned chain/contract but RGB_ASSET_ID is empty - set " ++
            "all three env vars or none"))
        pure true
      else pure false
  | .destination => do
      refuse (cfg.rgbAssetId = "")
        (.crossCheck ("asset-identity pin missing: RGB_ASSET_ID is not configured - refusing " ++
          "to bind a send-RGB PSBT to an unpinned asset"))
      pure true

def assertAssetBinding (validatedContractId declaredAssetId : String) (cfg : BridgeConfig)
    (mode : AssetBindMode) : Result Unit := do
  refuse (validatedContractId = "")
    (.crossCheck "validated consignment has empty contract_id - cannot bind asset identity")
  refuse (validatedContractId ≠ declaredAssetId)
    (.crossCheck (s!"contract_id mismatch: consignment has {validatedContractId} but " ++
      s!"{mode.declarer} declares {declaredAssetId}"))
  let applies ← assetPinApplies cfg mode
  refuse (applies = true ∧ validatedContractId ≠ cfg.rgbAssetId)
    (.crossCheck (s!"contract_id mismatch: consignment asset {validatedContractId} != pinned " ++
      s!"RGB_ASSET_ID {cfg.rgbAssetId}"))

def assertConsignmentSize (consignment : Bytes) (cfg : BridgeConfig) (label : String) :
    Result Unit :=
  refuse (consignment.length > cfg.maxConsignmentBytes)
    (.crossCheck (s!"{label} consignment too large: {consignment.length} bytes (max " ++
      s!"{cfg.maxConsignmentBytes})"))

def proofBytes (proof : MerkleProofEntry) : Nat :=
  proof.txid.length + (proof.merklePath.map List.length).sum

def validateSourcePayload (codec : Evm.Codec) (source : RgbSource) (cfg : BridgeConfig) :
    Result Unit := do
  refuse (source.consignment = [])
    (.crossCheck ("RGB source requires raw consignment bytes; consignment_valid is not " ++
      "authoritative"))
  assertConsignmentSize source.consignment cfg "RGB source"
  refuse (source.merkleProofs.length > cfg.maxMerkleProofs)
    (.crossCheck (s!"RGB source carries too many merkle proofs: {source.merkleProofs.length} " ++
      s!"(max {cfg.maxMerkleProofs})"))
  let totalProofBytes := (source.merkleProofs.map proofBytes).sum
  refuse (totalProofBytes > cfg.maxTotalProofBytes)
    (.crossCheck (s!"RGB source merkle proofs too large in aggregate: {totalProofBytes} bytes " ++
      s!"(max {cfg.maxTotalProofBytes})"))
  refuse (source.consignmentHash = [])
    (.crossCheck "consignment present but consignment_hash is missing")
  refuse ((codec.keccak source.consignment).val ≠ source.consignmentHash)
    (.crossCheck "consignment hash mismatch: keccak256(consignment) != consignment_hash")
  refuse (source.assetId = "") (.crossCheck "RGB source asset_id is empty")

/-- The third-party code that a request runs, and the pinned configuration. -/
structure ValidationContext where
  btc : Crate
  rgb : RgbStd
  codec : Evm.Codec
  cfg : BridgeConfig
  rgbValidator : Option Consensus

section

variable {ω : Type} (ctx : ValidationContext)

def validateSourceConsignment (source : RgbSource) (now : SystemTime) (pins : ChainPins) :
    Program HeaderChain ω EnclaveError (ValidatedConsignment × ChainPins) := do
  validateSourcePayload ctx.codec source ctx.cfg
  let consensus ← okOr (EnclaveError.crossCheck
    "RGB source validation requires rgb_validator to be configured") ctx.rgbValidator
  let proven ← Program.locked fun chain =>
    provenWitnesses ctx.btc ctx.rgb chain source.merkleProofs ctx.cfg.spvMinConfirmations
  let validated ← validateConsignment ctx.btc ctx.rgb consensus source.consignment proven
  assertAssetBinding validated.contractId source.assetId ctx.cfg .source
  let pins ← Program.locked fun chain =>
    validateSourceChain ctx.btc chain (some validated) source.merkleProofs now pins
      ctx.cfg.spvMinConfirmations
  pure (validated, pins)

end

def normalizeRgbOperationId (opId : String) : Result String := do
  let normalized :=
    match opId.toList with
    | '0' :: 'x' :: rest => rest
    | chars => chars
  let len := (String.ofList normalized).utf8ByteSize
  refuse (len ≠ 64) (.crossCheck s!"RGB operation_id must be 32-byte hex, got {len} hex chars")
  refuse (normalized.all (fun c => c.isDigit || ('a' ≤ c.toLower && c.toLower ≤ 'f')) = false)
    (.crossCheck "RGB operation_id is not hex-decodable")
  pure (String.ofList (normalized.map Char.toLower))

def routeProofFromValidatedConsignment (rgb : RgbStd) (validated : ValidatedConsignment) :
    Result Evm.RouteProof := do
  let last ← okOr (.crossCheck "RGB source requires a consignment with at least one transition")
    validated.lastTransition
  let amount ← fundsOutSourceAmount rgb last
  let operationId ← normalizeRgbOperationId last.opId
  pure { amount, operationId := some operationId }

/-- The route proof of an RGB source, with the validated consignment and the
    pinned blocks. -/
def validateSource {ω : Type} (ctx : ValidationContext) (source : RgbSource) (now : SystemTime)
    (pins : ChainPins) :
    Program HeaderChain ω EnclaveError (Evm.RouteProof × ValidatedConsignment × ChainPins) := do
  let (validated, pins) ← validateSourceConsignment ctx source now pins
  let proof ← routeProofFromValidatedConsignment ctx.rgb validated
  pure (proof, validated, pins)

end EnclaveSigner.Rgb
