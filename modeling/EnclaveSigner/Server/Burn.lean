import EnclaveSigner.Evm.Crosscheck
import EnclaveSigner.Evm.Signing
import EnclaveSigner.Rgb.Source

/-! # The burn signer

One `Sign` request from RGB to EVM, as a program around the header-chain lock.
The lock is taken for the positions of the witnesses, for the proofs and pins,
for the relay agreement, and at last for the key. Only the last section holds it
across the use of the key.
-/

namespace EnclaveSigner.Server

open Lib Bitcoin Spv Rgb Evm Proto

/-- What the burn signer reads of its server. -/
structure ServerContext extends ValidationContext where
  /-- The keys are ready to sign. -/
  keysReady : Bool
  signEvm : Word 32 → Result (Word 65)

/-- One use of the EVM key: the digest that it signs, and the consignment that
    the release rests on. -/
structure KeyUse where
  digest : Word 32
  validated : ValidatedConsignment

/-- What a request computes while others may change the header chain. -/
abbrev Request := Program HeaderChain KeyUse EnclaveError

structure EvmSignatureResponse where
  signature : Word 65
  callData : Bytes
  deriving DecidableEq

/-- The clock, as each side of the checks reads it. -/
structure Readings where
  source : SystemTime
  destination : SystemTime

def validateAmountCoversDestination (sourceAmount destinationAmount : UInt64) :
    Result Unit :=
  refuse (sourceAmount < destinationAmount)
    (.crossCheck (s!"amount mismatch: source amount ({sourceAmount}) < destination amount " ++
      s!"({destinationAmount})"))

/-- Run `sign` with the lock held, once the pinned blocks are as they were. With
    nothing pinned there is nothing to hold. -/
def signWithChainPinsUnchanged {α : Type} (pins : ChainPins) (sign : Request α) : Request α :=
  if pins.isEmpty then sign
  else .lock fun chain => do
    pins.assertUnchanged chain
    let signed ← sign
    .unlock (pure signed)

variable (ctx : ServerContext)

def useEvmKey (digest : Word 32) (validated : ValidatedConsignment) : Request (Word 65) :=
  .emit ⟨digest, validated⟩ (.ofExcept (ctx.signEvm digest))

def releaseDigest (domain : Eip712Domain) (req : EvmDestination) (params : Option FundsOutParams) :
    Result (Word 32) :=
  match params, req.lzRelease with
  | some params, none => .ok (fundsOutDigest ctx.codec domain params req.nonce req.deadline)
  | none, some lzRelease =>
      lzFundsOutDigest ctx.codec domain req.callData lzRelease req.nonce req.deadline
  | _, _ => .error (.crossCheck
      "EVM route mismatch: lz_release does not match the calldata selector")

def handleSignEvm (req : EvmDestination) (params : Option FundsOutParams) (pins : ChainPins)
    (validated : ValidatedConsignment) : Request EvmSignatureResponse := do
  let domain ← buildEvmDomain req
  let digest ← releaseDigest ctx domain req params
  let signature ← signWithChainPinsUnchanged pins (useEvmKey ctx digest validated)
  pure { signature, callData := req.callData }

def bindRelease (release : ReleaseIdentity) (validated : ValidatedConsignment)
    (burnDestination : Option BurnDestination) : Result Unit := do
  validateFundsOutAmount ctx.rgb release validated
  validateFundsOutSourceBurnTxId release validated
  validateFundsOutBurnRecipient ctx.codec release validated burnDestination
  validateFundsOutSettlement ctx.codec release validated.mintLocks

/-- Bind the calldata of a release to the validated consignment. -/
def applyFundsOutBinding (release : ReleaseIdentity) (validated : ValidatedConsignment)
    (merkleProofs : List MerkleProofEntry) (pins : ChainPins)
    (burnDestination : Option BurnDestination) : Request ChainPins := do
  assertWitnessesConfirmed validated
  let pins ← Program.locked fun chain =>
    verifyBtcRelayAgreement ctx.btc ctx.codec release validated merkleProofs chain pins
      ctx.cfg.btcRelayMode ctx.cfg.spvMinConfirmations
  bindRelease ctx release validated burnDestination
  pure pins

def handleSign (source : RgbSource) (destination : EvmDestination) (now : Readings) :
    Request EvmSignatureResponse := do
  refuse (ctx.keysReady = false) EnclaveError.keyNotInitialized
  let (sourceProof, validated, pins) ← validateSource ctx.toValidationContext source now.source []
  let (destinationProof, params, release) ←
    validateDestination ctx.codec ctx.cfg destination now.destination
  validateAmountCoversDestination sourceProof.amount destinationProof.amount
  validateRgbSourceIdentity release
  validateBurnId ctx.codec ctx.cfg release
  let pins ← applyFundsOutBinding ctx release validated source.merkleProofs pins
    destination.burnDestination
  handleSignEvm ctx destination params pins validated

end EnclaveSigner.Server
