import EnclaveSigner.Rgb.MintSats
import EnclaveSigner.Rgb.ParentProof
import EnclaveSigner.Rgb.Source

/-! # The route of a mint and of a rights refill

Both are read from a PSBT, its fascia and its parent's fascia alone. A mint takes
the checks that need keys or the network from its context, so that no key is held
across a read. A check that is missing there refuses the mint.
-/

namespace EnclaveSigner.Rgb

open Lib Bitcoin Proto

structure MintValidationContext where
  bridgeConfig : BridgeConfig
  /-- The coloured key-path inputs that the enclave signs. -/
  psbtFeeKeyPaths : Option (Psbt → Result (List Nat))
  /-- Binds the mint to the deposit of the request. -/
  mintBinder : Option (MintFacts → Result Unit)
  mintSats : Option (Psbt → MintRecipient → Result Unit)

def MintRecipient.blindedSeals : MintRecipient → List String
  | .blinded text => [text]
  | .witness _ => []

def assertMintsNetDeposit (mint : MintFacts) (amount commission : UInt64) :
    Result Unit :=
  assertGroupAmount mint.issued amount commission

def mintInputs (psbt : Psbt) (ctx : MintValidationContext) : Result (List Nat) := do
  let inputs := psbt.unsignedTx.input.val.length
  refuse (inputs ≠ MINT_INPUTS)
    (.crossCheck (s!"mint PSBT spends {inputs} inputs - a mint spends its right alone, and that " ++
      "UTXO's sats pay the fee"))
  let resolveColored ← okOr (.crossCheck ("mint cannot be bound: no key-path resolver is wired " ++
    "in, so the enclave cannot tell which inputs it signs")) ctx.psbtFeeKeyPaths
  let colored ← resolveColored psbt
  assertOnlyColoredInputs psbt colored "mint"
  pure colored

section

variable (btc : PsbtCrate) (rgb : RgbStd)

/-- The pinned contract, and its transition that the transaction of the PSBT
    commits. The request must name the pinned asset too. -/
def pinnedCommitment (psbt : Psbt) (fascia : Bytes) (assetId : String) (cfg : BridgeConfig) :
    Result (ContractId × Committed) := do
  let pin ← pinnedContract rgb cfg
  let fascia ← parseFascia rgb fascia "fascia"
  let committed ← committedTransition btc.toCrate rgb psbt.unsignedTx fascia pin
  assertAssetBinding (rgb.contractIdText pin) assetId cfg .destination
  pure (pin, committed)

/-- The units of the mint that the PSBT and its fascia commit, and the seal of a
    blinded recipient. -/
def validateDestinationAnchor (destination : RgbDestination)
    (sourceAmount sourceCommission : UInt64) (ctx : MintValidationContext) :
    Result (UInt64 × List String) := do
  let psbt ← parsePsbtShape btc destination.psbtBytes
  assertMintShape psbt
  assertTxidAndSighashFixed btc psbt
  let (pin, committed) ←
    pinnedCommitment btc rgb psbt destination.fascia destination.assetId ctx.bridgeConfig
  let mint ← mintFacts rgb committed
  assertMintsNetDeposit mint sourceAmount sourceCommission
  let colored ← mintInputs psbt ctx
  let _ ← rightInput btc.toCrate rgb psbt destination.parentFascia mint.right pin
  checkPsbtFee btc psbt colored "mint"
  let mintSats ← okOr (.crossCheck "mint cannot be signed: no sats check is wired in") ctx.mintSats
  mintSats psbt mint.recipient
  let bind ← okOr (.crossCheck "mint cannot be bound: no deposit binder is wired in")
    ctx.mintBinder
  bind mint
  pure (mint.issued, mint.recipient.blindedSeals)

def validateRightsRefill (req : SignRightsRefillRequest) (psbt : Psbt) (cfg : BridgeConfig) :
    Result (List UInt32) := do
  assertTxidAndSighashFixed btc psbt
  let (pin, committed) ← pinnedCommitment btc rgb psbt req.fascia req.assetId cfg
  let (right, vouts) ← refillRights rgb committed
  let _ ← rightInput btc.toCrate rgb psbt req.parentFascia right pin
  pure vouts

end

def mintContext (btc : PsbtCrate) (keys : BtcAccounts) (cfg : BridgeConfig)
    (bind : MintFacts → Result Unit) : MintValidationContext where
  bridgeConfig := cfg
  psbtFeeKeyPaths := some fun psbt => .ok (feeKeyPathInputsScoped btc keys psbt .colored)
  mintBinder := some bind
  mintSats := some fun psbt recipient => assertMintSats btc keys psbt recipient cfg.mintWitnessSat

end EnclaveSigner.Rgb
