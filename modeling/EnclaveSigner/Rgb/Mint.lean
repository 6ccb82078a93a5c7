import EnclaveSigner.Rgb.Flow
import EnclaveSigner.Rgb.PsbtCommit

/-! # The mint rules

A mint consumes one right, issues exactly its declared supply to one recipient
seal, and carries nothing else. The facts of a mint name the deposit that it
needs: the lock id is a hash over the mint's operation id and the txid.
-/

namespace EnclaveSigner.Rgb

open Lib Bitcoin

inductive MintRecipient where
  /-- The seal of a blinded invoice. -/
  | blinded (text : String)
  /-- An output of the mint transaction itself. -/
  | witness (vout : UInt32)
  deriving DecidableEq

/-- What a committed mint says. -/
structure MintFacts where
  right : Opout
  opid : OpId
  lockId : Word 32
  issued : UInt64
  /-- The lock of the mint must be in an earlier EVM block. -/
  beforeBlock : UInt64
  recipient : MintRecipient
  deriving DecidableEq

def TypedAssigns.length : TypedAssigns → Nat
  | .declarative seals => seals.length
  | .fungible legs => legs.length
  | .structured items => items.length

/-- The fungible legs, none of any other kind of state. -/
def TypedAssigns.asFungible : TypedAssigns → List (BuilderSeal × UInt64)
  | .fungible legs => legs
  | _ => []

variable (rgb : RgbStd)

def assertMintType (transition : Transition) : Result Unit :=
  let ty := transition.transitionType
  refuse (isSigningTransition rgb ty = false)
    (.crossCheck (s!"mint-RGB PSBT commits transition type {rgb.typeText ty}, not a mint " ++
      s!"({rgb.typeText rgb.schemata.tsMint})"))

def assertAssetAssignmentsOnly (transition : Transition) : Result Unit := do
  let rights := transition.assignments.lookup rgb.schemata.osMint
  refuse (rights.isSome = true)
    (.crossCheck (s!"mint passes {(rights.map TypedAssigns.length).getD 0} mintRight output(s) " ++
      "on - the mint signer signs only a mint that consumes its right"))
  let types := transition.assignments.map Prod.fst
  refuse (types ≠ [rgb.schemata.osAsset])
    (.crossCheck s!"mint assigns types {rgb.typesDebug types} - a mint assigns asset units only")

def beforeBlock (transition : Transition) : Result UInt64 := do
  let value := (transition.metadata.lookup rgb.schemata.msBeforeBlock).getD []
  let word ← okOr (.crossCheck s!"mint beforeBlock is {value.length} bytes, expected 8")
    (Word.ofBytes? 8 value)
  pure (u64OfLe word)

/-- The issued supply, which is not zero, and the block bound. -/
def mintGlobals (transition : Transition) : Result (UInt64 × UInt64) := do
  let globals := transition.globals.map Prod.fst
  let metadata := transition.metadata.map Prod.fst
  refuse (globals ≠ [rgb.schemata.gsIssuedSupply] ∨ metadata ≠ [rgb.schemata.msBeforeBlock])
    (.crossCheck (s!"mint carries globals {rgb.typesDebug globals} and metadata " ++
      s!"{rgb.typesDebug metadata} - a mint carries issuedSupply and beforeBlock only"))
  let supply ← singleGlobal 8 transition.globals rgb.schemata.gsIssuedSupply "issuedSupply"
  let issued := (supply.map u64OfLe).getD 0
  refuse (issued = 0) (.crossCheck "mint issuedSupply is 0 - no deposit backs an empty mint")
  let before ← beforeBlock rgb transition
  pure (issued, before)

def mintRecipient : BuilderSeal → Result MintRecipient
  | .concealed secret => .ok (.blinded (rgb.secretSealText secret))
  | .revealed graph => do
      let vout ← witnessVout "the mint's asset leg" (outputSeal rgb (.revealed graph))
      pure (.witness vout)

def oneAssetLeg (transition : Transition) : Result (UInt64 × MintRecipient) :=
  match ((transition.assignments.lookup rgb.schemata.osAsset).map TypedAssigns.asFungible).getD []
  with
  | [(target, units)] => do
      let recipient ← mintRecipient rgb target
      pure (units, recipient)
  | legs =>
      .error (.crossCheck (s!"mint pays {legs.length} asset legs - exactly one, to the " ++
        "depositor's seal"))

def mintFacts (committed : Committed) : Result MintFacts := do
  let transition := committed.transition
  assertMintType rgb transition
  let right ← singleRightInput rgb transition "a mint"
  assertAssetAssignmentsOnly rgb transition
  let (issued, beforeBlock) ← mintGlobals rgb transition
  let (units, recipient) ← oneAssetLeg rgb transition
  refuse (units ≠ issued)
    (.crossCheck s!"mint pays {units} units but declares issuedSupply {issued}")
  pure {
    right
    opid := committed.opid
    lockId := rgb.lockId committed.opid committed.txid
    issued
    beforeBlock
    recipient }

variable {rgb}

theorem mintFacts_ok {committed : Committed} {mint : MintFacts}
    (passes : mintFacts rgb committed = .ok mint) :
    mint.opid = committed.opid ∧ mint.lockId = rgb.lockId committed.opid committed.txid := by
  simp only [mintFacts, bind_ok] at passes
  obtain ⟨_, -, right, -, _, -, ⟨issued, before⟩, -, ⟨units, recipient⟩, -, _, -, same⟩ := passes
  cases same
  exact ⟨rfl, rfl⟩

end EnclaveSigner.Rgb
