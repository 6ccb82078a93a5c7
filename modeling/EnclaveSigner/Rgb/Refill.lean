import EnclaveSigner.Rgb.PsbtValidation

/-! # The rules of a rights refill

A refill closes one mint right and makes new rights on outputs of the enclave.
It moves no units. The gate looks at the PSBT and the keys only: the right and at
most one fee input, all inputs of the coloured account, no sat paid away, and the
fee policy.
-/

namespace EnclaveSigner.Rgb

open Lib Bitcoin

def MAX_REFILL_FEE_INPUTS : Nat := 1

def MIN_REFILL_RIGHTS : Nat := 2

def MAX_REFILL_RIGHTS : Nat := 255

def assertRefillInputCount (psbt : Psbt) : Result Unit :=
  let inputs := psbt.unsignedTx.input.val.length
  refuse (inputs > 1 + MAX_REFILL_FEE_INPUTS)
    (.crossCheck (s!"rights-refill PSBT spends {inputs} inputs - a refill spends its right and " ++
      s!"at most {MAX_REFILL_FEE_INPUTS} fee input"))

section

variable (btc : PsbtCrate) (keys : BtcAccounts)

def refillColoredInputs (psbt : Psbt) : Result (List Nat) := do
  let colored := feeKeyPathInputsScoped btc keys psbt .colored
  assertOnlyColoredInputs psbt colored "rights-refill"
  pure colored

def refillGate (psbt : Psbt) : Result Unit := do
  assertRefillInputCount psbt
  let colored ← refillColoredInputs btc keys psbt
  assertKeepsAllSats btc keys psbt "rights-refill"
  checkPsbtFee btc psbt colored "rights-refill"

def assertRefillRightsOwned (psbt : Psbt) (vouts : List UInt32) : Result Unit :=
  forM vouts fun vout =>
    refuse (outputIsSelfDerived btc keys psbt vout.toNat (some .colored) = false)
      (.crossCheck (s!"rights refill puts a right on vout {vout}, which is not a Colored " ++
        "key-path output of this enclave at child path [0, i] - refusing to give a right away"))

end

def TypedAssigns.seals : TypedAssigns → List BuilderSeal
  | .declarative seals => seals
  | .fungible legs => legs.map Prod.fst
  | .structured items => items.map Prod.fst

section

variable (rgb : RgbStd)

def assertPropagate (transition : Transition) : Result Unit :=
  refuse (transition.transitionType ≠ rgb.schemata.tsPropagate)
    (.crossCheck (s!"rights refill requires a propagate transition (transition_type = " ++
      s!"{rgb.typeText transition.transitionType}, want {rgb.typeText rgb.schemata.tsPropagate})"))

def assertRightsOnly (transition : Transition) : Result Unit := do
  let types := transition.assignments.map Prod.fst
  refuse (types ≠ [rgb.schemata.osMint] ∨ transition.globals ≠ [] ∨ transition.metadata ≠ [])
    (.crossCheck (s!"rights refill assigns types {rgb.typesDebug types} with " ++
      s!"{transition.globals.length} global(s) and {transition.metadata.length} metadata - a " ++
      "refill moves rights only"))
  match transition.assignments.lookup rgb.schemata.osMint with
  | some (.declarative _) => pure ()
  | _ => .error (.crossCheck
      "rights refill makes mintRights that carry state - a right carries none")

/-- The loop over the seals: each on its own output of the transaction. `vouts`
    holds the outputs so far in ascending order. -/
def collectVouts (vouts : List UInt32) : List OutputSeal → Result (List UInt32)
  | [] => .ok vouts
  | held :: rest => do
      let vout ← witnessVout "a refill right" held
      refuse (vout ∈ vouts)
        (.crossCheck s!"rights refill puts two rights on vout {vout} - one right per output")
      collectVouts (vouts.orderedInsert (· ≤ ·) vout) rest

def assertRefillRights (rights : List OutputSeal) : Result (List UInt32) := do
  refuse (rights.length < MIN_REFILL_RIGHTS ∨ MAX_REFILL_RIGHTS < rights.length)
    (.crossCheck (s!"rights refill makes {rights.length} right(s) - a refill makes " ++
      s!"{MIN_REFILL_RIGHTS} to {MAX_REFILL_RIGHTS}"))
  collectVouts [] rights

def refillRights (committed : Committed) : Result (Opout × List UInt32) := do
  let transition := committed.transition
  assertPropagate rgb transition
  let right ← singleRightInput rgb transition "a rights refill"
  assertRightsOnly rgb transition
  let seals := ((transition.assignments.lookup rgb.schemata.osMint).map fun typed =>
    typed.seals.map (outputSeal rgb)).getD []
  let vouts ← assertRefillRights seals
  pure (right, vouts)

end

end EnclaveSigner.Rgb
