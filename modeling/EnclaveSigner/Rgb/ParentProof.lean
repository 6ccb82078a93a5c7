import EnclaveSigner.Rgb.Refill

/-! # The parent proof

A mint or a refill spends the UTXO of the right that its transition closes. The
fascia of the transaction that made the right says which UTXO that is. So two
requests with one parent spend the same outpoint.
-/

namespace EnclaveSigner.Rgb

open Lib Bitcoin

def outPointText (outpoint : OutPoint) : String :=
  s!"{txidText outpoint.txid}:{outpoint.vout}"

def previousOutput (input : TxIn) : OutPoint := ⟨input.previousTxid, input.previousVout⟩

def graphSealOutpoint (witness : Txid) : BuilderSeal → Option OutPoint
  | .revealed graph => some ⟨graph.txid.getD witness, graph.vout⟩
  | .concealed _ => none

def TypedAssigns.sealAt (typed : TypedAssigns) (no : UInt16) : Option BuilderSeal :=
  typed.seals[no.toNat]?

def spendingInput (psbt : Psbt) (right : OutPoint) : Result Nat :=
  match (psbt.unsignedTx.input.val.zipIdx.filter fun (input, _) => previousOutput input = right)
    with
  | [(_, i)] => .ok i
  | _ =>
      .error (.crossCheck (s!"the PSBT does not spend {outPointText right}, the UTXO of the right " ++
        "its transition closes - refusing to sign a tx that would destroy the state on its inputs"))

section

variable (btc : Crate) (rgb : RgbStd)

/-- No other revealed assignment of the parent is on the right's UTXO. -/
def assertAloneOn (made : Committed) (input : Opout) (right : OutPoint) :
    Result Unit :=
  forM made.transition.assignments fun (ty, typed) =>
    forM typed.seals.zipIdx fun (held, no) =>
      refuse ((ty, no) ≠ (input.ty, input.no.toNat) ∧ graphSealOutpoint made.txid held = some right)
        (.crossCheck (s!"the parent puts assignment {rgb.typeText ty}/{no} on the spent right's " ++
          s!"UTXO {outPointText right} too - refusing to destroy it"))

def rightVout (made : Committed) (input : Opout) : Result UInt32 := do
  refuse (input.op ≠ made.opid ∨ input.ty ≠ rgb.schemata.osMint)
    (.crossCheck (s!"parent_fascia commits transition {rgb.opIdText made.opid}, which did not " ++
      s!"make the mintRight {rgb.opoutText input} the request spends"))
  refuse (made.transition.transitionType ≠ rgb.schemata.tsPropagate)
    (.crossCheck (s!"the spent right was made by transition type " ++
      s!"{rgb.typeText made.transition.transitionType}, not a propagate - a mint or genesis " ++
      "parent is refused"))
  let _ ← singleRightInput rgb made.transition "the parent propagate"
  let held ← okOr (.crossCheck s!"parent transition has no mintRight {input.no}")
    ((made.transition.assignments.lookup input.ty).bind (·.sealAt input.no))
  let vout ← witnessVout "the spent right" (outputSeal rgb held)
  assertAloneOn rgb made input ⟨made.txid, vout⟩
  pure vout

/-- The index of the input that spends the UTXO of the right `input`, as the
    parent's fascia proves that UTXO. -/
def rightInput (psbt : Psbt) (parentFascia : Bytes) (input : Opout) (pin : ContractId) :
    Result Nat := do
  let parent ← parseFascia rgb parentFascia "parent_fascia"
  let made ← committedTransition btc rgb parent.tx parent pin
  let vout ← rightVout rgb made input
  spendingInput psbt ⟨made.txid, vout⟩

end

end EnclaveSigner.Rgb
