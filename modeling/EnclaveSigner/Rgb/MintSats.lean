import EnclaveSigner.Rgb.Mint
import EnclaveSigner.Rgb.PsbtValidation

/-! # The sats of a mint

A mint with a blinded recipient keeps every sat. One that pays its units to an
output of its own transaction pays the pinned amount to that output and keeps
every other sat.
-/

namespace EnclaveSigner.Rgb

open Lib Bitcoin

def MINT_INPUTS : Nat := 1

def MINT_MAX_INPUTS : Nat := 16

def MINT_MAX_OUTPUTS : Nat := 16

def assertMintShape (psbt : Psbt) : Result Unit := do
  let inputs := psbt.unsignedTx.input.val.length
  let outputs := psbt.unsignedTx.output.val.length
  refuse (inputs > MINT_MAX_INPUTS)
    (.crossCheck s!"mint PSBT has {inputs} inputs, at most {MINT_MAX_INPUTS}")
  refuse (outputs > MINT_MAX_OUTPUTS)
    (.crossCheck s!"mint PSBT has {outputs} outputs, at most {MINT_MAX_OUTPUTS}")

section

variable (btc : PsbtCrate) (keys : BtcAccounts)

/-- The seal of a witness mint is on a spendable output of the transaction that is
    not ours and carries exactly `witnessSat`. -/
def assertWitnessOutput (psbt : Psbt) (vout : UInt32) (witnessSat : UInt64) :
    Result Unit := do
  let outputs := psbt.unsignedTx.output.val
  let txout ← okOr (.crossCheck (s!"mint pays its units to vout {vout}, but its tx has " ++
    s!"{outputs.length} outputs")) outputs[vout.toNat]?
  refuse (txout.isOpReturn = true)
    (.crossCheck (s!"mint pays its units to vout {vout}, the OP_RETURN - a witness recipient is " ++
      "a spendable output"))
  let ourInputs := selfControlledInputScriptsScoped btc keys psbt none
  refuse (outputIsSelfDerived btc keys psbt vout.toNat none = true ∨
      outputIsSelfOwned psbt vout.toNat ourInputs = true)
    (.crossCheck (s!"mint pays its units to vout {vout}, an output of this enclave - a witness " ++
      "mint pays the depositor's output"))
  refuse (txout.value ≠ witnessSat)
    (.crossCheck (s!"mint pays {txout.value} sat to its recipient's vout {vout} - a witness mint " ++
      s!"pays exactly MINT_WITNESS_SAT ({witnessSat} sat)"))

def assertMintSats (psbt : Psbt) (recipient : MintRecipient) (witnessSat : UInt64) :
    Result Unit :=
  match recipient with
  | .blinded _ => assertKeepsAllSats btc keys psbt "mint"
  | .witness vout => do
      assertWitnessOutput btc keys psbt vout witnessSat
      match unownedOutputSats btc keys psbt [] with
      | some sats =>
          refuse (sats ≠ witnessSat)
            (.crossCheck (s!"mint PSBT pays {sats} sat to outputs this enclave does not derive - " ++
              s!"a witness mint pays {witnessSat} sat to its recipient's output and keeps every " ++
              "other sat"))
      | none => .error (.crossCheck "mint PSBT output total overflows u64")

end

variable {btc : PsbtCrate} {keys : BtcAccounts}

theorem assertWitnessOutput_ok {psbt : Psbt} {vout : UInt32} {witnessSat : UInt64}
    (passes : assertWitnessOutput btc keys psbt vout witnessSat = .ok ()) :
    ∃ txout, psbt.unsignedTx.output.val[vout.toNat]? = some txout ∧
      outputIsSelfDerived btc keys psbt vout.toNat none = false ∧ txout.value = witnessSat := by
  simp only [assertWitnessOutput, bind_ok, okOr_ok, refuse_ok, not_or, Bool.not_eq_true] at passes
  obtain ⟨txout, found, _, -, _, ⟨foreign, -⟩, paid⟩ := passes
  exact ⟨txout, found, foreign, not_not.mp paid⟩

theorem assertMintSats_witness_ok {psbt : Psbt} {vout : UInt32} {witnessSat : UInt64}
    (passes : assertMintSats btc keys psbt (.witness vout) witnessSat = .ok ()) :
    assertWitnessOutput btc keys psbt vout witnessSat = .ok () ∧
      unownedOutputSats btc keys psbt [] = some witnessSat := by
  simp only [assertMintSats, bind_ok] at passes
  obtain ⟨_, output, rest⟩ := passes
  refine ⟨output, ?_⟩
  split at rest
  · rename_i sats found
    rw [refuse_ok, not_not] at rest
    rw [found, rest]
  · cases rest

end EnclaveSigner.Rgb
