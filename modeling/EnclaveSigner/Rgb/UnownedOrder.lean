import EnclaveSigner.Rgb.BtcCrosscheck

/-! # The order of inputs and outputs does not matter

The exemption of a script is used up in output order, but what is left in the end
depends on the values under each script only. So inputs and outputs may be moved,
with their metadata, and the scripts may come in any order.
-/

namespace EnclaveSigner.Rgb

open Lib Bitcoin

/-- The outputs, each with its metadata. -/
def outputEntries (psbt : Psbt) : List (TxOut × Option PsbtOutput) :=
  psbt.unsignedTx.output.val.zipIdx.map fun output => (output.1, psbt.outputs[output.2]?)

def loneOutput (entry : TxOut × Option PsbtOutput) : Psbt where
  unsignedTx := ⟨0, ⟨[], length_nil_lt⟩, ⟨[entry.1], by simp⟩, 0⟩
  inputs := []
  outputs := entry.2.toList

section

variable {btc : PsbtCrate} {keys : BtcAccounts}

theorem outputIsSelfDerived_lone {psbt : Psbt} {index : Nat} {txout : TxOut}
    (found : psbt.unsignedTx.output.val[index]? = some txout)
    (allowedAccount : Option AccountType) :
    outputIsSelfDerived btc keys psbt index allowedAccount
      = outputIsSelfDerived btc keys (loneOutput (txout, psbt.outputs[index]?)) 0
          allowedAccount := by
  have metadata : (loneOutput (txout, psbt.outputs[index]?)).outputs[0]? = psbt.outputs[index]? := by
    cases psbt.outputs[index]? with
    | none => rfl
    | some output => rfl
  have value : (loneOutput (txout, psbt.outputs[index]?)).unsignedTx.output.val[0]? = some txout :=
    rfl
  unfold outputIsSelfDerived
  rw [metadata, value, found]

theorem underivedItems_eq (psbt : Psbt) :
    underivedItems btc keys psbt
      = ((outputEntries psbt).filter fun entry =>
          !outputIsSelfDerived btc keys (loneOutput entry) 0 none).map
            fun entry => outputItem entry.1 := by
  rw [underivedItems, underived, outputEntries, List.filter_map, List.map_map]
  refine congrArg (List.map _) (List.filter_congr fun output member => ?_)
  rw [outputIsSelfDerived_lone (List.mem_zipIdx_iff_getElem?.mp member), Function.comp_apply]

theorem underivedItems_perm {moved psbt : Psbt}
    (outputs : (outputEntries moved).Perm (outputEntries psbt)) :
    (underivedItems btc keys moved).Perm (underivedItems btc keys psbt) := by
  rw [underivedItems_eq, underivedItems_eq]
  exact (outputs.filter _).map _

theorem prevoutItems_perm {moved inputs : List PsbtInput} (perm : moved.Perm inputs) :
    (prevoutItems moved).Perm (prevoutItems inputs) :=
  (perm.filterMap _).map _

theorem unownedOutputSats_congr {moved psbt : Psbt} {others scripts : List Script}
    (same : ∀ script, script ∈ others ↔ script ∈ scripts)
    (prevouts : amountAt (prevoutItems moved.inputs) = amountAt (prevoutItems psbt.inputs))
    (exempt : exemptSats btc keys moved others = exemptSats btc keys psbt scripts)
    (total : underivedSats btc keys moved = underivedSats btc keys psbt) :
    unownedOutputSats btc keys moved others = unownedOutputSats btc keys psbt scripts := by
  have first := unownedOutputSats_spec btc keys moved others
  have second := unownedOutputSats_spec btc keys psbt scripts
  simp only [prevouts, exempt, total, same] at first
  cases left : unownedOutputSats btc keys moved others with
  | none =>
      cases right : unownedOutputSats btc keys psbt scripts with
      | none => rfl
      | some sats =>
          rw [left] at first
          rw [right] at second
          obtain ⟨fits, value⟩ := second
          have small := sats.toNat_lt
          rcases first with ⟨script, member, full⟩ | full
          · exact absurd (fits script member) (Nat.not_lt.mpr full)
          · omega
  | some sats =>
      rw [left] at first
      obtain ⟨fits, value⟩ := first
      have small := sats.toNat_lt
      cases right : unownedOutputSats btc keys psbt scripts with
      | none =>
          rw [right] at second
          rcases second with ⟨script, member, full⟩ | full
          · exact absurd (fits script member) (Nat.not_lt.mpr full)
          · omega
      | some other =>
          rw [right] at second
          exact congrArg some (UInt64.toNat_inj.mp (by omega))

/-- The unowned value is exact: the underived outputs less, on each exempt script,
    the smaller of their value and of the input value. It is missing only where
    the input value on an exempt script or the result does not fit 64 bits. It
    does not depend on the order of inputs, outputs or scripts. -/
theorem unowned_value_closed_form (btc : PsbtCrate) (keys : BtcAccounts) (psbt : Psbt)
    (scripts : List Script) :
    let unowned : ℤ := underivedSats btc keys psbt - ∑ script ∈ scripts.toFinset,
      min (amountAt (underivedItems btc keys psbt) script)
        (amountAt (prevoutItems psbt.inputs) script)
    (∀ sats, unownedOutputSats btc keys psbt scripts = some sats → (sats.toNat : ℤ) = unowned) ∧
    (unownedOutputSats btc keys psbt scripts = none →
      (∃ script ∈ scripts, 2 ^ 64 - 1 < amountAt (prevoutItems psbt.inputs) script) ∨
        2 ^ 64 - 1 < unowned) ∧
    ∀ moved others, moved.inputs.Perm psbt.inputs →
      (outputEntries moved).Perm (outputEntries psbt) →
      (∀ script, script ∈ others ↔ script ∈ scripts) →
      unownedOutputSats btc keys moved others = unownedOutputSats btc keys psbt scripts := by
  have closed := unownedOutputSats_spec btc keys psbt scripts
  rw [exemptSats, covered] at closed
  refine ⟨?_, ?_, ?_⟩
  · intro sats some_sats
    rw [some_sats] at closed
    obtain ⟨-, value⟩ := closed
    omega
  · intro overflow
    rw [overflow] at closed
    rcases closed with ⟨script, member, full⟩ | full
    · exact .inl ⟨script, member, by omega⟩
    · right
      omega
  · intro moved others inputs outputs same
    have items : (underivedItems btc keys moved).Perm (underivedItems btc keys psbt) :=
      underivedItems_perm outputs
    have prevouts := amountAt_perm (prevoutItems_perm inputs)
    refine unownedOutputSats_congr same prevouts ?_ (items.map Prod.snd).sum_eq
    have sets : others.toFinset = scripts.toFinset := by
      ext script
      rw [List.mem_toFinset, List.mem_toFinset, same]
    rw [exemptSats, exemptSats, covered, covered, sets, prevouts, amountAt_perm items]

end

section Samples

def reversedPlainPsbt : Psbt where
  unsignedTx := {
    version := 2
    input := ⟨[⟨Word.fill 32 0x22, 1, emptyScript, 0xffffffff⟩,
      ⟨Word.fill 32 0x11, 0, emptyScript, 0xffffffff⟩], by decide⟩
    output := ⟨[⟨20000, sampleWpkh 0x99⟩, ⟨59000, newP2trTweaked vanillaFirst.outputKey⟩,
      ⟨60000, newP2trTweaked vanillaChange.outputKey⟩], by decide⟩
    lockTime := 0 }
  inputs := [{ witnessUtxo := some ⟨40000, sampleWpkh 0x77⟩ }, ownInput vanillaFirst 100000]
  outputs := [{}, {}, ownOutput vanillaChange]

def samplePlainScripts : List Script := [(newP2trTweaked vanillaFirst.outputKey).val]

/-- The change on the script of the input is exempt: of 79000 underived sats 20000
    are unowned, in either order. -/
theorem unowned_value_closed_form_reversed :
    unownedOutputSats samplePlainCrate sampleAccounts reversedPlainPsbt
        (samplePlainScripts ++ samplePlainScripts) = some 20000 ∧
      (20000 : ℤ) = underivedSats samplePlainCrate sampleAccounts samplePlainPsbt
        - ∑ script ∈ samplePlainScripts.toFinset,
            min (amountAt (underivedItems samplePlainCrate sampleAccounts samplePlainPsbt) script)
              (amountAt (prevoutItems samplePlainPsbt.inputs) script) := by
  obtain ⟨exact, -, moved⟩ := unowned_value_closed_form samplePlainCrate sampleAccounts
    samplePlainPsbt samplePlainScripts
  have found : unownedOutputSats samplePlainCrate sampleAccounts samplePlainPsbt samplePlainScripts
      = some 20000 := by decide +kernel
  refine ⟨?_, exact 20000 found⟩
  rw [moved reversedPlainPsbt _ ?_ ?_ ?_]
  · exact found
  · exact List.Perm.swap _ _ _
  · exact List.reverse_perm [_, _, _]
  · simp

end Samples

end EnclaveSigner.Rgb
