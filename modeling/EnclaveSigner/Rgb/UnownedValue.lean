import EnclaveSigner.Rgb.BtcOwnership

/-! # Unowned value, in exact numbers

The loops over inputs and outputs add in 64 bits and stop where a sum would not
fit. Whatever they return is the exact value: the outputs that no account
derives, less what the exempt scripts cover.
-/

namespace EnclaveSigner.Rgb

open Lib Bitcoin

/-- The prevouts, as amounts under their scripts. -/
def prevoutItems (inputs : List PsbtInput) : List (Script × Nat) :=
  (inputs.filterMap PsbtInput.witnessUtxo).map fun utxo =>
    (utxo.scriptPubkey.val, utxo.value.toNat)

def outputItem (txout : TxOut) : Script × Nat := (txout.scriptPubkey.val, txout.value.toNat)

section

variable (btc : PsbtCrate) (keys : BtcAccounts) (psbt : Psbt)

/-- The outputs of a list with indices that rule (C) does not prove. -/
def underived (outputs : List (TxOut × Nat)) : List (Script × Nat) :=
  (outputs.filter fun output => !outputIsSelfDerived btc keys psbt output.2 none).map
    fun output => outputItem output.1

/-- The outputs of the transaction that rule (C) does not prove. -/
def underivedItems : List (Script × Nat) :=
  underived btc keys psbt psbt.unsignedTx.output.val.zipIdx

/-- The value on outputs that an account derives. -/
def derivedSats : Nat :=
  ((psbt.unsignedTx.output.val.zipIdx.filter fun output =>
    outputIsSelfDerived btc keys psbt output.2 none).map fun output => output.1.value.toNat).sum

end

/-- The value of all outputs. -/
def outputSats (psbt : Psbt) : Nat := (psbt.unsignedTx.output.val.map (·.value.toNat)).sum

/-- The value of all prevouts. -/
def inputSats (psbt : Psbt) : Nat := ((prevoutItems psbt.inputs).map Prod.snd).sum

/-- A fee that `Psbt::fee` returns is the exact difference of inputs and outputs.
    The value of an input is that of its `witness_utxo`, where it has one. -/
def FeeExact (btc : PsbtCrate) : Prop :=
  ∀ psbt fee, btc.fee psbt = .ok fee → (∀ input ∈ psbt.inputs, input.witnessUtxo.isSome) →
    outputSats psbt + fee.toNat = inputSats psbt

def roomSats (room : Room) (script : Script) : Nat := ((room script).getD 0).toNat

theorem roomSats_update (room : Room) (script : Script) (left : UInt64) :
    roomSats (Function.update room script (some left))
      = Function.update (roomSats room) script left.toNat := by
  funext other
  by_cases same : other = script
  · subst same
    rw [roomSats, Function.update_self, Function.update_self, Option.getD_some]
  · rw [roomSats, Function.update_of_ne same, Function.update_of_ne same, roomSats]

theorem prevoutItems_cons_none {input : PsbtInput} (missing : input.witnessUtxo = none)
    (rest : List PsbtInput) : prevoutItems (input :: rest) = prevoutItems rest := by
  rw [prevoutItems, List.filterMap_cons_none missing]
  rfl

theorem prevoutItems_cons_some {input : PsbtInput} {utxo : TxOut}
    (known : input.witnessUtxo = some utxo) (rest : List PsbtInput) :
    prevoutItems (input :: rest) = outputItem utxo :: prevoutItems rest := by
  rw [prevoutItems, List.filterMap_cons_some known]
  rfl

def exemptItems (inputScripts : List Script) (inputs : List PsbtInput) : List (Script × Nat) :=
  (prevoutItems inputs).filter fun item => inputScripts.contains item.1

theorem inputRoom_spec (inputScripts : List Script) (room : Room) (inputs : List PsbtInput) :
    match inputRoom inputScripts room inputs with
    | some filled => ∀ script, roomSats filled script
        = roomSats room script + amountAt (exemptItems inputScripts inputs) script
    | none => ∃ script,
        2 ^ 64 ≤ roomSats room script + amountAt (exemptItems inputScripts inputs) script := by
  induction inputs generalizing room with
  | nil => exact fun script => rfl
  | cons input rest ih =>
      cases known : input.witnessUtxo with
      | none =>
          simp only [inputRoom, known, exemptItems, prevoutItems_cons_none known]
          exact ih room
      | some utxo =>
          simp only [inputRoom, known, exemptItems, prevoutItems_cons_some known,
            List.filter_cons, outputItem]
          by_cases exempt : utxo.scriptPubkey.val ∈ inputScripts
          · simp only [List.contains_iff_mem.mpr exempt, if_true, amountAt_cons]
            cases added : checkedAdd64 ((room utxo.scriptPubkey.val).getD 0) utxo.value with
            | none =>
                refine ⟨utxo.scriptPubkey.val, ?_⟩
                have full := checkedAdd64_eq_none.mp added
                rw [if_pos rfl, roomSats]
                omega
            | some sum =>
                have value := checkedAdd64_eq_some.mp added
                have grown : ∀ script,
                    roomSats (Function.update room utxo.scriptPubkey.val (some sum)) script
                      = roomSats room script
                        + if utxo.scriptPubkey.val = script then utxo.value.toNat else 0 := by
                  intro script
                  rw [roomSats_update]
                  by_cases same : script = utxo.scriptPubkey.val
                  · rw [same, Function.update_self, if_pos rfl, value, roomSats]
                  · rw [Function.update_of_ne same, if_neg (Ne.symm same), Nat.add_zero]
                have step := ih (Function.update room utxo.scriptPubkey.val (some sum))
                simp only [grown, Nat.add_assoc] at step
                exact step
          · have foreign : inputScripts.contains utxo.scriptPubkey.val = false := by
              rw [Bool.eq_false_iff, Ne, List.contains_iff_mem]
              exact exempt
            simp only [foreign, Bool.false_eq_true, if_false]
            exact ih room

theorem setOff_value (room : Room) (txout : TxOut) :
    (setOff room txout).1.toNat
      = txout.value.toNat - min txout.value.toNat (roomSats room txout.scriptPubkey.val) := by
  unfold setOff roomSats
  cases room txout.scriptPubkey.val with
  | none => simp
  | some left =>
      have exempt := toNat_min64 txout.value left
      rw [UInt64.toNat_sub_of_le _ _ (by rw [UInt64.le_iff_toNat_le]; omega), exempt]
      rfl

theorem setOff_room (room : Room) (txout : TxOut) :
    roomSats (setOff room txout).2 = Function.update (roomSats room) txout.scriptPubkey.val
      (roomSats room txout.scriptPubkey.val
        - min txout.value.toNat (roomSats room txout.scriptPubkey.val)) := by
  unfold setOff
  cases held : room txout.scriptPubkey.val with
  | none =>
      have empty : roomSats room txout.scriptPubkey.val = 0 := by
        rw [roomSats, held]
        rfl
      rw [empty, Nat.zero_sub, ← empty, Function.update_eq_self]
  | some left =>
      have value : roomSats room txout.scriptPubkey.val = left.toNat := by
        rw [roomSats, held]
        rfl
      have exempt := toNat_min64 txout.value left
      rw [roomSats_update, value,
        UInt64.toNat_sub_of_le _ _ (by rw [UInt64.le_iff_toNat_le]; omega), exempt]

theorem sumUnowned_spec (btc : PsbtCrate) (keys : BtcAccounts) (psbt : Psbt) (room : Room)
    (unowned : UInt64) (outputs : List (TxOut × Nat)) :
    match sumUnowned btc keys psbt room unowned outputs with
    | some total => total.toNat
        = unowned.toNat + uncovered (roomSats room) (underived btc keys psbt outputs)
    | none => 2 ^ 64
        ≤ unowned.toNat + uncovered (roomSats room) (underived btc keys psbt outputs) := by
  induction outputs generalizing room unowned with
  | nil => rfl
  | cons output rest ih =>
      obtain ⟨txout, index⟩ := output
      simp only [sumUnowned, underived, List.filter_cons]
      cases derived : outputIsSelfDerived btc keys psbt index none with
      | true =>
          simp only [if_true, Bool.not_true, Bool.false_eq_true, if_false]
          exact ih room unowned
      | false =>
          simp only [Bool.false_eq_true, if_false, Bool.not_false, if_true, List.map_cons,
            outputItem, uncovered, ← setOff_room, ← setOff_value]
          cases added : checkedAdd64 unowned (setOff room txout).1 with
          | none =>
              have full := checkedAdd64_eq_none.mp added
              exact full.trans (by omega)
          | some sum =>
              have value := checkedAdd64_eq_some.mp added
              have step := ih (setOff room txout).2 sum
              rw [value] at step
              simp only [Nat.add_assoc] at step
              exact step

/-- The value on the exempt scripts that the other outputs take back. -/
def exemptSats (btc : PsbtCrate) (keys : BtcAccounts) (psbt : Psbt) (inputScripts : List Script) :
    Nat :=
  covered inputScripts.toFinset (amountAt (prevoutItems psbt.inputs))
    (underivedItems btc keys psbt)

/-- The value on outputs that no account derives. -/
def underivedSats (btc : PsbtCrate) (keys : BtcAccounts) (psbt : Psbt) : Nat :=
  ((underivedItems btc keys psbt).map Prod.snd).sum

theorem amountAt_exemptItems (inputScripts : List Script) (inputs : List PsbtInput)
    (script : Script) :
    amountAt (exemptItems inputScripts inputs) script
      = if script ∈ inputScripts then amountAt (prevoutItems inputs) script else 0 := by
  simp only [exemptItems, List.contains_eq_mem]
  exact amountAt_filter (· ∈ inputScripts) (prevoutItems inputs) script

theorem unownedOutputSats_spec (btc : PsbtCrate) (keys : BtcAccounts) (psbt : Psbt)
    (inputScripts : List Script) :
    match unownedOutputSats btc keys psbt inputScripts with
    | some sats =>
        (∀ script ∈ inputScripts, amountAt (prevoutItems psbt.inputs) script < 2 ^ 64) ∧
        sats.toNat + exemptSats btc keys psbt inputScripts = underivedSats btc keys psbt
    | none =>
        (∃ script ∈ inputScripts, 2 ^ 64 ≤ amountAt (prevoutItems psbt.inputs) script) ∨
        2 ^ 64 + exemptSats btc keys psbt inputScripts ≤ underivedSats btc keys psbt := by
  have rooms := inputRoom_spec inputScripts (fun _ => none) psbt.inputs
  simp only [unownedOutputSats, amountAt_exemptItems, roomSats, Option.getD_none,
    UInt64.toNat_zero, Nat.zero_add] at rooms ⊢
  cases filled : inputRoom inputScripts (fun _ => none) psbt.inputs with
  | none =>
      rw [filled] at rooms
      obtain ⟨script, full⟩ := rooms
      split at full
      · rename_i member
        exact .inl ⟨script, member, full⟩
      · omega
  | some room =>
      rw [filled] at rooms
      have fits : ∀ script ∈ inputScripts,
          amountAt (prevoutItems psbt.inputs) script < 2 ^ 64 := by
        intro script member
        have value := rooms script
        rw [if_pos member] at value
        rw [← value]
        exact UInt64.toNat_lt _
      have outside : ∀ script ∉ inputScripts.toFinset, roomSats room script = 0 := by
        intro script foreign
        rw [List.mem_toFinset] at foreign
        exact (rooms script).trans (if_neg foreign)
      have balance := uncovered_add_covered outside (underivedItems btc keys psbt)
      have exempt : covered inputScripts.toFinset (roomSats room) (underivedItems btc keys psbt)
          = exemptSats btc keys psbt inputScripts := by
        refine Finset.sum_congr rfl fun script member => ?_
        have value : roomSats room script = _ := rooms script
        rw [value, if_pos (List.mem_toFinset.mp member)]
      rw [exempt] at balance
      have summed := sumUnowned_spec btc keys psbt room 0 psbt.unsignedTx.output.val.zipIdx
      simp only [UInt64.toNat_zero, Nat.zero_add] at summed
      change match sumUnowned btc keys psbt room 0 psbt.unsignedTx.output.val.zipIdx with
        | some sats => _
        | none => _
      cases total : sumUnowned btc keys psbt room 0 psbt.unsignedTx.output.val.zipIdx with
      | none =>
          rw [total] at summed
          refine .inr ?_
          rw [underivedSats, ← balance, underivedItems]
          exact Nat.add_le_add_right summed _
      | some sats =>
          rw [total] at summed
          refine ⟨fits, ?_⟩
          rw [underivedSats, ← balance, underivedItems, ← summed]

theorem derivedSats_add_underivedSats (btc : PsbtCrate) (keys : BtcAccounts) (psbt : Psbt) :
    derivedSats btc keys psbt + underivedSats btc keys psbt = outputSats psbt := by
  have parts := (List.filter_append_perm
    (fun output => outputIsSelfDerived btc keys psbt output.2 none)
    psbt.unsignedTx.output.val.zipIdx).map fun output => output.1.value.toNat
  have total := parts.sum_eq
  rw [List.map_append, List.sum_append] at total
  have all : psbt.unsignedTx.output.val.zipIdx.map (fun output => output.1.value.toNat)
      = psbt.unsignedTx.output.val.map (·.value.toNat) := by
    have values := congrArg (List.map fun txout : TxOut => txout.value.toNat)
      (List.zipIdx_map_fst 0 psbt.unsignedTx.output.val)
    rwa [List.map_map] at values
  rw [derivedSats, underivedSats, underivedItems, underived, outputSats, ← all, ← total,
    List.map_map]
  rfl

end EnclaveSigner.Rgb
