import EnclaveSigner.Rgb.MintRoute
import EnclaveSigner.Rgb.PsbtTables

/-! # Sats of mints and refills

A mint or a refill spends coloured inputs of the enclave only, and all their value
but the fee and a witness output returns to outputs that the enclave derives.
-/

namespace EnclaveSigner.Rgb

open Lib Bitcoin

/-- The two ways to spend coloured inputs. -/
inductive ColoredSpend where
  | mint (recipient : MintRecipient)
  | refill

namespace ColoredSpend

/-- The output that a mint pays its units to, if it is one of its own. -/
def witnessOutput : ColoredSpend → Option UInt32
  | .mint (.witness vout) => some vout
  | _ => none

/-- The pinned sats on the witness output. -/
def paidSats (cfg : BridgeConfig) (spend : ColoredSpend) : Nat :=
  if spend.witnessOutput.isSome then cfg.mintWitnessSat.toNat else 0

/-- The checks on inputs, fee and sats that the path makes. -/
def Accepted (btc : PsbtCrate) (keys : BtcAccounts) (cfg : BridgeConfig)
    (bind : MintFacts → Result Unit) (psbt : Psbt) : ColoredSpend → Prop
  | .mint recipient => ∃ colored,
      mintInputs psbt (mintContext btc keys cfg bind) = .ok colored ∧
      checkPsbtFee btc psbt colored "mint" = .ok () ∧
      assertMintSats btc keys psbt recipient cfg.mintWitnessSat = .ok ()
  | .refill => refillGate btc keys psbt = .ok ()

end ColoredSpend

section

variable {btc : PsbtCrate} {keys : BtcAccounts} {cfg : BridgeConfig}
  {bind : MintFacts → Result Unit} {psbt : Psbt}

theorem ColoredSpend.Accepted.checks {spend : ColoredSpend}
    (accepted : spend.Accepted btc keys cfg bind psbt) :
    (∃ path, assertOnlyColoredInputs psbt (feeKeyPathInputsScoped btc keys psbt .colored) path
        = .ok () ∧
      checkPsbtFee btc psbt (feeKeyPathInputsScoped btc keys psbt .colored) path = .ok ()) ∧
    ∃ sats, unownedOutputSats btc keys psbt [] = some sats ∧ sats.toNat = spend.paidSats cfg := by
  cases spend with
  | refill =>
      simp only [Accepted, refillGate, refillColoredInputs, bind_ok] at accepted
      obtain ⟨_, -, _, ⟨_, colored, same⟩, _, kept, fee⟩ := accepted
      cases same
      exact ⟨⟨_, colored, fee⟩, 0, assertKeepsAllSats_ok.mp kept, rfl⟩
  | mint recipient =>
      obtain ⟨indices, inputs, fee, sats⟩ := accepted
      simp only [mintInputs, mintContext, bind_ok, okOr_ok, Option.some.injEq] at inputs
      obtain ⟨_, -, _, rfl, _, resolved, _, colored, same⟩ := inputs
      cases resolved
      cases same
      refine ⟨⟨_, colored, fee⟩, ?_⟩
      cases recipient with
      | blinded text => exact ⟨0, assertKeepsAllSats_ok.mp sats, rfl⟩
      | witness vout => exact ⟨_, (assertMintSats_witness_ok sats).2, rfl⟩

theorem mem_feeKeyPathInputsScoped {account : AccountType} {index : Nat} :
    index ∈ feeKeyPathInputsScoped btc keys psbt account ↔
      ∃ job ∈ findControlledTaprootInputs btc keys psbt keys.masterFingerprint,
        job.accountType = account ∧ job.inputIndex = index := by
  simp only [feeKeyPathInputsScoped, feeKeyPathInputsOf, List.mem_map, List.mem_filter,
    decide_eq_true_eq, and_assoc]

theorem unowned_of_no_exemption {sats : UInt64}
    (summed : unownedOutputSats btc keys psbt [] = some sats) :
    sats.toNat = underivedSats btc keys psbt := by
  have closed := unownedOutputSats_spec btc keys psbt []
  rw [summed] at closed
  have nothing : exemptSats btc keys psbt [] = 0 := by
    rw [exemptSats, covered, List.toFinset_nil, Finset.sum_empty]
  rw [nothing, Nat.add_zero] at closed
  exact closed.2

theorem others_carry_nothing {index : Nat} {txout : TxOut}
    (found : psbt.unsignedTx.output.val[index]? = some txout)
    (foreign : outputIsSelfDerived btc keys psbt index none = false)
    (whole : underivedSats btc keys psbt = txout.value.toNat) {other : Nat} {paid : TxOut}
    (present : psbt.unsignedTx.output.val[other]? = some paid) (distinct : other ≠ index)
    (underived_other : outputIsSelfDerived btc keys psbt other none = false) :
    paid.value = 0 := by
  have members : [(txout, index), (paid, other)].Subperm
      (psbt.unsignedTx.output.val.zipIdx.filter fun output =>
        !outputIsSelfDerived btc keys psbt output.2 none) := by
    refine List.subperm_of_subset ?_ ?_
    · rw [List.nodup_cons, List.mem_singleton, Prod.mk.injEq]
      exact ⟨fun same => distinct same.2.symm, List.nodup_singleton _⟩
    · intro output member
      rw [List.mem_filter, List.mem_zipIdx_iff_getElem?]
      rcases List.mem_cons.mp member with rfl | later
      · exact ⟨found, by rw [foreign]; rfl⟩
      · rw [List.mem_singleton.mp later]
        exact ⟨present, by rw [underived_other]; rfl⟩
  obtain ⟨part, perm, sub⟩ := members
  have bound := (sub.map fun output => output.1.value.toNat).sum_le_sum fun _ _ => Nat.zero_le _
  rw [(perm.map fun output : TxOut × Nat => output.1.value.toNat).sum_eq] at bound
  simp only [List.map_cons, List.map_nil, List.sum_cons, List.sum_nil] at bound
  rw [underivedSats, underivedItems, underived, List.map_map] at whole
  have total : ((psbt.unsignedTx.output.val.zipIdx.filter fun output =>
      !outputIsSelfDerived btc keys psbt output.2 none).map
        fun output => output.1.value.toNat).sum = txout.value.toNat := whole
  rw [total] at bound
  exact UInt64.toNat_inj.mp (by rw [UInt64.toNat_zero]; omega)

/-- Conservation of sats. The derived outputs hold the inputs less the fee and the
    pinned payment of a mint to one of its outputs. The fee is bounded and every
    input is a coloured key-path input. Of the underived outputs only the one that
    such a mint names carries sats, exactly the pinned amount. -/
theorem colored_spend_conserves_sats (feeExact : FeeExact btc) (spend : ColoredSpend)
    (accepted : spend.Accepted btc keys cfg bind psbt) :
    ∃ fee, btc.fee psbt = .ok fee ∧ fee.toNat ≤ MAX_FEE_SATS.toNat ∧
      (derivedSats btc keys psbt : ℤ) = inputSats psbt - fee.toNat - spend.paidSats cfg ∧
      psbt.inputs.length = psbt.unsignedTx.input.val.length ∧
      (∀ index input, psbt.inputs[index]? = some input →
        ∃ job, Owns btc keys input index job ∧ job.accountType = .colored) ∧
      ∀ vout, spend.witnessOutput = some vout →
        ∃ txout, psbt.unsignedTx.output.val[vout.toNat]? = some txout ∧
          outputIsSelfDerived btc keys psbt vout.toNat none = false ∧
          txout.value = cfg.mintWitnessSat ∧
          ∀ other paid, psbt.unsignedTx.output.val[other]? = some paid → other ≠ vout.toNat →
            outputIsSelfDerived btc keys psbt other none = false → paid.value = 0 := by
  obtain ⟨⟨path, colored, feeChecked⟩, sats, summed, paid⟩ := accepted.checks
  have owned : ∀ index input, psbt.inputs[index]? = some input →
      ∃ job, Owns btc keys input index job ∧ job.accountType = .colored := by
    intro index input found
    have inside := (List.getElem?_eq_some_iff.mp found).1
    obtain ⟨job, member, account, rfl⟩ :=
      mem_feeKeyPathInputsScoped.mp (assertOnlyColoredInputs_ok.mp colored index inside)
    obtain ⟨other, same, controlled⟩ := mem_findControlledTaprootInputs.mp member
    cases found.symm.trans same
    exact ⟨job, controlledInput_eq_some.mp controlled, account⟩
  have known : ∀ input ∈ psbt.inputs, input.witnessUtxo.isSome := by
    intro input member
    obtain ⟨index, found⟩ := List.mem_iff_getElem?.mp member
    obtain ⟨job, ⟨utxo, _, _, held⟩, -⟩ := owned index input found
    rw [held.known]
    rfl
  obtain ⟨fee, read, capped, sizes⟩ := checkPsbtFee_ok feeChecked
  have whole := unowned_of_no_exemption summed
  have balance := feeExact psbt fee read known
  have split := derivedSats_add_underivedSats btc keys psbt
  refine ⟨fee, read, capped, by omega, sizes, owned, ?_⟩
  intro vout named
  obtain rfl : spend = .mint (.witness vout) := by
    match spend, named with
    | .mint (.witness _), rfl => rfl
  obtain ⟨_, -, -, passes⟩ := accepted
  obtain ⟨txout, found, foreign, value⟩ := assertWitnessOutput_ok (assertMintSats_witness_ok passes).1
  refine ⟨txout, found, foreign, value, ?_⟩
  intro other paidOut present distinct underivedOther
  refine others_carry_nothing found foreign ?_ present distinct underivedOther
  rw [← whole, paid, value]
  rfl

end

section Samples

def sampleSpendCrate : PsbtCrate := psbtCrateWith (fun _ => .zero 32) []

def sampleMintSpend : Psbt := sampleMintPsbt (.fill 32 0x33) (.fill 32 0x5a)

def sampleRefillSpend : Psbt := sampleRefillPsbt (.fill 32 0x33) (.fill 32 0x5a)

/-- A mint that pays 1500 sats to its second output keeps 8000 of 10000 sats, and
    a refill keeps 14500 of 15000. -/
theorem colored_spend_conserves_sats_samples :
    (ColoredSpend.Accepted sampleSpendCrate sampleAccounts sampleMintConfig (fun _ => .ok ())
        sampleMintSpend (.mint (.witness 1)) ∧
      ∃ fee, sampleSpendCrate.fee sampleMintSpend = .ok fee ∧
        ((8000 : Nat) : ℤ) = (10000 : Nat) - fee.toNat - (1500 : Nat)) ∧
    ColoredSpend.Accepted sampleSpendCrate sampleAccounts sampleMintConfig (fun _ => .ok ())
        sampleRefillSpend .refill ∧
      ∃ fee, sampleSpendCrate.fee sampleRefillSpend = .ok fee ∧
        ((14500 : Nat) : ℤ) = (15000 : Nat) - fee.toNat - (0 : Nat) := by
  have exact : FeeExact sampleSpendCrate := psbtCrateWith_feeExact _ _
  have mint : ColoredSpend.Accepted sampleSpendCrate sampleAccounts sampleMintConfig
      (fun _ => .ok ()) sampleMintSpend (.mint (.witness 1)) :=
    ⟨[0], by decide +kernel, by decide +kernel, by decide +kernel⟩
  have refill : ColoredSpend.Accepted sampleSpendCrate sampleAccounts sampleMintConfig
      (fun _ => .ok ()) sampleRefillSpend .refill := by
    change refillGate _ _ _ = _
    decide +kernel
  obtain ⟨mintFee, mintRead, -, mintKept, -⟩ := colored_spend_conserves_sats exact _ mint
  obtain ⟨refillFee, refillRead, -, refillKept, -⟩ := colored_spend_conserves_sats exact _ refill
  exact ⟨⟨mint, mintFee, mintRead, mintKept⟩, refill, refillFee, refillRead, refillKept⟩

end Samples

end EnclaveSigner.Rgb
