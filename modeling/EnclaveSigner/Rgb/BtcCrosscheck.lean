import EnclaveSigner.Rgb.PsbtTables
import EnclaveSigner.Rgb.PsbtValidation

/-! # Plain bitcoin signing

A plain-BTC transaction spends coins of the plain account with no proof of a
bridge operation. What it may pay away is bounded instead: outputs that are not
proven to return into custody fit a pinned budget, the fee is bounded, and so is
the value spent.
-/

namespace EnclaveSigner.Rgb

open Lib Bitcoin

section

variable (btc : PsbtCrate) (keys : BtcAccounts)

/-- The value spent. Every input must disclose its prevout. -/
def totalInSat : (index : Nat) → UInt64 → List PsbtInput → Result UInt64
  | _, total, [] => .ok total
  | index, total, input :: rest => do
      let witnessUtxo ← okOr (.crossCheck (s!"plain-BTC input {index} is missing witness_utxo - " ++
        "cannot bound the value spent; refusing (the bridge populates witness_utxo on every " ++
        "segwit input it spends)")) input.witnessUtxo
      let total ← okOr (.crossCheck "plain-BTC total input value overflow")
        (checkedAdd64 total witnessUtxo.value)
      totalInSat (index + 1) total rest

/-- The budget of unproven outputs. A build that is not for production skips a
    budget that is not set. -/
def checkUnownedBudget (production : Bool) (cfg : BridgeConfig) (unownedSat : UInt64) :
    Result Unit :=
  if unownedSat = 0 then pure ()
  else if cfg.btcMaxUnownedSats = 0 then
    refuse (production = true)
      (.crossCheck (s!"plain-BTC PSBT pays {unownedSat} sats to outputs the enclave cannot prove " ++
        "pay back into the same custody, and BTC_MAX_UNOWNED_SATS is not pinned - refusing to " ++
        "sign"))
  else
    refuse (unownedSat > cfg.btcMaxUnownedSats)
      (.crossCheck (s!"plain-BTC PSBT pays {unownedSat} sats to outputs the enclave cannot prove " ++
        s!"pay back into the same custody, over the pinned budget of {cfg.btcMaxUnownedSats} " ++
        "sats - refusing to sign. An output is proven when its script equals that of an input " ++
        "this enclave co-signs (address reuse for change) or when it is a BIP-86 key-path " ++
        "output of one of the enclave's own accounts; a redirect is neither."))

/-- The limit of the value spent. A build that is not for production skips a limit
    that is not set. -/
def checkTotalCap (production : Bool) (cfg : BridgeConfig) (totalInSat : UInt64) :
    Result Unit :=
  if cfg.btcMaxTotalSats = 0 then
    refuse (production = true)
      (.crossCheck ("plain-BTC signing requires BTC_MAX_TOTAL_SATS to be pinned - refusing to " ++
        "sign without a bound on the value a single plain-BTC transaction can spend"))
  else
    refuse (totalInSat > cfg.btcMaxTotalSats)
      (.crossCheck (s!"plain-BTC total input value {totalInSat} sats exceeds pinned cap " ++
        s!"{cfg.btcMaxTotalSats} sats"))

/-- The scripts of the inputs of the plain account. -/
def vanillaInputScripts (psbt : Psbt) : List Script :=
  selfControlledInputScriptsScoped btc keys psbt (some .vanilla)

/-- The checks on a plain-BTC request. -/
def validateBtcRequest (production : Bool) (cfg : BridgeConfig) (psbtBytes : Bytes) :
    Result Unit := do
  let psbt ← parsePsbtShape btc psbtBytes
  let totalIn ← totalInSat 0 0 psbt.inputs
  refuse (psbt.unsignedTx.output.val = [])
    (.crossCheck ("plain-BTC PSBT has no outputs - refusing (would route all input value to " ++
      "fees)"))
  let unownedSat ← okOr (.crossCheck "plain-BTC unowned output value overflow")
    (unownedOutputSats btc keys psbt (vanillaInputScripts btc keys psbt))
  checkUnownedBudget production cfg unownedSat
  checkPsbtFee btc psbt (feeKeyPathInputsScoped btc keys psbt .vanilla) "plain-BTC"
  checkTotalCap production cfg totalIn

end

section

variable {btc : PsbtCrate} {keys : BtcAccounts}

theorem totalInSat_ok {index : Nat} {start total : UInt64} {inputs : List PsbtInput}
    (summed : totalInSat index start inputs = .ok total) :
    total.toNat = start.toNat + ((prevoutItems inputs).map Prod.snd).sum ∧
      ∀ input ∈ inputs, input.witnessUtxo.isSome := by
  induction inputs generalizing index start with
  | nil =>
      cases summed
      exact ⟨rfl, fun _ member => absurd member List.not_mem_nil⟩
  | cons input rest ih =>
      simp only [totalInSat, bind_ok, okOr_ok] at summed
      obtain ⟨utxo, known, next, added, summed⟩ := summed
      obtain ⟨value, all⟩ := ih summed
      have sum := checkedAdd64_eq_some.mp added
      refine ⟨?_, ?_⟩
      · rw [value, sum, prevoutItems_cons_some known, List.map_cons, List.sum_cons, outputItem,
          Nat.add_assoc]
      · intro other member
        rcases List.mem_cons.mp member with rfl | later
        · rw [known]
          rfl
        · exact all other later

theorem checkUnownedBudget_ok {production : Bool} {cfg : BridgeConfig} {unownedSat : UInt64}
    (pinned : cfg.btcMaxUnownedSats ≠ 0)
    (passes : checkUnownedBudget production cfg unownedSat = .ok ()) :
    unownedSat.toNat ≤ cfg.btcMaxUnownedSats.toNat := by
  unfold checkUnownedBudget at passes
  split at passes
  · rename_i nothing
    rw [nothing]
    exact Nat.zero_le _
  · rw [refuse_ok, gt_iff_lt, UInt64.not_lt, UInt64.le_iff_toNat_le] at passes
    exact passes

theorem checkTotalCap_ok {production : Bool} {cfg : BridgeConfig} {totalIn : UInt64}
    (pinned : cfg.btcMaxTotalSats ≠ 0)
    (passes : checkTotalCap production cfg totalIn = .ok ()) :
    totalIn.toNat ≤ cfg.btcMaxTotalSats.toNat := by
  rw [checkTotalCap, if_neg pinned, refuse_ok, gt_iff_lt, UInt64.not_lt,
    UInt64.le_iff_toNat_le] at passes
  exact passes

theorem mem_vanillaInputScripts {psbt : Psbt} (script : Script) :
    script ∈ vanillaInputScripts btc keys psbt ↔
      ∃ index input job utxo, psbt.inputs[index]? = some input ∧
        Owns btc keys input index job ∧ job.accountType = .vanilla ∧
        input.witnessUtxo = some utxo ∧ utxo.scriptPubkey.val = script := by
  simp only [vanillaInputScripts, selfControlledInputScriptsScoped, controlledInputScripts,
    List.mem_filterMap, List.mem_filter, Option.all_some, beq_iff_eq, Option.bind_eq_bind,
    Option.bind_eq_some_iff, Option.pure_def, Option.some.injEq, mem_findControlledTaprootInputs,
    controlledInput_eq_some]
  constructor
  · rintro ⟨job, ⟨⟨input, found, owned⟩, account⟩, other, same, utxo, known, rfl⟩
    cases found.symm.trans same
    exact ⟨_, input, job, utxo, found, owned, account, known, rfl⟩
  · rintro ⟨index, input, job, utxo, found, ⟨known, origin, secret, held⟩, account, prevout, rfl⟩
    obtain rfl := held.index
    exact ⟨job, ⟨⟨input, found, known, origin, secret, held⟩, account⟩, input, found, utxo, prevout,
      rfl⟩

/-- Custody of a plain-BTC transaction. What returns is the value of the derived
    outputs and, on each script of a controlled plain input, the smaller of the
    other outputs and of the inputs on it. It falls short of the inputs by no
    more than the budget and the largest fee, and the inputs fit the limit. The
    checked sums of the code are the exact ones. -/
theorem plain_btc_custody (feeExact : FeeExact btc) (production : Bool) (cfg : BridgeConfig)
    (totalPinned : cfg.btcMaxTotalSats ≠ 0) (unownedPinned : cfg.btcMaxUnownedSats ≠ 0)
    (psbtBytes : Bytes)
    (accepted : validateBtcRequest btc keys production cfg psbtBytes = .ok ()) :
    ∃ psbt, btc.deserialize psbtBytes = .ok psbt ∧
      let scripts := vanillaInputScripts btc keys psbt
      let returned := ∑ script ∈ scripts.toFinset,
        min (amountAt (underivedItems btc keys psbt) script)
          (amountAt (prevoutItems psbt.inputs) script)
      (∀ script, script ∈ scripts ↔ ∃ index input job utxo, psbt.inputs[index]? = some input ∧
        Owns btc keys input index job ∧ job.accountType = .vanilla ∧
        input.witnessUtxo = some utxo ∧ utxo.scriptPubkey.val = script) ∧
      (inputSats psbt : ℤ) - cfg.btcMaxUnownedSats.toNat - MAX_FEE_SATS.toNat
        ≤ derivedSats btc keys psbt + returned ∧
      inputSats psbt ≤ cfg.btcMaxTotalSats.toNat ∧
      (∀ script ∈ scripts, amountAt (prevoutItems psbt.inputs) script < 2 ^ 64) ∧
      ∃ totalIn unownedSat fee,
        totalInSat 0 0 psbt.inputs = .ok totalIn ∧ totalIn.toNat = inputSats psbt ∧
        unownedOutputSats btc keys psbt scripts = some unownedSat ∧
        unownedSat.toNat + returned = underivedSats btc keys psbt ∧
        btc.fee psbt = .ok fee ∧ outputSats psbt + fee.toNat = inputSats psbt := by
  simp only [validateBtcRequest, bind_ok, okOr_ok] at accepted
  obtain ⟨psbt, parsed, totalIn, summed, _, -, unownedSat, unowned, _, budget, _, feeChecked,
    capped⟩ := accepted
  obtain ⟨decoded, -⟩ := parsePsbtShape_ok parsed
  obtain ⟨total, known⟩ := totalInSat_ok summed
  rw [UInt64.toNat_zero, Nat.zero_add] at total
  obtain ⟨fee, read, feeCapped, -⟩ := checkPsbtFee_ok feeChecked
  have balance := feeExact psbt fee read known
  have closed := unownedOutputSats_spec btc keys psbt (vanillaInputScripts btc keys psbt)
  rw [unowned] at closed
  obtain ⟨fits, exempt⟩ := closed
  have split := derivedSats_add_underivedSats btc keys psbt
  have unownedCapped := checkUnownedBudget_ok unownedPinned budget
  have totalCapped := checkTotalCap_ok totalPinned capped
  rw [exemptSats, covered] at exempt
  refine ⟨psbt, decoded, mem_vanillaInputScripts, ?_, ?_, fits, totalIn, unownedSat, fee, summed, total, unowned, exempt,
    read, balance⟩
  · omega
  · rw [inputSats, ← total]
    exact totalCapped

end

section Samples

def vanillaFirst : KeyRow := sampleKeyRows[0]

def vanillaChange : KeyRow := sampleKeyRows[1]

/-- One own and one foreign input. The outputs are derived change, change on the
    script of the input, and a payment. -/
def samplePlainPsbt : Psbt where
  unsignedTx := {
    version := 2
    input := ⟨[⟨.fill 32 0x11, 0, emptyScript, 0xffffffff⟩,
      ⟨.fill 32 0x22, 1, emptyScript, 0xffffffff⟩], by decide⟩
    output := ⟨[⟨60000, newP2trTweaked vanillaChange.outputKey⟩,
      ⟨59000, newP2trTweaked vanillaFirst.outputKey⟩, ⟨20000, sampleWpkh 0x99⟩], by decide⟩
    lockTime := 0 }
  inputs := [ownInput vanillaFirst 100000, { witnessUtxo := some ⟨40000, sampleWpkh 0x77⟩ }]
  outputs := [ownOutput vanillaChange, {}, {}]

def samplePlainBytes : Bytes := List.flatten [
  natBe 40 0x70736274ff0100d10200000002111111111111111111111111111111111111111111111111111111,
  natBe 40 0x11111111110000000000ffffffff2222222222222222222222222222222222222222222222222222,
  natBe 40 0x2222222222220100000000ffffffff0360ea0000000000002251206cb643996fb535172a46248a46,
  natBe 40 0xd063bcf070f2cee3e41005b0308dcd476e4a0c78e600000000000022512007e534fa92cda5523fb8,
  natBe 40 0x4df6ec4326671a7c66a80815fe1414a7b4e42aa6bbce204e00000000000016001499999999999999,
  natBe 40 0x99999999999999999999999999000000000001012ba08601000000000022512007e534fa92cda552,
  natBe 40 0x3fb84df6ec4326671a7c66a80815fe1414a7b4e42aa6bbce2116c679075a866a558af01406ab1437,
  natBe 40 0xaaa98ef929959a693c3b6cf5a72a7d3e93a01900932f8b0956000080000000800000008000000000,
  natBe 40 0x00000000011720c679075a866a558af01406ab1437aaa98ef929959a693c3b6cf5a72a7d3e93a000,
  natBe 40 0x01011f409c000000000000160014777777777777777777777777777777777777777700010520122c,
  natBe 40 0xdcc18a856600f494374bd1f094868dabe8c6657ae230ec5c520e04673e332107122cdcc18a856600,
  natBe 40 0xf494374bd1f094868dabe8c6657ae230ec5c520e04673e331900932f8b0956000080000000800000,
  natBe 13 0x00800100000000000000000000]

def samplePlainCrate : PsbtCrate :=
  psbtCrateWith (fun _ => .zero 32) [(samplePlainBytes, samplePlainPsbt)]

def samplePlainConfig : BridgeConfig :=
  { btcMaxTotalSats := 140000, btcMaxUnownedSats := 20000 }

/-- The payment uses the whole budget: 119000 of 140000 sats return. -/
theorem plain_btc_custody_change :
    validateBtcRequest samplePlainCrate sampleAccounts true samplePlainConfig samplePlainBytes
        = .ok () ∧
      derivedSats samplePlainCrate sampleAccounts samplePlainPsbt = 60000 ∧
      inputSats samplePlainPsbt = 140000 ∧
      ∃ psbt, samplePlainCrate.deserialize samplePlainBytes = .ok psbt ∧
        inputSats psbt ≤ samplePlainConfig.btcMaxTotalSats.toNat := by
  have accepted : validateBtcRequest samplePlainCrate sampleAccounts true samplePlainConfig
      samplePlainBytes = .ok () := by decide +kernel
  obtain ⟨psbt, decoded, -, -, capped, -⟩ :=
    plain_btc_custody (psbtCrateWith_feeExact _ _) true samplePlainConfig (by decide) (by decide)
      samplePlainBytes accepted
  exact ⟨accepted, by decide +kernel, by decide +kernel, psbt, decoded, capped⟩

end Samples

end EnclaveSigner.Rgb
