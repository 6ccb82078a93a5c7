import EnclaveSigner.Rgb.BtcOwnership
import EnclaveSigner.Rgb.PsbtCommit
import EnclaveSigner.Rgb.PsbtFeeSize

/-! # Checks on a PSBT

The checks that the signing paths share: the shape of the bytes, the form of the
inputs, the sats that stay with the enclave, and the pinned fee policy. The fee
is bounded in absolute terms, by the rate over the unsigned size, and from below
by the rate over the estimated signed size.
-/

namespace EnclaveSigner.Rgb

open Lib Bitcoin

def MAX_FEE_RATE_SAT_VB : UInt64 := 200

def MAX_FEE_SATS : UInt64 := 100000

/-- The unsigned size above which the absolute limit applies first. -/
def MAX_FEE_CAP_CROSSOVER_VB : UInt64 := MAX_FEE_SATS / MAX_FEE_RATE_SAT_VB

def MIN_FEE_RATE_SAT_VB : UInt64 := 1

section

variable (btc : PsbtCrate) (keys : BtcAccounts)

def parsePsbtShape (psbtBytes : Bytes) : Result Psbt := do
  refuse (psbtBytes = []) (.crossCheck "psbt_bytes is empty")
  checkPsbtSize "psbt_bytes" psbtBytes
  let psbt ← (btc.deserialize psbtBytes).mapError fun e =>
    EnclaveError.crossCheck s!"psbt_bytes is not a valid PSBT: {e}"
  refuse (psbt.unsignedTx.input.val = []) (.crossCheck "psbt has no inputs - nothing to sign")
  pure psbt

/-- The input finalizes with an empty `scriptSig`, so the txid is final. -/
def assertNativeSegwitInput (psbt : Psbt) (entry : PsbtInput × Nat) : Result Unit := do
  let (input, i) := entry
  let utxo ← okOr (.crossCheck (s!"send-RGB PSBT input {i} carries no witness_utxo - cannot " ++
    "prove it finalizes without a scriptSig")) input.witnessUtxo
  refuse (isWitnessProgram utxo.scriptPubkey = false)
    (.crossCheck (s!"send-RGB PSBT input {i} spends a non-native-SegWit output; its finalized " ++
      s!"scriptSig would change the txid ({txidText (psbt.unsignedTx.txid btc.toCrate)}) - " ++
      "refusing to sign"))

def assertSighashAllInput (entry : PsbtInput × Nat) : Result Unit :=
  let (input, i) := entry
  match input.sighashType with
  | none => pure ()
  | some raw =>
      let digits := Nat.toDigits 16 raw.toNat
      let padded := String.ofList (List.replicate (2 - digits.length) '0' ++ digits)
      refuse (raw ≠ 0x00 ∧ raw ≠ 0x01)
        (.crossCheck (s!"PSBT input {i} requests non-ALL sighash 0x{padded}; refusing to sign a " ++
          "send-RGB PSBT under a spliceable sighash"))

/-- The txid that is signed is the one that confirms, and no signature fits
    another transaction. -/
def assertTxidAndSighashFixed (psbt : Psbt) : Result Unit := do
  forM psbt.inputs.zipIdx (assertNativeSegwitInput btc psbt)
  forM psbt.inputs.zipIdx assertSighashAllInput

def assertOnlyColoredInputs (psbt : Psbt) (colored : List Nat) (path : String) :
    Result Unit :=
  match (List.range psbt.inputs.length).find? fun i => !colored.contains i with
  | some i =>
      .error (.crossCheck (s!"{path} PSBT input {i} is not a Colored key-path input of this " ++
        "enclave - it spends only the mint wallet's own coins"))
  | none => .ok ()

/-- No sat leaves: each output is derived by the enclave or carries none. -/
def assertKeepsAllSats (psbt : Psbt) (path : String) : Result Unit :=
  match unownedOutputSats btc keys psbt [] with
  | some sats =>
      refuse (sats ≠ 0)
        (.crossCheck (s!"{path} PSBT pays {sats} sat to outputs this enclave does not derive - " ++
          "it keeps every sat on its own outputs"))
  | none => .error (.crossCheck s!"{path} PSBT output total overflows u64")

def feeKeyPathInputsOf (jobs : List TaprootSignJob) (account : AccountType) : List Nat :=
  (jobs.filter (·.accountType = account)).map (·.inputIndex)

def feeKeyPathInputsScoped (psbt : Psbt) (account : AccountType) : List Nat :=
  feeKeyPathInputsOf (findControlledTaprootInputs btc keys psbt keys.masterFingerprint) account

def checkMaxFee (fee vsize : UInt64) (path : String) : Result Unit := do
  refuse (vsize = 0)
    (.crossCheck "PSBT unsigned tx has zero vsize - cannot bound its fee rate")
  let rate := btc.ratioText fee vsize
  refuse (fee > MAX_FEE_SATS)
    (.crossCheck (s!"{path} PSBT fee too high: {fee} sat > the pinned maximum of {MAX_FEE_SATS} " ++
      s!"sat ({rate} sat/vB over {vsize} unsigned vB; above {MAX_FEE_CAP_CROSSOVER_VB} vB " ++
      s!"the absolute cap binds before the {MAX_FEE_RATE_SAT_VB} sat/vB rate cap, so split " ++
      "a wider batch) - refusing to burn custody BTC as fees"))
  let maxFeeForSize ← okOr (.crossCheck "maximum PSBT fee calculation overflow")
    (checkedMul64 vsize MAX_FEE_RATE_SAT_VB)
  refuse (fee > maxFeeForSize)
    (.crossCheck (s!"{path} PSBT fee rate too high: {rate} sat/vB over {vsize} unsigned vB > the " ++
      s!"pinned maximum of {MAX_FEE_RATE_SAT_VB} sat/vB - refusing to burn custody BTC as fees"))

/-- The pinned fee policy. `path` names the signing path. -/
def checkPsbtFee (psbt : Psbt) (keyPathInputs : List Nat) (path : String) :
    Result Unit := do
  let fee ← (btc.fee psbt).mapError fun e =>
    EnclaveError.crossCheck ("cannot compute PSBT fee (every input needs witness_utxo or " ++
      s!"non_witness_utxo): {e}")
  checkMaxFee btc fee psbt.unsignedTx.vsize path
  let signedVsize ← PsbtFeeSize.estimatedSignedVsize btc psbt keyPathInputs
  let minimumFee ← okOr (.crossCheck "minimum PSBT fee calculation overflow")
    (checkedMul64 signedVsize MIN_FEE_RATE_SAT_VB)
  refuse (fee < minimumFee)
    (.crossCheck (s!"{path} PSBT fee rate too low: {fee} sat for estimated signed size " ++
      s!"{signedVsize} vB; need at least {minimumFee} sat ({MIN_FEE_RATE_SAT_VB} sat/vB)"))

end

section

variable {btc : PsbtCrate} {keys : BtcAccounts}

theorem parsePsbtShape_ok {psbtBytes : Bytes} {psbt : Psbt}
    (parsed : parsePsbtShape btc psbtBytes = .ok psbt) :
    btc.deserialize psbtBytes = .ok psbt ∧ psbt.unsignedTx.input.val ≠ [] := by
  simp only [parsePsbtShape, bind_ok, mapError_ok, refuse_ok] at parsed
  obtain ⟨_, -, _, -, decoded, read, _, nonempty, same⟩ := parsed
  cases same
  exact ⟨read, nonempty⟩

theorem checkMaxFee_ok {fee vsize : UInt64} {path : String}
    (passes : checkMaxFee btc fee vsize path = .ok ()) : fee.toNat ≤ MAX_FEE_SATS.toNat := by
  simp only [checkMaxFee, bind_ok, refuse_ok] at passes
  obtain ⟨_, -, _, capped, -⟩ := passes
  rw [gt_iff_lt, UInt64.not_lt, UInt64.le_iff_toNat_le] at capped
  exact capped

theorem checkPsbtFee_ok {psbt : Psbt} {keyPathInputs : List Nat} {path : String}
    (passes : checkPsbtFee btc psbt keyPathInputs path = .ok ()) :
    ∃ fee, btc.fee psbt = .ok fee ∧ fee.toNat ≤ MAX_FEE_SATS.toNat ∧
      psbt.inputs.length = psbt.unsignedTx.input.val.length := by
  simp only [checkPsbtFee, bind_ok, mapError_ok] at passes
  obtain ⟨fee, read, _, capped, _, estimated, -⟩ := passes
  exact ⟨fee, read, checkMaxFee_ok capped, PsbtFeeSize.estimatedSignedVsize_ok estimated⟩

theorem assertKeepsAllSats_ok {psbt : Psbt} {path : String} :
    assertKeepsAllSats btc keys psbt path = .ok () ↔
      unownedOutputSats btc keys psbt [] = some 0 := by
  unfold assertKeepsAllSats
  cases unownedOutputSats btc keys psbt [] with
  | none => exact ⟨nofun, nofun⟩
  | some sats => rw [refuse_ok, not_not, Option.some.injEq]

theorem assertOnlyColoredInputs_ok {psbt : Psbt} {colored : List Nat} {path : String} :
    assertOnlyColoredInputs psbt colored path = .ok () ↔
      ∀ i < psbt.inputs.length, i ∈ colored := by
  unfold assertOnlyColoredInputs
  cases found : (List.range psbt.inputs.length).find? fun i => !colored.contains i with
  | none =>
      simp only [true_iff]
      intro i inside
      have all := List.find?_eq_none.mp found i (List.mem_range.mpr inside)
      simpa using all
  | some i =>
      simp only [reduceCtorEq, false_iff]
      intro all
      have inside := List.mem_range.mp (List.mem_of_find?_eq_some found)
      have foreign := List.find?_some found
      simp [all i inside] at foreign

end

end EnclaveSigner.Rgb
