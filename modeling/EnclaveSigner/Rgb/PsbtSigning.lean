import EnclaveSigner.Rgb.PsbtCommit
import EnclaveSigner.Rgb.Taproot

/-! # Signing the key paths of a PSBT

The signer looks for the inputs that it controls and that have no key-path
signature yet, keeps those of the account in scope, and signs them one after the
other. Every signature covers all prevouts.
-/

namespace EnclaveSigner.Rgb

open Lib Bitcoin

def hexPadded (n : Nat) : String :=
  let digits := Nat.toDigits 16 n
  String.ofList (List.replicate (2 - digits.length) '0' ++ digits)

def tapSighashType (requested : UInt32) (inputIndex : Nat) : Result UInt8 :=
  if requested = 0x00 then .ok 0x00
  else if requested = 0x01 then .ok 0x01
  else .error (.signing (s!"unsupported taproot sighash 0x{hexPadded requested.toNat} for input " ++
    s!"{inputIndex}: expected DEFAULT or ALL"))

section

variable (btc : PsbtCrate) (keys : BtcAccounts)

/-- The controlled inputs with no key-path signature yet. -/
def findTaprootSignJobs (psbt : Psbt) (masterFingerprint : Fingerprint) : List TaprootSignJob :=
  (findControlledTaprootInputs btc keys psbt masterFingerprint).filter fun job =>
    ((psbt.inputs[job.inputIndex]?).bind (·.tapKeySig)).isNone

def keySignature (tx : Transaction) (prevouts : List TxOut) (requested : UInt32)
    (job : TaprootSignJob) : Result TaprootSignature := do
  let sighashType ← tapSighashType requested job.inputIndex
  let childSecret ← keys.deriveBtcChild btc job.accountType job.childPath
  let sighash ← (btc.taprootKeySpendSignatureHash tx job.inputIndex prevouts sighashType).mapError
    fun e => EnclaveError.signing s!"taproot sighash: {e}"
  let tweaked := btc.tapTweakSecret childSecret job.merkleRoot
  pure { signature := btc.signSchnorrNoAuxRand sighash tweaked, sighashType }

def setKeySig (inputs : List PsbtInput) (index : Nat) (signature : TaprootSignature) :
    List PsbtInput :=
  inputs.modify index fun input => { input with tapKeySig := some signature }

def signJobs (tx : Transaction) (prevouts : List TxOut) (inputs : List PsbtInput)
    (signedCount : Nat) : List TaprootSignJob → Result (List PsbtInput × Nat)
  | [] => .ok (inputs, signedCount)
  | job :: rest => do
      let requested := ((inputs[job.inputIndex]?).bind (·.sighashType)).getD 0
      let signature ← keySignature btc keys tx prevouts requested job
      signJobs tx prevouts (setKeySig inputs job.inputIndex signature) (signedCount + 1) rest

def signTaprootInputs (psbt : Psbt) (jobs : List TaprootSignJob) :
    Result (Psbt × Nat) :=
  if jobs = [] then .ok (psbt, 0)
  else do
    let prevouts ← psbt.inputs.mapM fun input =>
      okOr (EnclaveError.signing "missing witness_utxo for taproot") input.witnessUtxo
    let (inputs, signedCount) ← signJobs btc keys psbt.unsignedTx prevouts psbt.inputs 0 jobs
    pure ({ psbt with inputs }, signedCount)

def scopedJobs (psbt : Psbt) (allowedAccount : Option AccountType) : List TaprootSignJob :=
  (findTaprootSignJobs btc keys psbt keys.masterFingerprint).filter fun job =>
    allowedAccount.all (job.accountType == ·)

/-- Sign the outstanding inputs in scope. Returns their number. -/
def signDecoded (psbt : Psbt) (allowedAccount : Option AccountType) :
    Result (Psbt × Nat) :=
  signTaprootInputs btc keys psbt (scopedJobs btc keys psbt allowedAccount)

/-- `sign_psbt` in the scope of an account. -/
def signPsbtScoped (psbtBytes : Bytes) (allowedAccount : Option AccountType) :
    Result (Bytes × Nat) := do
  checkPsbtSize "psbt_bytes" psbtBytes
  let psbt ← (btc.deserialize psbtBytes).mapError fun e =>
    EnclaveError.signing s!"psbt deserialize: {e}"
  let (signed, signedCount) ← signDecoded btc keys psbt allowedAccount
  pure (btc.serialize signed, signedCount)

/-- The job that is left of one input: controlled, in scope and not signed yet. -/
def outstandingJob (allowedAccount : Option AccountType) (input : PsbtInput) (index : Nat) :
    Option TaprootSignJob :=
  if input.tapKeySig.isNone then
    (controlledInput btc keys keys.masterFingerprint input index).filter fun job =>
      allowedAccount.all (job.accountType == ·)
  else none

/-- An input of the enclave, in scope, that has no signature yet. -/
structure Outstanding (allowedAccount : Option AccountType) (input : PsbtInput) (index : Nat)
    (job : TaprootSignJob) : Prop where
  unsigned : input.tapKeySig = none
  owned : Owns btc keys input index job
  inScope : ∀ account ∈ allowedAccount, job.accountType = account

/-- What a signature on the input at `index` is over: the whole transaction with
    all prevouts as the PSBT gives them, under `SIGHASH_DEFAULT` or `SIGHASH_ALL`
    as the input asks, by the tweaked key of the job. -/
structure CoversAll (psbt : Psbt) (input : PsbtInput) (index : Nat) (job : TaprootSignJob)
    (signature : TaprootSignature) : Prop where
  requested : input.sighashType.getD 0 = signature.sighashType.toUInt32
  default_or_all : signature.sighashType = 0x00 ∨ signature.sighashType = 0x01
  signed : ∃ prevouts childSecret sighash,
    psbt.inputs.map (·.witnessUtxo) = prevouts.map some ∧
    keys.deriveBtcChild btc job.accountType job.childPath = .ok childSecret ∧
    btc.taprootKeySpendSignatureHash psbt.unsignedTx index prevouts signature.sighashType
      = .ok sighash ∧
    signature.signature
      = btc.signSchnorrNoAuxRand sighash (btc.tapTweakSecret childSecret job.merkleRoot)

end

section

variable {btc : PsbtCrate} {keys : BtcAccounts}

theorem tapSighashType_ok {requested : UInt32} {index : Nat} {sighashType : UInt8}
    (taken : tapSighashType requested index = .ok sighashType) :
    requested = sighashType.toUInt32 ∧ (sighashType = 0x00 ∨ sighashType = 0x01) := by
  unfold tapSighashType at taken
  split at taken
  · rename_i default
    cases taken
    exact ⟨default, .inl rfl⟩
  · split at taken
    · rename_i all
      cases taken
      exact ⟨all, .inr rfl⟩
    · cases taken

theorem setKeySig_getElem? (inputs : List PsbtInput) (index : Nat) (signature : TaprootSignature)
    (other : Nat) :
    (setKeySig inputs index signature)[other]?
      = if index = other then
          (inputs[other]?).map fun input => { input with tapKeySig := some signature }
        else inputs[other]? := by
  rw [setKeySig, List.getElem?_modify]
  split
  · rfl
  · exact Option.map_id'

theorem signJobs_ok {tx : Transaction} {prevouts : List TxOut} {inputs signed : List PsbtInput}
    {count total : Nat} {jobs : List TaprootSignJob}
    (distinct : (jobs.map (·.inputIndex)).Nodup)
    (done : signJobs btc keys tx prevouts inputs count jobs = .ok (signed, total)) :
    total = count + jobs.length ∧ signed.length = inputs.length ∧
    (∀ index, index ∉ jobs.map (·.inputIndex) → signed[index]? = inputs[index]?) ∧
    ∀ job ∈ jobs, ∀ input, inputs[job.inputIndex]? = some input →
      ∃ signature,
        keySignature btc keys tx prevouts (input.sighashType.getD 0) job = .ok signature ∧
        signed[job.inputIndex]? = some { input with tapKeySig := some signature } := by
  induction jobs generalizing inputs count with
  | nil =>
      cases done
      exact ⟨rfl, rfl, fun _ _ => rfl, fun _ member => absurd member List.not_mem_nil⟩
  | cons job rest ih =>
      simp only [signJobs, bind_ok] at done
      obtain ⟨signature, signedJob, done⟩ := done
      rw [List.map_cons, List.nodup_cons] at distinct
      obtain ⟨counted, sizes, frame, each⟩ := ih distinct.2 done
      refine ⟨?_, ?_, ?_, ?_⟩
      · rw [counted, List.length_cons]
        omega
      · rw [sizes, setKeySig, List.length_modify]
      · intro index outside
        rw [List.map_cons, List.mem_cons, not_or] at outside
        rw [frame index outside.2, setKeySig_getElem?, if_neg (Ne.symm outside.1)]
      · intro other member input found
        rcases List.mem_cons.mp member with rfl | later
        · refine ⟨signature, ?_, ?_⟩
          · rw [found] at signedJob
            exact signedJob
          · rw [frame _ distinct.1, setKeySig_getElem?, if_pos rfl, found]
            rfl
        · have apart : job.inputIndex ≠ other.inputIndex := by
            intro same
            exact distinct.1 (same ▸ List.mem_map_of_mem later)
          refine each other later input ?_
          rw [setKeySig_getElem?, if_neg apart, found]

theorem scopedJobs_eq (psbt : Psbt) (allowedAccount : Option AccountType) :
    scopedJobs btc keys psbt allowedAccount
      = psbt.inputs.zipIdx.filterMap fun (input, index) =>
          outstandingJob btc keys allowedAccount input index := by
  rw [scopedJobs, findTaprootSignJobs, findControlledTaprootInputs, List.filter_filter,
    List.filter_filterMap]
  refine List.filterMap_congr ?_
  rintro ⟨input, index⟩ member
  have found := List.mem_zipIdx_iff_getElem?.mp member
  cases controlled : controlledInput btc keys keys.masterFingerprint input index with
  | none =>
      simp only [outstandingJob, controlled]
      split <;> rfl
  | some job =>
      obtain ⟨_, _, _, held⟩ := controlledInput_eq_some.mp controlled
      simp only [outstandingJob, controlled, Option.filter_some, held.index, found,
        Option.bind_some]
      by_cases unsigned : input.tapKeySig.isNone
      · rw [if_pos unsigned, unsigned, Bool.and_true]
      · rw [if_neg unsigned, Bool.eq_false_iff.mpr unsigned, Bool.and_false]
        rfl

theorem outstandingJob_eq_some {allowedAccount : Option AccountType} {input : PsbtInput}
    {index : Nat} {job : TaprootSignJob} :
    outstandingJob btc keys allowedAccount input index = some job ↔
      Outstanding btc keys allowedAccount input index job := by
  unfold outstandingJob
  split
  · rename_i unsigned
    rw [Option.isNone_iff_eq_none] at unsigned
    simp only [Option.filter_eq_some_iff, controlledInput_eq_some, Option.all_eq_true, beq_iff_eq]
    exact ⟨fun held => ⟨unsigned, held.1, held.2⟩, fun held => ⟨held.owned, held.inScope⟩⟩
  · rename_i signed
    rw [Option.isNone_iff_eq_none] at signed
    exact ⟨nofun, fun held => absurd held.unsigned signed⟩

theorem Outstanding.index {allowedAccount : Option AccountType} {input : PsbtInput}
    {index : Nat} {job : TaprootSignJob}
    (left : Outstanding btc keys allowedAccount input index job) : job.inputIndex = index := by
  obtain ⟨_, _, _, held⟩ := left.owned
  exact held.index

theorem mem_scopedJobs {psbt : Psbt} {allowedAccount : Option AccountType}
    {job : TaprootSignJob} :
    job ∈ scopedJobs btc keys psbt allowedAccount ↔
      ∃ input, psbt.inputs[job.inputIndex]? = some input ∧
        Outstanding btc keys allowedAccount input job.inputIndex job := by
  simp only [scopedJobs_eq, List.mem_filterMap, outstandingJob_eq_some]
  constructor
  · rintro ⟨⟨input, index⟩, member, left⟩
    obtain rfl := left.index
    exact ⟨input, List.mem_zipIdx_iff_getElem?.mp member, left⟩
  · rintro ⟨input, found, left⟩
    exact ⟨(input, job.inputIndex), List.mem_zipIdx_iff_getElem?.mpr found, left⟩

theorem scopedJobs_nodup (psbt : Psbt) (allowedAccount : Option AccountType) :
    ((scopedJobs btc keys psbt allowedAccount).map (·.inputIndex)).Nodup := by
  rw [scopedJobs_eq, List.Nodup, List.pairwise_map, List.pairwise_filterMap]
  have indices : (psbt.inputs.zipIdx.map Prod.snd).Nodup := by
    rw [List.zipIdx_map_snd]
    exact List.nodup_range'
  refine List.Pairwise.imp ?_ (List.pairwise_map.mp indices)
  intro first second apart one leftOne other leftOther same
  rw [(outstandingJob_eq_some.mp leftOne).index, (outstandingJob_eq_some.mp leftOther).index] at same
  exact apart same

end

end EnclaveSigner.Rgb
