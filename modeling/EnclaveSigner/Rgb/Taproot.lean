import EnclaveSigner.Bitcoin.Accounts

/-! # Controlled Taproot inputs

An input of a PSBT is the enclave's when its claimed internal key derives from
one of the enclave's accounts at the claimed path and, tweaked with the claimed
root, is the output key that the input spends.
-/

namespace EnclaveSigner.Rgb

open Lib Bitcoin

/-- One Taproot key-path input with a key from an enclave account. -/
structure TaprootSignJob where
  inputIndex : Nat
  xonlyPubkey : XOnlyPublicKey
  /-- The root that the output key was tweaked with, if any. -/
  merkleRoot : Option (Word 32)
  accountType : AccountType
  childPath : DerivationPath
  deriving DecidableEq

variable (btc : PsbtCrate) (keys : BtcAccounts)

/-- The job of an input whose claimed internal key is ours and, tweaked, gives the
    output key. -/
def keyPathJob (input : PsbtInput) (inputIdx : Nat) (outputKey : XOnlyPublicKey)
    (masterFingerprint : Fingerprint) : Option TaprootSignJob := do
  let internalKey ← input.tapInternalKey
  let origin ← input.tapKeyOrigins.lookup internalKey
  guard (origin.fingerprint = masterFingerprint)
  let (accountType, childPath) ← keys.resolveAccountAndChildPath origin.derivationPath
  let childSecret ← (keys.deriveBtcChild btc accountType childPath).toOption
  guard (btc.xOnlyOfSecret childSecret = internalKey)
  guard (btc.tapTweak internalKey input.tapMerkleRoot = outputKey)
  pure {
    inputIndex := inputIdx
    xonlyPubkey := internalKey
    merkleRoot := input.tapMerkleRoot
    accountType
    childPath }

def controlledInput (masterFingerprint : Fingerprint) (input : PsbtInput) (inputIdx : Nat) :
    Option TaprootSignJob := do
  let witnessUtxo ← input.witnessUtxo
  guard witnessUtxo.isP2tr
  let outputKey ← programOf witnessUtxo.scriptPubkey
  guard (btc.isXOnly outputKey)
  keyPathJob btc keys input inputIdx outputKey masterFingerprint

/-- A signing job for each input that the enclave controls. -/
def findControlledTaprootInputs (psbt : Psbt) (masterFingerprint : Fingerprint) :
    List TaprootSignJob :=
  psbt.inputs.zipIdx.filterMap fun (input, inputIdx) =>
    controlledInput btc keys masterFingerprint input inputIdx

/-- What makes `job` the job of an input that spends `utxo`. -/
structure Controls (masterFingerprint : Fingerprint) (input : PsbtInput) (inputIdx : Nat)
    (job : TaprootSignJob) (utxo : TxOut) (origin : TapKeyOrigin) (childSecret : SecretKey) :
    Prop where
  known : input.witnessUtxo = some utxo
  p2tr : utxo.isP2tr = true
  /-- The claimed key, tweaked with the claimed root, is the one in the script. -/
  program : programOf utxo.scriptPubkey = some (btc.tapTweak job.xonlyPubkey input.tapMerkleRoot)
  onCurve : btc.isXOnly (btc.tapTweak job.xonlyPubkey input.tapMerkleRoot) = true
  claimed : input.tapInternalKey = some job.xonlyPubkey
  listed : input.tapKeyOrigins.lookup job.xonlyPubkey = some origin
  ours : origin.fingerprint = masterFingerprint
  resolved : keys.resolveAccountAndChildPath origin.derivationPath
    = some (job.accountType, job.childPath)
  derived : keys.deriveBtcChild btc job.accountType job.childPath = .ok childSecret
  key : btc.xOnlyOfSecret childSecret = job.xonlyPubkey
  index : job.inputIndex = inputIdx
  root : job.merkleRoot = input.tapMerkleRoot

/-- The key path of an input is the enclave's, and `job` signs it. -/
def Owns (input : PsbtInput) (inputIdx : Nat) (job : TaprootSignJob) : Prop :=
  ∃ utxo origin childSecret,
    Controls btc keys keys.masterFingerprint input inputIdx job utxo origin childSecret

variable {btc keys}

theorem controlledInput_eq_some {masterFingerprint : Fingerprint} {input : PsbtInput}
    {inputIdx : Nat} {job : TaprootSignJob} :
    controlledInput btc keys masterFingerprint input inputIdx = some job ↔
      ∃ utxo origin childSecret,
        Controls btc keys masterFingerprint input inputIdx job utxo origin childSecret := by
  simp only [controlledInput, keyPathJob, Option.bind_eq_bind, Option.bind_eq_some_iff,
    Option.guard_eq_some', Option.pure_def, Option.some.injEq, toOption_eq_some]
  constructor
  · rintro ⟨utxo, known, _, p2tr, outputKey, program, _, onCurve, internalKey, claimed, origin,
      listed, _, ours, ⟨account, path⟩, resolved, secret, derived, _, key, _, tweaked, rfl⟩
    subst tweaked
    exact ⟨utxo, origin, secret, known, p2tr, program, onCurve, claimed, listed, ours, resolved,
      derived, key, rfl, rfl⟩
  · rintro ⟨utxo, origin, secret, held⟩
    refine ⟨utxo, held.known, (), held.p2tr, _, held.program, (), held.onCurve, _, held.claimed,
      origin, held.listed, (), held.ours, _, held.resolved, secret, held.derived, (), held.key, (),
      rfl, ?_⟩
    rw [← held.index, ← held.root]

theorem mem_findControlledTaprootInputs {psbt : Psbt} {masterFingerprint : Fingerprint}
    {job : TaprootSignJob} :
    job ∈ findControlledTaprootInputs btc keys psbt masterFingerprint ↔
      ∃ input, psbt.inputs[job.inputIndex]? = some input ∧
        controlledInput btc keys masterFingerprint input job.inputIndex = some job := by
  simp only [findControlledTaprootInputs, List.mem_filterMap, Prod.exists,
    List.mem_zipIdx_iff_getElem?]
  constructor
  · rintro ⟨input, index, found, controlled⟩
    obtain ⟨_, _, _, held⟩ := controlledInput_eq_some.mp controlled
    obtain rfl := held.index
    exact ⟨input, found, controlled⟩
  · rintro ⟨input, found, controlled⟩
    exact ⟨input, job.inputIndex, found, controlled⟩

end EnclaveSigner.Rgb
