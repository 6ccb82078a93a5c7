import Mathlib.Data.UInt
import EnclaveSigner.Bitcoin.Psbt
import EnclaveSigner.Error
import EnclaveSigner.Lib.Checks
import EnclaveSigner.Lib.MachineInt

/-! # The signed size of a PSBT

An estimate of the witness of every input, for the minimum fee rate. Only native
witness spends have one: a Taproot key path, disclosed Taproot leaves with
`CHECKSIG` or `multi_a`, P2WPKH, and P2WSH with `CHECKMULTISIG`.
-/

namespace EnclaveSigner.Rgb.PsbtFeeSize

open Lib Bitcoin

def OP_CHECKSIG : UInt8 := 0xac

def OP_CHECKSIGADD : UInt8 := 0xba

def OP_NUMEQUAL : UInt8 := 0x9c

def OP_CHECKMULTISIG : UInt8 := 0xae

def LEAF_VERSION_TAPSCRIPT : UInt8 := 0xc0

def compactSize (value : UInt64) : UInt64 :=
  if value ≤ 252 then 1 else if value ≤ 0xffff then 3 else if value ≤ 0xffffffff then 5 else 9

def itemSize (len : UInt64) : UInt64 := compactSize len + len

def witnessSize (lengths : List UInt64) : UInt64 :=
  compactSize (.ofNat lengths.length) + (lengths.map itemSize).sum

def positiveScriptNumber (bytes : Bytes) : Option (UInt64 × Nat) := do
  let first ← bytes.head?
  if 0x51 ≤ first ∧ first ≤ 0x60 then some ((first - 0x50).toUInt64, 1)
  else do
    guard (1 ≤ first ∧ first ≤ 4)
    guard (first.toNat < bytes.length)
    let data := (bytes.drop 1).take first.toNat
    let last ← data.getLast?
    guard (last &&& 0x80 = 0)
    guard ¬ (last = 0 ∧ (data.length = 1 ∨ data.getD (data.length - 2) 0 &&& 0x80 = 0))
    let value := UInt64.ofNat (ofLe data)
    guard (value > 16)
    some (value, data.length + 1)

/-- The pushes of keys in front of a script, and what follows them. `isPush` is the
    test of a loop for one more push. Each turn takes 34 bytes, so the length of the
    script is fuel enough. -/
def scanKeys {size : Nat} (valid : Word size → Bool) (isPush : Nat → Bytes → Bool) :
    (fuel slots : Nat) → Bytes → Option (Nat × Bytes)
  | 0, slots, bytes => some (slots, bytes)
  | fuel + 1, slots, bytes =>
      if bytes.length < 34 ∨ isPush slots bytes = false then some (slots, bytes)
      else do
        let key ← Word.ofBytes? size ((bytes.drop 1).take size)
        guard (valid key)
        scanKeys valid isPush fuel (slots + 1) (bytes.drop 34)

section

variable (btc : PsbtCrate)

def tapscriptKeys : (fuel slots : Nat) → Bytes → Option (Nat × Bytes) :=
  scanKeys btc.isXOnly fun slots bytes =>
    bytes.getD 0 0 = 32 ∧ bytes.getD 33 0 = if slots = 0 then OP_CHECKSIG else OP_CHECKSIGADD

/-- The keys of a leaf and how many of them must sign. -/
def tapscriptThreshold (script : Script) : Option (UInt64 × UInt64) := do
  let (slots, rest) ← tapscriptKeys btc script.length 0 script
  if slots = 1 ∧ rest = [] then some (1, 1)
  else do
    guard (slots ≠ 0 ∧ slots ≤ 1000)
    let (required, consumed) ← positiveScriptNumber rest
    guard (required.toNat ≤ slots ∧ rest.drop consumed = [OP_NUMEQUAL])
    some (.ofNat slots, required)

def multisigKeys : (fuel keys : Nat) → Bytes → Option (Nat × Bytes) :=
  scanKeys btc.isPublicKey fun _ bytes => bytes.getD 0 0 = 33

/-- The threshold of a `CHECKMULTISIG` script. -/
def multisigThreshold (script : Script) : Option UInt64 := do
  let (required, offset) ← positiveScriptNumber script
  let (keys, rest) ← multisigKeys btc script.length 0 (script.drop offset)
  let (declared, consumed) ← positiveScriptNumber rest
  guard (keys ≤ 20 ∧ required.toNat ≤ keys ∧ declared.toNat = keys ∧
    rest.drop consumed = [OP_CHECKMULTISIG])
  some required

/-- The witness of one disclosed leaf, with empty items for the keys that do not
    sign. -/
def leafWitnessSize (outputKey : XOnlyPublicKey) (entry : ControlBlock × Script × UInt8) :
    Except String UInt64 := do
  let (control, leaf, version) := entry
  refuse (version ≠ LEAF_VERSION_TAPSCRIPT ∨ control.leafVersion ≠ version)
    "unsupported or inconsistent Taproot leaf version"
  refuse (btc.verifyTaprootCommitment control outputKey leaf = false)
    "Taproot script/control block does not commit to the prevout"
  let (slots, required) ← okOr "unsupported Taproot script; expected CHECKSIG or multi_a"
    (tapscriptThreshold btc leaf)
  pure (compactSize (slots + 2) + required * 66 + (slots - required)
    + itemSize (.ofNat leaf.length) + itemSize (.ofNat control.size))

def taprootWitnessSize (input : PsbtInput) (script : Sized UInt8) (keyPath : Bool) :
    Except String UInt64 :=
  if keyPath || input.tapScripts.isEmpty then do
    let internalKey ← okOr "Taproot spend metadata is missing" input.tapInternalKey
    refuse (newP2trTweaked (btc.tapTweak internalKey input.tapMerkleRoot) ≠ script)
      "Taproot internal key/merkle root does not match the prevout"
    let hasSighashByte :=
      input.sighashType.any (· != 0) || input.tapKeySig.any (·.sighashType != 0)
    pure (witnessSize [if hasSighashByte then 65 else 64])
  else do
    let program ← okOr "invalid Taproot output key" (programOf script)
    refuse (btc.isXOnly program = false) "invalid Taproot output key"
    let sizes ← input.tapScripts.mapM (leafWitnessSize btc program)
    pure (sizes.foldl max 0)

def inputWitnessSize (input : PsbtInput) (script : Sized UInt8) (keyPath : Bool) :
    Except String UInt64 :=
  if TxOut.isP2tr ⟨0, script⟩ then taprootWitnessSize btc input script keyPath
  else if isP2wpkh script then pure (witnessSize [73, 33])
  else if isP2wsh script then do
    let witnessScript ← okOr "P2WSH witness_script is missing" input.witnessScript
    refuse (pushScript 0x00 (btc.sha256 witnessScript) ≠ script)
      "P2WSH witness_script does not match the prevout"
    let required ← okOr "unsupported P2WSH script; expected standard CHECKMULTISIG"
      (multisigThreshold btc witnessScript)
    -- `CHECKMULTISIG` takes an empty dummy item too.
    pure (compactSize (required + 2) + 1 + required * 74 + itemSize (.ofNat witnessScript.length))
  else .error "unsupported prevout script type"

def inputWeight (txin : TxIn) (input : PsbtInput) (prevout : Except String TxOut)
    (keyPath : Bool) : Except String UInt64 := do
  refuse (txin.scriptSig.val ≠ []) "unsigned transaction already contains unlocking data"
  refuse (input.finalScriptSig.any (· != []) = true)
    "nonempty scriptSig is not supported for native witness inputs"
  let prevout ← prevout.mapError fun e => s!"funding output unavailable: {e}"
  let estimated ← inputWitnessSize btc input prevout.scriptPubkey keyPath
  let supplied := (input.finalScriptWitness.map fun items => .ofNat (witnessLength items)).getD 0
  pure (max estimated supplied)

def sizeError (reason : String) : EnclaveError :=
  .crossCheck s!"cannot estimate signed PSBT size: {reason}"

def addWeights (keyPathInputs : List Nat) :
    (index : Nat) → UInt64 → List (TxIn × PsbtInput × Except String TxOut) →
    Result UInt64
  | _, weight, [] => .ok weight
  | index, weight, (txin, input, prevout) :: rest => do
      let fail (reason : String) := sizeError s!"input {index}: {reason}"
      let added ← (inputWeight btc txin input prevout (keyPathInputs.contains index)).mapError fail
      let weight ← okOr (fail "weight overflow") (checkedAdd64 weight added)
      addWeights keyPathInputs (index + 1) weight rest

/-- The estimate of the signed virtual size. -/
def estimatedSignedVsize (psbt : Psbt) (keyPathInputs : List Nat) :
    Result UInt64 := do
  refuse (psbt.inputs = [] ∨ psbt.inputs.length ≠ psbt.unsignedTx.input.val.length)
    (sizeError "inconsistent or empty PSBT")
  -- The marker and the flag of a transaction with witnesses are two bytes.
  let weight ← okOr (sizeError "weight overflow") do
    let base ← checkedMul64 psbt.unsignedTx.baseSize 4
    checkedAdd64 base 2
  let inputs := psbt.unsignedTx.input.val.zip (psbt.inputs.zip (btc.iterFundingUtxos psbt))
  let weight ← addWeights btc keyPathInputs 0 weight inputs
  pure (weight / 4 + if weight % 4 = 0 then 0 else 1)

end

theorem estimatedSignedVsize_ok {btc : PsbtCrate} {psbt : Psbt} {keyPathInputs : List Nat}
    {vsize : UInt64} (estimated : estimatedSignedVsize btc psbt keyPathInputs = .ok vsize) :
    psbt.inputs.length = psbt.unsignedTx.input.val.length := by
  simp only [estimatedSignedVsize, bind_ok, refuse_ok, not_or, not_not] at estimated
  obtain ⟨_, ⟨-, sizes⟩, -⟩ := estimated
  exact sizes

end EnclaveSigner.Rgb.PsbtFeeSize
