import EnclaveSigner.Lib.Allowance
import EnclaveSigner.Lib.MachineInt
import EnclaveSigner.Rgb.Taproot

/-! # Outputs that pay back into custody

An output is proven by rule (A), on the script of a controlled input and up to
the input value on that script, or by rule (C), as a key-path output that an
account of the enclave derives. What neither rule proves is unowned.
-/

namespace EnclaveSigner.Rgb

open Lib Bitcoin

section

variable (btc : PsbtCrate) (keys : BtcAccounts)

def controlledInputScripts (psbt : Psbt) (jobs : List TaprootSignJob)
    (allowedAccount : Option AccountType) : List Script :=
  (jobs.filter fun job => allowedAccount.all (job.accountType == ·)).filterMap fun job => do
    let input ← psbt.inputs[job.inputIndex]?
    let utxo ← input.witnessUtxo
    pure utxo.scriptPubkey.val

def selfControlledInputScriptsScoped (psbt : Psbt) (allowedAccount : Option AccountType) :
    List Script :=
  controlledInputScripts psbt (findControlledTaprootInputs btc keys psbt keys.masterFingerprint)
    allowedAccount

def outputIsSelfOwned (psbt : Psbt) (index : Nat) (inputScripts : List Script) : Bool :=
  psbt.unsignedTx.output.val[index]?.any fun txout => inputScripts.contains txout.scriptPubkey.val

/-- Rule (C): the claimed internal key is ours at a wallet path, there is no
    script tree, and the tweak of that key is the script. -/
def outputIsSelfDerived (psbt : Psbt) (index : Nat) (allowedAccount : Option AccountType) : Bool :=
  Option.isSome <| do
    let output ← psbt.outputs[index]?
    let txout ← psbt.unsignedTx.output.val[index]?
    guard output.tapTree.isNone
    let internalKey ← output.tapInternalKey
    let origin ← output.tapKeyOrigins.lookup internalKey
    guard (origin.leafHashes.isEmpty ∧ origin.fingerprint = keys.masterFingerprint)
    let (accountType, childPath) ← keys.resolveAccountAndChildPath origin.derivationPath
    guard (allowedAccount.all (accountType == ·))
    guard (isWalletChildPath accountType childPath)
    let childSecret ← (keys.deriveBtcChild btc accountType childPath).toOption
    guard (btc.xOnlyOfSecret childSecret = internalKey)
    guard (txout.scriptPubkey = newP2trTweaked (btc.tapTweak internalKey none))

/-- What is left of the input value on each exempt script. -/
abbrev Room := Script → Option UInt64

def inputRoom (inputScripts : List Script) (room : Room) : List PsbtInput → Option Room
  | [] => some room
  | input :: rest =>
      match input.witnessUtxo with
      | none => inputRoom inputScripts room rest
      | some utxo =>
          let script := utxo.scriptPubkey.val
          if inputScripts.contains script then do
            let sum ← checkedAdd64 ((room script).getD 0) utxo.value
            inputRoom inputScripts (Function.update room script (some sum)) rest
          else inputRoom inputScripts room rest

/-- What an output pays beyond the room on its script, and the room after it. -/
def setOff (room : Room) (txout : TxOut) : UInt64 × Room :=
  match room txout.scriptPubkey.val with
  | none => (txout.value, room)
  | some left =>
      let exempt := min txout.value left
      (txout.value - exempt, Function.update room txout.scriptPubkey.val (some (left - exempt)))

def sumUnowned (psbt : Psbt) (room : Room) (unowned : UInt64) :
    List (TxOut × Nat) → Option UInt64
  | [] => some unowned
  | (txout, index) :: rest =>
      if outputIsSelfDerived btc keys psbt index none then sumUnowned psbt room unowned rest
      else do
        let (sat, room) := setOff room txout
        let unowned ← checkedAdd64 unowned sat
        sumUnowned psbt room unowned rest

/-- Sats that the outputs pay outside the custody of the inputs. None on
    overflow. -/
def unownedOutputSats (psbt : Psbt) (inputScripts : List Script) : Option UInt64 := do
  let room ← inputRoom inputScripts (fun _ => none) psbt.inputs
  sumUnowned btc keys psbt room 0 psbt.unsignedTx.output.val.zipIdx

structure DerivesOutput (psbt : Psbt) (index : Nat) (allowedAccount : Option AccountType)
    (output : PsbtOutput) (txout : TxOut) (internalKey : XOnlyPublicKey) (origin : TapKeyOrigin)
    (account : AccountType) (childPath : DerivationPath) (childSecret : SecretKey) : Prop where
  metadata : psbt.outputs[index]? = some output
  present : psbt.unsignedTx.output.val[index]? = some txout
  noTree : output.tapTree = none
  claimed : output.tapInternalKey = some internalKey
  listed : output.tapKeyOrigins.lookup internalKey = some origin
  noLeaves : origin.leafHashes = []
  ours : origin.fingerprint = keys.masterFingerprint
  resolved : keys.resolveAccountAndChildPath origin.derivationPath = some (account, childPath)
  allowed : allowedAccount.all (account == ·) = true
  walletPath : isWalletChildPath account childPath = true
  derived : keys.deriveBtcChild btc account childPath = .ok childSecret
  key : btc.xOnlyOfSecret childSecret = internalKey
  script : txout.scriptPubkey = newP2trTweaked (btc.tapTweak internalKey none)

end

theorem outputIsSelfDerived_iff {btc : PsbtCrate} {keys : BtcAccounts} {psbt : Psbt} {index : Nat}
    {allowedAccount : Option AccountType} :
    outputIsSelfDerived btc keys psbt index allowedAccount = true ↔
      ∃ output txout internalKey origin account childPath childSecret,
        DerivesOutput btc keys psbt index allowedAccount output txout internalKey origin account
          childPath childSecret := by
  simp only [outputIsSelfDerived, Option.bind_eq_bind, Option.isSome_iff_exists,
    Option.bind_eq_some_iff, Option.guard_eq_some', toOption_eq_some, Option.isNone_iff_eq_none,
    List.isEmpty_iff, exists_const]
  constructor
  · rintro ⟨output, metadata, txout, present, noTree, internalKey, claimed, origin, listed,
      ⟨noLeaves, ours⟩, ⟨account, childPath⟩, resolved, allowed, walletPath, childSecret, derived,
      key, script⟩
    exact ⟨output, txout, internalKey, origin, account, childPath, childSecret, metadata, present,
      noTree, claimed, listed, noLeaves, ours, resolved, allowed, walletPath, derived, key, script⟩
  · rintro ⟨output, txout, internalKey, origin, account, childPath, childSecret, held⟩
    exact ⟨output, held.metadata, txout, held.present, held.noTree, internalKey, held.claimed,
      origin, held.listed, ⟨held.noLeaves, held.ours⟩, (account, childPath), held.resolved,
      held.allowed, held.walletPath, childSecret, held.derived, held.key, held.script⟩

end EnclaveSigner.Rgb
