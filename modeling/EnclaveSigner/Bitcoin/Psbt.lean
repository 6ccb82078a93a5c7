import EnclaveSigner.Bitcoin.Transaction

/-! # Partially signed transactions

A PSBT is an unsigned transaction with metadata for each input and output. The
metadata is what the sender claims. `PsbtCrate` is what the enclave calls in the
`bitcoin` crate for it: the codec, the fee, key derivation and Taproot. Maps are
lists of pairs in key order.
-/

namespace EnclaveSigner.Bitcoin

open Lib

abbrev XOnlyPublicKey := Word 32

abbrev SecretKey := Word 32

abbrev Fingerprint := Word 4

abbrev Script := Bytes

inductive ChildNumber where
  | normal (index : UInt32)
  | hardened (index : UInt32)
  deriving DecidableEq

abbrev DerivationPath := List ChildNumber

structure Xpriv where
  privateKey : SecretKey
  chainCode : Word 32
  deriving DecidableEq

/-- Where a Taproot key comes from: the leaves that use it and its path below the
    master key with this fingerprint. -/
structure TapKeyOrigin where
  leafHashes : List (Word 32)
  fingerprint : Fingerprint
  derivationPath : DerivationPath
  deriving DecidableEq

structure ControlBlock where
  leafVersion : UInt8
  outputKeyParity : Bool
  internalKey : XOnlyPublicKey
  merkleBranch : List (Word 32)
  deriving DecidableEq

def ControlBlock.size (control : ControlBlock) : Nat := 33 + 32 * control.merkleBranch.length

structure TaprootSignature where
  signature : Word 64
  /-- Zero for `SIGHASH_DEFAULT`. -/
  sighashType : UInt8
  deriving DecidableEq

structure PsbtInput where
  witnessUtxo : Option TxOut := none
  nonWitnessUtxo : Option Transaction := none
  sighashType : Option UInt32 := none
  witnessScript : Option Script := none
  finalScriptSig : Option Script := none
  finalScriptWitness : Option (List Bytes) := none
  tapKeySig : Option TaprootSignature := none
  tapScripts : List (ControlBlock × Script × UInt8) := []
  tapKeyOrigins : List (XOnlyPublicKey × TapKeyOrigin) := []
  tapInternalKey : Option XOnlyPublicKey := none
  tapMerkleRoot : Option (Word 32) := none
  /-- The records of all other fields, here and below. The enclave reads none. -/
  others : List (Bytes × Bytes) := []
  deriving DecidableEq

structure PsbtOutput where
  tapInternalKey : Option XOnlyPublicKey := none
  tapTree : Option Bytes := none
  tapKeyOrigins : List (XOnlyPublicKey × TapKeyOrigin) := []
  others : List (Bytes × Bytes) := []
  deriving DecidableEq

structure Psbt where
  unsignedTx : Transaction
  inputs : List PsbtInput
  outputs : List PsbtOutput
  /-- The global records besides the transaction. -/
  globals : List (Bytes × Bytes) := []
  deriving DecidableEq

/-- The functions of the `bitcoin` crate that the enclave calls on a PSBT and on
    its keys. -/
structure PsbtCrate extends Crate where
  /-- `Psbt::deserialize`. -/
  deserialize : Bytes → Except String Psbt
  /-- `Psbt::serialize`. -/
  serialize : Psbt → Bytes
  /-- `Psbt::fee`. -/
  fee : Psbt → Except String UInt64
  /-- `Psbt::iter_funding_utxos`. -/
  iterFundingUtxos : Psbt → List (Except String TxOut)
  /-- `Xpriv::derive_priv`, down to the private key. -/
  derivePriv : Xpriv → DerivationPath → Except String SecretKey
  /-- The x-only public key of a secret key. -/
  xOnlyOfSecret : SecretKey → XOnlyPublicKey
  /-- Whether `XOnlyPublicKey::from_slice` takes these 32 bytes. -/
  isXOnly : Word 32 → Bool
  /-- Whether `PublicKey::from_slice` takes these 33 bytes. -/
  isPublicKey : Word 33 → Bool
  /-- The tweak of an internal key with a script-tree root, or with no tree. -/
  tapTweak : XOnlyPublicKey → Option (Word 32) → XOnlyPublicKey
  /-- `SighashCache::taproot_key_spend_signature_hash` over all prevouts. -/
  taprootKeySpendSignatureHash :
    Transaction → Nat → List TxOut → UInt8 → Except String (Word 32)
  /-- The secret key of `tapTweak`. -/
  tapTweakSecret : SecretKey → Option (Word 32) → SecretKey
  /-- The BIP-340 signature of a digest without auxiliary randomness. -/
  signSchnorrNoAuxRand : Word 32 → SecretKey → Word 64
  /-- `ControlBlock::verify_taproot_commitment`. -/
  verifyTaprootCommitment : ControlBlock → XOnlyPublicKey → Script → Bool
  sha256 : Bytes → Word 32
  /-- The quotient of two numbers as a float, with two decimals. -/
  ratioText : UInt64 → UInt64 → String

def newP2trTweaked (outputKey : XOnlyPublicKey) : Sized UInt8 := pushScript 0x51 outputKey

/-- The bytes of a script after the two of a witness program of 32 bytes. -/
def programOf (script : Sized UInt8) : Option (Word 32) :=
  Word.ofBytes? 32 (script.val.drop 2)

def isP2wpkh (script : Sized UInt8) : Bool :=
  script.val.length == 22 && script.val.take 2 == [0x00, 0x14]

def isP2wsh (script : Sized UInt8) : Bool :=
  script.val.length == 34 && script.val.take 2 == [0x00, 0x20]

def isWitnessProgram (script : Sized UInt8) : Bool :=
  match script.val with
  | version :: push :: program =>
      (version == 0 || (0x51 ≤ version && version ≤ 0x60))
        && push.toNat == program.length && 2 ≤ program.length && program.length ≤ 40
  | _ => false

def Transaction.baseSize (tx : Transaction) : UInt64 := .ofNat tx.serialize.length

def Transaction.vsize (tx : Transaction) : UInt64 := tx.baseSize

def witnessLength (items : List Bytes) : Nat :=
  (compactSize items.length).length
    + (items.map fun item => (compactSize item.length).length + item.length).sum

end EnclaveSigner.Bitcoin
