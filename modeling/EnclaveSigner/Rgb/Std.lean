import EnclaveSigner.Bitcoin.Transaction

/-! # RGB data and the `rgbstd` crate

The operations of an RGB contract as the enclave reads them: transitions with
their globals, inputs and assignments, the bundles that one Bitcoin transaction
commits, and the transfer that a consignment carries. Maps are lists of pairs in
key order.

`RgbStd` is what the enclave calls in the RGB crates, and the numbers that the
asset schema gives to its types.
-/

namespace EnclaveSigner.Rgb

open Lib Bitcoin

abbrev OpId := Word 32

abbrev ContractId := Word 32

abbrev Txid := Word 32

structure Opout where
  op : OpId
  ty : UInt16
  no : UInt16
  deriving DecidableEq

structure OutPoint where
  txid : Txid
  vout : UInt32
  deriving DecidableEq

/-- A seal on an output of `txid`, or of the transaction that commits the
    operation where there is none. -/
structure GraphSeal where
  txid : Option Txid
  vout : UInt32
  blinding : UInt64
  deriving DecidableEq

inductive BuilderSeal where
  | revealed (graph : GraphSeal)
  | concealed (secret : Word 32)
  deriving DecidableEq

inductive TypedAssigns where
  | declarative (seals : List BuilderSeal)
  | fungible (legs : List (BuilderSeal × UInt64))
  | structured (items : List (BuilderSeal × Bytes))
  deriving DecidableEq

/-- An operation of a contract. -/
structure Transition where
  contractId : ContractId
  transitionType : UInt16
  metadata : List (UInt16 × Bytes)
  globals : List (UInt16 × List Bytes)
  inputs : List Opout
  assignments : List (UInt16 × TypedAssigns)
  deriving DecidableEq

structure KnownTransition where
  opid : OpId
  transition : Transition
  deriving DecidableEq

/-- The transitions of one contract that one transaction commits. The input map
    names the transition that closes each seal. -/
structure TransitionBundle where
  inputMap : List (Opout × OpId)
  knownTransitions : List KnownTransition
  deriving DecidableEq

structure WitnessBundle where
  tx : Transaction
  bundle : TransitionBundle
  deriving DecidableEq

structure Genesis where
  contractId : ContractId
  /-- The prefix of the chain-network. -/
  chainNet : String
  assignments : List (UInt16 × TypedAssigns)
  deriving DecidableEq

/-- The consignment of a transfer. -/
structure Transfer where
  genesis : Genesis
  bundles : List WitnessBundle
  deriving DecidableEq

/-- What rgb-lib keeps of a transaction that it commits to: the transaction, the
    entropy of its multi-protocol commitment, and the bundle of each contract. -/
structure Fascia where
  tx : Transaction
  mpcEntropy : Option UInt64
  bundles : List (ContractId × TransitionBundle)
  deriving DecidableEq

structure Schemata where
  tsBurn : UInt16
  tsMint : UInt16
  gsIssuedSupply : UInt16
  gsBurnedAsset : UInt16
  gsBurnReason : UInt16
  msBeforeBlock : UInt16
  osAsset : UInt16
  osMint : UInt16
  tsPropagate : UInt16

/-- What the enclave calls in the RGB crates. -/
structure RgbStd where
  schemata : Schemata
  /-- `ContractId::to_string`. -/
  contractIdText : ContractId → String
  /-- `ContractId::from_str`. -/
  contractIdOfText : String → Except String ContractId
  /-- `OpId::to_string`. -/
  opIdText : OpId → String
  /-- `Opout::to_string`. -/
  opoutText : Opout → String
  /-- `SecretSeal::to_string`. -/
  secretSealText : Word 32 → String
  /-- The text of a transition type. -/
  typeText : UInt16 → String
  /-- The debug texts of lists of types and of inputs. -/
  typesDebug : List UInt16 → String
  opoutsDebug : List Opout → String
  /-- `Transition::id`. -/
  transitionId : Transition → OpId
  /-- `TransitionBundle::bundle_id`. -/
  bundleId : TransitionBundle → Word 32
  /-- Whether this many messages fit into a multi-protocol commitment. -/
  confineMessages : Nat → Except String Unit
  /-- The commitment to messages by protocol, at the least depth, under an entropy. -/
  mpcCommit : List (ContractId × Word 32) → UInt64 → Except String (Word 32)
  /-- Verification of the opret commitment of a transaction. -/
  opretVerify : Word 32 → Transaction → Except String Unit
  /-- `LockId::with`. -/
  lockId : OpId → Txid → Word 32
  /-- Strict decoding of a fascia. -/
  decodeFascia : Bytes → Except String Fascia
  /-- `Genesis::id`. -/
  genesisId : Genesis → OpId
  /-- The outpoint of the revealed seal at an index, for a witness transaction. -/
  revealedSeal : TypedAssigns → UInt16 → Option Txid → Option OutPoint
  /-- Whether `WitnessPos::bitcoin` takes this block time. -/
  isWitnessTime : UInt32 → Bool

def Fascia.witnessId (btc : Crate) (fascia : Fascia) : Txid := fascia.tx.txid btc

def WitnessBundle.witnessId (btc : Crate) (bundle : WitnessBundle) : Txid := bundle.tx.txid btc

def revealedLeg (typed : TypedAssigns) (no : UInt16) (witness : Option Txid) : Option OutPoint :=
  match typed with
  | .fungible legs => (legs[no.toNat]?).bind fun leg =>
      match leg.1 with
      | .revealed graph => (graph.txid.or witness).map (⟨·, graph.vout⟩)
      | .concealed _ => none
  | _ => none

/-- The known values of the RGB crates for the concrete requests on which a
    result is exercised. -/
structure StdTables where
  genesisId : OpId
  contracts : List (ContractId × String)
  opIds : List (Transition × OpId)
  /-- The commitment of the one bundle that occurs. -/
  commitment : Word 32
  lockIds : List ((OpId × Txid) × Word 32)
  fascias : List (Bytes × Fascia)

def stdWith (tables : StdTables) : RgbStd where
  schemata := ⟨8010, 8013, 2010, 2013, 2014, 1013, 4000, 4013, 8014⟩
  contractIdText id := (tables.contracts.lookup id).getD ""
  contractIdOfText text :=
    (tables.contracts.find? (·.2 == text)).elim (.error "invalid contract id") (.ok ·.1)
  opIdText id := hexEncode id.val
  opoutText opout := s!"{hexEncode opout.op.val}/{opout.ty}/{opout.no}"
  secretSealText secret := s!"utxob:{hexEncode secret.val}"
  typeText ty := toString ty
  typesDebug types := toString types
  opoutsDebug opouts := toString (opouts.map fun opout => hexEncode opout.op.val)
  transitionId transition := (tables.opIds.lookup transition).getD (Word.zero 32)
  bundleId _ := tables.commitment
  confineMessages _ := .ok ()
  mpcCommit _ _ := .ok tables.commitment
  opretVerify commitment tx :=
    if (tx.output.val.find? TxOut.isOpReturn).any
        (·.scriptPubkey == pushScript 0x6a commitment) then .ok ()
    else .error "invalid commitment"
  lockId opid txid := (tables.lockIds.lookup (opid, txid)).getD (Word.zero 32)
  decodeFascia bytes := (tables.fascias.lookup bytes).elim (.error "unexpected end of data") .ok
  genesisId _ := tables.genesisId
  revealedSeal := revealedLeg
  isWitnessTime time := 1231006505 ≤ time

end EnclaveSigner.Rgb
