import Mathlib.Data.List.Dedup
import Mathlib.Data.List.Sort
import EnclaveSigner.Error
import EnclaveSigner.Lib.Checks
import EnclaveSigner.Rgb.Std

/-! # The validated consignment

Consensus runs in rgb-lib, over the consignment bytes and the proven positions
of the witness transactions. The enclave then reads what it binds a release to:
the witness txids, and the settling transition of the last bundle with its id,
its burned amount and its burn reason. The id and the burn facts come from the
same validated transition, and the flat summary of rgb-lib has to name it too.
-/

namespace EnclaveSigner.Rgb

open Lib Bitcoin

/-- The block height and header time at which consensus sees a witness mined. -/
structure WitnessPos where
  height : UInt32
  time : UInt32
  deriving DecidableEq

/-- The witness transactions with the positions that consensus is given. -/
abbrev ProvenWitnesses := List (Txid × WitnessPos)

/-- A lock on the EVM chain that was verified for a mint claim. -/
structure VerifiedLock where
  lockId : Word 32
  minted : UInt64
  operationId : Word 32
  netAmount : UInt64
  deriving DecidableEq

structure TransitionSummary where
  /-- The operation id as hexadecimal text. -/
  opId : String
  transitionType : UInt16
  burnedAssetAmount : Option UInt64
  burnReason : Option (Word 32)
  deriving DecidableEq

structure ValidatedConsignment where
  contractId : String
  chainNet : String
  /-- In display byte order, ascending and without repetition. -/
  witnessTxids : List (Word 32)
  lastTransition : Option TransitionSummary
  lastWitnessTxid : Option Txid
  lastTransferOpId : Option OpId
  /-- In display byte order. -/
  nonMinedWitnessTxids : List (Word 32)
  mintLocks : List VerifiedLock
  deriving DecidableEq

/-- The one value of a global as exactly `n` bytes, or none if the transition
    does not declare it. -/
def singleGlobal (n : Nat) (globals : List (UInt16 × List Bytes)) (ty : UInt16) (name : String) :
    Result (Option (Word n)) :=
  match globals.lookup ty with
  | none => .ok none
  | some [value] =>
      match Word.ofBytes? n value with
      | some word => .ok (some word)
      | none => .error (.crossCheck s!"{name} is {value.length} bytes, expected {n}")
  | some values =>
      .error (.crossCheck
        s!"settling transition carries {values.length} {name} values, expected one")

theorem singleGlobal_congr {n : Nat} {globals globals' : List (UInt16 × List Bytes)} {ty : UInt16}
    {name : String} (same : globals.lookup ty = globals'.lookup ty) :
    singleGlobal n globals ty name = singleGlobal n globals' ty name := by
  rw [singleGlobal, singleGlobal, same]

def u64OfLe (word : Word 8) : UInt64 := UInt64.ofNat (ofLe word.val)

structure SettlingFacts where
  opid : OpId
  transitionType : UInt16
  burnedAsset : Option UInt64
  burnReason : Option (Word 32)
  deriving DecidableEq

structure LastBundle where
  witnessTxid : Txid
  closedSeals : List OutPoint
  settling : SettlingFacts
  deriving DecidableEq

variable (btc : Crate) (rgb : RgbStd)

def isBurn (known : KnownTransition) : Bool :=
  known.transition.transitionType == rgb.schemata.tsBurn

/-- The last burn of a witness, or its last transition when it burns nothing. -/
def settlingTransition (known : List KnownTransition) : Option KnownTransition :=
  (known.reverse.find? (isBurn rgb)).or known.getLast?

/-- Two burns in one bundle are refused: only one could ever be released. -/
def settlingKnownTransition (known : List KnownTransition) :
    Result (Option KnownTransition) := do
  let burns := known.countP (isBurn rgb)
  refuse (1 < burns)
    (.crossCheck s!"the last bundle carries {burns} burns - a release settles exactly one")
  pure (settlingTransition rgb known)

def settlingFacts (known : KnownTransition) : Result SettlingFacts := do
  let globals := known.transition.globals
  let burnedAsset ← singleGlobal 8 globals rgb.schemata.gsBurnedAsset "burnedAsset"
  let burnReason ← singleGlobal 32 globals rgb.schemata.gsBurnReason "burnReason"
  pure {
    opid := known.opid
    transitionType := known.transition.transitionType
    burnedAsset := burnedAsset.map u64OfLe
    burnReason }

/-- The outpoint of the seal that `input` spends, from the operation that made
    it. A transition in two bundles keeps its first. -/
def sealOutpoint (transfer : Transfer) (input : Opout) : Option OutPoint :=
  if input.op = rgb.genesisId transfer.genesis then do
    let typed ← transfer.genesis.assignments.lookup input.ty
    rgb.revealedSeal typed input.no none
  else do
    let makers := transfer.bundles.flatMap fun wb =>
      wb.bundle.knownTransitions.map fun known => (known, wb.witnessId btc)
    let (maker, witnessId) ← makers.find? fun entry => entry.1.opid == input.op
    let typed ← maker.transition.assignments.lookup input.ty
    rgb.revealedSeal typed input.no (some witnessId)

def closedSeals (transfer : Transfer) (bundle : WitnessBundle) :
    Result (List OutPoint) :=
  (bundle.bundle.knownTransitions.flatMap (·.transition.inputs)).mapM fun input =>
    okOr (.crossCheck s!"input {rgb.opoutText input} has no revealed seal in the consignment")
      (sealOutpoint btc rgb transfer input)

def readLastBundle (transfer : Transfer) : Result (Option LastBundle) :=
  match transfer.bundles.getLast? with
  | none => .ok none
  | some last => do
      match ← settlingKnownTransition rgb last.bundle.knownTransitions with
      | none => pure none
      | some known =>
          let closedSeals ← closedSeals btc rgb transfer last
          let settling ← settlingFacts rgb known
          pure (some { witnessTxid := last.witnessId btc, closedSeals, settling })

/-- Every transition, grouped by the witness transaction that commits it. -/
abbrev Summary := List (Txid × List TransitionSummary)

def namesOpid (opId : String) (opid : OpId) : Bool := hexDecode opId == some opid.val

/-- The flat summary of the settling transition, with the burn facts of the
    validated one. Both walks must name the same transition. -/
def settlingSummary (byWitness : Summary) (last : LastBundle) :
    Result TransitionSummary := do
  let opid := hexEncode last.settling.opid.val
  let flat ← okOr (.crossCheck (s!"consignment settling transition 0x{opid} is missing from " ++
      "the inspected last bundle - refusing to sign"))
    (((byWitness.getLast?).filter (·.1 == last.witnessTxid)).bind fun group =>
      group.2.find? (namesOpid ·.opId last.settling.opid))
  refuse (flat.transitionType ≠ last.settling.transitionType)
    (.crossCheck (s!"consignment settling transition type {last.settling.transitionType} " ++
      s!"disagrees with the inspected type {flat.transitionType}"))
  pure { flat with
    burnedAssetAmount := last.settling.burnedAsset
    burnReason := last.settling.burnReason }

/-- The order of byte arrays, which is that of the numbers they spell. -/
def txidLe (a b : Word 32) : Prop := ofBe a.val ≤ ofBe b.val

instance : DecidableRel txidLe := fun a b => inferInstanceAs (Decidable (ofBe a.val ≤ ofBe b.val))

def txidSet (txids : List (Word 32)) : List (Word 32) := txids.dedup.insertionSort txidLe

/-- What rgb-lib and the resolvers that it asked leave behind. -/
structure ConsensusOutcome where
  transfer : Transfer
  transitionsByWitness : Summary
  mintLocks : List VerifiedLock
  nonMinedWitnessTxids : List (Word 32)

def summarize (outcome : ConsensusOutcome) : Result ValidatedConsignment := do
  let transfer := outcome.transfer
  let last ← readLastBundle btc rgb transfer
  let lastTransition ← last.mapM (settlingSummary outcome.transitionsByWitness)
  pure {
    contractId := rgb.contractIdText transfer.genesis.contractId
    chainNet := transfer.genesis.chainNet
    witnessTxids := txidSet (transfer.bundles.map fun wb => (wb.witnessId btc).reverse)
    lastTransition
    lastWitnessTxid := last.map (·.witnessTxid)
    lastTransferOpId := last.map (·.settling.opid)
    nonMinedWitnessTxids := outcome.nonMinedWitnessTxids
    mintLocks := outcome.mintLocks }

/-- Consensus over the consignment bytes and the proven positions, in rgb-lib. -/
abbrev Consensus := Bytes → ProvenWitnesses → Result ConsensusOutcome

def validateConsignment (consensus : Consensus) (consignment : Bytes)
    (proven : ProvenWitnesses) : Result ValidatedConsignment := do
  summarize btc rgb (← consensus consignment proven)

def Transfer.knownTransitions (transfer : Transfer) : List KnownTransition :=
  transfer.bundles.flatMap (·.bundle.knownTransitions)

section

variable {btc : Crate} {rgb : RgbStd}

theorem mem_of_settlingTransition {known : List KnownTransition} {settling : KnownTransition}
    (found : settlingTransition rgb known = some settling) : settling ∈ known := by
  rcases Option.or_eq_some_iff.mp found with burn | ⟨-, last⟩
  · exact List.mem_reverse.mp (List.mem_of_find?_eq_some burn)
  · exact List.mem_of_getLast? last

theorem readLastBundle_ok {transfer : Transfer} {last : LastBundle}
    (read : readLastBundle btc rgb transfer = .ok (some last)) :
    ∃ known ∈ transfer.knownTransitions, settlingFacts rgb known = .ok last.settling := by
  rw [readLastBundle] at read
  split at read
  · cases read
  · rename_i bundle ends
    rw [bind_ok] at read
    obtain ⟨settling, chosen, read⟩ := read
    cases settling with
    | none => cases read
    | some known =>
        simp only [settlingKnownTransition, bind_ok] at chosen read
        obtain ⟨_, -, chosen⟩ := chosen
        obtain ⟨_, -, facts, settled, same⟩ := read
        cases same
        have inside := mem_of_settlingTransition (Except.ok.inj chosen)
        exact ⟨known, List.mem_flatMap.mpr ⟨bundle, List.mem_of_getLast? ends, inside⟩, settled⟩

theorem settlingSummary_ok {byWitness : Summary} {last : LastBundle} {summary : TransitionSummary}
    (found : settlingSummary byWitness last = .ok summary) :
    summary.burnedAssetAmount = last.settling.burnedAsset ∧
      summary.burnReason = last.settling.burnReason := by
  simp only [settlingSummary, bind_ok] at found
  obtain ⟨flat, -, _, -, same⟩ := found
  cases same
  exact ⟨rfl, rfl⟩

/-- The witnesses of a validated consignment are those of its bundles, all of them. -/
theorem mem_witnessTxids {outcome : ConsensusOutcome} {validated : ValidatedConsignment}
    (summarized : summarize btc rgb outcome = .ok validated) {txid : Word 32} :
    txid ∈ validated.witnessTxids ↔
      ∃ bundle ∈ outcome.transfer.bundles, (bundle.witnessId btc).reverse = txid := by
  simp only [summarize, bind_ok] at summarized
  obtain ⟨_, -, _, -, same⟩ := summarized
  cases same
  rw [txidSet, List.mem_insertionSort, List.mem_dedup, List.mem_map]

theorem summarize_ok {outcome : ConsensusOutcome} {validated : ValidatedConsignment}
    {last : TransitionSummary} (summarized : summarize btc rgb outcome = .ok validated)
    (present : validated.lastTransition = some last) :
    ∃ known ∈ outcome.transfer.knownTransitions, ∃ facts,
      settlingFacts rgb known = .ok facts ∧ validated.lastTransferOpId = some facts.opid ∧
        last.burnedAssetAmount = facts.burnedAsset ∧ last.burnReason = facts.burnReason := by
  simp only [summarize, bind_ok] at summarized
  obtain ⟨bundle, read, summary, flat, same⟩ := summarized
  cases same
  cases present
  cases bundle with
  | none => cases flat
  | some bundle =>
      obtain ⟨known, inside, facts⟩ := readLastBundle_ok read
      cases found : settlingSummary outcome.transitionsByWitness bundle with
      | error e =>
          rw [Option.mapM_some, found] at flat
          cases flat
      | ok summary =>
          rw [Option.mapM_some, found] at flat
          cases flat
          exact ⟨known, inside, bundle.settling, facts, rfl, settlingSummary_ok found⟩

end

end EnclaveSigner.Rgb
