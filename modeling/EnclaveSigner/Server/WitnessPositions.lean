import EnclaveSigner.Server.KeyUse

/-! # The witness positions that consensus reads

Consensus orders the witnesses by the height and the time of their blocks. The
request reads these under its first lock, and pins nothing there. The pins come
from the second lock, where the same proofs are verified again. A Merkle proof
fixes the root of its block and not the time.
-/

namespace EnclaveSigner.Server

open Lib Program Bitcoin Spv Rgb Evm Proto

variable {ctx : ServerContext} {source : RgbSource} {destination : EvmDestination}
  {now : Readings}

/-- `signRun`, with the chains that the request found under its locks. -/
def tracedSignRun (ctx : ServerContext) (network : Network) (checkpoint : Checkpoint)
    (source : RgbSource) (destination : EvmDestination) (now : Readings)
    (turns : List (Option SubmitCall)) :
    Worker HeaderChain (List HeaderChain × KeyUse) EnclaveError
      (List HeaderChain × EvmSignatureResponse) :=
  (Worker.start (HeaderChain.new network checkpoint)
    ((handleSign ctx source destination now).traced [])).run
    (fun chain call => chain.afterSubmit ctx.btc call) turns

/-- Consensus validated the consignment with these positions, read from
    `chain`. -/
def ConsensusGiven (ctx : ServerContext) (source : RgbSource) (chain : HeaderChain)
    (proven : ProvenWitnesses) (validated : ValidatedConsignment) : Prop :=
  provenWitnesses ctx.btc ctx.rgb chain source.merkleProofs ctx.cfg.spvMinConfirmations
      = .ok proven ∧
    ∃ consensus, ctx.rgbValidator = some consensus ∧
      validateConsignment ctx.btc ctx.rgb consensus source.consignment proven = .ok validated

/-- The positions are those of `chain`. -/
def PositionsHold (proven : ProvenWitnesses) (chain : HeaderChain) : Prop :=
  ∀ entry ∈ proven, (chain.headerAt entry.2.height).map (·.time) = some entry.2.time

instance PositionsHold.decidable (proven : ProvenWitnesses) (chain : HeaderChain) :
    Decidable (PositionsHold proven chain) :=
  inferInstanceAs (Decidable (∀ entry ∈ proven, _))

/-- Where the two chains have headers with one root at the height of a proof,
    these have the same time. -/
def SameTimes (source : RgbSource) (first second : HeaderChain) : Prop :=
  ∀ proof ∈ source.merkleProofs, ∀ header header',
    first.headerAt proof.blockHeight = some header →
    second.headerAt proof.blockHeight = some header' →
    header.merkleRoot = header'.merkleRoot → header.time = header'.time

/-- What a use of the key says about the positions: `first` and `second` are the
    chains of the first two locks. -/
def PositionsRead (ctx : ServerContext) (source : RgbSource) (use : List HeaderChain × KeyUse)
    (chain : HeaderChain) : Prop :=
  ∃ first second rest proven, use.1 = first :: second :: rest ∧
    ConsensusGiven ctx source first proven use.2.validated ∧
    (PositionsHold proven chain ↔ SameTimes source first second)

/-- The proofs stand in the chain of the second lock, and are pinned there. -/
structure Pinned (ctx : ServerContext) (found : HeaderChain → Prop) (source : RgbSource)
    (second : HeaderChain) (pins : ChainPins) : Prop where
  here : found second
  each : ∀ proof ∈ source.merkleProofs,
    pins.Holds second proof.blockHeight ctx.cfg.spvMinConfirmations ∧
      ∃ header, second.headerAt proof.blockHeight = some header ∧ LeadsTo ctx.btc proof header

section Positions

variable {first second chain : HeaderChain} {proven : ProvenWitnesses}
  {validated : ValidatedConsignment}

theorem positionsHold_iff (given : ConsensusGiven ctx source first proven validated)
    (leads : ∀ proof ∈ source.merkleProofs, ∃ header,
      second.headerAt proof.blockHeight = some header ∧ LeadsTo ctx.btc proof header)
    (same : ∀ proof ∈ source.merkleProofs,
      chain.headerAt proof.blockHeight = second.headerAt proof.blockHeight) :
    PositionsHold proven chain ↔ SameTimes source first second := by
  obtain ⟨known, covered⟩ := provenWitnesses_ok given.1
  constructor
  · intro hold proof member header header' there there' _
    obtain ⟨entry, inside, read, found, -, position⟩ := covered proof member
    have time := hold entry inside
    rw [position, same proof member, there'] at time
    rw [there] at found
    cases found
    exact (Option.some.inj time).symm
  · intro times entry inside
    obtain ⟨proof, member, header, found, leadsFirst, position⟩ := known entry inside
    obtain ⟨header', found', leadsSecond⟩ := leads proof member
    have time := times proof member header header' found found'
      (leadsFirst.merkleRoot_eq leadsSecond)
    rw [position, same proof member, found', Option.map_some, time]

end Positions

section Upholds

variable {found : HeaderChain → Prop} {promise : List HeaderChain × KeyUse → HeaderChain → Prop}
  {pins : ChainPins} {validated : ValidatedConsignment}

theorem validateSource_traced {now : SystemTime}
    {post : List HeaderChain × RouteProof × ValidatedConsignment × ChainPins →
      Option HeaderChain → Prop}
    (reached : ∀ first second proof proven validated pins,
      ConsensusGiven ctx source first proven validated → Pinned ctx found source second pins →
      post ([first, second], proof, validated, pins) none) :
    ((validateSource ctx.toValidationContext source now [] : Request _).traced []).Upholds
      found promise none post := by
  rw [validateSource, upholds_traced_bind, validateSourceConsignment,
    upholds_traced_lift_bind]
  intro _ _
  rw [upholds_traced_lift_bind]
  intro consensus configured
  rw [upholds_traced_locked_bind]
  intro first _ proven given
  rw [upholds_traced_lift_bind]
  intro validated accepted
  rw [upholds_traced_lift_bind]
  intro _ _
  rw [upholds_traced_locked_bind]
  intro second here pins passes
  change Upholds _ _ (traced _ (_ >>= _)) _ _
  rw [upholds_traced_lift_bind]
  intro proof _
  exact reached first second proof proven validated pins
    ⟨given, consensus, okOr_ok.mp configured, accepted⟩ ⟨here, (validateSourceChain_ok passes).2⟩

theorem applyFundsOutBinding_traced {release : ReleaseIdentity}
    {burnDestination : Option BurnDestination} {reads : List HeaderChain}
    {second : HeaderChain} {post : List HeaderChain × ChainPins → Option HeaderChain → Prop}
    (pinned : Pinned ctx found source second pins)
    (reached : ∀ chain pins, Pinned ctx found source second pins →
      post (reads ++ [chain], pins) none) :
    ((applyFundsOutBinding ctx release validated source.merkleProofs pins
      burnDestination).traced reads).Upholds found promise none post := by
  rw [applyFundsOutBinding, upholds_traced_lift_bind]
  intro _ _
  rw [upholds_traced_locked_bind]
  intro chain _ pins' agrees
  rw [upholds_traced_lift_bind]
  intro _ _
  refine reached chain pins' ⟨pinned.here, fun proof member => ?_⟩
  obtain ⟨held, leads⟩ := pinned.each proof member
  exact ⟨verifyBtcRelayAgreement_keeps agrees held, leads⟩

end Upholds

section Signing

variable {base : BlockHeight} {headers : Set Header} {validated : ValidatedConsignment}
  {pins : ChainPins} {first second chain : HeaderChain} {proven : ProvenWitnesses}

theorem Pinned.headerAt_eq (collisionFree : Header.CollisionFree ctx.btc headers)
    (pinned : Pinned ctx (Seen ctx.btc base headers) source second pins)
    (here : Seen ctx.btc base headers chain) (unchanged : pins.assertUnchanged chain = .ok ()) :
    ∀ proof ∈ source.merkleProofs,
      chain.headerAt proof.blockHeight = second.headerAt proof.blockHeight := by
  intro proof member
  obtain ⟨held, header, stored, -⟩ := pinned.each proof member
  have there := pinned.here
  rw [stored]
  exact headerAt_of_pinned collisionFree there.stored there.inside here.stored here.inside
    (here.base_eq.trans there.base_eq.symm) held stored unchanged

theorem Pinned.merkleProofs_of_isEmpty {found : HeaderChain → Prop}
    (pinned : Pinned ctx found source second pins) (none : pins.isEmpty = true) :
    source.merkleProofs = [] := by
  apply List.eq_nil_iff_forall_not_mem.mpr
  intro proof member
  obtain ⟨⟨pin, there, -⟩, -⟩ := pinned.each proof member
  rw [List.isEmpty_iff.mp none] at there
  cases there

theorem signWithChainPinsUnchanged_traced {digest : Word 32} {rest : List HeaderChain}
    (collisionFree : Header.CollisionFree ctx.btc headers)
    (given : ConsensusGiven ctx source first proven validated)
    (pinned : Pinned ctx (Seen ctx.btc base headers) source second pins) :
    ((signWithChainPinsUnchanged pins (useEvmKey ctx digest validated)).traced
      (first :: second :: rest)).Upholds (Seen ctx.btc base headers) (PositionsRead ctx source)
      none fun _ _ => True := by
  have leads := fun proof member => (pinned.each proof member).2
  rw [signWithChainPinsUnchanged]
  split
  · rename_i none
    refine ⟨fun chain _ => ?_, upholds_traced_ofExcept.mpr fun _ _ => trivial⟩
    refine ⟨first, second, rest, proven, rfl, given, positionsHold_iff given leads ?_⟩
    rw [pinned.merkleProofs_of_isEmpty none]
    exact fun _ member => absurd member List.not_mem_nil
  · intro chain here
    rw [upholds_traced_lift_bind]
    intro _ unchanged
    rw [upholds_traced_bind]
    refine ⟨?_, upholds_traced_ofExcept.mpr fun _ _ => trivial⟩
    rintro _ rfl
    exact ⟨first, second, rest ++ [_], proven, rfl, given,
      positionsHold_iff given leads (pinned.headerAt_eq collisionFree here unchanged)⟩

theorem handleSign_traced
    (collisionFree : Header.CollisionFree ctx.btc headers) :
    ((handleSign ctx source destination now).traced []).Upholds (Seen ctx.btc base headers)
      (PositionsRead ctx source) none fun _ _ => True := by
  rw [handleSign, upholds_traced_lift_bind]
  intro _ _
  rw [upholds_traced_bind]
  refine validateSource_traced fun first second sourceProof proven validated pins given pinned => ?_
  change Upholds _ _ (traced _ (_ >>= _)) _ _
  rw [upholds_traced_lift_bind]
  rintro ⟨destinationProof, params, release⟩ _
  change Upholds _ _ (traced _ (_ >>= _)) _ _
  rw [upholds_traced_lift_bind]
  intro _ _
  rw [upholds_traced_lift_bind]
  intro _ _
  rw [upholds_traced_lift_bind]
  intro _ _
  rw [upholds_traced_bind]
  refine applyFundsOutBinding_traced pinned fun third pins pinned => ?_
  rw [handleSignEvm, upholds_traced_lift_bind]
  intro domain _
  rw [upholds_traced_lift_bind]
  intro digest _
  rw [upholds_traced_bind]
  exact signWithChainPinsUnchanged_traced collisionFree given pinned

end Signing

section Runs

variable {network : Network} {checkpoint : Checkpoint} {turns : List (Option SubmitCall)}

theorem tracedSignRun_traces (turns : List (Option SubmitCall)) :
    (tracedSignRun ctx network checkpoint source destination now turns).Traces
      (signRun ctx network checkpoint source destination now turns) :=
  Worker.start_traces.run turns

theorem tracedSignRun_seen {before : List (Option SubmitCall)} (inside : before <+: turns) :
    Seen ctx.btc checkpoint.height
      (headersOfRun ctx network checkpoint source destination now turns)
      (tracedSignRun ctx network checkpoint source destination now before).shared := by
  rw [(tracedSignRun_traces before).shared]
  exact signRun_seen inside

/-- Each use of the key in a run rests on positions that consensus was given
    under the first lock. They are the positions in the chain of the key use
    exactly when no block of a proof was replaced, between the first two locks,
    by one with the same root and another time. -/
theorem witness_positions_hold_iff (ctx : ServerContext) (network : Network)
    (checkpoint : Checkpoint) (source : RgbSource) (destination : EvmDestination) (now : Readings)
    (turns : List (Option SubmitCall))
    (collisionFree : Header.CollisionFree ctx.btc
      (headersOfRun ctx network checkpoint source destination now turns)) :
    (tracedSignRun ctx network checkpoint source destination now turns).log.map
        (fun entry => (entry.1.2, entry.2))
      = (signRun ctx network checkpoint source destination now turns).log ∧
    ∀ entry ∈ (tracedSignRun ctx network checkpoint source destination now turns).log,
      ∃ first second rest proven, entry.1.1 = first :: second :: rest ∧
        ConsensusGiven ctx source first proven entry.1.2.validated ∧
        (PositionsHold proven entry.2 ↔ SameTimes source first second) := by
  refine ⟨(tracedSignRun_traces turns).log, ?_⟩
  have upholds : ((handleSign ctx source destination now).traced []).Upholds
      (Seen ctx.btc checkpoint.height _) (PositionsRead ctx source) none fun _ _ => True :=
    handleSign_traced collisionFree
  exact ((Worker.start_keeps upholds).run fun before inside => tracedSignRun_seen inside).logged

end Runs

section Samples

/-- The host replaces the block on top of the burn, and not the burn's own: the
    positions hold at the one use of the key. -/
theorem witness_positions_hold_iff_reorg :
    (tracedSignRun sampleContext .regtest burnCheckpoint sampleSource
        (sampleDestination 6) sampleReadings sampleTurns).log.map
        (fun entry => (entry.1.1.map (·.headers), entry.2.headers))
      = [([[sampleBlock, sampleNext], [sampleBlock, sampleNext], [sampleBlock, sampleNext],
          [sampleBlock, sampleRival, sampleRivalNext]],
        [sampleBlock, sampleRival, sampleRivalNext])] ∧
    ∀ entry ∈ (tracedSignRun sampleContext .regtest burnCheckpoint
        sampleSource (sampleDestination 6) sampleReadings sampleTurns).log,
      ∃ first second rest proven, entry.1.1 = first :: second :: rest ∧
        ConsensusGiven sampleContext sampleSource first proven entry.1.2.validated ∧
        (PositionsHold proven entry.2 ↔ SameTimes sampleSource first second) :=
  ⟨by decide +kernel, (witness_positions_hold_iff _ _ _ _ _ _ _ sampleRun_collisionFree).2⟩

def retimedBlock : Header := { sampleBlock with time := 1700001005 }

def retimedBlockHash : Word 32 :=
  .ofNatBe 32 0xeb9811fa5142ec52ead57f800d2954767bfdf9a68a686cd04484f13e2a350422

def retimedNext : Header := ⟨1, retimedBlockHash, .zero 32, 1700001006, 0x207fffff, 0⟩

def retimedNextHash : Word 32 :=
  .ofNatBe 32 0xa57a696d11302e7b5a1ee06ee47ae98b127b417c98ca6ed54190043bef340c22

def retimedTop : Header := ⟨1, retimedNextHash, .zero 32, 1700001007, 0x207fffff, 0⟩

def retimedHashes : List (Bytes × Word 32) := [
  (retimedBlock.serialize, retimedBlockHash),
  (retimedNext.serialize, retimedNextHash),
  (retimedTop.serialize,
    .ofNatBe 32 0x37623088f605f06d1fe3342e5e8b99e1d8f91fee83f2481bc357f64df7bffe0f)]

def retimedContext : ServerContext :=
  { sampleContext with
    btc := crateWith fun bytes => (retimedHashes.lookup bytes).getD (sampleCrate.sha256d bytes) }

/-- The host replaces the block of the burn after the first lock and before the
    second. -/
def retimedTurns : List (Option SubmitCall) :=
  some ⟨6, [sampleBlock.serialize, sampleNext.serialize], 1700002000⟩ :: List.replicate 2 none ++
    some ⟨6, [retimedBlock.serialize, retimedNext.serialize, retimedTop.serialize], 1700002000⟩ ::
      List.replicate 8 none

def retimedRun : Worker HeaderChain (List HeaderChain × KeyUse) EnclaveError
    (List HeaderChain × EvmSignatureResponse) :=
  tracedSignRun retimedContext .regtest burnCheckpoint sampleSource
    (sampleDestination 6) sampleReadings retimedTurns

/-- The key is used, while consensus was given a time that the block at the
    witness's height does not have. -/
theorem witness_positions_retimed :
    ∃ entry ∈ retimedRun.log, ∃ first rest, entry.1.1 = first :: rest ∧
      ConsensusGiven retimedContext sampleSource first [(sampleBurnTxid, ⟨6, 1700001003⟩)]
        entry.1.2.validated ∧
      entry.2.headerAt 6 = some retimedBlock ∧
      ¬ PositionsHold [(sampleBurnTxid, ⟨6, 1700001003⟩)] entry.2 := by
  have found : ∃ entry ∈ retimedRun.log,
      validateConsignment retimedContext.btc retimedContext.rgb (fun _ _ => .ok sampleOutcome)
          sampleSource.consignment [(sampleBurnTxid, ⟨6, 1700001003⟩)] = .ok entry.1.2.validated ∧
        entry.2.headerAt 6 = some retimedBlock ∧
        ¬ PositionsHold [(sampleBurnTxid, ⟨6, 1700001003⟩)] entry.2 := by decide +kernel
  have given : ∀ entry ∈ retimedRun.log, entry.1.1.head?.any (fun first =>
      decide (provenWitnesses retimedContext.btc retimedContext.rgb first sampleSource.merkleProofs
        2 = .ok [(sampleBurnTxid, ⟨6, 1700001003⟩)])) = true := by decide +kernel
  obtain ⟨entry, member, validated, here, apart⟩ := found
  obtain ⟨first, head, proven⟩ := (Option.any_eq_true _ _).mp (given entry member)
  obtain ⟨rest, reads⟩ := List.head?_eq_some_iff.mp head
  exact ⟨entry, member, first, rest, reads, ⟨of_decide_eq_true proven, _, rfl, validated⟩, here,
    apart⟩

end Samples

end EnclaveSigner.Server
