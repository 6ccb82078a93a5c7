import EnclaveSigner.Evm.ReleaseBinding
import EnclaveSigner.Server.KeyUse

/-! # One burn, one payout

A release that the burn signer accepts is determined by the burn that it
settles, whichever calldata, route and record the backend sends for it.
-/

namespace EnclaveSigner.Server

open Lib Program Bitcoin Spv Rgb Evm Proto

variable {ctx : ServerContext}

theorem applyFundsOutBinding_yields {release : ReleaseIdentity} {validated : ValidatedConsignment}
    {merkleProofs : List MerkleProofEntry} {pins pins' : ChainPins}
    {burnDestination : Option BurnDestination} :
    (applyFundsOutBinding ctx release validated merkleProofs pins burnDestination).Yields pins' ↔
      assertWitnessesConfirmed validated = .ok () ∧
      (∃ chain, verifyBtcRelayAgreement ctx.btc ctx.codec release validated merkleProofs chain pins
        ctx.cfg.btcRelayMode ctx.cfg.spvMinConfirmations = .ok pins') ∧
      bindRelease ctx release validated burnDestination = .ok () := by
  rw [applyFundsOutBinding, yields_lift_bind]
  constructor
  · rintro ⟨_, confirmed, yields⟩
    rw [yields_bind] at yields
    obtain ⟨agreed, ⟨chain, agrees⟩, yields⟩ := yields
    rw [yields_lift_bind] at yields
    obtain ⟨_, binds, same⟩ := yields
    cases same
    exact ⟨confirmed, ⟨chain, yields_ofExcept.mp agrees⟩, binds⟩
  · rintro ⟨confirmed, ⟨chain, agrees⟩, binds⟩
    refine ⟨(), confirmed, yields_bind.mpr ⟨pins', ?_, ?_⟩⟩
    · exact ⟨chain, yields_ofExcept.mpr agrees⟩
    · exact yields_lift_bind.mpr ⟨(), binds, rfl⟩

/-- A release that passed every check of the burn signer. -/
structure AcceptedRelease (ctx : ServerContext) where
  outcome : ConsensusOutcome
  validated : ValidatedConsignment
  merkleProofs : List MerkleProofEntry
  destination : EvmDestination
  release : ReleaseIdentity
  summarized : summarize ctx.btc ctx.rgb outcome = .ok validated
  decoded : ∃ now proof params,
    validateDestination ctx.codec ctx.cfg destination now = .ok (proof, params, release)
  identity : validateRgbSourceIdentity release = .ok ()
  burnId : validateBurnId ctx.codec ctx.cfg release = .ok ()
  bound : ∃ pins pins', (applyFundsOutBinding ctx release validated merkleProofs pins
    destination.burnDestination).Yields pins'

/-- In the two transfers, transitions with one id have the same burn globals. -/
def OpIdDetermines (rgb : RgbStd) (transfer₁ transfer₂ : Transfer) : Prop :=
  ∀ known₁ ∈ transfer₁.knownTransitions, ∀ known₂ ∈ transfer₂.knownTransitions,
    known₁.opid = known₂.opid → ∀ ty ∈ [rgb.schemata.gsBurnedAsset, rgb.schemata.gsBurnReason],
      known₁.transition.globals.lookup ty = known₂.transition.globals.lookup ty

theorem validateSource_yields {source : RgbSource} {now : SystemTime} {pins pins' : ChainPins}
    {proof : RouteProof} {validated : ValidatedConsignment}
    (yields : (validateSource ctx.toValidationContext source now pins : Request _).Yields
      (proof, validated, pins')) :
    ∃ consensus proven outcome, ctx.rgbValidator = some consensus ∧
      consensus source.consignment proven = .ok outcome ∧
        summarize ctx.btc ctx.rgb outcome = .ok validated := by
  rw [validateSource, yields_bind] at yields
  obtain ⟨⟨validated', pins''⟩, consigned, yields⟩ := yields
  rw [yields_lift_bind] at yields
  obtain ⟨_, -, same⟩ := yields
  cases same
  rw [validateSourceConsignment, yields_lift_bind] at consigned
  obtain ⟨_, -, consigned⟩ := consigned
  rw [yields_lift_bind] at consigned
  obtain ⟨consensus, configured, consigned⟩ := consigned
  rw [yields_bind] at consigned
  obtain ⟨proven, -, consigned⟩ := consigned
  rw [yields_lift_bind] at consigned
  obtain ⟨accepted, validates, consigned⟩ := consigned
  rw [yields_lift_bind] at consigned
  obtain ⟨_, -, consigned⟩ := consigned
  rw [yields_bind] at consigned
  obtain ⟨_, -, same⟩ := consigned
  cases same
  rw [validateConsignment, bind_ok] at validates
  obtain ⟨outcome, ran, summarized⟩ := validates
  exact ⟨consensus, proven, outcome, okOr_ok.mp configured, ran, summarized⟩

namespace AcceptedRelease

/-- What the checks of a release hash of the burn and its destination. -/
def hashed (a : AcceptedRelease ctx) : List Bytes :=
  burnIdPreimage ctx.codec ctx.cfg a.release ::
    recordInputs ctx.codec a.destination.burnDestination

/-- The burn of an accepted release: its transition, with the two globals that
    the payout is read from. -/
structure Burn (a : AcceptedRelease ctx) where
  known : KnownTransition
  burned : Word 8
  reason : Word 32
  target : BurnTarget
  inside : known ∈ a.outcome.transfer.knownTransitions
  opid : known.opid = a.release.sourceBurnTxId
  burnedAsset : singleGlobal 8 known.transition.globals ctx.rgb.schemata.gsBurnedAsset
    "burnedAsset" = .ok (some burned)
  burnReason : singleGlobal 32 known.transition.globals ctx.rgb.schemata.gsBurnReason
    "burnReason" = .ok (some reason)
  amount : a.release.amount = u256OfU64 (u64OfLe burned)
  resolved : resolve ctx.codec reason a.destination.burnDestination = .ok target
  pays : PaysOut a.release target

theorem bindRelease_passes (a : AcceptedRelease ctx) :
    bindRelease ctx a.release a.validated a.destination.burnDestination = .ok () := by
  obtain ⟨_, _, yields⟩ := a.bound
  exact (applyFundsOutBinding_yields.mp yields).2.2

theorem lastTransferOpId_eq (a : AcceptedRelease ctx) :
    a.validated.lastTransferOpId = some a.release.sourceBurnTxId := by
  have passes := a.bindRelease_passes
  simp only [bindRelease, bind_ok] at passes
  obtain ⟨_, -, _, opId, -⟩ := passes
  exact validateFundsOutSourceBurnTxId_ok opId

theorem exists_burn (a : AcceptedRelease ctx) : Nonempty a.Burn := by
  have passes := a.bindRelease_passes
  simp only [bindRelease, bind_ok] at passes
  obtain ⟨_, amount, _, -, _, recipient, -⟩ := passes
  obtain ⟨last, burned, present, destroyed, amount⟩ := validateFundsOutAmount_ok amount
  obtain ⟨_, reason, target, present', committed, resolved, pays⟩ :=
    validateFundsOutBurnRecipient_ok recipient
  cases present.symm.trans present'
  obtain ⟨known, inside, facts, settled, opId, sameBurned, sameReason⟩ :=
    summarize_ok a.summarized present
  simp only [settlingFacts, bind_ok] at settled
  obtain ⟨word, burnedAsset, reasonWord, burnReason, same⟩ := settled
  cases same
  rw [sameBurned, Option.map_eq_some_iff] at destroyed
  obtain ⟨burnedWord, rfl, rfl⟩ := destroyed
  rw [sameReason] at committed
  cases committed
  rw [a.lastTransferOpId_eq] at opId
  exact ⟨⟨known, burnedWord, reason, target, inside, (Option.some.inj opId).symm, burnedAsset,
    burnReason, amount, resolved, pays⟩⟩

theorem burnId_eq (a : AcceptedRelease ctx) (token : ctx.cfg.tokenContract ≠ Word.zero 20) :
    a.release.burnId = u256OfBe (ctx.codec.keccak (burnIdPreimage ctx.codec ctx.cfg a.release)) :=
  validateBurnId_ok token a.burnId

section Two

variable {a b : AcceptedRelease ctx}

theorem Burn.same_facts (determined : OpIdDetermines ctx.rgb a.outcome.transfer b.outcome.transfer)
    (same : a.release.sourceBurnTxId = b.release.sourceBurnTxId) (burn : a.Burn) (burn' : b.Burn) :
    burn.burned = burn'.burned ∧ burn.reason = burn'.reason := by
  have equal := determined _ burn.inside _ burn'.inside
    (burn.opid.trans (same.trans burn'.opid.symm))
  have burnedAsset := burn.burnedAsset
  have burnReason := burn.burnReason
  rw [singleGlobal_congr (equal _ (by simp)), burn'.burnedAsset] at burnedAsset
  rw [singleGlobal_congr (equal _ (by simp)), burn'.burnReason] at burnReason
  exact ⟨(Option.some.inj (Except.ok.inj burnedAsset)).symm,
    (Option.some.inj (Except.ok.inj burnReason)).symm⟩

theorem chain_eq (pinned : ctx.cfg.chainId ≠ 0) {target : BurnTarget} {reason : Word 32}
    (resolved : resolve ctx.codec reason a.destination.burnDestination = .ok target)
    (pays : PaysOut a.release target) :
    a.release.destinationChainId = u256OfU64 (target.destinationChainId.getD ctx.cfg.chainId) := by
  cases named : target.destinationChainId with
  | some chain => exact pays.chain chain named
  | none =>
      obtain ⟨_, _, _, decoded⟩ := a.decoded
      have direct := dstEid_of_resolve resolved named
      exact (validateDestination_ok decoded).2 pinned (pays.dstEid.symm.trans direct)

theorem burnIdPreimage_eq (amount : a.release.amount = b.release.amount)
    (opId : a.release.sourceBurnTxId = b.release.sourceBurnTxId) :
    burnIdPreimage ctx.codec ctx.cfg a.release = burnIdPreimage ctx.codec ctx.cfg b.release := by
  obtain ⟨chainA, addressA⟩ := validateRgbSourceIdentity_ok a.identity
  obtain ⟨chainB, addressB⟩ := validateRgbSourceIdentity_ok b.identity
  simp only [burnIdPreimage, amount, opId, chainA, chainB, addressA, addressB]

theorem route_eq (dstEid : a.release.dstEid = b.release.dstEid) :
    a.destination.callData.take 4 = b.destination.callData.take 4 := by
  obtain ⟨_, _, _, decodedA⟩ := a.decoded
  obtain ⟨_, _, _, decodedB⟩ := b.decoded
  rw [(validateDestination_ok decodedA).1, (validateDestination_ok decodedB).1, dstEid]

end Two

end AcceptedRelease

/-- Two accepted releases of one burn have the same route and the same payout.
    Two accepted releases of different burns have different burn ids. -/
theorem burn_determines_release (ctx : ServerContext) (pinned : ctx.cfg.chainId ≠ 0)
    (token : ctx.cfg.tokenContract ≠ Word.zero 20) (a b : AcceptedRelease ctx)
    (determined : OpIdDetermines ctx.rgb a.outcome.transfer b.outcome.transfer)
    (collisionFree : Set.InjOn ctx.codec.keccak {input | input ∈ a.hashed ++ b.hashed}) :
    (a.validated.lastTransferOpId = b.validated.lastTransferOpId →
      a.destination.callData.take 4 = b.destination.callData.take 4 ∧
      a.release.burnId = b.release.burnId ∧
      a.release.amount = b.release.amount ∧
      a.release.recipient = b.release.recipient ∧
      a.release.dstEid = b.release.dstEid ∧
      a.release.destinationChainId = b.release.destinationChainId) ∧
    (a.validated.lastTransferOpId ≠ b.validated.lastTransferOpId →
      a.release.burnId ≠ b.release.burnId) := by
  rw [a.lastTransferOpId_eq, b.lastTransferOpId_eq, ne_eq, Option.some.injEq]
  constructor
  · intro opId
    obtain ⟨burn⟩ := a.exists_burn
    obtain ⟨burn'⟩ := b.exists_burn
    obtain ⟨burned, reason⟩ := burn.same_facts determined opId burn'
    have target : burn.target = burn'.target := by
      refine resolve_unique (collisionFree.mono ?_) burn.resolved (reason ▸ burn'.resolved)
      intro input member
      rcases List.mem_append.mp member with first | second
      · exact List.mem_append_left _ (List.mem_cons_of_mem _ first)
      · exact List.mem_append_right _ (List.mem_cons_of_mem _ second)
    have amount : a.release.amount = b.release.amount := by
      rw [burn.amount, burn'.amount, burned]
    have dstEid : a.release.dstEid = b.release.dstEid := by
      rw [← burn.pays.dstEid, ← burn'.pays.dstEid, target]
    refine ⟨AcceptedRelease.route_eq dstEid, ?_, amount, ?_, dstEid, ?_⟩
    · rw [a.burnId_eq token, b.burnId_eq token, AcceptedRelease.burnIdPreimage_eq amount opId]
    · rw [← burn.pays.recipient, ← burn'.pays.recipient, target]
    · rw [AcceptedRelease.chain_eq pinned burn.resolved burn.pays,
        AcceptedRelease.chain_eq pinned burn'.resolved burn'.pays, target]
  · intro different same
    rw [a.burnId_eq token, b.burnId_eq token] at same
    have preimage := collisionFree (List.mem_append_left _ List.mem_cons_self)
      (List.mem_append_right _ List.mem_cons_self) (u256OfBe_injective same)
    exact different (sourceBurnTxId_of_burnIdPreimage preimage)

/-- A request that comes to its end, in any run, is an accepted release. -/
theorem accepted_of_signRun {network : Network} {checkpoint : Checkpoint} {source : RgbSource}
    {destination : EvmDestination} {now : Readings} {turns : List (Option SubmitCall)}
    {response : EvmSignatureResponse}
    (ends : (signRun ctx network checkpoint source destination now turns).program
      = .done response) :
    ∃ a : AcceptedRelease ctx, a.destination = destination ∧
      a.merkleProofs = source.merkleProofs ∧ Consigned ctx source a.validated := by
  have yields := Worker.yields_of_run ends
  change (handleSign ctx source destination now).Yields response at yields
  rw [handleSign, yields_lift_bind] at yields
  obtain ⟨_, -, yields⟩ := yields
  rw [yields_bind] at yields
  obtain ⟨⟨sourceProof, validated, pins⟩, sourced, yields⟩ := yields
  rw [yields_lift_bind] at yields
  obtain ⟨⟨proof, params, release⟩, decoded, yields⟩ := yields
  rw [yields_lift_bind] at yields
  obtain ⟨_, -, yields⟩ := yields
  rw [yields_lift_bind] at yields
  obtain ⟨_, identity, yields⟩ := yields
  rw [yields_lift_bind] at yields
  obtain ⟨_, burnId, yields⟩ := yields
  rw [yields_bind] at yields
  obtain ⟨pins', bound, -⟩ := yields
  obtain ⟨consensus, proven, outcome, configured, accepted, summarized⟩ :=
    validateSource_yields sourced
  exact ⟨⟨outcome, validated, source.merkleProofs, destination, release, summarized,
    ⟨_, proof, params, decoded⟩, identity, burnId, pins, pins', bound⟩, rfl, rfl,
    consensus, proven, configured, bind_ok.mpr ⟨outcome, accepted, summarized⟩⟩

section Samples

def sampleChain : HeaderChain :=
  (HeaderChain.new .regtest burnCheckpoint).run sampleCrate
    [⟨6, [sampleBlock.serialize, sampleNext.serialize], 1700002000⟩]

def sampleValidated : ValidatedConsignment where
  contractId := sampleConfig.rgbAssetId
  chainNet := "bcrt"
  witnessTxids := [sampleBurnTxid.reverse]
  lastTransition := some ⟨hexEncode sampleOpId.val, 8010, some 1000, some sampleReason⟩
  lastWitnessTxid := some sampleBurnTxid
  lastTransferOpId := some sampleOpId
  nonMinedWitnessTxids := []
  mintLocks := [sampleLock]

def sampleAccepted (latest : Nat)
    (decoded : validateDestination sampleContext.codec sampleConfig (sampleDestination latest)
      (some 1700002000) = .ok (⟨1000, none⟩, none, .fromLzFundsOut (sampleCall latest)))
    (burnId : validateBurnId sampleContext.codec sampleConfig
      (.fromLzFundsOut (sampleCall latest)) = .ok ())
    (agrees : ∃ pins, verifyBtcRelayAgreement sampleCrate sampleContext.codec
      (.fromLzFundsOut (sampleCall latest)) sampleValidated sampleSource.merkleProofs sampleChain []
      .none 2 = .ok pins)
    (binds : bindRelease sampleContext (.fromLzFundsOut (sampleCall latest)) sampleValidated
      (some sampleRecord) = .ok ()) : AcceptedRelease sampleContext where
  outcome := sampleOutcome
  validated := sampleValidated
  merkleProofs := sampleSource.merkleProofs
  destination := sampleDestination latest
  release := .fromLzFundsOut (sampleCall latest)
  summarized := by decide +kernel
  decoded := ⟨_, _, _, decoded⟩
  identity := by exact rfl
  burnId := burnId
  bound := by
    obtain ⟨pins, agrees⟩ := agrees
    exact ⟨[], pins, applyFundsOutBinding_yields.mpr ⟨rfl, ⟨sampleChain, agrees⟩, binds⟩⟩

def sampleAtBurn : AcceptedRelease sampleContext :=
  sampleAccepted 6 (by decide +kernel) (by decide +kernel)
    ⟨[(6, ⟨sampleBlockHash, 2⟩)], by decide +kernel⟩ (by decide +kernel)

def sampleAtNext : AcceptedRelease sampleContext :=
  sampleAccepted 7 (by decide +kernel) (by decide +kernel)
    ⟨[(6, ⟨sampleBlockHash, 2⟩), (7, ⟨sampleNext.blockHash sampleCrate, 1⟩)], by decide +kernel⟩
    (by decide +kernel)

/-- Two releases of the sample burn with different calldata. -/
theorem burn_determines_release_proofs :
    sampleAtBurn.destination.callData ≠ sampleAtNext.destination.callData ∧
      sampleAtBurn.release.burnId = sampleAtNext.release.burnId ∧
      sampleAtBurn.release.recipient = sampleAtNext.release.recipient := by
  have determined : OpIdDetermines sampleRgbStd sampleOutcome.transfer sampleOutcome.transfer := by
    intro known₁ inside₁ known₂ inside₂ _ _ _
    rw [List.mem_singleton.mp inside₁, List.mem_singleton.mp inside₂]
  have hashed : sampleAtNext.hashed = sampleAtBurn.hashed := by decide +kernel
  have apart : ∀ x ∈ sampleAtBurn.hashed, ∀ y ∈ sampleAtBurn.hashed,
      sampleContext.codec.keccak x = sampleContext.codec.keccak y → x = y := by decide +kernel
  have collisionFree : Set.InjOn sampleContext.codec.keccak
      {input | input ∈ sampleAtBurn.hashed ++ sampleAtNext.hashed} := by
    simp only [hashed, List.mem_append, or_self]
    exact fun x hx y hy => apart x hx y hy
  have opId : sampleAtBurn.validated.lastTransferOpId = some sampleOpId := rfl
  have opId' : sampleAtNext.validated.lastTransferOpId = some sampleOpId := rfl
  have payout := (burn_determines_release sampleContext (by decide) (by decide) sampleAtBurn
    sampleAtNext determined collisionFree).1 (opId.trans opId'.symm)
  exact ⟨by decide +kernel, payout.2.1, payout.2.2.2.1⟩

end Samples

end EnclaveSigner.Server
