import EnclaveSigner.Rgb.MintRoute

/-! # Requests of the mint signer

The mint signer signs mints and rights refills. Both go the same way from the
request to a transition: the fascia of the request commits one transition of the
pinned contract in the transaction, the transition closes one right, and the
parent's fascia names the output of that right. A reading of a request holds what
its checks saw on this way.
-/

namespace EnclaveSigner.Rgb

open Lib Bitcoin Proto

/-- The fascia commits one transition of the contract in `tx`. -/
structure CommitsOne (btc : Crate) (rgb : RgbStd) (tx : Transaction) (fascia : Fascia)
    (pin : ContractId) (committed : Committed) (bundle : TransitionBundle) (entropy : UInt64)
    (commitment : Word 32) : Prop where
  txid : committed.txid = tx.txid btc
  bundles : fascia.bundles = [(pin, bundle)]
  mpcEntropy : fascia.mpcEntropy = some entropy
  mpcCommit : rgb.mpcCommit [(pin, rgb.bundleId bundle)] entropy = .ok commitment
  opretVerify : rgb.opretVerify commitment tx = .ok ()
  known : bundle.knownTransitions = [⟨committed.opid, committed.transition⟩]
  opid : committed.opid = rgb.transitionId committed.transition
  closes : ∀ input, input ∈ bundle.inputMap.map Prod.fst ↔ input ∈ committed.transition.inputs
  named : ∀ entry ∈ bundle.inputMap, entry.2 = committed.opid

section

variable {btc : Crate} {rgb : RgbStd}

theorem assertInputMapIs_ok {bundle : TransitionBundle} {transition : Transition} {id : OpId}
    {u : Unit} (passes : assertInputMapIs rgb bundle transition id = .ok u) :
    (∀ input, input ∈ bundle.inputMap.map Prod.fst ↔ input ∈ transition.inputs) ∧
      ∀ entry ∈ bundle.inputMap, entry.2 = id := by
  rw [assertInputMapIs, bind_ok] at passes
  obtain ⟨_, same, passes⟩ := passes
  rw [refuse_ok, not_not] at same
  constructor
  · intro input
    have left := @same.1 input
    have right := @same.2 input
    rw [List.mem_eraseDups, List.mem_eraseDups] at left right
    exact ⟨left, right⟩
  · intro entry member
    split at passes
    · cases passes
    · rename_i none_other
      have own := List.find?_eq_none.mp none_other entry.2 (List.mem_map_of_mem member)
      simpa using own

theorem committedTransition_spec {tx : Transaction} {fascia : Fascia} {pin : ContractId}
    {committed : Committed}
    (passes : committedTransition btc rgb tx fascia pin = .ok committed) :
    ∃ bundle entropy commitment,
      CommitsOne btc rgb tx fascia pin committed bundle entropy commitment := by
  simp only [committedTransition, bind_ok] at passes
  obtain ⟨_, -, _, -, bundle, pinned, _, exactly, ⟨opid, transition⟩, disclosed, same⟩ := passes
  cases same
  have one : fascia.bundles = [(pin, bundle)] := by
    unfold pinnedBundle at pinned
    split at pinned
    · rename_i listed
      simp only [bind_ok, refuse_ok, not_not] at pinned
      obtain ⟨_, rfl, same⟩ := pinned
      cases same
      exact listed
    · cases pinned
  simp only [assertCommitsExactly, bind_ok, okOr_ok, mapError_ok] at exactly
  obtain ⟨entropy, carried, _, -, commitment, commits, verified⟩ := exactly
  rw [one] at commits
  unfold disclosedTransition at disclosed
  split at disclosed
  · rename_i known listed
    simp only [bind_ok, refuse_ok, not_not] at disclosed
    obtain ⟨_, own, _, -, _, inputs, same⟩ := disclosed
    cases same
    obtain ⟨closes, named⟩ := assertInputMapIs_ok inputs
    refine ⟨bundle, entropy, commitment, rfl, one, carried, commits, verified, ?_, rfl, closes, named⟩
    rw [listed, own]
  · cases disclosed

theorem singleRightInput_ok {transition : Transition} {what : String} {input : Opout} :
    singleRightInput rgb transition what = .ok input ↔
      transition.inputs = [input] ∧ input.ty = rgb.schemata.osMint := by
  unfold singleRightInput
  split
  · rename_i only listed
    rw [listed, bind_ok]
    constructor
    · rintro ⟨_, typed, same⟩
      cases same
      exact ⟨rfl, by simpa using typed⟩
    · rintro ⟨same, typed⟩
      cases same
      exact ⟨(), refuse_ok.mpr (not_not.mpr typed), rfl⟩
  · rename_i other
    constructor
    · intro ok
      cases ok
    · rintro ⟨same, -⟩
      exact absurd same (other input)

theorem mintFacts_spec {committed : Committed} {mint : MintFacts}
    (passes : mintFacts rgb committed = .ok mint) :
    committed.transition.inputs = [mint.right] ∧
      committed.transition.assignments.lookup rgb.schemata.osMint = none ∧
      mintGlobals rgb committed.transition = .ok (mint.issued, mint.beforeBlock) := by
  simp only [mintFacts, bind_ok] at passes
  obtain ⟨_, -, right, single, _, assets, ⟨issued, before⟩, globals, ⟨units, recipient⟩, -, _, -,
    same⟩ := passes
  cases same
  simp only [assertAssetAssignmentsOnly, bind_ok, refuse_ok] at assets
  obtain ⟨_, none_passed, -⟩ := assets
  exact ⟨(singleRightInput_ok.mp single).1, Option.not_isSome_iff_eq_none.mp none_passed, globals⟩

theorem refillRights_spec {committed : Committed} {right : Opout} {vouts : List UInt32}
    (passes : refillRights rgb committed = .ok (right, vouts)) :
    committed.transition.inputs = [right] ∧ right.ty = rgb.schemata.osMint ∧
      ∃ seals, committed.transition.assignments = [(rgb.schemata.osMint, .declarative seals)] ∧
        assertRefillRights (seals.map (outputSeal rgb)) = .ok vouts := by
  simp only [refillRights, bind_ok] at passes
  obtain ⟨_, -, right, single, _, rightsOnly, vouts, rights, same⟩ := passes
  cases same
  obtain ⟨inputs, typed⟩ := singleRightInput_ok.mp single
  simp only [assertRightsOnly, bind_ok, refuse_ok, not_or, not_not] at rightsOnly
  obtain ⟨_, ⟨types, -⟩, stateless⟩ := rightsOnly
  refine ⟨inputs, typed, ?_⟩
  obtain ⟨⟨ty, assigned⟩, listed, rfl⟩ := List.map_eq_singleton_iff.mp types
  rw [listed, List.lookup_cons_self] at stateless rights
  cases assigned with
  | declarative seals => exact ⟨seals, listed, rights⟩
  | fungible | structured => cases stateless

end

/-- A request as its validation takes it. The caller has parsed the PSBT of a refill. -/
inductive SigningRequest where
  | mint (destination : RgbDestination) (sourceAmount sourceCommission : UInt64)
      (ctx : MintValidationContext)
  | refill (req : SignRightsRefillRequest) (psbt : Psbt) (cfg : BridgeConfig)

/-- What a request signs: a mint, or a refill that closes a right and makes rights on
    outputs. -/
inductive Signing where
  | mint (facts : MintFacts)
  | refill (right : Opout) (vouts : List UInt32)

/-- The right that is closed. -/
def Signing.right : Signing → Opout
  | mint facts => facts.right
  | refill right _ => right

namespace SigningRequest

variable (btc : PsbtCrate) (rgb : RgbStd)

def accepted : SigningRequest → Prop
  | mint destination sourceAmount sourceCommission ctx =>
      ∃ units, validateDestinationAnchor btc rgb destination sourceAmount sourceCommission ctx =
        .ok units
  | refill req psbt cfg => ∃ vouts, validateRightsRefill btc rgb req psbt cfg = .ok vouts

def psbt : SigningRequest → Result Psbt
  | mint destination _ _ _ => parsePsbtShape btc destination.psbtBytes
  | refill _ psbt _ => .ok psbt

def bridgeConfig : SigningRequest → BridgeConfig
  | mint _ _ _ ctx => ctx.bridgeConfig
  | refill _ _ cfg => cfg

def fascia : SigningRequest → Bytes
  | mint destination _ _ _ => destination.fascia
  | refill req _ _ => req.fascia

def parentFascia : SigningRequest → Bytes
  | mint destination _ _ _ => destination.parentFascia
  | refill req _ _ => req.parentFascia

/-- The facts that the request reads from a committed transition. -/
def signing (committed : Committed) : SigningRequest → Result Signing
  | mint _ _ _ _ => (mintFacts rgb committed).map .mint
  | refill _ _ _ => (refillRights rgb committed).map fun (right, vouts) => .refill right vouts

end SigningRequest

/-- What the checks of an accepted request saw. -/
structure Reading (btc : PsbtCrate) (rgb : RgbStd) (pin : ContractId)
    (request : SigningRequest) where
  psbt : Psbt
  fascia : Fascia
  committed : Committed
  signing : Signing
  /-- The fascia of the transaction that made the right, and what it commits. -/
  parent : Fascia
  made : Committed
  vout : UInt32
  accepted : request.accepted btc rgb
  psbt_eq : request.psbt btc = .ok psbt
  pinned : pinnedContract rgb request.bridgeConfig = .ok pin
  parsed : parseFascia rgb request.fascia "fascia" = .ok fascia
  commits : committedTransition btc.toCrate rgb psbt.unsignedTx fascia pin = .ok committed
  signs : request.signing rgb committed = .ok signing
  parentParsed : parseFascia rgb request.parentFascia "parent_fascia" = .ok parent
  parentCommits : committedTransition btc.toCrate rgb parent.tx parent pin = .ok made
  makes : rightVout rgb made signing.right = .ok vout
  spends : ∃ i, spendingInput psbt ⟨made.txid, vout⟩ = .ok i

section

variable {btc : PsbtCrate} {rgb : RgbStd}

theorem pinnedCommitment_ok {psbt : Psbt} {fasciaBytes : Bytes} {assetId : String}
    {cfg : BridgeConfig} {pin : ContractId} {committed : Committed}
    (passes : pinnedCommitment btc rgb psbt fasciaBytes assetId cfg = .ok (pin, committed)) :
    pinnedContract rgb cfg = .ok pin ∧ ∃ fascia, parseFascia rgb fasciaBytes "fascia" = .ok fascia ∧
      committedTransition btc.toCrate rgb psbt.unsignedTx fascia pin = .ok committed := by
  simp only [pinnedCommitment, bind_ok] at passes
  obtain ⟨pin, pinned, fascia, parsed, committed, commits, _, -, same⟩ := passes
  cases same
  exact ⟨pinned, fascia, parsed, commits⟩

theorem rightInput_ok {psbt : Psbt} {parentFascia : Bytes} {input : Opout} {pin : ContractId}
    {i : Nat} (passes : rightInput btc.toCrate rgb psbt parentFascia input pin = .ok i) :
    ∃ parent made vout, parseFascia rgb parentFascia "parent_fascia" = .ok parent ∧
      committedTransition btc.toCrate rgb parent.tx parent pin = .ok made ∧
      rightVout rgb made input = .ok vout ∧ spendingInput psbt ⟨made.txid, vout⟩ = .ok i := by
  simp only [rightInput, bind_ok] at passes
  obtain ⟨parent, parsed, made, commits, vout, makes, spends⟩ := passes
  exact ⟨parent, made, vout, parsed, commits, makes, spends⟩

theorem SigningRequest.accepted.reading {request : SigningRequest}
    (accepted : request.accepted btc rgb) : ∃ pin, Nonempty (Reading btc rgb pin request) := by
  cases request with
  | mint destination sourceAmount sourceCommission ctx =>
      obtain ⟨units, validated⟩ := id accepted
      simp only [validateDestinationAnchor, bind_ok] at validated
      obtain ⟨psbt, shape, _, -, _, -, ⟨pin, committed⟩, commitment, mint, facts, _, -, _, -, _,
        right, -⟩ := validated
      obtain ⟨pinned, fascia, parsed, commits⟩ := pinnedCommitment_ok commitment
      obtain ⟨parent, made, vout, parentParsed, parentCommits, makes, spends⟩ := rightInput_ok right
      exact ⟨pin, ⟨{
        psbt, fascia, committed, parent, made, vout, accepted, pinned, parsed, commits, parentParsed,
        parentCommits, makes
        signing := .mint mint
        psbt_eq := shape
        signs := by rw [signing, facts]; rfl
        spends := ⟨_, spends⟩ }⟩⟩
  | refill req psbt cfg =>
      obtain ⟨vouts, validated⟩ := id accepted
      simp only [validateRightsRefill, bind_ok] at validated
      obtain ⟨_, -, ⟨pin, committed⟩, commitment, ⟨right, vouts⟩, rights, _, input, -⟩ := validated
      obtain ⟨pinned, fascia, parsed, commits⟩ := pinnedCommitment_ok commitment
      obtain ⟨parent, made, vout, parentParsed, parentCommits, makes, spends⟩ := rightInput_ok input
      exact ⟨pin, ⟨{
        psbt, fascia, committed, parent, made, vout, accepted, pinned, parsed, commits, parentParsed,
        parentCommits, makes
        signing := .refill right vouts
        psbt_eq := rfl
        signs := by rw [signing, rights]; rfl
        spends := ⟨_, spends⟩ }⟩⟩

end

end EnclaveSigner.Rgb
