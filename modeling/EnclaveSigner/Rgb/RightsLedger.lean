import EnclaveSigner.Lib.OnePerKey
import EnclaveSigner.Rgb.CommitmentBinding

/-! # Conservation of mint rights

A ledger holds the rights on the UTXOs of the enclave. No check of the enclave
counts rights. A mint spends its right alone, so it takes one. A refill spends at
most two UTXOs and makes at least two rights, each on its own derived output.
-/

namespace EnclaveSigner.Rgb

open Lib Bitcoin Proto

/-- The mint rights, each on a UTXO of the enclave. -/
abbrev RightsLedger := Finset (OutPoint × Opout)

def madeRights (rgb : RgbStd) (committed : Committed) : List (OutPoint × Opout) :=
  match committed.transition.assignments.lookup rgb.schemata.osMint with
  | none => []
  | some typed => typed.seals.zipIdx.filterMap fun (held, no) =>
      (graphSealOutpoint committed.txid held).map fun outpoint =>
        (outpoint, ⟨committed.opid, rgb.schemata.osMint, UInt16.ofNat no⟩)

instance (tx : Transaction) : DecidablePred (Spends tx) := fun _ =>
  inferInstanceAs (Decidable (∃ _ ∈ _, _))

/-- A transaction takes every right on what it spends, closed by its transition or
    not, and adds those that its transition makes. -/
def RightsLedger.confirm (rgb : RgbStd) (ledger : RightsLedger) (tx : Transaction)
    (committed : Committed) : RightsLedger :=
  exchange ledger (Spends tx) (madeRights rgb committed).toFinset

/-- The checks on the keys that a refill passes beside its validation. A mint has its own
    among the checks of its context. -/
def SigningRequest.keyChecks (btc : PsbtCrate) (rgb : RgbStd) (keys : BtcAccounts) :
    SigningRequest → Prop
  | mint _ _ _ _ => True
  | refill req psbt cfg => refillGate btc keys psbt = .ok () ∧
      ∃ vouts, validateRightsRefill btc rgb req psbt cfg = .ok vouts ∧
        assertRefillRightsOwned btc keys psbt vouts = .ok ()

/-- A transaction of a request that the mint signer accepts. -/
structure AcceptedTransaction (btc : PsbtCrate) (rgb : RgbStd) (keys : BtcAccounts) where
  request : SigningRequest
  pin : ContractId
  reading : Reading btc rgb pin request
  keyChecks : request.keyChecks btc rgb keys

section

variable {btc : PsbtCrate} {rgb : RgbStd} {keys : BtcAccounts}

namespace AcceptedTransaction

variable (accepted : AcceptedTransaction btc rgb keys)

def tx : Transaction := accepted.reading.psbt.unsignedTx

/-- The UTXO of the closed right, as the parent's fascia proves it. -/
def rightOutpoint : OutPoint := ⟨accepted.reading.made.txid, accepted.reading.vout⟩

/-- It mints. A refill does not. -/
def isMint : Bool :=
  match accepted.request with
  | .mint _ _ _ _ => true
  | .refill _ _ _ => false

/-- The rights that its transition makes. -/
def created : List (OutPoint × Opout) := madeRights rgb accepted.reading.committed

end AcceptedTransaction

/-- The transaction can be the next one that confirms. The ledger has the closed right
    where its parent put it, and the outputs of the transaction are new. -/
structure RightsLedger.CanConfirm (ledger : RightsLedger)
    (accepted : AcceptedTransaction btc rgb keys) : Prop where
  real : (accepted.rightOutpoint, accepted.reading.signing.right) ∈ ledger
  fresh : ∀ held ∈ ledger, held.1.txid ≠ accepted.reading.committed.txid

/-- The transactions confirm one after another. -/
inductive Confirms (start : RightsLedger) :
    List (AcceptedTransaction btc rgb keys) → RightsLedger → Prop where
  | nil : Confirms start [] start
  | snoc {before : List (AcceptedTransaction btc rgb keys)} {ledger : RightsLedger}
      {accepted : AcceptedTransaction btc rgb keys} (earlier : Confirms start before ledger)
      (can : ledger.CanConfirm accepted) :
      Confirms start (before ++ [accepted])
        (ledger.confirm rgb accepted.tx accepted.reading.committed)

theorem collectVouts_ok {seals : List OutputSeal} {before vouts : List UInt32}
    (distinct : before.Nodup) (passes : collectVouts before seals = .ok vouts) :
    ∃ found, seals = found.map (.revealed none) ∧ vouts.Perm (before ++ found) ∧
      vouts.Nodup := by
  induction seals generalizing before with
  | nil =>
      cases passes
      exact ⟨[], rfl, by rw [List.append_nil], distinct⟩
  | cons held rest ih =>
      simp only [collectVouts, bind_ok, refuse_ok] at passes
      obtain ⟨vout, witness, _, new, passes⟩ := passes
      have inserted := List.perm_orderedInsert (· ≤ ·) vout before
      obtain ⟨found, rfl, same, once⟩ :=
        ih (inserted.nodup_iff.mpr (List.nodup_cons.mpr ⟨new, distinct⟩)) passes
      obtain rfl : held = .revealed none vout := by
        cases held with
        | confidential text => cases witness
        | revealed txid at_vout =>
            cases txid with
            | some txid => cases witness
            | none => cases witness; rfl
      refine ⟨vout :: found, rfl, same.trans ?_, once⟩
      exact (inserted.append_right found).trans List.perm_middle.symm

theorem graphSealOutpoint_of_witness {held : BuilderSeal} {vout : UInt32} (txid : Txid)
    (own : outputSeal rgb held = .revealed none vout) :
    graphSealOutpoint txid held = some ⟨txid, vout⟩ := by
  cases held with
  | concealed secret => cases own
  | revealed graph =>
      obtain ⟨other, at_vout, blinding⟩ := graph
      cases other with
      | some other => cases own
      | none => cases own; rfl

theorem filterMap_graphSealOutpoint {seals : List BuilderSeal} {found : List UInt32} (txid : Txid)
    (own : seals.map (outputSeal rgb) = found.map (.revealed none)) :
    seals.filterMap (graphSealOutpoint txid) = found.map (⟨txid, ·⟩) := by
  induction seals generalizing found with
  | nil =>
      obtain rfl := List.map_eq_nil_iff.mp own.symm
      rfl
  | cons held rest ih =>
      obtain ⟨vout, found, rfl, first, others⟩ := List.map_eq_cons_iff.mp own.symm
      rw [List.filterMap_cons_some (graphSealOutpoint_of_witness txid first.symm),
        ih others.symm, List.map_cons]

theorem madeRights_outpoints {committed : Committed} {typed : TypedAssigns}
    (listed : committed.transition.assignments.lookup rgb.schemata.osMint = some typed) :
    (madeRights rgb committed).map Prod.fst =
      typed.seals.filterMap (graphSealOutpoint committed.txid) := by
  have outpoints : typed.seals.filterMap (graphSealOutpoint committed.txid) =
      typed.seals.zipIdx.filterMap (graphSealOutpoint committed.txid ∘ Prod.fst) := by
    rw [← List.filterMap_map, List.zipIdx_map_fst]
  rw [madeRights, listed, outpoints, List.map_filterMap]
  congr 1
  funext ⟨held, no⟩
  rw [Option.map_map]
  exact Option.map_id'

theorem refillRights_made {committed : Committed} {right : Opout} {vouts : List UInt32}
    (passes : refillRights rgb committed = .ok (right, vouts)) :
    MIN_REFILL_RIGHTS ≤ vouts.length ∧ vouts.Nodup ∧
      ((madeRights rgb committed).map Prod.fst).Perm (vouts.map (⟨committed.txid, ·⟩)) := by
  obtain ⟨-, -, seals, only, rights⟩ := refillRights_spec passes
  simp only [assertRefillRights, bind_ok, refuse_ok, not_or, not_lt] at rights
  obtain ⟨_, ⟨enough, -⟩, collected⟩ := rights
  obtain ⟨found, own, same, once⟩ := collectVouts_ok List.nodup_nil collected
  have lengths := congrArg List.length own
  rw [List.length_map, List.length_map] at lengths
  refine ⟨?_, once, ?_⟩
  · rw [same.length_eq, List.nil_append, ← lengths, ← seals.length_map]
    exact enough
  · rw [madeRights_outpoints (by rw [only, List.lookup_cons_self]),
      TypedAssigns.seals, filterMap_graphSealOutpoint _ own]
    exact (same.map _).symm

theorem Reading.refillRights_eq {pin : ContractId} {req : SignRightsRefillRequest} {psbt : Psbt}
    {cfg : BridgeConfig} (reading : Reading btc rgb pin (.refill req psbt cfg))
    {vouts : List UInt32} (validated : validateRightsRefill btc rgb req psbt cfg = .ok vouts) :
    ∃ right, refillRights rgb reading.committed = .ok (right, vouts) := by
  simp only [validateRightsRefill, bind_ok] at validated
  obtain ⟨_, -, ⟨pin', committed⟩, commitment, ⟨right, vouts⟩, rights, _, -, same⟩ := validated
  cases same
  obtain ⟨pinned, fascia, parsed, commits⟩ := pinnedCommitment_ok commitment
  obtain rfl : pin' = pin := Except.ok.inj (pinned.symm.trans reading.pinned)
  obtain rfl : fascia = reading.fascia := Except.ok.inj (parsed.symm.trans reading.parsed)
  have read : psbt = reading.psbt := Except.ok.inj reading.psbt_eq
  obtain rfl : committed = reading.committed := by
    have commits' := reading.commits
    rw [← read, commits] at commits'
    exact Except.ok.inj commits'
  exact ⟨right, rights⟩

theorem Reading.mint_inputs {pin : ContractId} {destination : RgbDestination}
    {amount commission : UInt64} {ctx : MintValidationContext}
    (reading : Reading btc rgb pin (.mint destination amount commission ctx)) :
    reading.psbt.unsignedTx.input.val.length = MINT_INPUTS := by
  obtain ⟨units, validated⟩ := reading.accepted
  simp only [validateDestinationAnchor, bind_ok] at validated
  obtain ⟨psbt, shape, _, -, _, -, _, -, _, -, _, -, _, inputs, -⟩ := validated
  obtain rfl : psbt = reading.psbt := Except.ok.inj (shape.symm.trans reading.psbt_eq)
  simp only [mintInputs, bind_ok, refuse_ok, not_not] at inputs
  exact inputs.choose_spec.1

theorem Reading.mint_made {pin : ContractId} {destination : RgbDestination}
    {amount commission : UInt64} {ctx : MintValidationContext}
    (reading : Reading btc rgb pin (.mint destination amount commission ctx)) :
    madeRights rgb reading.committed = [] := by
  obtain ⟨facts, read, -⟩ := map_ok.mp reading.signs
  rw [madeRights, (mintFacts_spec read).2.1]

/-- The output exists, and pays a wallet key of the coloured account. -/
def PaysColored (btc : PsbtCrate) (keys : BtcAccounts) (tx : Transaction) (vout : UInt32) : Prop :=
  ∃ txout childPath childSecret,
    tx.output.val[vout.toNat]? = some txout ∧ isWalletChildPath .colored childPath = true ∧
      keys.deriveBtcChild btc .colored childPath = .ok childSecret ∧
      txout.scriptPubkey = newP2trTweaked (btc.tapTweak (btc.xOnlyOfSecret childSecret) none)

theorem assertRefillRightsOwned_ok {psbt : Psbt} {vouts : List UInt32}
    (passes : assertRefillRightsOwned btc keys psbt vouts = .ok ()) :
    ∀ vout ∈ vouts, PaysColored btc keys psbt.unsignedTx vout := by
  intro vout listed
  have owned := refuse_ok.mp (forM_ok.mp passes vout listed)
  obtain ⟨output, txout, internalKey, origin, account, childPath, childSecret, derives⟩ :=
    outputIsSelfDerived_iff.mp (Bool.eq_true_of_not_eq_false owned)
  obtain rfl : account = .colored := by simpa using derives.allowed
  exact ⟨txout, childPath, childSecret, derives.present, derives.walletPath, derives.derived,
    derives.key ▸ derives.script⟩

namespace AcceptedTransaction

variable (accepted : AcceptedTransaction btc rgb keys)

theorem created_outpoints : ∃ vouts : List UInt32, vouts.Nodup ∧
    (accepted.created.map Prod.fst).Perm
      (vouts.map (⟨accepted.reading.committed.txid, ·⟩)) ∧
    (accepted.isMint = true → vouts = []) ∧
    (accepted.isMint = false → MIN_REFILL_RIGHTS ≤ vouts.length ∧
      ∀ vout ∈ vouts, PaysColored btc keys accepted.tx vout) := by
  obtain ⟨request, pin, reading, keyChecks⟩ := accepted
  cases request with
  | mint =>
      refine ⟨[], List.nodup_nil, ?_, fun _ => rfl, nofun⟩
      rw [created, reading.mint_made, List.map_nil, List.map_nil]
  | refill req psbt cfg =>
      obtain ⟨-, vouts, validated, owned⟩ := keyChecks
      obtain ⟨right, rights⟩ := reading.refillRights_eq validated
      obtain ⟨enough, once, outpoints⟩ := refillRights_made rights
      refine ⟨vouts, once, outpoints, nofun, fun _ => ⟨enough, ?_⟩⟩
      have read : psbt = reading.psbt := Except.ok.inj reading.psbt_eq
      rw [tx, ← read]
      exact assertRefillRightsOwned_ok owned

theorem created_txid {new : OutPoint × Opout} (listed : new ∈ accepted.created) :
    new.1.txid = accepted.reading.committed.txid := by
  obtain ⟨vouts, -, outpoints, -⟩ := accepted.created_outpoints
  obtain ⟨vout, -, same⟩ := List.mem_map.mp (outpoints.mem_iff.mp (List.mem_map_of_mem listed))
  rw [← same]

theorem created_nodup : (accepted.created.map Prod.fst).Nodup := by
  obtain ⟨vouts, once, outpoints, -⟩ := accepted.created_outpoints
  rw [outpoints.nodup_iff]
  exact once.map fun a b same => (OutPoint.mk.inj same).2

theorem created_onePerKey : OnePerKey accepted.created.toFinset := by
  intro a memberA b memberB same
  rw [List.coe_toFinset] at memberA memberB
  exact List.inj_on_of_nodup_map accepted.created_nodup memberA memberB same

theorem created_card : accepted.created.toFinset.card = accepted.created.length :=
  List.toFinset_card_of_nodup (.of_map _ accepted.created_nodup)

theorem spends_right : Spends accepted.tx accepted.rightOutpoint :=
  spendingInput_ok accepted.reading.spends.choose_spec

theorem mint_inputs (mint : accepted.isMint = true) : accepted.tx.input.val.length = 1 := by
  obtain ⟨request, pin, reading, keyChecks⟩ := accepted
  cases request with
  | mint => exact reading.mint_inputs
  | refill => cases mint

theorem refill_inputs (refill : accepted.isMint = false) : accepted.tx.input.val.length ≤ 2 := by
  obtain ⟨request, pin, reading, keyChecks⟩ := accepted
  cases request with
  | mint => cases refill
  | refill req psbt cfg =>
      obtain ⟨gate, -⟩ := keyChecks
      simp only [refillGate, bind_ok, assertRefillInputCount, refuse_ok, not_lt] at gate
      have read : psbt = reading.psbt := Except.ok.inj reading.psbt_eq
      rw [tx, ← read]
      exact gate.choose_spec.1

end AcceptedTransaction

namespace RightsLedger

variable {ledger : RightsLedger} {accepted : AcceptedTransaction btc rgb keys}

theorem CanConfirm.created_apart (can : ledger.CanConfirm accepted) :
    ∀ old ∈ ledger, ∀ new ∈ accepted.created.toFinset, old.1 ≠ new.1 := by
  intro old held new listed same
  apply can.fresh old held
  rw [same]
  exact accepted.created_txid (List.mem_toFinset.mp listed)

theorem confirm_onePerKey (one : OnePerKey ledger) (can : ledger.CanConfirm accepted) :
    OnePerKey (ledger.confirm rgb accepted.tx accepted.reading.committed) :=
  one.exchange accepted.created_onePerKey can.created_apart

theorem card_confirm (can : ledger.CanConfirm accepted) :
    (ledger.confirm rgb accepted.tx accepted.reading.committed).card +
        (ledger.filter fun held => Spends accepted.tx held.1).card =
      ledger.card + accepted.created.length := by
  rw [← accepted.created_card]
  exact card_exchange can.created_apart

theorem card_spent_le (one : OnePerKey ledger) (tx : Transaction) :
    (ledger.filter fun held => Spends tx held.1).card ≤ tx.input.val.length := by
  rw [← tx.input.val.length_map (f := previousOutput)]
  exact one.card_gone_le fun outpoint => List.mem_map.mpr

theorem card_mint (one : OnePerKey ledger) (can : ledger.CanConfirm accepted)
    (mint : accepted.isMint = true) :
    (ledger.confirm rgb accepted.tx accepted.reading.committed).card + 1 = ledger.card := by
  have spent := card_spent_le one accepted.tx
  have closed : 0 < (ledger.filter fun held => Spends accepted.tx held.1).card :=
    Finset.card_pos.mpr ⟨_, Finset.mem_filter.mpr ⟨can.real, accepted.spends_right⟩⟩
  have change := card_confirm can
  obtain ⟨vouts, -, outpoints, none_made, -⟩ := accepted.created_outpoints
  have made := outpoints.length_eq
  rw [none_made mint, List.length_map, List.map_nil, List.length_nil] at made
  rw [accepted.mint_inputs mint] at spent
  omega

theorem card_refill (one : OnePerKey ledger) (can : ledger.CanConfirm accepted)
    (refill : accepted.isMint = false) :
    ledger.card ≤ (ledger.confirm rgb accepted.tx accepted.reading.committed).card := by
  have spent := card_spent_le one accepted.tx
  have inputs := accepted.refill_inputs refill
  have change := card_confirm can
  obtain ⟨vouts, -, outpoints, -, made_some⟩ := accepted.created_outpoints
  have made := outpoints.length_eq
  rw [List.length_map, List.length_map] at made
  have enough : 2 ≤ vouts.length := (made_some refill).1
  omega

end RightsLedger

theorem Confirms.keeps {start ledger : RightsLedger}
    {txs : List (AcceptedTransaction btc rgb keys)} (one : OnePerKey start)
    (run : Confirms start txs ledger) :
    OnePerKey ledger ∧ start.card ≤ ledger.card + txs.countP (·.isMint) := by
  induction run with
  | nil => exact ⟨one, Nat.le_add_right _ _⟩
  | @snoc before ledger accepted earlier can ih =>
      obtain ⟨oneBefore, kept⟩ := ih
      refine ⟨RightsLedger.confirm_onePerKey oneBefore can, ?_⟩
      rw [List.countP_append, List.countP_singleton]
      cases kind : accepted.isMint with
      | true =>
          have change := RightsLedger.card_mint oneBefore can kind
          rw [if_pos rfl]
          omega
      | false =>
          have change := RightsLedger.card_refill oneBefore can kind
          rw [if_neg Bool.false_ne_true]
          omega

/-- Along every run of accepted transactions each UTXO holds at most one right. The next
    mint takes exactly one right away. The next refill lowers the number of rights by
    none, even where both UTXOs it spends held one, and puts each right it makes on its
    own output that pays the coloured account of the enclave. -/
theorem rights_are_conserved (btc : PsbtCrate) (rgb : RgbStd) (keys : BtcAccounts)
    (start ledger : RightsLedger) (txs : List (AcceptedTransaction btc rgb keys))
    (one : OnePerKey start) (run : Confirms start txs ledger) :
    OnePerKey ledger ∧ start.card ≤ ledger.card + txs.countP (·.isMint) ∧
      ∀ next : AcceptedTransaction btc rgb keys, ledger.CanConfirm next →
        let after := ledger.confirm rgb next.tx next.reading.committed
        OnePerKey after ∧
        (next.isMint = true → after.card + 1 = ledger.card) ∧
        (next.isMint = false → ledger.card ≤ after.card ∧
          ∃ vouts : List UInt32, vouts.Nodup ∧ MIN_REFILL_RIGHTS ≤ vouts.length ∧
            (next.created.map Prod.fst).Perm (vouts.map (⟨next.reading.committed.txid, ·⟩)) ∧
            (∀ right ∈ next.created, right ∈ after) ∧
            ∀ vout ∈ vouts, PaysColored btc keys next.tx vout) := by
  obtain ⟨oneNow, kept⟩ := run.keeps one
  refine ⟨oneNow, kept, ?_⟩
  intro next can after
  refine ⟨RightsLedger.confirm_onePerKey oneNow can, RightsLedger.card_mint oneNow can, ?_⟩
  intro refill
  refine ⟨RightsLedger.card_refill oneNow can refill, ?_⟩
  obtain ⟨vouts, once, outpoints, -, made⟩ := next.created_outpoints
  obtain ⟨enough, paid⟩ := made refill
  refine ⟨vouts, once, enough, outpoints, ?_, paid⟩
  intro right listed
  exact mem_exchange.mpr (.inr (List.mem_toFinset.mpr listed))

end

section Samples

/-! The right of the parent's first output, and a right on the fee input of the refill. -/

def feeRight : OutPoint × Opout := (⟨Word.fill 32 0x44, 1⟩, ⟨Word.fill 32 0x40, 4013, 2⟩)

def twoRights : RightsLedger := {(⟨parentTxid, 1⟩, firstRight), feeRight}

theorem refill_keyChecks :
    (refillOnParent "veiled").keyChecks signingCrate signingStd sampleAccounts := by
  refine ⟨?_, [1, 2], ?_, ?_⟩
  · decide +kernel
  · decide +kernel
  · decide +kernel

def acceptedRefill : AcceptedTransaction signingCrate signingStd sampleAccounts where
  request := refillOnParent "veiled"
  pin := signedAsset
  reading := veiledRefill
  keyChecks := refill_keyChecks

def acceptedMint : AcceptedTransaction signingCrate signingStd sampleAccounts :=
  ⟨mintOnParent "open", signedAsset, openMint, trivial⟩

/-- The refill spends both rights and makes two. The mint spends one right alone. -/
theorem rights_are_conserved_refill_or_mint :
    let refilled := twoRights.confirm signingStd acceptedRefill.tx acceptedRefill.reading.committed
    let minted := twoRights.confirm signingStd acceptedMint.tx acceptedMint.reading.committed
    OnePerKey refilled ∧ twoRights.card ≤ refilled.card ∧ feeRight ∉ refilled ∧
      minted.card + 1 = twoRights.card ∧ feeRight ∈ minted := by
  have one : OnePerKey twoRights := by
    have all : ∀ a ∈ twoRights, ∀ b ∈ twoRights, a.1 = b.1 → a = b := by decide +kernel
    exact fun a memberA b memberB => all a memberA b memberB
  have canRefill : twoRights.CanConfirm acceptedRefill := ⟨by decide +kernel, by decide +kernel⟩
  have canMint : twoRights.CanConfirm acceptedMint := ⟨by decide +kernel, by decide +kernel⟩
  have start := rights_are_conserved signingCrate signingStd sampleAccounts twoRights twoRights []
    one .nil
  have run := rights_are_conserved signingCrate signingStd sampleAccounts twoRights _
    [acceptedRefill] one (.snoc .nil canRefill)
  exact ⟨run.1, run.2.1, by decide +kernel, (start.2.2 acceptedMint canMint).2.1 rfl,
    by decide +kernel⟩

end Samples

end EnclaveSigner.Rgb
