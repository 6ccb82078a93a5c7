import EnclaveSigner.Rgb.PsbtTables
import EnclaveSigner.Rgb.SigningRequest

/-! # The signed transaction fixes what is signed

The layers below a transaction are commitments: the `OP_RETURN` to the tree of
bundles, the tree to each bundle id, the bundle id to the input map, the input map to
the operation id, and the operation id to the transition with every seal concealed.
The host chooses what is disclosed, but it can disclose one transition only.
-/

namespace EnclaveSigner.Rgb

open Lib Bitcoin

section Concealing

variable (secretOf : GraphSeal → Word 32)

def BuilderSeal.conceal : BuilderSeal → BuilderSeal
  | revealed graph => .concealed (secretOf graph)
  | concealed secret => .concealed secret

def TypedAssigns.conceal : TypedAssigns → TypedAssigns
  | declarative seals => .declarative (seals.map (·.conceal secretOf))
  | fungible legs => .fungible (legs.map fun (held, units) => (held.conceal secretOf, units))
  | structured items => .structured (items.map fun (held, state) => (held.conceal secretOf, state))

/-- The transition with every seal concealed. -/
def Transition.conceal (transition : Transition) : Transition :=
  { transition with
    assignments := transition.assignments.map fun (ty, typed) => (ty, typed.conceal secretOf) }

def Fascia.revealedSeals (fascia : Fascia) : List GraphSeal :=
  fascia.bundles.flatMap fun (_, bundle) => bundle.knownTransitions.flatMap fun known =>
    known.transition.assignments.flatMap fun (_, typed) => typed.seals.filterMap fun
      | .revealed graph => some graph
      | .concealed _ => none

variable {secretOf}

theorem TypedAssigns.conceal_seals (typed : TypedAssigns) :
    (typed.conceal secretOf).seals = typed.seals.map (·.conceal secretOf) := by
  cases typed with
  | declarative => rfl
  | fungible | structured => simp [conceal, seals, Function.comp_def]

theorem Transition.conceal_lookup (transition : Transition) (ty : UInt16) :
    (transition.conceal secretOf).assignments.lookup ty =
      (transition.assignments.lookup ty).map (·.conceal secretOf) := by
  rw [Transition.conceal]
  induction transition.assignments with
  | nil => rfl
  | cons entry rest ih =>
      rw [List.map_cons, List.lookup_cons, List.lookup_cons]
      split
      · rfl
      · exact ih

end Concealing

/-- The commitments of the RGB crates bind, on what the fascias disclose. The operation
    id commits each seal in its concealed form. -/
structure Binding (rgb : RgbStd) (secretOf : GraphSeal → Word 32) (fascias : Set Fascia) :
    Prop where
  /-- A transaction verifies one opret commitment. -/
  opret : ∀ tx c c', rgb.opretVerify c tx = .ok () → rgb.opretVerify c' tx = .ok () → c = c'
  mpc : ∀ f ∈ fascias, ∀ g ∈ fascias, ∀ x ∈ f.bundles, ∀ y ∈ g.bundles, ∀ entropy entropy' c,
    rgb.mpcCommit [(x.1, rgb.bundleId x.2)] entropy = .ok c →
    rgb.mpcCommit [(y.1, rgb.bundleId y.2)] entropy' = .ok c → rgb.bundleId x.2 = rgb.bundleId y.2
  bundleId : ∀ f ∈ fascias, ∀ g ∈ fascias, ∀ x ∈ f.bundles, ∀ y ∈ g.bundles,
    rgb.bundleId x.2 = rgb.bundleId y.2 → x.2.inputMap = y.2.inputMap
  opId : ∀ f ∈ fascias, ∀ g ∈ fascias, ∀ x ∈ f.bundles, ∀ y ∈ g.bundles,
    ∀ k ∈ x.2.knownTransitions, ∀ l ∈ y.2.knownTransitions,
    rgb.transitionId k.transition = rgb.transitionId l.transition →
      k.transition.conceal secretOf = l.transition.conceal secretOf
  seals : Set.InjOn secretOf {graph | ∃ f ∈ fascias, graph ∈ f.revealedSeals}

section

variable {btc : Crate} {rgb : RgbStd} {secretOf : GraphSeal → Word 32} {fascias : Set Fascia}
  {pin : ContractId}

theorem Binding.committed_eq (binding : Binding rgb secretOf fascias) {tx : Transaction}
    {f g : Fascia} (hf : f ∈ fascias) (hg : g ∈ fascias) {c c' : Committed}
    (commits : committedTransition btc rgb tx f pin = .ok c)
    (commits' : committedTransition btc rgb tx g pin = .ok c')
    (some_input : c.transition.inputs ≠ []) :
    c.txid = c'.txid ∧ c.opid = c'.opid ∧
      c.transition.conceal secretOf = c'.transition.conceal secretOf := by
  obtain ⟨bundle, entropy, commitment, one⟩ := committedTransition_spec commits
  obtain ⟨bundle', entropy', commitment', one'⟩ := committedTransition_spec commits'
  have inF : (pin, bundle) ∈ f.bundles := by rw [one.bundles]; exact List.mem_singleton_self _
  have inG : (pin, bundle') ∈ g.bundles := by rw [one'.bundles]; exact List.mem_singleton_self _
  have commitments := binding.opret tx _ _ one.opretVerify one'.opretVerify
  have ids := binding.mpc f hf g hg _ inF _ inG entropy entropy' commitment one.mpcCommit
    (commitments ▸ one'.mpcCommit)
  have maps := binding.bundleId f hf g hg _ inF _ inG ids
  obtain ⟨input, inputs⟩ := List.exists_mem_of_ne_nil _ some_input
  obtain ⟨entry, member, -⟩ := List.mem_map.mp ((one.closes input).mpr inputs)
  have opids : c.opid = c'.opid := by
    rw [← one.named entry member, ← one'.named entry (maps ▸ member)]
  have transitions := binding.opId f hf g hg _ inF _ inG
    ⟨c.opid, c.transition⟩ (by rw [one.known]; exact List.mem_singleton_self _)
    ⟨c'.opid, c'.transition⟩ (by rw [one'.known]; exact List.mem_singleton_self _)
    (by rw [← one.opid, ← one'.opid, opids])
  exact ⟨by rw [one.txid, one'.txid], opids, transitions⟩

theorem rightVout_ok {made : Committed} {input : Opout} {vout : UInt32}
    (passes : rightVout rgb made input = .ok vout) :
    input.op = made.opid ∧ made.transition.inputs ≠ [] ∧ ∃ typed blinding,
      made.transition.assignments.lookup input.ty = some typed ∧
        typed.seals[input.no.toNat]? = some (.revealed ⟨none, vout, blinding⟩) := by
  simp only [rightVout, bind_ok, refuse_ok, okOr_ok, not_or, not_not] at passes
  obtain ⟨_, ⟨made_by, -⟩, _, -, _, single, held, found, vout', witness, _, -, same⟩ := passes
  cases same
  rw [Option.bind_eq_some_iff] at found
  obtain ⟨typed, listed, held_at⟩ := found
  refine ⟨made_by, by rw [(singleRightInput_ok.mp single).1]; exact List.cons_ne_nil _ _, typed, ?_⟩
  cases held with
  | concealed secret => cases witness
  | revealed graph =>
      obtain ⟨txid, vout, blinding⟩ := graph
      cases txid with
      | some txid => cases witness
      | none =>
          cases witness
          exact ⟨blinding, listed, held_at⟩

theorem mem_revealedSeals {tx : Transaction} {fascia : Fascia} {committed : Committed}
    (commits : committedTransition btc rgb tx fascia pin = .ok committed) {ty : UInt16}
    {typed : TypedAssigns} (listed : committed.transition.assignments.lookup ty = some typed)
    {no : Nat} {graph : GraphSeal} (held : typed.seals[no]? = some (.revealed graph)) :
    graph ∈ fascia.revealedSeals := by
  obtain ⟨bundle, entropy, commitment, one⟩ := committedTransition_spec commits
  simp only [Fascia.revealedSeals, one.bundles, one.known, List.flatMap_singleton,
    List.mem_flatMap]
  refine ⟨(ty, typed), ?_, ?_⟩
  · obtain ⟨before, after, split, -⟩ := List.lookup_eq_some_iff.mp listed
    rw [split]
    exact List.mem_append_right _ List.mem_cons_self
  · exact List.mem_filterMap.mpr ⟨_, List.mem_of_getElem? held, rfl⟩

theorem Binding.rightVout_eq (binding : Binding rgb secretOf fascias) {f g : Fascia}
    (hf : f ∈ fascias) (hg : g ∈ fascias) (same : f.tx = g.tx) {c c' : Committed}
    (commits : committedTransition btc rgb f.tx f pin = .ok c)
    (commits' : committedTransition btc rgb g.tx g pin = .ok c') {input : Opout}
    {vout vout' : UInt32} (makes : rightVout rgb c input = .ok vout)
    (makes' : rightVout rgb c' input = .ok vout') :
    c.txid = c'.txid ∧ vout = vout' := by
  obtain ⟨-, inputs, typed, blinding, listed, held⟩ := rightVout_ok makes
  obtain ⟨-, -, typed', blinding', listed', held'⟩ := rightVout_ok makes'
  obtain ⟨txid, -, transitions⟩ := binding.committed_eq hf hg commits (same ▸ commits') inputs
  refine ⟨txid, ?_⟩
  have lookups := congrArg (fun transition => transition.assignments.lookup input.ty) transitions
  simp only [Transition.conceal_lookup, listed, listed', Option.map_some] at lookups
  have seals := congrArg (fun typed => typed.seals[input.no.toNat]?) (Option.some.inj lookups)
  simp only [TypedAssigns.conceal_seals, List.getElem?_map, held, held', Option.map_some] at seals
  injection seals with seals
  injection seals with secrets
  have graphs := binding.seals ⟨f, hf, mem_revealedSeals commits listed held⟩
    ⟨g, hg, mem_revealedSeals commits' listed' held'⟩ secrets
  exact (GraphSeal.mk.inj graphs).2.1

end

/-- The transaction spends the outpoint. -/
def Spends (tx : Transaction) (outpoint : OutPoint) : Prop :=
  ∃ input ∈ tx.input.val, previousOutput input = outpoint

theorem spendingInput_ok {psbt : Psbt} {right : OutPoint} {i : Nat}
    (passes : spendingInput psbt right = .ok i) : Spends psbt.unsignedTx right := by
  unfold spendingInput at passes
  split at passes
  · rename_i input _ only
    have member : (input, _) ∈ _ := only ▸ List.mem_singleton_self _
    obtain ⟨listed, spends⟩ := List.mem_filter.mp member
    exact ⟨input, List.fst_mem_of_mem_zipIdx listed, of_decide_eq_true spends⟩
  · cases passes

namespace Signing

/-- Both sign a mint with the same facts but for the way the recipient is shown, or both
    sign a refill that closes the same right. -/
def Agrees : Signing → Signing → Prop
  | .mint a, .mint b =>
      a.right = b.right ∧ a.opid = b.opid ∧ a.lockId = b.lockId ∧ a.issued = b.issued ∧
        a.beforeBlock = b.beforeBlock
  | .refill right _, .refill right' _ => right = right'
  | _, _ => False

end Signing

section

variable {btc : PsbtCrate} {rgb : RgbStd} {secretOf : GraphSeal → Word 32} {pin : ContractId}
  {a b : SigningRequest}

theorem SigningRequest.signing_ok {committed : Committed} {signing : Signing}
    (signs : a.signing rgb committed = .ok signing) :
    (∃ facts, signing = .mint facts ∧ mintFacts rgb committed = .ok facts) ∨
      ∃ right vouts, signing = .refill right vouts ∧
        refillRights rgb committed = .ok (right, vouts) := by
  cases a with
  | mint =>
      obtain ⟨facts, read, same⟩ := map_ok.mp signs
      exact .inl ⟨facts, same.symm, read⟩
  | refill =>
      obtain ⟨⟨right, vouts⟩, read, same⟩ := map_ok.mp signs
      exact .inr ⟨right, vouts, same.symm, read⟩

theorem Reading.inputs_eq (reading : Reading btc rgb pin a) :
    reading.committed.transition.inputs = [reading.signing.right] := by
  rcases SigningRequest.signing_ok reading.signs with ⟨facts, kind, read⟩ | ⟨right, vouts, kind, read⟩
  · rw [kind]
    exact (mintFacts_spec read).1
  · rw [kind]
    exact (refillRights_spec read).1

theorem Reading.signing_agrees (ra : Reading btc rgb pin a) (rb : Reading btc rgb pin b)
    (txid : ra.committed.txid = rb.committed.txid) (opid : ra.committed.opid = rb.committed.opid)
    (same : ra.committed.transition.conceal secretOf = rb.committed.transition.conceal secretOf) :
    ra.signing.Agrees rb.signing := by
  have inputs := congrArg Transition.inputs same
  have globals := congrArg Transition.globals same
  have metadata := congrArg Transition.metadata same
  have rights := congrArg (fun t => (t.assignments.lookup rgb.schemata.osMint).isSome) same
  simp only [Transition.conceal_lookup, Option.isSome_map] at rights
  change ra.committed.transition.inputs = rb.committed.transition.inputs at inputs
  change ra.committed.transition.globals = rb.committed.transition.globals at globals
  change ra.committed.transition.metadata = rb.committed.transition.metadata at metadata
  rw [ra.inputs_eq, rb.inputs_eq] at inputs
  have right := (List.cons.inj inputs).1
  rcases SigningRequest.signing_ok ra.signs with ⟨facts, kind, read⟩ | ⟨_, _, kind, read⟩ <;>
    rcases SigningRequest.signing_ok rb.signs with ⟨facts', kind', read'⟩ | ⟨_, _, kind', read'⟩ <;>
    rw [kind, kind'] at right ⊢
  · obtain ⟨-, -, supply⟩ := mintFacts_spec read
    obtain ⟨-, -, supply'⟩ := mintFacts_spec read'
    rw [mintGlobals, beforeBlock, globals, metadata, ← beforeBlock, ← mintGlobals, supply'] at supply
    obtain ⟨issued, before⟩ := Prod.mk.inj (Except.ok.inj supply)
    obtain ⟨own, lock⟩ := mintFacts_ok read
    obtain ⟨own', lock'⟩ := mintFacts_ok read'
    exact ⟨right, by rw [own, own', opid], by rw [lock, lock', opid, txid], issued.symm, before.symm⟩
  · -- A mint passes no right on, and a refill makes some.
    obtain ⟨-, none_passed, -⟩ := mintFacts_spec read
    obtain ⟨-, -, seals, listed, -⟩ := refillRights_spec read'
    rw [none_passed, listed, List.lookup_cons_self] at rights
    cases rights
  · obtain ⟨-, none_passed, -⟩ := mintFacts_spec read'
    obtain ⟨-, -, seals, listed, -⟩ := refillRights_spec read
    rw [none_passed, listed, List.lookup_cons_self] at rights
    cases rights
  · exact right

/-- Of two accepted requests with one transaction, both disclose the same transition up to
    concealing, and sign the same. Of two with different transactions that close the same
    right, made by one parent transaction, both spend its output, so at most one of the
    transactions confirms. -/
theorem transaction_fixes_signing (btc : PsbtCrate) (rgb : RgbStd)
    (secretOf : GraphSeal → Word 32) (pin : ContractId) (a b : SigningRequest)
    (ra : Reading btc rgb pin a) (rb : Reading btc rgb pin b)
    (binding : Binding rgb secretOf {ra.fascia, rb.fascia, ra.parent, rb.parent}) :
    (ra.psbt.unsignedTx = rb.psbt.unsignedTx →
      ra.committed.transition.conceal secretOf = rb.committed.transition.conceal secretOf ∧
      ra.committed.opid = rb.committed.opid ∧ ra.signing.Agrees rb.signing) ∧
    (ra.psbt.unsignedTx ≠ rb.psbt.unsignedTx → ra.signing.right = rb.signing.right →
      ra.parent.tx = rb.parent.tx →
      (∃ outpoint, Spends ra.psbt.unsignedTx outpoint ∧ Spends rb.psbt.unsignedTx outpoint) ∧
      ∀ confirmed : Set Transaction,
        (∀ tx ∈ confirmed, ∀ tx' ∈ confirmed, ∀ outpoint, Spends tx outpoint →
          Spends tx' outpoint → tx = tx') →
        ¬ (ra.psbt.unsignedTx ∈ confirmed ∧ rb.psbt.unsignedTx ∈ confirmed)) := by
  constructor
  · intro same
    obtain ⟨txid, opid, transitions⟩ := binding.committed_eq (.inl rfl) (.inr (.inl rfl)) ra.commits
      (same ▸ rb.commits) (by rw [ra.inputs_eq]; exact List.cons_ne_nil _ _)
    exact ⟨transitions, opid, ra.signing_agrees rb txid opid transitions⟩
  · intro different right parent
    obtain ⟨_, spends⟩ := ra.spends
    obtain ⟨_, spends'⟩ := rb.spends
    have spends := spendingInput_ok spends
    have spends' := spendingInput_ok spends'
    obtain ⟨txid, vout⟩ := binding.rightVout_eq (.inr (.inr (.inl rfl))) (.inr (.inr (.inr rfl)))
      parent ra.parentCommits rb.parentCommits ra.makes (right ▸ rb.makes)
    rw [← txid, ← vout] at spends'
    refine ⟨⟨_, spends, spends'⟩, ?_⟩
    rintro confirmed once ⟨inside, inside'⟩
    exact different (once _ inside _ inside' _ spends spends')

end

section Samples

/-! A refill made two rights. A mint and a refill each close the first of them. -/

def signedAsset : ContractId := .fill 32 0x7e

def witnessSeal (vout : UInt32) (blinding : UInt64) : GraphSeal := ⟨none, vout, blinding⟩

def sampleSecret (graph : GraphSeal) : Word 32 :=
  .ofNatBe 32 (graph.blinding.toNat * 2 ^ 32 + graph.vout.toNat)

def samplePropagate (right : Opout) (seals : List BuilderSeal) : Transition where
  contractId := signedAsset
  transitionType := 8014
  metadata := []
  globals := []
  inputs := [right]
  assignments := [(4013, .declarative seals)]

def firstRight : Opout := ⟨.fill 32 0x50, 4013, 0⟩

def parentTx : Transaction := (sampleRefillPsbt (.fill 32 0x33) (.fill 32 0x50)).unsignedTx

def parentTxid : Txid :=
  .ofNatBe 32 0x0a7892ba228ecf8f1aff90d552d6fdafd7af41061d71f88e9f08816b2474936c

def parentFasciaWith (second : BuilderSeal) : Fascia where
  tx := parentTx
  mpcEntropy := some 5
  bundles := [(signedAsset, ⟨[(⟨.fill 32 0x51, 4013, 0⟩, .fill 32 0x50)],
    [⟨.fill 32 0x50, samplePropagate ⟨.fill 32 0x51, 4013, 0⟩
      [.revealed (witnessSeal 1 7), second]⟩]⟩)]

def openParent : Fascia := parentFasciaWith (.revealed (witnessSeal 2 8))

def veiledParent : Fascia := parentFasciaWith (.concealed (sampleSecret (witnessSeal 2 8)))

def signedMintPsbt : Psbt where
  unsignedTx := {
    version := 2
    input := ⟨[⟨parentTxid, 1, emptyScript, 0xffffffff⟩], by simp⟩
    output := ⟨[opretOut (.fill 32 0x6d), ⟨1500, sampleWpkh 0x99⟩,
      ownTxOut (coloredRow 1) 5000], by simp⟩
    lockTime := 0 }
  inputs := [ownInput (coloredRow 2) 7000]
  outputs := [{}, {}, ownOutput (coloredRow 1)]

def mintTxid : Txid :=
  .ofNatBe 32 0x97af7bef20d93b3defe2bec56f90456b05d2410c3aae5816d76cf13d65794fc0

def signedMint : Transition where
  contractId := signedAsset
  transitionType := 8013
  metadata := [(1013, (u64Le 100).val)]
  globals := [(2010, [(u64Le 1000).val])]
  inputs := [firstRight]
  assignments := [(4000, .fungible [(.revealed (witnessSeal 1 11), 1000)])]

def signedMintFascia : Fascia where
  tx := signedMintPsbt.unsignedTx
  mpcEntropy := some 6
  bundles := [(signedAsset, ⟨[(firstRight, .fill 32 0x6d)], [⟨.fill 32 0x6d, signedMint⟩]⟩)]

def signedRefillPsbt : Psbt where
  unsignedTx := {
    version := 2
    input := ⟨[⟨parentTxid, 1, emptyScript, 0xffffffff⟩,
      ⟨.fill 32 0x44, 1, emptyScript, 0xffffffff⟩], by simp⟩
    output := ⟨[opretOut (.fill 32 0x72), ownTxOut (coloredRow 0) 6000,
      ownTxOut (coloredRow 1) 5500], by simp⟩
    lockTime := 0 }
  inputs := [ownInput (coloredRow 2) 7000, ownInput (coloredRow 1) 5000]
  outputs := [{}, ownOutput (coloredRow 0), ownOutput (coloredRow 1)]

def refillTxid : Txid :=
  .ofNatBe 32 0x9254e6f99d655c1dcc1dc83550489796c03f31f5618ba1ef3896bb27938a8a1e

def signedRefill : Transition :=
  samplePropagate firstRight [.revealed (witnessSeal 1 9), .revealed (witnessSeal 2 10)]

def signedRefillFascia : Fascia where
  tx := signedRefillPsbt.unsignedTx
  mpcEntropy := some 7
  bundles := [(signedAsset,
    ⟨[(firstRight, .fill 32 0x72)], [⟨.fill 32 0x72, signedRefill⟩]⟩)]

def sampleOpIds : List (Transition × OpId) :=
  [(signedMint, .fill 32 0x6d), (signedRefill, .fill 32 0x72)] ++
    [openParent, veiledParent].flatMap fun fascia => fascia.bundles.flatMap fun (_, bundle) =>
      bundle.knownTransitions.map fun known => (known.transition, .fill 32 0x50)

/-- The crates with an id for each input map, and a commitment for each id. -/
def signingStd : RgbStd :=
  let ids := [0x50, 0x6d, 0x72].map (.fill 32)
  { stdWith {
      genesisId := .fill 32 0x51
      contracts := [(signedAsset, sampleMintConfig.rgbAssetId)]
      opIds := sampleOpIds
      commitment := .zero 32
      lockIds := [((.fill 32 0x6d, mintTxid), .fill 32 0x10)]
      fascias := [(utf8 "open", openParent), (utf8 "veiled", veiledParent),
        (utf8 "mint", signedMintFascia), (utf8 "refill", signedRefillFascia)] } with
    bundleId := fun bundle => (bundle.inputMap.head?.map Prod.snd).getD (.zero 32)
    mpcCommit := fun messages _ => okOr "cannot place messages"
      ((messages.head?.map Prod.snd).filter ids.contains) }

def signingCrate : PsbtCrate :=
  psbtCrateWith (tableHash [
      (parentTx.serialize, parentTxid),
      (signedMintPsbt.unsignedTx.serialize, mintTxid),
      (signedRefillPsbt.unsignedTx.serialize, refillTxid)])
    [(utf8 "mint psbt", signedMintPsbt)]

def mintOnParent (parent : String) : SigningRequest :=
  .mint ⟨0, utf8 "mint psbt", 0, "rgb:sample", [], [], utf8 "mint", utf8 parent⟩ 1000 0
    (mintContext signingCrate sampleAccounts sampleMintConfig fun _ => .ok ())

def refillOnParent (parent : String) : SigningRequest :=
  .refill ⟨utf8 "refill psbt", utf8 "refill", utf8 parent, "rgb:sample"⟩ signedRefillPsbt
    sampleMintConfig

theorem signedMintPsbt_spends :
    spendingInput signedMintPsbt ⟨parentTxid, 1⟩ = .ok 0 := by decide +kernel

def mintReading (parent : Fascia) (name : String)
    (accepted : validateDestinationAnchor signingCrate signingStd
      ⟨0, utf8 "mint psbt", 0, "rgb:sample", [], [], utf8 "mint", utf8 name⟩ 1000 0
      (mintContext signingCrate sampleAccounts sampleMintConfig fun _ => .ok ()) = .ok (1000, []))
    (parsed : parseFascia signingStd (utf8 name) "parent_fascia" = .ok parent)
    (made : Committed)
    (commits : committedTransition signingCrate.toCrate signingStd parent.tx parent signedAsset =
      .ok made) (txid : made.txid = parentTxid)
    (makes : rightVout signingStd made firstRight = .ok 1) :
    Reading signingCrate signingStd signedAsset (mintOnParent name) where
  psbt := signedMintPsbt
  fascia := signedMintFascia
  committed := ⟨mintTxid, .fill 32 0x6d, signedMint⟩
  signing := .mint ⟨firstRight, .fill 32 0x6d, .fill 32 0x10, 1000, 100, .witness 1⟩
  parent := parent
  made := made
  vout := 1
  accepted := ⟨_, accepted⟩
  psbt_eq := by
    change parsePsbtShape signingCrate (utf8 "mint psbt") = _
    decide +kernel
  pinned := by
    change pinnedContract _ sampleMintConfig = _
    decide +kernel
  parsed := by
    change parseFascia _ (utf8 "mint") _ = _
    decide +kernel
  commits := by decide +kernel
  signs := by
    have facts : mintFacts signingStd ⟨mintTxid, .fill 32 0x6d, signedMint⟩ =
        .ok ⟨firstRight, .fill 32 0x6d, .fill 32 0x10, 1000, 100, .witness 1⟩ := by
      decide +kernel
    rw [mintOnParent, SigningRequest.signing, facts]
    rfl
  parentParsed := parsed
  parentCommits := commits
  makes := makes
  spends := ⟨0, by rw [txid]; exact signedMintPsbt_spends⟩

/-- What the fascia of the parent commits, with the second right as given. -/
def madeWith (second : BuilderSeal) : Committed :=
  ⟨parentTxid, .fill 32 0x50, samplePropagate ⟨.fill 32 0x51, 4013, 0⟩
    [.revealed (witnessSeal 1 7), second]⟩

def openMint : Reading signingCrate signingStd signedAsset (mintOnParent "open") :=
  mintReading openParent "open" (by decide +kernel) (by decide +kernel)
    (madeWith (.revealed (witnessSeal 2 8))) (by decide +kernel) rfl (by decide +kernel)

def veiledMint : Reading signingCrate signingStd signedAsset (mintOnParent "veiled") :=
  mintReading veiledParent "veiled" (by decide +kernel) (by decide +kernel)
    (madeWith (.concealed (sampleSecret (witnessSeal 2 8)))) (by decide +kernel) rfl
    (by decide +kernel)

def veiledRefill : Reading signingCrate signingStd signedAsset (refillOnParent "veiled") where
  psbt := signedRefillPsbt
  fascia := signedRefillFascia
  committed := ⟨refillTxid, .fill 32 0x72, signedRefill⟩
  signing := .refill firstRight [1, 2]
  parent := veiledParent
  made := madeWith (.concealed (sampleSecret (witnessSeal 2 8)))
  vout := 1
  accepted := ⟨[1, 2], by decide +kernel⟩
  psbt_eq := rfl
  pinned := by
    change pinnedContract signingStd sampleMintConfig = _
    decide +kernel
  parsed := by
    change parseFascia signingStd (utf8 "refill") _ = _
    decide +kernel
  commits := by decide +kernel
  signs := by
    have rights : refillRights signingStd ⟨refillTxid, .fill 32 0x72, signedRefill⟩ =
        .ok (firstRight, [1, 2]) := by
      decide +kernel
    rw [refillOnParent, SigningRequest.signing, rights]
    rfl
  parentParsed := by
    change parseFascia signingStd (utf8 "veiled") _ = _
    decide +kernel
  parentCommits := by decide +kernel
  makes := by
    change rightVout signingStd _ firstRight = _
    decide +kernel
  spends := ⟨0, by decide +kernel⟩

theorem pushScript_injective (opcode : UInt8) : Function.Injective (pushScript opcode) := by
  intro a b same
  have bytes := congrArg Subtype.val same
  exact Subtype.ext (List.cons.inj (List.cons.inj bytes).2).2

theorem sample_mpcCommit {cid : ContractId} {id c : Word 32} {entropy : UInt64}
    (commits : signingStd.mpcCommit [(cid, id)] entropy = .ok c) : c = id := by
  change okOr _ (Option.filter _ (some id)) = _ at commits
  rw [okOr_ok, Option.filter_eq_some_iff] at commits
  exact (Option.some.inj commits.1).symm

def sampleFascias : List Fascia := [signedMintFascia, signedRefillFascia, openParent, veiledParent]

theorem sample_binding {fascias : Set Fascia} (among : ∀ f ∈ fascias, f ∈ sampleFascias) :
    Binding signingStd sampleSecret fascias where
  opret := by
    intro tx c c' verified verified'
    change (if _ then _ else _) = _ at verified verified'
    split at verified
    · split at verified'
      · rename_i first second
        obtain ⟨out, found, same⟩ := (Option.any_eq_true _ _).mp first
        obtain ⟨out', found', same'⟩ := (Option.any_eq_true _ _).mp second
        obtain rfl : out = out' := Option.some.inj (found.symm.trans found')
        exact pushScript_injective 0x6a ((eq_of_beq same).symm.trans (eq_of_beq same'))
      · cases verified'
    · cases verified
  mpc := by
    intro f hf g hg x hx y hy entropy entropy' c commits commits'
    exact (sample_mpcCommit commits).symm.trans (sample_mpcCommit commits')
  bundleId := by
    intro f hf g hg
    have all : ∀ f ∈ sampleFascias, ∀ g ∈ sampleFascias, ∀ x ∈ f.bundles, ∀ y ∈ g.bundles,
        signingStd.bundleId x.2 = signingStd.bundleId y.2 → x.2.inputMap = y.2.inputMap := by
      decide +kernel
    exact all f (among f hf) g (among g hg)
  opId := by
    intro f hf g hg
    have all : ∀ f ∈ sampleFascias, ∀ g ∈ sampleFascias, ∀ x ∈ f.bundles, ∀ y ∈ g.bundles,
        ∀ k ∈ x.2.knownTransitions, ∀ l ∈ y.2.knownTransitions,
        signingStd.transitionId k.transition = signingStd.transitionId l.transition →
          k.transition.conceal sampleSecret = l.transition.conceal sampleSecret := by
      decide +kernel
    exact all f (among f hf) g (among g hg)
  seals := by
    rintro a ⟨f, hf, inF⟩ b ⟨g, hg, inG⟩
    have all : ∀ f ∈ sampleFascias, ∀ g ∈ sampleFascias, ∀ a ∈ f.revealedSeals,
        ∀ b ∈ g.revealedSeals, sampleSecret a = sampleSecret b → a = b := by
      decide +kernel
    exact all f (among f hf) g (among g hg) a inF b inG

/-- The mint is accepted with either fascia of the parent. The refill closes the same right
    in another transaction, so it spends the same output. -/
theorem transaction_fixes_signing_mint_and_refill :
    (openMint.committed.transition.conceal sampleSecret =
        veiledMint.committed.transition.conceal sampleSecret ∧
      openMint.committed.opid = veiledMint.committed.opid ∧
      openMint.signing.Agrees veiledMint.signing) ∧
    openMint.psbt.unsignedTx ≠ veiledRefill.psbt.unsignedTx ∧ openMint.parent ≠ veiledRefill.parent ∧
    ∃ outpoint, Spends openMint.psbt.unsignedTx outpoint ∧
      Spends veiledRefill.psbt.unsignedTx outpoint := by
  have mints := transaction_fixes_signing signingCrate signingStd sampleSecret signedAsset _ _
    openMint veiledMint (sample_binding (by
      rintro f (rfl | rfl | rfl | rfl)
      exacts [by decide +kernel, by decide +kernel, by decide +kernel, by decide +kernel]))
  have both := transaction_fixes_signing signingCrate signingStd sampleSecret signedAsset _ _
    openMint veiledRefill (sample_binding (by
      rintro f (rfl | rfl | rfl | rfl)
      exacts [by decide +kernel, by decide +kernel, by decide +kernel, by decide +kernel]))
  have different : openMint.psbt.unsignedTx ≠ veiledRefill.psbt.unsignedTx := by decide +kernel
  exact ⟨mints.1 rfl, different, by decide +kernel, (both.2 different rfl rfl).1⟩

end Samples

end EnclaveSigner.Rgb
