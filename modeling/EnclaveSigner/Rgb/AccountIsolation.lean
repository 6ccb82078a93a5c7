import Mathlib.Data.Set.Function
import EnclaveSigner.Policy
import EnclaveSigner.Proto
import EnclaveSigner.Rgb.BtcCrosscheck
import EnclaveSigner.Rgb.SigningFrame

/-! # The two accounts

Plain signing and coloured signing are scoped to an account each. No coin can be
signed in both scopes, whatever the two PSBTs claim about it. An output that
counts as own can be spent later, in the scope of its account and in no other.
-/

namespace EnclaveSigner.Rgb

open Lib Bitcoin Policy Proto

section Handlers

variable (btc : PsbtCrate) (keys : BtcAccounts)

/-- Sign the coloured inputs of a checked mint or refill. -/
def signColoredPsbt (psbtBytes : Bytes) : Result SignedPsbtResponse := do
  let signed ← signPsbtScoped btc keys psbtBytes (some .colored)
  signedPsbtResponse signed

/-- The policy of a production build may turn plain-BTC signing off. -/
def assertVanillaAllowed : SecurityPolicy → Result Unit
  | .production policy =>
      refuse (policy.allowVanillaPsbt = false)
        (.signing ("plain-BTC (vanilla) signing is disabled by the enclave's production security " ++
          "policy (BTC_MAX_TOTAL_SATS unset) - refusing to sign"))
  | .development _ => pure ()

/-- A plain-BTC request. -/
def handleSignBtc (policy : SecurityPolicy) (production : Bool) (cfg : BridgeConfig)
    (psbtBytes : Bytes) : Result SignedPsbtResponse := do
  assertVanillaAllowed policy
  validateBtcRequest btc keys production cfg psbtBytes
  let (signedPsbt, inputsSigned) ← signPsbtScoped btc keys psbtBytes (some .vanilla)
  refuse (inputsSigned = 0)
    (.signing ("sign_btc signed 0 inputs: no PSBT input belongs to this enclave - refusing to " ++
      "return a no-op as a successful signing response"))
  pure { signedPsbt, inputsSigned := .ofNat inputsSigned }

end Handlers

section

variable (btc : PsbtCrate) (keys : BtcAccounts)

/-- The scope `account` adds a signature to an input of the PSBT that spends `utxo`. -/
def SignsCoin (psbtBytes : Bytes) (account : AccountType) (utxo : TxOut) : Prop :=
  ∃ (psbt signed : Psbt) (count index : Nat) (input after : PsbtInput),
    btc.deserialize psbtBytes = .ok psbt ∧
    signDecoded btc keys psbt (some account) = .ok (signed, count) ∧
    signPsbtScoped btc keys psbtBytes (some account) = .ok (btc.serialize signed, count) ∧
    psbt.inputs[index]? = some input ∧ input.witnessUtxo = some utxo ∧
    signed.inputs[index]? = some after ∧ after.tapKeySig ≠ input.tapKeySig

/-- No key of one account is a key of the other. -/
def ChildrenDistinct : Prop :=
  ∀ vanillaPath coloredPath vanillaSecret coloredSecret,
    keys.deriveBtcChild btc .vanilla vanillaPath = .ok vanillaSecret →
    keys.deriveBtcChild btc .colored coloredPath = .ok coloredSecret →
    btc.xOnlyOfSecret vanillaSecret ≠ btc.xOnlyOfSecret coloredSecret

/-- The internal keys and roots that the controlled inputs of a PSBT claim. -/
def claimedTweaks (psbtBytes : Bytes) : Set (XOnlyPublicKey × Option (Word 32)) :=
  { claim | ∃ psbt, btc.deserialize psbtBytes = .ok psbt ∧
    ∃ job ∈ findControlledTaprootInputs btc keys psbt keys.masterFingerprint,
      claim = (job.xonlyPubkey, job.merkleRoot) }

end

section

variable {btc : PsbtCrate} {keys : BtcAccounts}

theorem SignsCoin.tweaked_child {psbtBytes : Bytes} {account : AccountType} {utxo : TxOut}
    (signs : SignsCoin btc keys psbtBytes account utxo) :
    ∃ claim ∈ claimedTweaks btc keys psbtBytes,
      programOf utxo.scriptPubkey = some (btc.tapTweak claim.1 claim.2) ∧
      ∃ childPath childSecret, keys.deriveBtcChild btc account childPath = .ok childSecret ∧
        btc.xOnlyOfSecret childSecret = claim.1 := by
  obtain ⟨psbt, signed, count, index, input, after, decoded, done, -, found, spends, placed,
    changed⟩ := signs
  have changes := signDecoded_ok done
  by_cases outstanding : ∃ job, Outstanding btc keys (some account) input index job
  · obtain ⟨job, left⟩ := outstanding
    obtain rfl := left.index
    obtain ⟨known, origin, secret, held⟩ := left.owned
    have same : known = utxo := Option.some.inj (held.known.symm.trans spends)
    subst same
    refine ⟨(job.xonlyPubkey, job.merkleRoot), ?_, ?_, job.childPath, secret, ?_, held.key⟩
    · exact ⟨psbt, decoded, job, mem_findControlledTaprootInputs.mpr
        ⟨input, found, controlledInput_eq_some.mpr left.owned⟩, rfl⟩
    · rw [held.root]
      exact held.program
    · rw [← left.inScope account rfl]
      exact held.derived
  · rw [changes.kept index input found (not_exists.mp outstanding)] at placed
    cases placed
    exact absurd rfl changed

theorem handleSignBtc_ok {policy : SecurityPolicy} {production : Bool} {cfg : BridgeConfig}
    {psbtBytes : Bytes} {response : SignedPsbtResponse}
    (accepted : handleSignBtc btc keys policy production cfg psbtBytes = .ok response) :
    ∃ count, signPsbtScoped btc keys psbtBytes (some .vanilla) = .ok (response.signedPsbt, count) := by
  simp only [handleSignBtc, bind_ok] at accepted
  obtain ⟨_, -, _, -, ⟨signed, count⟩, done, _, -, same⟩ := accepted
  cases same
  exact ⟨count, done⟩

theorem signColoredPsbt_ok {psbtBytes : Bytes} {response : SignedPsbtResponse}
    (accepted : signColoredPsbt btc keys psbtBytes = .ok response) :
    ∃ count, signPsbtScoped btc keys psbtBytes (some .colored) = .ok (response.signedPsbt, count) := by
  simp only [signColoredPsbt, signedPsbtResponse, bind_ok] at accepted
  obtain ⟨⟨signed, count⟩, done, _, -, same⟩ := accepted
  cases same
  exact ⟨count, done⟩

/-- Account isolation. No script is that of a coin signed in the plain scope and of
    a coin signed in the coloured scope, whatever metadata the two PSBTs carry.
    Plain-BTC requests are signed in the plain scope, mints and refills in the
    coloured one. -/
theorem accounts_isolated (childrenDistinct : ChildrenDistinct btc keys) (p q : Bytes)
    (tweakDetermines : Set.InjOn (fun claim => btc.tapTweak claim.1 claim.2)
      (claimedTweaks btc keys p ∪ claimedTweaks btc keys q)) :
    (∀ coin other, SignsCoin btc keys p .vanilla coin → SignsCoin btc keys q .colored other →
      coin.scriptPubkey ≠ other.scriptPubkey) ∧
    (∀ (policy : SecurityPolicy) production cfg response,
      handleSignBtc btc keys policy production cfg p = .ok response →
      ∃ count, signPsbtScoped btc keys p (some .vanilla) = .ok (response.signedPsbt, count)) ∧
    ∀ response, signColoredPsbt btc keys q = .ok response →
      ∃ count, signPsbtScoped btc keys q (some .colored) = .ok (response.signedPsbt, count) := by
  refine ⟨?_, fun _ _ _ _ => handleSignBtc_ok, fun _ => signColoredPsbt_ok⟩
  intro coin other plain colored same
  obtain ⟨claim, claimed, program, _, vanillaSecret, vanillaChild, vanillaKey⟩ :=
    plain.tweaked_child
  obtain ⟨claim', claimed', program', _, coloredSecret, coloredChild, coloredKey⟩ :=
    colored.tweaked_child
  rw [same, program', Option.some.injEq] at program
  have determined : claim' = claim := tweakDetermines (.inr claimed') (.inl claimed) program
  refine childrenDistinct _ _ vanillaSecret coloredSecret vanillaChild coloredChild ?_
  rw [vanillaKey, coloredKey, determined]

/-- The account that the metadata of an output claims. -/
def outputAccount (keys : BtcAccounts) (output : PsbtOutput) : Option AccountType := do
  let internalKey ← output.tapInternalKey
  let origin ← output.tapKeyOrigins.lookup internalKey
  let (account, _) ← keys.resolveAccountAndChildPath origin.derivationPath
  pure account

/-- A later input that spends the output, with its metadata. -/
structure SpendsOutput (psbt : Psbt) (index : Nat) (output : PsbtOutput) (input : PsbtInput) :
    Prop where
  metadata : psbt.outputs[index]? = some output
  utxo : input.witnessUtxo = psbt.unsignedTx.output.val[index]?
  internalKey : input.tapInternalKey = output.tapInternalKey
  keyOrigins : input.tapKeyOrigins = output.tapKeyOrigins
  noRoot : input.tapMerkleRoot = none
  unsigned : input.tapKeySig = none

theorem programOf_newP2trTweaked (outputKey : XOnlyPublicKey) :
    programOf (newP2trTweaked outputKey) = some outputKey := by
  rw [programOf, newP2trTweaked, pushScript]
  exact Word.ofBytes?_eq_some.mpr rfl

theorem SpendsOutput.controlled
    (onCurve : ∀ secret root, btc.isXOnly (btc.tapTweak (btc.xOnlyOfSecret secret) root) = true)
    {psbt : Psbt} {index : Nat} {allowedAccount : Option AccountType}
    (derived : outputIsSelfDerived btc keys psbt index allowedAccount = true)
    {output : PsbtOutput} {input : PsbtInput} (spends : SpendsOutput psbt index output input)
    (inputIdx : Nat) :
    ∃ account, outputAccount keys output = some account ∧
      allowedAccount.all (account == ·) = true ∧
      ∃ job, controlledInput btc keys keys.masterFingerprint input inputIdx = some job ∧
        job.accountType = account ∧ job.inputIndex = inputIdx := by
  obtain ⟨other, txout, internalKey, origin, account, childPath, secret, held⟩ :=
    outputIsSelfDerived_iff.mp derived
  have same : other = output := Option.some.inj (held.metadata.symm.trans spends.metadata)
  subst same
  refine ⟨account, ?_, held.allowed, ⟨inputIdx, internalKey, none, account, childPath⟩, ?_, rfl,
    rfl⟩
  · simp only [outputAccount, held.claimed, held.listed, held.resolved, Option.bind_eq_bind,
      Option.bind_some, Option.pure_def]
  · refine controlledInput_eq_some.mpr ⟨txout, origin, secret, ?_⟩
    exact {
      known := spends.utxo.trans held.present
      p2tr := by
        rw [TxOut.isP2tr, held.script]
        simp [newP2trTweaked, pushScript, (btc.tapTweak internalKey none).property]
      program := by rw [held.script, spends.noRoot, programOf_newP2trTweaked]
      onCurve := by rw [← held.key]; exact onCurve secret _
      claimed := spends.internalKey.trans held.claimed
      listed := by rw [spends.keyOrigins]; exact held.listed
      ours := held.ours
      resolved := held.resolved
      derived := held.derived
      key := held.key
      index := rfl
      root := spends.noRoot.symm }

/-- Outputs counted as own are spendable. A later input on such an output, with
    its metadata, is found under the account of the output and signed in the
    scope of that account. In another scope it is left as it is. -/
theorem own_outputs_spendable
    (onCurve : ∀ secret root, btc.isXOnly (btc.tapTweak (btc.xOnlyOfSecret secret) root) = true)
    (sighashTotal : SighashTotal btc) (p : Psbt) (i : Nat) (allowedAccount : Option AccountType)
    (derived : outputIsSelfDerived btc keys p i allowedAccount = true)
    (qBytes : Bytes) (q : Psbt) (sized : qBytes.length ≤ MAX_PSBT_BYTES)
    (decoded : btc.deserialize qBytes = .ok q)
    (aligned : q.inputs.length = q.unsignedTx.input.val.length)
    (known : ∀ input ∈ q.inputs, input.witnessUtxo.isSome)
    (asks : ∀ input ∈ q.inputs, input.sighashType.getD 0 = 0 ∨ input.sighashType.getD 0 = 1)
    (j : Nat) (input : PsbtInput) (found : q.inputs[j]? = some input) (output : PsbtOutput)
    (spends : SpendsOutput p i output input) :
    ∃ account, outputAccount keys output = some account ∧
      allowedAccount.all (account == ·) = true ∧
      (∃ job ∈ findControlledTaprootInputs btc keys q keys.masterFingerprint,
        job.inputIndex = j ∧ job.accountType = account) ∧
      (∃ signed count signature,
        signDecoded btc keys q (some account) = .ok (signed, count) ∧
        signPsbtScoped btc keys qBytes (some account) = .ok (btc.serialize signed, count) ∧
        signed.inputs[j]? = some { input with tapKeySig := some signature }) ∧
      ∀ other, other ≠ account → ∀ signed count,
        signDecoded btc keys q (some other) = .ok (signed, count) →
        signed.inputs[j]? = some input := by
  obtain ⟨account, named, allowed, job, controlled, own, index⟩ := spends.controlled onCurve derived j
  refine ⟨account, named, allowed, ⟨job, ?_, index, own⟩, ?_, ?_⟩
  · refine mem_findControlledTaprootInputs.mpr ⟨input, ?_, ?_⟩
    · rw [index]
      exact found
    · rw [index]
      exact controlled
  · obtain ⟨signed, count, done⟩ : ∃ signed count,
        signDecoded btc keys q (some account) = .ok (signed, count) :=
      signDecoded_total sighashTotal aligned known asks
    have left : Outstanding btc keys (some account) input j job :=
      ⟨spends.unsigned, controlledInput_eq_some.mp controlled, by simp [own]⟩
    obtain ⟨signature, -, placed⟩ := (signDecoded_ok done).added j input job found left
    refine ⟨signed, count, signature, done, ?_, placed⟩
    simp only [signPsbtScoped, bind_ok, mapError_ok]
    exact ⟨(), refuse_ok.mpr (Nat.not_lt.mpr sized), q, decoded, (signed, count), done, rfl⟩
  · intro other different signed count done
    refine (signDecoded_ok done).kept j input found fun otherJob left => ?_
    have sameInput := controlledInput_eq_some.mpr left.owned
    rw [controlled] at sameInput
    cases sameInput
    exact different ((left.inScope other rfl).symm.trans own)

end

section Samples

theorem sample_children_distinct : ChildrenDistinct mixedCrate sampleAccounts := by
  intro vanillaPath coloredPath vanillaSecret coloredSecret vanillaChild coloredChild
  obtain ⟨plain, plainRow, plainAccount, rfl⟩ := derivePriv_row vanillaChild
  obtain ⟨colored, coloredRow, coloredAccount, rfl⟩ := derivePriv_row coloredChild
  have rows : ∀ first ∈ sampleKeyRows, ∀ second ∈ sampleKeyRows, first.account = .vanilla →
      second.account = .colored →
      mixedCrate.xOnlyOfSecret first.secret ≠ mixedCrate.xOnlyOfSecret second.secret := by
    decide +kernel
  exact rows plain plainRow colored coloredRow plainAccount coloredAccount

theorem mixed_claims :
    (findControlledTaprootInputs mixedCrate sampleAccounts (mixedPsbt none none)
      sampleAccounts.masterFingerprint).map (fun job => (job.xonlyPubkey, job.merkleRoot))
      = [((vanillaRow 0).xonly, none), ((coloredRow 0).xonly, none)] := by
  decide +kernel

theorem mixed_tweak_determines : Set.InjOn (fun claim => mixedCrate.tapTweak claim.1 claim.2)
    (claimedTweaks mixedCrate sampleAccounts mixedBytes
      ∪ claimedTweaks mixedCrate sampleAccounts mixedBytes) := by
  have claims : ∀ claim ∈ claimedTweaks mixedCrate sampleAccounts mixedBytes,
      claim ∈ [((vanillaRow 0).xonly, (none : Option (Word 32))), ((coloredRow 0).xonly, none)] := by
    rintro claim ⟨psbt, decoded, job, member, rfl⟩
    rw [mixed_decodes] at decoded
    cases decoded
    rw [← mixed_claims]
    exact List.mem_map_of_mem member
  have apart : ∀ one ∈ [((vanillaRow 0).xonly, (none : Option (Word 32))),
      ((coloredRow 0).xonly, none)],
      ∀ other ∈ [((vanillaRow 0).xonly, (none : Option (Word 32))), ((coloredRow 0).xonly, none)],
      mixedCrate.tapTweak one.1 one.2 = mixedCrate.tapTweak other.1 other.2 → one = other := by
    decide +kernel
  intro one first other second same
  rw [Set.union_self] at first second
  exact apart one (claims one first) other (claims other second) same

/-- The same PSBT is signed in both scopes, a different coin in each. -/
theorem accounts_isolated_mixed :
    SignsCoin mixedCrate sampleAccounts mixedBytes .vanilla (ownTxOut (vanillaRow 0) 100000) ∧
    SignsCoin mixedCrate sampleAccounts mixedBytes .colored (ownTxOut (coloredRow 0) 10000) ∧
    (ownTxOut (vanillaRow 0) 100000).scriptPubkey ≠ (ownTxOut (coloredRow 0) 10000).scriptPubkey := by
  have plain : SignsCoin mixedCrate sampleAccounts mixedBytes .vanilla
      (ownTxOut (vanillaRow 0) 100000) :=
    ⟨mixedPsbt none none, mixedPsbt mixedSignature none, 1, 0, ownInput (vanillaRow 0) 100000,
      { ownInput (vanillaRow 0) 100000 with tapKeySig := some mixedSignature }, mixed_decodes,
      mixed_signs, by decide +kernel, rfl, rfl, rfl, nofun⟩
  have colored : SignsCoin mixedCrate sampleAccounts mixedBytes .colored
      (ownTxOut (coloredRow 0) 10000) :=
    ⟨mixedPsbt none none, mixedPsbt none mixedColoredSignature, 1, 1, ownInput (coloredRow 0) 10000,
      { ownInput (coloredRow 0) 10000 with tapKeySig := some mixedColoredSignature }, mixed_decodes,
      by decide +kernel, by decide +kernel, rfl, rfl, rfl, nofun⟩
  exact ⟨plain, colored,
    (accounts_isolated sample_children_distinct mixedBytes mixedBytes mixed_tweak_determines).1
      _ _ plain colored⟩

/-- A transaction with one output on the first coloured key. -/
def fundingPsbt : Psbt where
  unsignedTx := {
    version := 2
    input := ⟨[⟨Word.fill 32 0x55, 0, emptyScript, 0xffffffff⟩], by decide⟩
    output := ⟨[ownTxOut (coloredRow 0) 10000], by decide⟩
    lockTime := 0 }
  inputs := [ownInput (coloredRow 1) 10500]
  outputs := [ownOutput (coloredRow 0)]

/-- The second input of the mixed PSBT spends that output. The coloured scope
    signs it and the plain scope does not. -/
theorem own_outputs_spendable_mixed :
    outputIsSelfDerived mixedCrate sampleAccounts fundingPsbt 0 (some .colored) = true ∧
    (∃ signed count signature,
      signPsbtScoped mixedCrate sampleAccounts mixedBytes (some .colored)
        = .ok (mixedCrate.serialize signed, count) ∧
      signed.inputs[1]? = some { ownInput (coloredRow 0) 10000 with tapKeySig := some signature }) ∧
    (mixedPsbt mixedSignature none).inputs[1]? = some (ownInput (coloredRow 0) 10000) := by
  have derived : outputIsSelfDerived mixedCrate sampleAccounts fundingPsbt 0 (some .colored)
      = true := by decide +kernel
  obtain ⟨account, named, -, -, ⟨signed, count, signature, -, done, placed⟩, other⟩ :=
    own_outputs_spendable (fun _ _ => rfl) (signingCrateWith_sighashTotal _ _) fundingPsbt 0
      (some .colored) derived mixedBytes (mixedPsbt none none) (by decide +kernel) mixed_decodes
      (by decide) (by decide) (by decide) 1 (ownInput (coloredRow 0) 10000) rfl
      (ownOutput (coloredRow 0)) ⟨rfl, rfl, rfl, rfl, rfl, rfl⟩
  have colored : outputAccount sampleAccounts (ownOutput (coloredRow 0)) = some .colored := by
    decide +kernel
  rw [colored] at named
  cases named
  exact ⟨derived, ⟨signed, count, signature, done, placed⟩, other .vanilla nofun _ 1 mixed_signs⟩

end Samples

end EnclaveSigner.Rgb
