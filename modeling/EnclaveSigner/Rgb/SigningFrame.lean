import EnclaveSigner.Rgb.PsbtSigning
import EnclaveSigner.Rgb.PsbtTables

/-! # What signing changes

Signing adds a key-path signature to each outstanding input in scope and changes
nothing else. Nothing is outstanding in the result, so signing it again adds
nothing.
-/

namespace EnclaveSigner.Rgb

open Lib Bitcoin

/-- `signed` is `psbt` with the `count` signatures that were outstanding in scope. -/
structure SignedFrom (btc : PsbtCrate) (keys : BtcAccounts) (allowedAccount : Option AccountType)
    (psbt signed : Psbt) (count : Nat) : Prop where
  unsignedTx : signed.unsignedTx = psbt.unsignedTx
  outputs : signed.outputs = psbt.outputs
  globals : signed.globals = psbt.globals
  sizes : signed.inputs.length = psbt.inputs.length
  counted : ∃ indices : List Nat, indices.Nodup ∧ indices.length = count ∧
    ∀ index, index ∈ indices ↔ ∃ input job, psbt.inputs[index]? = some input ∧
      Outstanding btc keys allowedAccount input index job
  kept : ∀ index input, psbt.inputs[index]? = some input →
    (∀ job, ¬ Outstanding btc keys allowedAccount input index job) →
    signed.inputs[index]? = some input
  added : ∀ index input job, psbt.inputs[index]? = some input →
    Outstanding btc keys allowedAccount input index job →
    ∃ signature, CoversAll btc keys psbt input index job signature ∧
      signed.inputs[index]? = some { input with tapKeySig := some signature }

section

variable {btc : PsbtCrate} {keys : BtcAccounts} {allowedAccount : Option AccountType}
  {psbt signed : Psbt} {count : Nat}

theorem keySignature_ok {prevouts : List TxOut} {input : PsbtInput} {job : TaprootSignJob}
    {signature : TaprootSignature}
    (known : psbt.inputs.map (·.witnessUtxo) = prevouts.map some)
    (made : keySignature btc keys psbt.unsignedTx prevouts (input.sighashType.getD 0) job
      = .ok signature) :
    CoversAll btc keys psbt input job.inputIndex job signature := by
  simp only [keySignature, bind_ok, mapError_ok] at made
  obtain ⟨sighashType, requested, childSecret, derived, sighash, hashed, same⟩ := made
  cases same
  obtain ⟨asked, covers⟩ := tapSighashType_ok requested
  exact ⟨asked, covers, prevouts, childSecret, sighash, known, derived, hashed, rfl⟩

theorem mem_scopedJobs_at {index : Nat} {input : PsbtInput} {job : TaprootSignJob}
    (found : psbt.inputs[index]? = some input)
    (left : Outstanding btc keys allowedAccount input index job) :
    job ∈ scopedJobs btc keys psbt allowedAccount := by
  obtain rfl := left.index
  exact mem_scopedJobs.mpr ⟨input, found, left⟩

theorem scopedJobs_indices (psbt : Psbt) :
    ∃ indices : List Nat, indices.Nodup ∧
      indices.length = (scopedJobs btc keys psbt allowedAccount).length ∧
      ∀ index, index ∈ indices ↔ ∃ input job, psbt.inputs[index]? = some input ∧
        Outstanding btc keys allowedAccount input index job := by
  refine ⟨_, scopedJobs_nodup psbt allowedAccount, List.length_map _, fun index => ?_⟩
  rw [List.mem_map]
  constructor
  · rintro ⟨job, member, rfl⟩
    obtain ⟨input, found, left⟩ := mem_scopedJobs.mp member
    exact ⟨input, job, found, left⟩
  · rintro ⟨input, job, found, left⟩
    exact ⟨job, mem_scopedJobs_at found left, left.index⟩

theorem signDecoded_ok
    (done : signDecoded btc keys psbt allowedAccount = .ok (signed, count)) :
    SignedFrom btc keys allowedAccount psbt signed count := by
  have counted := @scopedJobs_indices btc keys allowedAccount psbt
  unfold signDecoded signTaprootInputs at done
  split at done
  · rename_i empty
    cases done
    rw [empty] at counted
    refine ⟨rfl, rfl, rfl, rfl, counted, fun _ _ found _ => found, ?_⟩
    intro index input job found left
    have member := mem_scopedJobs_at found left
    rw [empty] at member
    exact absurd member List.not_mem_nil
  · simp only [bind_ok] at done
    obtain ⟨prevouts, known, ⟨inputs, total⟩, signedJobs, same⟩ := done
    cases same
    have allKnown := mapM_okOr_ok.mp known
    obtain ⟨total, sizes, frame, each⟩ :=
      signJobs_ok (scopedJobs_nodup psbt allowedAccount) signedJobs
    rw [Nat.zero_add] at total
    refine ⟨rfl, rfl, rfl, sizes, total ▸ counted, ?_, ?_⟩
    · intro index input found nothing
      refine (frame index ?_).trans found
      intro member
      obtain ⟨job, present, rfl⟩ := List.mem_map.mp member
      obtain ⟨other, sameInput, left⟩ := mem_scopedJobs.mp present
      rw [found] at sameInput
      cases sameInput
      exact nothing job left
    · intro index input job found left
      obtain rfl := left.index
      obtain ⟨signature, made, placed⟩ :=
        each job (mem_scopedJobs.mpr ⟨input, found, left⟩) input found
      exact ⟨signature, keySignature_ok allKnown made, placed⟩

theorem SignedFrom.nothing_left
    (changes : SignedFrom btc keys allowedAccount psbt signed count) :
    scopedJobs btc keys signed allowedAccount = [] := by
  rw [List.eq_nil_iff_forall_not_mem]
  intro job member
  obtain ⟨after, found, left⟩ := mem_scopedJobs.mp member
  have inside : job.inputIndex < psbt.inputs.length := by
    rw [← changes.sizes]
    exact (List.getElem?_eq_some_iff.mp found).1
  have before := List.getElem?_eq_getElem inside
  by_cases outstanding : ∃ other, Outstanding btc keys allowedAccount psbt.inputs[job.inputIndex]
      job.inputIndex other
  · obtain ⟨other, outstanding⟩ := outstanding
    obtain ⟨signature, -, placed⟩ := changes.added _ _ _ before outstanding
    rw [placed] at found
    cases found
    cases left.unsigned
  · rw [changes.kept _ _ before (not_exists.mp outstanding)] at found
    cases found
    exact outstanding ⟨job, left⟩

theorem requested_setKeySig (inputs : List PsbtInput) (index other : Nat)
    (signature : TaprootSignature) :
    (((setKeySig inputs index signature)[other]?).bind (·.sighashType)).getD 0
      = ((inputs[other]?).bind (·.sighashType)).getD 0 := by
  rw [setKeySig_getElem?]
  split
  · cases inputs[other]? with
    | none => rfl
    | some input => rfl
  · rfl

theorem signJobs_total {tx : Transaction} {prevouts : List TxOut} {inputs : List PsbtInput}
    {jobs : List TaprootSignJob}
    (each : ∀ job ∈ jobs, ∃ signature, keySignature btc keys tx prevouts
      (((inputs[job.inputIndex]?).bind (·.sighashType)).getD 0) job = .ok signature) :
    ∀ count, ∃ result, signJobs btc keys tx prevouts inputs count jobs = .ok result := by
  induction jobs generalizing inputs with
  | nil => exact fun count => ⟨_, rfl⟩
  | cons job rest ih =>
      intro count
      obtain ⟨signature, made⟩ := each job List.mem_cons_self
      have later : ∀ other ∈ rest, ∃ signature', keySignature btc keys tx prevouts
          ((((setKeySig inputs job.inputIndex signature)[other.inputIndex]?).bind
            (·.sighashType)).getD 0) other = .ok signature' := by
        intro other member
        rw [requested_setKeySig]
        exact each other (List.mem_cons_of_mem job member)
      obtain ⟨result, done⟩ := ih later (count + 1)
      exact ⟨result, bind_ok.mpr ⟨signature, made, done⟩⟩

/-- The hash of a key path is defined for each input under all prevouts. -/
def SighashTotal (btc : PsbtCrate) : Prop :=
  ∀ tx index prevouts sighashType, prevouts.length = tx.input.val.length →
    index < prevouts.length → sighashType = 0x00 ∨ sighashType = 0x01 →
    ∃ sighash, btc.taprootKeySpendSignatureHash tx index prevouts sighashType = .ok sighash

theorem tapSighashType_total {requested : UInt32} (asks : requested = 0 ∨ requested = 1)
    (index : Nat) : ∃ sighashType, tapSighashType requested index = .ok sighashType := by
  rcases asks with rfl | rfl
  · exact ⟨0x00, rfl⟩
  · exact ⟨0x01, rfl⟩

theorem keySignature_total (sighashTotal : SighashTotal btc) {tx : Transaction}
    {prevouts : List TxOut} (aligned : prevouts.length = tx.input.val.length)
    {job : TaprootSignJob} (inside : job.inputIndex < prevouts.length) {childSecret : SecretKey}
    (derived : keys.deriveBtcChild btc job.accountType job.childPath = .ok childSecret)
    {requested : UInt32} (asks : requested = 0 ∨ requested = 1) :
    ∃ signature, keySignature btc keys tx prevouts requested job = .ok signature := by
  obtain ⟨sighashType, taken⟩ := tapSighashType_total asks job.inputIndex
  obtain ⟨sighash, hashed⟩ := sighashTotal tx job.inputIndex prevouts sighashType aligned inside
    (tapSighashType_ok taken).2
  refine ⟨⟨btc.signSchnorrNoAuxRand sighash (btc.tapTweakSecret childSecret job.merkleRoot),
    sighashType⟩, ?_⟩
  simp only [keySignature, bind_ok, mapError_ok]
  exact ⟨sighashType, taken, childSecret, derived, sighash, hashed, rfl⟩

theorem signDecoded_total (sighashTotal : SighashTotal btc)
    (aligned : psbt.inputs.length = psbt.unsignedTx.input.val.length)
    (known : ∀ input ∈ psbt.inputs, input.witnessUtxo.isSome)
    (asks : ∀ input ∈ psbt.inputs, input.sighashType.getD 0 = 0 ∨ input.sighashType.getD 0 = 1) :
    ∃ signed count, signDecoded btc keys psbt allowedAccount = .ok (signed, count) := by
  unfold signDecoded signTaprootInputs
  split
  · exact ⟨psbt, 0, rfl⟩
  · obtain ⟨prevouts, taken⟩ : ∃ prevouts, (psbt.inputs.mapM fun input =>
        okOr (EnclaveError.signing "missing witness_utxo for taproot") input.witnessUtxo)
          = .ok prevouts := by
      refine mapM_total fun input member => ?_
      obtain ⟨utxo, found⟩ := Option.isSome_iff_exists.mp (known input member)
      exact ⟨utxo, okOr_ok.mpr found⟩
    have sizes : prevouts.length = psbt.inputs.length := by
      have lengths := congrArg List.length (mapM_okOr_ok.mp taken)
      rw [List.length_map, List.length_map] at lengths
      exact lengths.symm
    have each : ∀ job ∈ scopedJobs btc keys psbt allowedAccount, ∃ signature,
        keySignature btc keys psbt.unsignedTx prevouts
          (((psbt.inputs[job.inputIndex]?).bind (·.sighashType)).getD 0) job = .ok signature := by
      intro job member
      obtain ⟨input, found, left⟩ := mem_scopedJobs.mp member
      obtain ⟨_, _, secret, held⟩ := left.owned
      have inside : job.inputIndex < prevouts.length := by
        rw [sizes]
        exact (List.getElem?_eq_some_iff.mp found).1
      rw [found]
      exact keySignature_total sighashTotal (sizes.trans aligned) inside held.derived
        (asks input (List.mem_of_getElem? found))
    obtain ⟨⟨inputs, total⟩, done⟩ := signJobs_total each 0
    refine ⟨{ psbt with inputs }, total, ?_⟩
    rw [bind_ok]
    exact ⟨prevouts, taken, bind_ok.mpr ⟨_, done, rfl⟩⟩

/-- Scoped signing changes only what it must. What is returned decodes to the PSBT
    with the outstanding signatures of the scope, each over all prevouts, and
    signing it again returns the same bytes and adds no signature. The codec is
    asked to read back the PSBT that the signer writes. -/
theorem scoped_signing_frame (psbtBytes out : Bytes) (allowedAccount : Option AccountType)
    (count : Nat)
    (roundTrip : ∀ psbt signed, btc.deserialize psbtBytes = .ok psbt →
      signDecoded btc keys psbt allowedAccount = .ok (signed, count) →
      btc.deserialize (btc.serialize signed) = .ok signed)
    (accepted : signPsbtScoped btc keys psbtBytes allowedAccount = .ok (out, count)) :
    ∃ psbt signed, btc.deserialize psbtBytes = .ok psbt ∧ btc.deserialize out = .ok signed ∧
      SignedFrom btc keys allowedAccount psbt signed count ∧
      (out.length ≤ MAX_PSBT_BYTES →
        signPsbtScoped btc keys out allowedAccount = .ok (out, 0)) := by
  simp only [signPsbtScoped, bind_ok, mapError_ok] at accepted
  obtain ⟨_, -, psbt, decoded, ⟨signed, total⟩, done, same⟩ := accepted
  cases same
  have back := roundTrip psbt signed decoded done
  have changes := signDecoded_ok done
  refine ⟨psbt, signed, decoded, back, changes, ?_⟩
  intro fits
  have sized : checkPsbtSize "psbt_bytes" (btc.serialize signed) = .ok () :=
    refuse_ok.mpr (Nat.not_lt.mpr fits)
  have again : signDecoded btc keys signed allowedAccount = .ok (signed, 0) := by
    rw [signDecoded, signTaprootInputs, if_pos changes.nothing_left]
  simp only [signPsbtScoped, bind_ok, mapError_ok]
  exact ⟨(), sized, signed, back, (signed, 0), again, rfl⟩

end

section Samples

def mixedSignature : TaprootSignature where
  signature := .ofNatBe 64 (
    0x9bdc7a4fc7ae54128ab47cd2027c16e2b8d977e1d78b6994e268ff10f32be43e * 2 ^ 256
    + 0x67fd642100c3c859499d6825f920f4a7496465bb8e10dc4ee392320eb1490ac5)
  sighashType := 0x00

def mixedColoredSignature : TaprootSignature where
  signature := .ofNatBe 64 (
    0x9aba1de109e6026f8d4daebe2724493d1fc1af18119f2afe59322be1a772b50c * 2 ^ 256
    + 0x66404da18614898cb4222b245f604dc4b85658c1d2414c15d00c20dd73cebd8a)
  sighashType := 0x00

/-- An input of each account, with its signature, and a foreign one. -/
def mixedPsbt (plain colored : Option TaprootSignature) : Psbt where
  unsignedTx := {
    version := 2
    input := ⟨[⟨.fill 32 0x11, 0, emptyScript, 0xffffffff⟩,
      ⟨.fill 32 0x33, 1, emptyScript, 0xffffffff⟩,
      ⟨.fill 32 0x22, 1, emptyScript, 0xffffffff⟩], by decide⟩
    output := ⟨[ownTxOut (vanillaRow 1) 60000, ⟨89000, sampleWpkh 0x99⟩], by decide⟩
    lockTime := 0 }
  inputs := [{ ownInput (vanillaRow 0) 100000 with tapKeySig := plain },
    { ownInput (coloredRow 0) 10000 with tapKeySig := colored },
    { witnessUtxo := some ⟨40000, sampleWpkh 0x77⟩ }]
  outputs := [ownOutput (vanillaRow 1), {}]

/-- The key-spend signature of an input, as a PSBT has it. -/
def keySigRecord : Option TaprootSignature → Bytes
  | none => []
  | some signature => [0x01, 0x13, 0x40] ++ signature.signature.1

def mixedBytesWith (plain colored : Option TaprootSignature) : Bytes := List.flatten [
  natBe 40 0x70736274ff0100cf0200000003111111111111111111111111111111111111111111111111111111,
  natBe 40 0x11111111110000000000ffffffff3333333333333333333333333333333333333333333333333333,
  natBe 40 0x3333333333330100000000ffffffff22222222222222222222222222222222222222222222222222,
  natBe 40 0x222222222222220100000000ffffffff0260ea0000000000002251206cb643996fb535172a46248a,
  natBe 40 0x46d063bcf070f2cee3e41005b0308dcd476e4a0ca85b010000000000160014999999999999999999,
  natBe 40 0x9999999999999999999999000000000001012ba08601000000000022512007e534fa92cda5523fb8,
  natBe 22 0x4df6ec4326671a7c66a80815fe1414a7b4e42aa6bbce,
  keySigRecord plain,
  natBe 40 0x2116c679075a866a558af01406ab1437aaa98ef929959a693c3b6cf5a72a7d3e93a01900932f8b09,
  natBe 40 0x5600008000000080000000800000000000000000011720c679075a866a558af01406ab1437aaa98e,
  natBe 40 0xf929959a693c3b6cf5a72a7d3e93a00001012b102700000000000022512023db39fae4ab0df8e8bd,
  natBe 22 0xff98bd8ab07dc554d6a50ae1dae48335b518118f3e77,
  keySigRecord colored,
  natBe 40 0x2116d162c6b84ca94769a7db86292f34e022f790bb131698f7c53bae64463b9615f61900932f8b09,
  natBe 40 0x560000801e9f0c80000000800000000000000000011720d162c6b84ca94769a7db86292f34e022f7,
  natBe 40 0x90bb131698f7c53bae64463b9615f60001011f409c00000000000016001477777777777777777777,
  natBe 40 0x7777777777777777777700010520122cdcc18a856600f494374bd1f094868dabe8c6657ae230ec5c,
  natBe 40 0x520e04673e332107122cdcc18a856600f494374bd1f094868dabe8c6657ae230ec5c520e04673e33,
  natBe 28 0x1900932f8b0956000080000000800000008001000000000000000000]

def mixedBytes : Bytes := mixedBytesWith none none

def signedMixedBytes : Bytes := mixedBytesWith mixedSignature none

def coloredMixedBytes : Bytes := mixedBytesWith none mixedColoredSignature

def mixedPrevouts : List TxOut :=
  [ownTxOut (vanillaRow 0) 100000, ownTxOut (coloredRow 0) 10000, ⟨40000, sampleWpkh 0x77⟩]

def mixedHash : Word 32 :=
  .ofNatBe 32 0x3735cd519ea51f725373de7d51f814a3b6f556152d4eb9451599c22e1b1c189d

def mixedColoredHash : Word 32 :=
  .ofNatBe 32 0xa93d3150fe54c50de02ced068bb877b5530c407385a8db7e6a5c1a23e073a478

def mixedTweak : SecretKey :=
  .ofNatBe 32 0xbc9d792310591e6fc9c60f12f3591c6d3a2ffb22f6e8d809b5f04d54f5a0bc39

def mixedColoredTweak : SecretKey :=
  .ofNatBe 32 0x14ecafb692fdeaa162c77c7fd4ba332916cf2a48d69703823b8ead13267bed5d

def mixedTables : SigningTables where
  hashes := [(((mixedPsbt none none).unsignedTx, 0, mixedPrevouts, 0x00), mixedHash),
    (((mixedPsbt none none).unsignedTx, 1, mixedPrevouts, 0x00), mixedColoredHash)]
  tweaks := [((vanillaRow 0).secret, mixedTweak), ((coloredRow 0).secret, mixedColoredTweak)]
  signatures := [((mixedHash, mixedTweak), mixedSignature.signature),
    ((mixedColoredHash, mixedColoredTweak), mixedColoredSignature.signature)]

def mixedCrate : PsbtCrate :=
  signingCrateWith [(mixedBytes, mixedPsbt none none),
    (signedMixedBytes, mixedPsbt mixedSignature none),
    (coloredMixedBytes, mixedPsbt none mixedColoredSignature)] mixedTables

theorem signingCrateWith_sighashTotal (psbts : List (Bytes × Psbt)) (tables : SigningTables) :
    SighashTotal (signingCrateWith psbts tables) := by
  intro tx index prevouts sighashType aligned inside _
  exact ⟨_, if_pos ⟨aligned, inside⟩⟩

theorem mixed_decodes : mixedCrate.deserialize mixedBytes = .ok (mixedPsbt none none) := by
  decide +kernel

theorem mixed_signs : signDecoded mixedCrate sampleAccounts (mixedPsbt none none) (some .vanilla)
    = .ok (mixedPsbt mixedSignature none, 1) := by
  decide +kernel

/-- Of an input of each account and a foreign one, the plain scope signs the first. -/
theorem scoped_signing_frame_mixed :
    signPsbtScoped mixedCrate sampleAccounts mixedBytes (some .vanilla)
        = .ok (signedMixedBytes, 1) ∧
      signPsbtScoped mixedCrate sampleAccounts signedMixedBytes (some .vanilla)
        = .ok (signedMixedBytes, 0) := by
  have accepted : signPsbtScoped mixedCrate sampleAccounts mixedBytes (some .vanilla)
      = .ok (signedMixedBytes, 1) := by decide +kernel
  obtain ⟨_, _, -, -, -, again⟩ :=
    scoped_signing_frame mixedBytes signedMixedBytes (some .vanilla) 1 (by
      intro psbt signed decoded done
      rw [mixed_decodes] at decoded
      cases decoded
      rw [mixed_signs] at done
      cases done
      decide +kernel) accepted
  exact ⟨accepted, again (by decide +kernel)⟩

end Samples

end EnclaveSigner.Rgb
