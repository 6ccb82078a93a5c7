import EnclaveSigner.Attestation.Policy
import EnclaveSigner.Lib.MachineInt

/-! # The policy encoding is canonical

Each field reader takes off exactly what the field's writer puts, so the decoder
accepts a byte string only if it is the encoding of what it returns.
-/

namespace EnclaveSigner.Attestation

open Lib Reader

section Fields

theorem signerRole_inverse (tag : UInt8) (role : SignerRole) :
    SignerRole.ofU8? tag = some role ↔ tag = role.toU8 := by
  constructor
  · intro read
    unfold SignerRole.ofU8? at read
    split at read <;> cases read <;> rfl
  · rintro rfl
    cases role <;> rfl

theorem attestationMode_inverse (tag : UInt8) (mode : AttestationMode) :
    AttestationMode.ofU8? tag = some mode ↔ tag = mode.toU8 := by
  constructor
  · intro read
    unfold AttestationMode.ofU8? at read
    split at read <;> cases read <;> rfl
  · rintro rfl
    cases mode <;> rfl

theorem evmDataSource_inverse (tag : UInt8) (source : EvmDataSource) :
    EvmDataSource.ofU8? tag = some source ↔ tag = source.toU8 := by
  constructor
  · intro read
    unfold EvmDataSource.ofU8? at read
    split at read <;> cases read <;> rfl
  · rintro rfl
    cases source <;> rfl

theorem btcDataSource_inverse (tag : UInt8) (source : BtcDataSource) :
    BtcDataSource.ofU8? tag = some source ↔ tag = source.toU8 := by
  constructor
  · intro read
    unfold BtcDataSource.ofU8? at read
    split at read <;> cases read
    rfl
  · rintro rfl
    cases source
    rfl

theorem bitcoinNetwork_inverse (tag : UInt8) (network : BitcoinNetwork) :
    BitcoinNetwork.ofU8? tag = some network ↔ tag = network.toU8 := by
  constructor
  · intro read
    unfold BitcoinNetwork.ofU8? at read
    split at read <;> cases read <;> rfl
  · rintro rfl
    cases network <;> rfl

theorem finalityTag_inverse (tag : UInt8) (head : EvmFinalityTag) :
    finalityTagOfU8? tag = some head ↔ tag = finalityTagToU8 head := by
  constructor
  · intro read
    unfold finalityTagOfU8? at read
    split at read <;> cases read <;> rfl
  · rintro rfl
    cases head <;> rfl

theorem flag_inverts : Inverts flag (fun _ => True) flagByte := by
  change Inverts flag _ fun flag => [if flag then 0x01 else 0x00]
  refine tagged_inverts ?_
  intro tag flag
  constructor
  · intro read
    split at read <;> cases read <;> rfl
  · rintro rfl
    cases flag <;> rfl

theorem array_inverts (n : Nat) : Inverts (array n) (fun _ => True) (·.val) :=
  word_inverts truncated n

theorem u32_inverts :
    Inverts (number truncated 4 UInt32.ofNat) (fun _ => True)
      fun value => natBe 4 value.toNat :=
  number_inverts (fun _ => UInt32.ofNat_toNat) (fun value => value.toNat_lt)
    fun _ small => toNat_ofNat32 small

theorem u64_inverts :
    Inverts (number truncated 8 UInt64.ofNat) (fun _ => True)
      fun value => natBe 8 value.toNat :=
  number_inverts (fun _ => UInt64.ofNat_toNat) (fun value => value.toNat_lt)
    fun _ small => toNat_ofNat64 small

theorem u128_inverts :
    Inverts (number truncated 16 (BitVec.ofNat 128)) (fun _ => True)
      fun value => natBe 16 value.toNat :=
  number_inverts (fun value => by simp) (fun value => value.isLt)
    fun _ small => by rw [BitVec.toNat_ofNat]; exact Nat.mod_eq_of_lt small

def TextFits (text : String) : Prop := (utf8 text).length < 2 ^ 32

instance TextFits.decidable (text : String) : Decidable (TextFits text) :=
  inferInstanceAs (Decidable (_ < _))

theorem string_inverts : Inverts string TextFits writeString := by
  intro bytes text rest
  rw [string, len, u32_inverts.bind_eq_ok]
  simp only [bind_eq_ok, take_eq_ok, lift_eq_ok, okOr_ok, ofUtf8?_eq_some,
    true_and]
  constructor
  · rintro ⟨n, _, rfl, _, _, ⟨length, rfl⟩, rfl, rfl⟩
    have same : UInt32.ofNat (utf8 text).length = n := by rw [length, UInt32.ofNat_toNat]
    refine ⟨length.trans_lt n.toNat_lt, ?_⟩
    rw [writeString, same, List.append_assoc]
    rfl
  · rintro ⟨fits, rfl⟩
    refine ⟨UInt32.ofNat (utf8 text).length, utf8 text ++ rest, ?_, utf8 text, rest,
      ⟨(toNat_ofNat32 fits).symm, rfl⟩, rfl, rfl⟩
    rw [writeString, List.append_assoc]
    rfl

theorem selectors_eq_ok {count : Nat} {before out : List (Word 4)} {bytes rest : Bytes}
    (ascending : before.IsChain fun a b => ¬ Word.le b a) :
    selectors count before bytes = .ok (out, rest) ↔
      ∃ read, out = before ++ read ∧ read.length = count ∧
        out.IsChain (fun a b => ¬ Word.le b a) ∧ bytes = read.flatMap (·.val) ++ rest := by
  induction count generalizing before bytes with
  | zero =>
      rw [selectors, pure_eq_ok]
      constructor
      · rintro ⟨⟩
        exact ⟨[], (List.append_nil _).symm, rfl, ascending, rfl⟩
      · rintro ⟨read, rfl, none_read, -, rfl⟩
        rw [List.length_eq_zero_iff.mp none_read, List.append_nil]
        rfl
  | succ count ih =>
      rw [selectors, (array_inverts 4).bind_eq_ok]
      simp only [bind_eq_ok, lift_eq_ok, refuse_ok, true_and]
      have next : ∀ selector : Word 4,
          (before ++ [selector]).IsChain (fun a b => ¬ Word.le b a) ↔
            ¬ ∃ last ∈ before.getLast?, Word.le selector last := by
        intro selector
        simp [List.isChain_append, ascending]
      constructor
      · rintro ⟨selector, _, rfl, _, _, ⟨above, rfl⟩, looped⟩
        obtain ⟨read, rfl, length, chain, rfl⟩ := (ih ((next selector).mpr above)).mp looped
        refine ⟨selector :: read, by simp, by simp [length], chain, ?_⟩
        rw [List.flatMap_cons, List.append_assoc]
      · rintro ⟨read, rfl, length, chain, rfl⟩
        obtain ⟨selector, read, rfl⟩ := List.exists_cons_of_length_eq_add_one length
        have front := chain
        rw [List.append_cons] at front
        have above := (next selector).mp front.left_of_append
        refine ⟨selector, read.flatMap (·.val) ++ rest, ?_, (), _, ⟨above, rfl⟩, ?_⟩
        · rw [List.flatMap_cons, List.append_assoc]
        · exact (ih ((next selector).mpr above)).mpr
            ⟨read, by simp, by simpa using length, by simpa using chain, rfl⟩

theorem selectorList_inverts :
    Inverts selectorList (fun read => read.length < 2 ^ 32 ∧ Ascending Word.le read)
      writeSelectors := by
  intro bytes read rest
  rw [selectorList, len, u32_inverts.bind_eq_ok]
  simp only [selectors_eq_ok List.isChain_nil, isChain_iff_ascending, List.nil_append, true_and]
  constructor
  · rintro ⟨count, _, rfl, _, rfl, length, ascending, rfl⟩
    have same : UInt32.ofNat read.length = count := by rw [length, UInt32.ofNat_toNat]
    refine ⟨⟨length.trans_lt count.toNat_lt, ascending⟩, ?_⟩
    rw [writeSelectors, same, List.append_assoc]
    rfl
  · rintro ⟨⟨fits, ascending⟩, rfl⟩
    refine ⟨UInt32.ofNat read.length, read.flatMap (·.val) ++ rest, ?_, read, rfl,
      (toNat_ofNat32 fits).symm, ascending, rfl⟩
    rw [writeSelectors, List.append_assoc]
    rfl

end Fields

section Policy

def EvmRpcTlsPin.Fits (pin : EvmRpcTlsPin) : Prop := TextFits pin.host

structure KmsPin.Fits (pin : KmsPin) : Prop where
  keyArn : TextFits pin.keyArn
  region : TextFits pin.region
  seedId : TextFits pin.seedId

/-- The fields of variable length are shorter than `2 ^ 32`. -/
structure ProductionPolicy.Fits (policy : ProductionPolicy) : Prop where
  rgbAssetId : TextFits policy.rgbAssetId
  electrumHost : TextFits policy.electrumHost
  evmRpcTls : ∀ pin ∈ policy.evmRpcTls, pin.Fits
  gasTxAllowedSelectors : policy.gasTxAllowedSelectors.length < 2 ^ 32
  kms : ∀ pin ∈ policy.kms, pin.Fits

theorem evmRpcTlsPin_inverts :
    Inverts evmRpcTlsPin EvmRpcTlsPin.Fits EvmRpcTlsPin.write := by
  apply Inverts.ofFields
  case inverts =>
    exact string_inverts.field EvmRpcTlsPin.host fun _ =>
      (array_inverts 32).field EvmRpcTlsPin.caSha256 fun _ =>
      Inverts.record fun record => by
        constructor
        · rintro ⟨rfl, rfl, -⟩
          rfl
        · rintro rfl
          exact ⟨rfl, rfl, trivial⟩
  case sameFits =>
    intro pin
    rw [true_and, and_true]
    rfl
  case sameWrite =>
    intro pin _
    rw [List.append_nil]
    rfl

theorem kmsPin_inverts : Inverts kmsPin KmsPin.Fits KmsPin.write := by
  have address_inverts := optional_inverts flag_inverts (array_inverts 20)
  apply Inverts.ofFields
  case inverts =>
    exact string_inverts.field KmsPin.keyArn fun _ =>
      string_inverts.field KmsPin.region fun _ =>
      string_inverts.field KmsPin.seedId fun _ =>
      address_inverts.field KmsPin.expectedEvmAddress fun _ =>
      Inverts.record fun record => by
        constructor
        · rintro ⟨rfl, rfl, rfl, rfl, -⟩
          rfl
        · rintro rfl
          exact ⟨rfl, rfl, rfl, rfl, trivial⟩
  case sameFits =>
    intro pin
    simp only [implies_true, and_true]
    exact ⟨fun ⟨keyArn, region, seedId⟩ => ⟨keyArn, region, seedId⟩,
      fun fits => ⟨fits.keyArn, fits.region, fits.seedId⟩⟩
  case sameWrite =>
    intro pin _
    simp only [KmsPin.write, List.append_nil, List.append_assoc]

section

open ProductionPolicy

theorem productionPolicy_inverts :
    Inverts productionPolicy
      (fun policy => policy.Fits ∧ Ascending Word.le policy.gasTxAllowedSelectors)
      ProductionPolicy.write := by
  have tls_inverts := optional_inverts flag_inverts evmRpcTlsPin_inverts
  have kms_inverts := optional_inverts flag_inverts kmsPin_inverts
  have pcr3_inverts := optional_inverts flag_inverts (array_inverts 48)
  apply Inverts.ofFields
  case inverts =>
    exact flag_inverts.field allowVanillaPsbt fun _ =>
      (tagged_inverts signerRole_inverse).field signerRole fun _ =>
      (tagged_inverts attestationMode_inverse).field attestation fun _ =>
      (tagged_inverts evmDataSource_inverse).field evmSource fun _ =>
      (tagged_inverts btcDataSource_inverse).field btcSource fun _ =>
      u64_inverts.field chainId fun _ =>
      (tagged_inverts bitcoinNetwork_inverse).field bitcoinNetwork fun _ =>
      (array_inverts 20).field bridgeContract fun _ =>
      string_inverts.field rgbAssetId fun _ =>
      (array_inverts 20).field fundsInContract fun _ =>
      (tagged_inverts finalityTag_inverse).field evmFinalityTag fun _ =>
      u32_inverts.field spvMinConfirmations fun _ =>
      string_inverts.field electrumHost fun _ =>
      tls_inverts.field evmRpcTls fun _ =>
      (array_inverts 20).field gasTxAllowedTo fun _ =>
      u64_inverts.field gasTxMaxGasLimit fun _ =>
      u128_inverts.field gasTxMaxFeePerGas fun _ =>
      u128_inverts.field gasTxMaxValueWei fun _ =>
      selectorList_inverts.field gasTxAllowedSelectors fun _ =>
      (array_inverts 20).field tokenContract fun _ =>
      kms_inverts.field kms fun _ =>
      pcr3_inverts.field clonePeerPcr3 fun _ =>
      Inverts.record fun record => by
        constructor
        · rintro ⟨rfl, rfl, rfl, rfl, rfl, rfl, rfl, rfl, rfl, rfl, rfl, rfl, rfl, rfl, rfl, rfl,
            rfl, rfl, rfl, rfl, rfl, rfl, -⟩
          rfl
        · rintro rfl
          exact ⟨rfl, rfl, rfl, rfl, rfl, rfl, rfl, rfl, rfl, rfl, rfl, rfl, rfl, rfl, rfl, rfl,
            rfl, rfl, rfl, rfl, rfl, rfl, trivial⟩
  case sameFits =>
    intro policy
    simp only [implies_true, true_and, and_true]
    constructor
    · rintro ⟨asset, host, tls, ⟨count, ascending⟩, kms⟩
      exact ⟨⟨asset, host, tls, count, kms⟩, ascending⟩
    · rintro ⟨fits, ascending⟩
      exact ⟨fits.rgbAssetId, fits.electrumHost, fits.evmRpcTls,
        ⟨fits.gasTxAllowedSelectors, ascending⟩, fits.kms⟩
  case sameWrite =>
    intro policy fits
    simp only [ProductionPolicy.write, fits.2.sortDedup_eq, List.flatten_cons, List.flatten_nil]

end

namespace AttestedPolicy

/-- The fields of variable length are shorter than `2 ^ 32`. -/
def Fits : AttestedPolicy → Prop
  | production policy => policy.Fits
  | development => True

def selectors : AttestedPolicy → List (Word 4)
  | production policy => policy.gasTxAllowedSelectors
  | development => []

def withSelectors (selectors : List (Word 4)) : AttestedPolicy → AttestedPolicy
  | production policy => production { policy with gasTxAllowedSelectors := selectors }
  | development => development

/-- The policy with its selectors sorted and each once. -/
def canonical (policy : AttestedPolicy) : AttestedPolicy :=
  policy.withSelectors (sortDedup Word.le policy.selectors)

theorem policy_inverts :
    Inverts Attestation.policy
      (fun policy => policy.Fits ∧ Ascending Word.le policy.selectors) toBytes := by
  intro bytes policy rest
  simp only [Attestation.policy, u8, (byte_inverts truncated).bind_eq_ok,
    bind_eq_ok, lift_eq_ok, refuse_ok, ne_eq, not_not, true_and]
  constructor
  · rintro ⟨_, _, rfl, _, _, ⟨rfl, rfl⟩, kind, tail, rfl, done⟩
    split at done
    · cases pure_eq_ok.mp done
      exact ⟨⟨trivial, List.Pairwise.nil⟩, rfl⟩
    · obtain ⟨read, tail, taken, ends⟩ := bind_eq_ok.mp done
      obtain ⟨good, rfl⟩ := (productionPolicy_inverts _ _ _).mp taken
      cases pure_eq_ok.mp ends
      exact ⟨good, rfl⟩
    · cases done
  · rintro ⟨good, rfl⟩
    cases policy with
    | development => exact ⟨_, 0x00 :: rest, rfl, (), _, ⟨rfl, rfl⟩, 0x00, rest, rfl, rfl⟩
    | production policy =>
        have taken := (productionPolicy_inverts _ policy rest).mpr ⟨good, rfl⟩
        exact ⟨_, 0x01 :: (policy.write ++ rest), rfl, (), _, ⟨rfl, rfl⟩, 0x01, _, rfl,
          bind_eq_ok.mpr ⟨policy, rest, taken, rfl⟩⟩

theorem fromBytes_eq_ok {bytes : Bytes} {policy : AttestedPolicy} :
    fromBytes bytes = .ok policy ↔
      (policy.Fits ∧ Ascending Word.le policy.selectors) ∧ bytes = policy.toBytes := by
  simp only [fromBytes, bind_ok, refuse_ok, ne_eq, not_not]
  constructor
  · rintro ⟨⟨read, rest⟩, taken, -, rfl, ⟨⟩⟩
    simpa only [List.append_nil] using (policy_inverts ..).mp taken
  · intro written
    refine ⟨(policy, []), (policy_inverts _ _ _).mpr ?_, (), rfl, rfl⟩
    simpa only [List.append_nil] using written

section Canonical

variable (policy : AttestedPolicy)

theorem toBytes_canonical : policy.canonical.toBytes = policy.toBytes := by
  cases policy with
  | development => rfl
  | production policy =>
      have again : sortDedup Word.le (sortDedup Word.le policy.gasTxAllowedSelectors) = _ :=
        (sortDedup_ascending _).sortDedup_eq
      simp only [canonical, withSelectors, selectors, toBytes, ProductionPolicy.write, again]

theorem selectors_canonical : policy.canonical.selectors = sortDedup Word.le policy.selectors := by
  cases policy with
  | development => rfl
  | production policy => rfl

theorem withSelectors_canonical (others : List (Word 4)) :
    policy.canonical.withSelectors others = policy.withSelectors others := by
  cases policy with
  | development => rfl
  | production policy => rfl

variable {policy}

theorem Fits.canonical (fits : policy.Fits) : policy.canonical.Fits := by
  cases policy with
  | development => trivial
  | production policy =>
      have shorter : (sortDedup Word.le policy.gasTxAllowedSelectors).length < 2 ^ 32 :=
        (sortDedup_length_le _).trans_lt fits.gasTxAllowedSelectors
      exact { fits with gasTxAllowedSelectors := shorter }

theorem fromBytes_toBytes (fits : policy.Fits) :
    fromBytes policy.toBytes = .ok policy.canonical := by
  refine fromBytes_eq_ok.mpr ⟨⟨fits.canonical, ?_⟩, policy.toBytes_canonical.symm⟩
  rw [selectors_canonical]
  exact sortDedup_ascending ..

theorem canonical_eq_of_toBytes_eq {other : AttestedPolicy} (fits : policy.Fits)
    (fitsOther : other.Fits) (same : policy.toBytes = other.toBytes) :
    policy.canonical = other.canonical := by
  have first := fromBytes_toBytes fits
  rw [same, fromBytes_toBytes fitsOther] at first
  exact (Except.ok.inj first).symm

end Canonical

/-- A policy whose fields fit is read back with its selectors sorted and each
    once, what is read encodes to the bytes it was read from, and two such policies
    have one encoding only if they agree in everything but the order and the
    repetition of the selectors. -/
theorem policy_encoding_canonical :
    (∀ policy : AttestedPolicy, policy.Fits →
      fromBytes policy.toBytes = .ok policy.canonical) ∧
    (∀ (bytes : Bytes) (policy : AttestedPolicy),
      fromBytes bytes = .ok policy → policy.toBytes = bytes) ∧
    (∀ policy other : AttestedPolicy, policy.Fits → other.Fits →
      policy.toBytes = other.toBytes →
        policy.withSelectors [] = other.withSelectors [] ∧
        ∀ selector, selector ∈ policy.selectors ↔ selector ∈ other.selectors) := by
  refine ⟨fun policy fits => fromBytes_toBytes fits,
    fun _ _ read => (fromBytes_eq_ok.mp read).2.symm, ?_⟩
  intro policy other fits fitsOther same
  have one := canonical_eq_of_toBytes_eq fits fitsOther same
  constructor
  · have bare := congrArg (withSelectors []) one
    rwa [withSelectors_canonical, withSelectors_canonical] at bare
  · intro selector
    have sorted := congrArg selectors one
    rw [selectors_canonical, selectors_canonical] at sorted
    calc selector ∈ policy.selectors
      _ ↔ selector ∈ sortDedup Word.le policy.selectors := mem_sortDedup.symm
      _ ↔ selector ∈ sortDedup Word.le other.selectors := by rw [sorted]
      _ ↔ selector ∈ other.selectors := mem_sortDedup

def samplePolicy (selectors : List (Word 4)) : AttestedPolicy :=
  .production {
    allowVanillaPsbt := false, signerRole := .burn, attestation := .real,
    evmSource := .pinnedTlsRpc, btcSource := .spvVerified, chainId := 42161,
    bitcoinNetwork := .testnet4, bridgeContract := .fill 20 0x11, rgbAssetId := "rgb:asset",
    fundsInContract := .fill 20 0x22, evmFinalityTag := .finalized, spvMinConfirmations := 6,
    electrumHost := "electrum.example", evmRpcTls := some ⟨"rpc.example", .fill 32 0x33⟩,
    gasTxAllowedTo := .fill 20 0x44, gasTxMaxGasLimit := 300000, gasTxMaxFeePerGas := 1000,
    gasTxMaxValueWei := 0, gasTxAllowedSelectors := selectors,
    tokenContract := .fill 20 0x55,
    kms := some ⟨"arn:key", "eu-west-1", "seed", some (.fill 20 0x66)⟩,
    clonePeerPcr3 := none }

theorem samplePolicy_fits {selectors : List (Word 4)} (few : selectors.length < 2 ^ 32) :
    (samplePolicy selectors).Fits := by
  have asset : TextFits "rgb:asset" := by decide +kernel
  have electrum : TextFits "electrum.example" := by decide +kernel
  have rpc : TextFits "rpc.example" := by decide +kernel
  have key : KmsPin.Fits ⟨"arn:key", "eu-west-1", "seed", some (.fill 20 0x66)⟩ :=
    ⟨by decide +kernel, by decide +kernel, by decide +kernel⟩
  exact ⟨asset, electrum, fun _ pinned => Option.some.inj pinned ▸ rpc, few,
    fun _ pinned => Option.some.inj pinned ▸ key⟩

/-- Two selectors in the wrong order, one of them twice, against the same two in
    order. -/
theorem policy_encoding_canonical_sample :
    let ordered := samplePolicy [.fill 4 0xa1, .fill 4 0xa2]
    let loose := samplePolicy [.fill 4 0xa2, .fill 4 0xa1, .fill 4 0xa2]
    loose.canonical = ordered ∧ fromBytes loose.toBytes = .ok loose.canonical ∧
      loose.canonical.toBytes = loose.toBytes ∧
      loose.withSelectors [] = ordered.withSelectors [] := by
  intro ordered loose
  have fits : loose.Fits := samplePolicy_fits (by decide)
  have fitsOrdered : ordered.Fits := samplePolicy_fits (by decide)
  have same : loose.canonical = ordered := by decide +kernel
  have read := policy_encoding_canonical.1 loose fits
  have written := policy_encoding_canonical.2.1 _ _ read
  refine ⟨same, read, written, ?_⟩
  exact (policy_encoding_canonical.2.2 loose ordered fits fitsOrdered (by rw [← written, same])).1

end AttestedPolicy

end Policy

end EnclaveSigner.Attestation
