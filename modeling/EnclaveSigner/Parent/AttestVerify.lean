import EnclaveSigner.Attestation.Document
import EnclaveSigner.Attestation.PolicyEncoding
import EnclaveSigner.Server.Keys

/-! # Verification of attested keys

The checks of the parent's tool on an answer of the enclave: the document must
bind the public key, and the commitment of the key bundle and the policy.
-/

namespace EnclaveSigner.Parent

open Lib Attestation Server

inductive VerifyMode where
  | real
  | mock
  deriving DecidableEq, Repr

/-- The parent's form of an answer: the fields of the bundle, the document and
    the policy side by side. -/
structure AttestedPublicKeyResponse where
  evmAddress : Bytes
  evmUncompressedPub : Bytes
  btcCompressedPub : Bytes
  btcXpub : String
  masterFingerprint : Bytes
  accountXpubVanilla : String
  accountXpubColored : String
  attestationDoc : Bytes
  chainId : UInt64
  bridgeContract : Bytes
  rgbAssetId : String
  evmGasTxUncompressedPub : Bytes
  evmGasTxAddress : Bytes
  ccdEd25519Pub : Bytes
  attestedPolicy : Bytes
  deriving DecidableEq

/-- The key bundle that the commitment covers, as the parent builds it. -/
def canonicalBundle (resp : AttestedPublicKeyResponse) : Bytes :=
  List.flatMap lengthPrefixed [
    resp.evmAddress,
    resp.btcCompressedPub,
    utf8 resp.btcXpub,
    resp.masterFingerprint,
    utf8 resp.accountXpubVanilla,
    utf8 resp.accountXpubColored,
    resp.evmUncompressedPub,
    natBe 8 resp.chainId.toNat,
    resp.bridgeContract,
    utf8 resp.rgbAssetId,
    resp.evmGasTxUncompressedPub,
    resp.evmGasTxAddress,
    resp.ccdEd25519Pub ]

/-- The fields of an answer that the tool verifies. -/
def attestedResponse (r : GetAttestedPublicKeyResponse) :
    Except String AttestedPublicKeyResponse := do
  let pk ← okOr "the enclave has no key; run init or clone first" r.publicKeys
  pure {
    evmAddress := pk.evmAddress
    evmUncompressedPub := pk.evmUncompressedPub
    btcCompressedPub := pk.btcCompressedPub
    btcXpub := pk.btcXpub
    masterFingerprint := pk.masterFingerprint
    accountXpubVanilla := pk.accountXpubVanilla
    accountXpubColored := pk.accountXpubColored
    attestationDoc := r.attestationDoc
    chainId := pk.chainId
    bridgeContract := pk.bridgeContract
    rgbAssetId := pk.rgbAssetId
    evmGasTxUncompressedPub := pk.evmGasTxUncompressedPub
    evmGasTxAddress := pk.evmGasTxAddress
    ccdEd25519Pub := pk.ccdEd25519Pub
    attestedPolicy := r.attestedPolicy }

/-- What the tool reports of a verified answer. -/
structure AttestedPubkeyResult where
  mode : VerifyMode
  response : AttestedPublicKeyResponse
  verified : VerifiedAttestation
  bundleCommitment : Word 32
  nonceSent : Word 32
  policy : AttestedPolicy
  deriving DecidableEq

/-- Verify the document, then check that it binds the public key and the
    commitment, and decode the policy. -/
def verifyKeyed (sha256 : Bytes → Word 32)
    (verifyDoc : Bytes → Except String VerifiedAttestation)
    (response : AttestedPublicKeyResponse) (nonce : Word 32) (mode : VerifyMode) :
    Except String AttestedPubkeyResult := do
  let verified ← verifyDoc response.attestationDoc
  refuse (verified.enclavePubkey ≠ response.evmUncompressedPub)
    (s!"attestation `public_key` ({verified.enclavePubkey.length} bytes) does not match wire " ++
      s!"evm_uncompressed_pub ({response.evmUncompressedPub.length} bytes)")
  let preimage := canonicalBundle response ++ response.attestedPolicy
  let bundleCommitment := sha256 preimage
  let userData ← okOr "attestation has no user_data field" verified.userData
  refuse (userData ≠ bundleCommitment.val)
    (s!"attestation `user_data` ({hexEncode userData}) does not match " ++
      s!"sha256(canonical_bundle || policy) ({hexEncode bundleCommitment.val}): " ++
      "the policy bytes do not match the attestation")
  let policy ← (AttestedPolicy.fromBytes response.attestedPolicy).mapError PolicyDecodeError.message
  pure { mode, response, verified, bundleCommitment, nonceSent := nonce, policy }

/-- The keys of an answer, as the enclave sent them. -/
def AttestedPublicKeyResponse.publicKeys (resp : AttestedPublicKeyResponse) :
    PublicKeysResponse where
  evmAddress := resp.evmAddress
  btcCompressedPub := resp.btcCompressedPub
  btcXpub := resp.btcXpub
  masterFingerprint := resp.masterFingerprint
  accountXpubVanilla := resp.accountXpubVanilla
  accountXpubColored := resp.accountXpubColored
  evmUncompressedPub := resp.evmUncompressedPub
  chainId := resp.chainId
  bridgeContract := resp.bridgeContract
  rgbAssetId := resp.rgbAssetId
  evmGasTxUncompressedPub := resp.evmGasTxUncompressedPub
  evmGasTxAddress := resp.evmGasTxAddress
  ccdEd25519Pub := resp.ccdEd25519Pub

theorem canonicalBundle_eq (resp : AttestedPublicKeyResponse) :
    canonicalBundle resp = canonicalPubkeyBundle resp.publicKeys := rfl

theorem attestedResponse_ok {r : GetAttestedPublicKeyResponse} {resp : AttestedPublicKeyResponse}
    (answered : attestedResponse r = .ok resp) :
    r.publicKeys = some resp.publicKeys ∧ resp.attestationDoc = r.attestationDoc ∧
      resp.attestedPolicy = r.attestedPolicy := by
  obtain ⟨pk, found, ⟨⟩⟩ := bind_ok.mp answered
  exact ⟨okOr_ok.mp found, rfl, rfl⟩

theorem verifyKeyed_ok_iff {sha256 : Bytes → Word 32}
    {verifyDoc : Bytes → Except String VerifiedAttestation}
    {response : AttestedPublicKeyResponse} {nonce : Word 32} {mode : VerifyMode} :
    (∃ result, verifyKeyed sha256 verifyDoc response nonce mode = .ok result) ↔
      ∃ verified policy, verifyDoc response.attestationDoc = .ok verified ∧
        verified.enclavePubkey = response.evmUncompressedPub ∧
        verified.userData =
          some (sha256 (keyedPreimage response.publicKeys response.attestedPolicy)).val ∧
        AttestedPolicy.fromBytes response.attestedPolicy = .ok policy := by
  constructor
  · rintro ⟨result, accepted⟩
    simp only [verifyKeyed, bind_ok, refuse_ok, not_not, ne_eq, mapError_ok] at accepted
    obtain ⟨verified, read, -, key, userData, found, -, rfl, policy, decoded, -⟩ := accepted
    exact ⟨verified, policy, read, key, okOr_ok.mp found, decoded⟩
  · rintro ⟨verified, policy, read, key, bound, decoded⟩
    let bundleCommitment := sha256 (keyedPreimage response.publicKeys response.attestedPolicy)
    refine ⟨⟨mode, response, verified, bundleCommitment, nonce, policy⟩,
      bind_ok.mpr ⟨verified, read, refuse_bind_ok.mpr ⟨not_not.mpr key, ?_⟩⟩⟩
    refine bind_ok.mpr ⟨_, okOr_ok.mpr bound, refuse_bind_ok.mpr ⟨not_not.mpr rfl, ?_⟩⟩
    exact bind_ok.mpr ⟨policy, mapError_ok.mpr decoded, rfl⟩

theorem handleGetAttestedPublicKey_keyed {sha256 : Bytes → Word 32} {ctx : KeysContext}
    {getAttestation : AttestationRequest → Result Bytes} {requestNonce : Bytes}
    {keys : KeyInfo} {policy : AttestedPolicy} {answer : GetAttestedPublicKeyResponse}
    (launched : ctx.launch = some policy)
    (answered : handleGetAttestedPublicKey sha256 ctx getAttestation requestNonce (.ok keys) =
      .ok answer) :
    let publicKeys := buildPublicKeysResponse keys ctx.bridgeConfig
    answer.publicKeys = some publicKeys ∧ answer.attestedPolicy = policy.toBytes ∧
      ∃ nonce, getAttestation ⟨nonce, some publicKeys.evmUncompressedPub,
        some (sha256 (keyedPreimage publicKeys policy.toBytes)).val⟩ = .ok answer.attestationDoc := by
  intro publicKeys
  simp only [handleGetAttestedPublicKey, attestKeys, KeysContext.commitmentBytes, launched,
    bind_ok] at answered
  obtain ⟨⟨request, carried, attestedPolicy⟩, ⟨nonce, -, _, ⟨⟩, ⟨⟩⟩, doc, attested, ⟨⟩⟩ := answered
  exact ⟨rfl, rfl, nonce, attested⟩

/-- Two keyed preimages are equal only for the same thirteen fields and the same
    policy bytes, and no keyed preimage of an enclave is a policy-only one. The
    parent hashes what the enclave hashes. With a device whose documents carry what
    they were asked for, the parent accepts a document of the enclave exactly with
    the fields and the policy that the enclave answered. -/
theorem attestation_binding (sha256 : Bytes → Word 32) :
    (∀ keys keys' policy policy', keys.Fits → keys'.Fits →
      keyedPreimage keys policy = keyedPreimage keys' policy' →
      keys = keys' ∧ policy = policy') ∧
    (∀ keys cfg policy policy',
      keyedPreimage (buildPublicKeysResponse keys cfg) policy ≠ policyPreimage policy') ∧
    (∀ answer response, attestedResponse answer = .ok response →
      answer.publicKeys.map canonicalPubkeyBundle = some (canonicalBundle response)) ∧
    ∀ (ctx : KeysContext) (policy : AttestedPolicy) (requestNonce : Bytes) (keys : KeyInfo)
      (getAttestation : AttestationRequest → Result Bytes)
      (verifyDoc : Bytes → Except String VerifiedAttestation)
      (answer : GetAttestedPublicKeyResponse) (response : AttestedPublicKeyResponse)
      (nonce : Word 32) (mode : VerifyMode),
      (∀ request doc verified, getAttestation request = .ok doc → verifyDoc doc = .ok verified →
        request.publicKey = some verified.enclavePubkey ∧ request.userData = verified.userData) →
      ctx.launch = some policy → policy.Fits →
      (buildPublicKeysResponse keys ctx.bridgeConfig).Fits → response.publicKeys.Fits →
      handleGetAttestedPublicKey sha256 ctx getAttestation requestNonce (.ok keys) = .ok answer →
      response.attestationDoc = answer.attestationDoc →
      Set.InjOn sha256 {keyedPreimage (buildPublicKeysResponse keys ctx.bridgeConfig) policy.toBytes,
        keyedPreimage response.publicKeys response.attestedPolicy} →
      ((∃ result, verifyKeyed sha256 verifyDoc response nonce mode = .ok result) ↔
        (∃ verified, verifyDoc answer.attestationDoc = .ok verified) ∧
          answer.publicKeys = some response.publicKeys ∧
          answer.attestedPolicy = response.attestedPolicy) := by
  refine ⟨fun _ _ _ _ => keyedPreimage_injective, keyedPreimage_ne_policyPreimage, ?_, ?_⟩
  · intro answer response answered
    rw [(attestedResponse_ok answered).1, Option.map_some, canonicalBundle_eq]
  · intro ctx policy requestNonce keys getAttestation verifyDoc answer response nonce mode carried
      launched fits keysFit responseFits answered sameDoc collisionFree
    obtain ⟨publicKeys, attestedPolicy, asked, issued⟩ :=
      handleGetAttestedPublicKey_keyed launched answered
    rw [verifyKeyed_ok_iff, sameDoc, publicKeys, attestedPolicy]
    constructor
    · rintro ⟨verified, decoded, read, key, bound, -⟩
      obtain ⟨-, userData⟩ := carried _ _ _ issued read
      have digest := Subtype.ext (Option.some.inj (userData.trans bound))
      have preimage := collisionFree (.inl rfl) (.inr rfl) digest
      obtain ⟨sameKeys, samePolicy⟩ := keyedPreimage_injective keysFit responseFits preimage
      exact ⟨⟨verified, read⟩, congrArg some sameKeys, samePolicy⟩
    · rintro ⟨⟨verified, read⟩, sameKeys, samePolicy⟩
      obtain ⟨key, userData⟩ := carried _ _ _ issued read
      have fields := Option.some.inj sameKeys
      refine ⟨verified, policy.canonical, read, ?_, ?_, ?_⟩
      · rw [← Option.some.inj key, fields]
        rfl
      · rw [← userData, fields, samePolicy]
      · rw [← samePolicy]
        exact AttestedPolicy.fromBytes_toBytes fits

/-! The answer of an enclave with a development policy, and the same answer with
another asset. -/

def sampleKeysContext : KeysContext where
  bridgeConfig := {
    chainId := 42161, bridgeContract := .fill 20 0x11, rgbAssetId := "rgb:asset"
    fundsInContract := .fill 20 0x22, evmFinalityTag := .finalized
    tokenContract := .fill 20 0x55, btcRelayMode := .required, maxConsignmentBytes := 10485760
    maxMerkleProofs := 16384, maxTotalProofBytes := 8388608, spvMinConfirmations := 3 }
  launch := some .development
  derived := fun _ => sampleDerivedKeys

def sampleBundle : PublicKeysResponse :=
  buildPublicKeysResponse (sampleKeyManager.keyInfo sampleKeysContext.derived)
    sampleKeysContext.bridgeConfig

def sampleSha256 : Bytes → Word 32 :=
  tableHash [(keyedPreimage sampleBundle AttestedPolicy.development.toBytes, Word.ofNatBe 32
    0x3b034f02d45856a2182c166d710906e910496c7f5e85ac6a9e7f9bbf061358b2)]

def sampleGetAttestation (request : AttestationRequest) : Result Bytes :=
  if request.publicKey = some sampleBundle.evmUncompressedPub ∧ request.userData =
      some (sampleSha256 (keyedPreimage sampleBundle AttestedPolicy.development.toBytes)).val then
    .ok [0xD2, 0x84]
  else .error (.attestation "NSM attestation failed: InvalidOperation")

def sampleVerifyDoc (doc : Bytes) : Except String VerifiedAttestation :=
  if doc = [0xD2, 0x84] then
    .ok ⟨sampleBundle.evmUncompressedPub, [], 0,
      some (sampleSha256 (keyedPreimage sampleBundle AttestedPolicy.development.toBytes)).val,
      List.replicate 32 7⟩
  else .error "attestation verify failed"

def sampleAnswer : GetAttestedPublicKeyResponse :=
  ⟨some sampleBundle, [0xD2, 0x84], AttestedPolicy.development.toBytes⟩

def sampleResponse (rgbAssetId : String) : AttestedPublicKeyResponse where
  evmAddress := sampleBundle.evmAddress
  evmUncompressedPub := sampleBundle.evmUncompressedPub
  btcCompressedPub := sampleBundle.btcCompressedPub
  btcXpub := sampleBundle.btcXpub
  masterFingerprint := sampleBundle.masterFingerprint
  accountXpubVanilla := sampleBundle.accountXpubVanilla
  accountXpubColored := sampleBundle.accountXpubColored
  attestationDoc := [0xD2, 0x84]
  chainId := sampleBundle.chainId
  bridgeContract := sampleBundle.bridgeContract
  rgbAssetId
  evmGasTxUncompressedPub := sampleBundle.evmGasTxUncompressedPub
  evmGasTxAddress := sampleBundle.evmGasTxAddress
  ccdEd25519Pub := sampleBundle.ccdEd25519Pub
  attestedPolicy := AttestedPolicy.development.toBytes

instance (keys : PublicKeysResponse) : Decidable keys.Fits :=
  inferInstanceAs (Decidable (∀ part ∈ keys.parts, part.length < 2 ^ 32))

theorem sampleGetAttestation_carried (request : AttestationRequest) (doc : Bytes)
    (verified : VerifiedAttestation) (issued : sampleGetAttestation request = .ok doc)
    (read : sampleVerifyDoc doc = .ok verified) :
    request.publicKey = some verified.enclavePubkey ∧ request.userData = verified.userData := by
  unfold sampleGetAttestation at issued
  unfold sampleVerifyDoc at read
  split_ifs at issued with asked
  split_ifs at read
  cases read
  exact asked

theorem attestation_binding_sample :
    (∃ result, verifyKeyed sampleSha256 sampleVerifyDoc (sampleResponse "rgb:asset") (.fill 32 7)
      .real = .ok result) ∧
    ¬ ∃ result, verifyKeyed sampleSha256 sampleVerifyDoc (sampleResponse "rgb:other") (.fill 32 7)
      .real = .ok result := by
  have answered : handleGetAttestedPublicKey sampleSha256 sampleKeysContext sampleGetAttestation
      (List.replicate 32 7) (.ok (sampleKeyManager.keyInfo sampleKeysContext.derived)) =
      .ok sampleAnswer := by decide +kernel
  have binding := fun asset responseFits collisionFree =>
    (attestation_binding sampleSha256).2.2.2 sampleKeysContext .development (List.replicate 32 7)
      (sampleKeyManager.keyInfo sampleKeysContext.derived) sampleGetAttestation sampleVerifyDoc
      sampleAnswer (sampleResponse asset) (.fill 32 7) .real sampleGetAttestation_carried rfl
      trivial (by decide +kernel) responseFits answered rfl collisionFree
  constructor
  · refine (binding "rgb:asset" (by decide +kernel) (Set.injOn_pair.mpr fun _ => ?_)).mpr ?_
    · decide +kernel
    · exact ⟨⟨_, rfl⟩, by decide +kernel, rfl⟩
  · intro accepted
    have refused := (binding "rgb:other" (by decide +kernel)
      (Set.injOn_pair.mpr fun same => absurd same (by decide +kernel))).mp accepted
    exact absurd refused.2.1 (by decide +kernel)

end EnclaveSigner.Parent
