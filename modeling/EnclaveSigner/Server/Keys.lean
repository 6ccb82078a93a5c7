import EnclaveSigner.Config
import EnclaveSigner.Keys
import EnclaveSigner.Lib.SelfDelimiting

/-! # Attested keys

The bundle of public keys and pins that an enclave answers with, and the bytes
that its attestation commits to: the fields of the bundle, each behind its length,
and after them the policy.
-/

namespace EnclaveSigner.Server

open Lib Attestation

/-- The bundle of public keys and pins. -/
structure PublicKeysResponse where
  evmAddress : Bytes
  btcCompressedPub : Bytes
  btcXpub : String
  masterFingerprint : Bytes
  accountXpubVanilla : String
  accountXpubColored : String
  evmUncompressedPub : Bytes
  chainId : UInt64
  bridgeContract : Bytes
  rgbAssetId : String
  evmGasTxUncompressedPub : Bytes
  evmGasTxAddress : Bytes
  ccdEd25519Pub : Bytes
  deriving DecidableEq

/-- The bundle of an active enclave. -/
def buildPublicKeysResponse (keys : KeyInfo) (cfg : BridgeConfig) : PublicKeysResponse where
  evmAddress := keys.evmAddress.val
  btcCompressedPub := keys.btcCompressedPubkey.val
  btcXpub := keys.btcXpub
  masterFingerprint := keys.masterFingerprint.val
  accountXpubVanilla := keys.accountXpubVanilla
  accountXpubColored := keys.accountXpubColored
  evmUncompressedPub := keys.evmUncompressedPub.val
  chainId := cfg.chainId
  bridgeContract := cfg.bridgeContract.val
  rgbAssetId := cfg.rgbAssetId
  evmGasTxUncompressedPub := keys.evmGasTxUncompressedPub.val
  evmGasTxAddress := keys.evmGasTxAddress.val
  ccdEd25519Pub := keys.ccdEd25519Pub.val

namespace PublicKeysResponse

def parts (keys : PublicKeysResponse) : List Bytes := [
  keys.evmAddress,
  keys.btcCompressedPub,
  utf8 keys.btcXpub,
  keys.masterFingerprint,
  utf8 keys.accountXpubVanilla,
  utf8 keys.accountXpubColored,
  keys.evmUncompressedPub,
  natBe 8 keys.chainId.toNat,
  keys.bridgeContract,
  utf8 keys.rgbAssetId,
  keys.evmGasTxUncompressedPub,
  keys.evmGasTxAddress,
  keys.ccdEd25519Pub ]

/-- Every field is shorter than `2 ^ 32` bytes. -/
def Fits (keys : PublicKeysResponse) : Prop := ∀ part ∈ keys.parts, part.length < 2 ^ 32

end PublicKeysResponse

/-- The fields of the bundle, each behind its length. -/
def canonicalPubkeyBundle (keys : PublicKeysResponse) : Bytes := keys.parts.flatMap lengthPrefixed

/-- What the attestation of keys hashes. -/
def keyedPreimage (keys : PublicKeysResponse) (attestedPolicy : Bytes) : Bytes :=
  canonicalPubkeyBundle keys ++ attestedPolicy

/-- What a clone response commits to: the identity and the policy of the donor, both
    keys of the handshake and the ciphertext. -/
def cloneTranscript (sha256 : Bytes → Word 32) (bundle : PublicKeysResponse) (policy : Bytes)
    (requester donor : Word 32) (ciphertext : Bytes) : Bytes :=
  utf8 "utexo/clone-response/v1\x00" ++ (sha256 (canonicalPubkeyBundle bundle)).val ++
    (sha256 policy).val ++ requester.val ++ donor.val ++ (sha256 ciphertext).val

/-- The version and the hash of the transcript. -/
def cloneCommitment (sha256 : Bytes → Word 32) (bundle : PublicKeysResponse) (policy : Bytes)
    (requester donor : Word 32) (ciphertext : Bytes) : Word 36 :=
  ⟨natBe 4 1 ++ (sha256 (cloneTranscript sha256 bundle policy requester donor ciphertext)).val, by
    rw [List.length_append, natBe_length, Word.length_val]⟩

def verifyCloneCommitment (actual : Option Bytes) (expected : Word 36) :
    Result Unit :=
  refuse (actual ≠ some expected.val)
    (.attestation "clone response version/identity/policy/transcript mismatch")

/-- What the attestation device is asked to sign. -/
structure AttestationRequest where
  nonce : Word 32
  publicKey : Option Bytes
  userData : Option Bytes
  deriving DecidableEq

structure GetAttestedPublicKeyResponse where
  publicKeys : Option PublicKeysResponse
  attestationDoc : Bytes
  attestedPolicy : Bytes
  deriving DecidableEq

/-- What the handlers of this module read of the server context. The launch is
    empty until the endpoints are set. -/
structure KeysContext where
  bridgeConfig : BridgeConfig
  launch : Option AttestedPolicy
  derived : Seed → DerivedKeys

/-- The bytes of the policy, once the endpoints are set. -/
def KeysContext.commitmentBytes (ctx : KeysContext) : Result Bytes :=
  okOr (.notReady "endpoints-unset") (ctx.launch.map AttestedPolicy.toBytes)

section Attested

variable (sha256 : Bytes → Word 32) (ctx : KeysContext)

/-- What the attestation of a request commits to, and what the answer carries
    beside the document. An enclave without keys attests its policy only. -/
def attestKeys (requestNonce : Bytes) (keys : Result KeyInfo) :
    Result (AttestationRequest × Option PublicKeysResponse × Bytes) := do
  let nonce ← okOr
    (EnclaveError.invalidRequest s!"nonce must be 32 bytes, got {requestNonce.length}")
    (Word.ofBytes? 32 requestNonce)
  let attestedPolicy ← ctx.commitmentBytes
  match keys with
  | .ok keys =>
      let publicKeys := buildPublicKeysResponse keys ctx.bridgeConfig
      let commitment := sha256 (keyedPreimage publicKeys attestedPolicy)
      pure (⟨nonce, some publicKeys.evmUncompressedPub, some commitment.val⟩, some publicKeys,
        attestedPolicy)
  | .error .keyNotInitialized =>
      pure (⟨nonce, none, some (policyCommitment sha256 attestedPolicy).val⟩, none, attestedPolicy)
  | .error error => .error error

/-- `GetAttestedPublicKey`. -/
def handleGetAttestedPublicKey (getAttestation : AttestationRequest → Result Bytes)
    (requestNonce : Bytes) (keys : Result KeyInfo) :
    Result GetAttestedPublicKeyResponse := do
  let (request, publicKeys, attestedPolicy) ← attestKeys sha256 ctx requestNonce keys
  let attestationDoc ← getAttestation request
  pure { publicKeys, attestationDoc, attestedPolicy }

end Attested

theorem PublicKeysResponse.parts_injective : Function.Injective parts := by
  intro a b same
  cases a
  cases b
  simp only [parts, List.cons.injEq, utf8_injective.eq_iff] at same
  obtain ⟨rfl, rfl, rfl, rfl, rfl, rfl, rfl, chain, rfl, rfl, rfl, rfl, rfl, -⟩ := same
  have chainId := UInt64.toNat_inj.mp (natBe_inj (UInt64.toNat_lt _) (UInt64.toNat_lt _) chain)
  rw [chainId]

theorem keyedPreimage_injective {keys keys' : PublicKeysResponse} {policy policy' : Bytes}
    (fits : keys.Fits) (fits' : keys'.Fits)
    (same : keyedPreimage keys policy = keyedPreimage keys' policy') :
    keys = keys' ∧ policy = policy' := by
  obtain ⟨parts, rest⟩ := flatMap_lengthPrefixed_parts fits fits' rfl same
  exact ⟨PublicKeysResponse.parts_injective parts, rest⟩

theorem keyedPreimage_ne_policyPreimage (keys : KeyInfo) (cfg : BridgeConfig)
    (policy policy' : Bytes) :
    keyedPreimage (buildPublicKeysResponse keys cfg) policy ≠ policyPreimage policy' := by
  intro same
  have address : lengthPrefixed keys.evmAddress.val = 0 :: 0 :: 0 :: 20 :: keys.evmAddress.val := by
    rw [lengthPrefixed, keys.evmAddress.property]
    rfl
  have keyed : (keyedPreimage (buildPublicKeysResponse keys cfg) policy).head? = some 0 := by
    rw [keyedPreimage, canonicalPubkeyBundle, PublicKeysResponse.parts, List.flatMap_cons]
    exact congrArg (fun front => (front ++ _ ++ policy).head?) address
  have text : (policyPreimage policy').head? = some 0x75 := rfl
  rw [same, text] at keyed
  cases keyed

end EnclaveSigner.Server
