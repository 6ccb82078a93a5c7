import EnclaveSigner.Error
import EnclaveSigner.Lib.Bytes
import EnclaveSigner.Lib.Checks

/-! # Attestation documents

The verification of a document after its authentication. The COSE signature, the
certificate chain and the CBOR decoding are one step, `authenticate`: it gives
the content of a document that the Nitro root vouches for.
-/

namespace EnclaveSigner.Attestation

open Lib

inductive VerifyError where
  | attestation (reason : String)
  | certificate (reason : String)
  | pcrMismatch (pcr : Nat) (expected actual : String)
  deriving DecidableEq, Repr

def VerifyError.toEnclaveError : VerifyError → EnclaveError
  | attestation reason => .attestation reason
  | certificate reason => .certificate reason
  | pcrMismatch pcr expected actual => .pcrMismatch pcr expected actual

abbrev Pcrs := List (Nat × Bytes)

structure ExpectedPcrs where
  pcr0 : Word 48
  pcr1 : Word 48
  pcr2 : Word 48
  deriving DecidableEq

/-- The content of a document. The fields that only its authentication reads are
    left out. -/
structure AttestationDocument where
  pcrs : Pcrs
  timestamp : UInt64
  publicKey : Option Bytes
  userData : Option Bytes
  nonce : Option Bytes
  deriving DecidableEq

/-- What the verification of a document returns. -/
structure VerifiedAttestation where
  enclavePubkey : Bytes
  pcrs : Pcrs
  timestamp : UInt64
  userData : Option Bytes
  nonce : Bytes
  deriving DecidableEq

def MAX_DOCUMENT_BYTES : Nat := 64 * 1024

def checkDocumentSize (doc : Bytes) : Except VerifyError Unit :=
  refuse (doc.length > MAX_DOCUMENT_BYTES) (.attestation
    s!"attestation document is {doc.length} bytes; the limit is {MAX_DOCUMENT_BYTES}")

def checkNonce (docNonce : Option Bytes) (expected : Option (Word 32)) :
    Except VerifyError Bytes := do
  let nonce ← okOr (VerifyError.attestation "missing nonce in attestation") docNonce
  refuse (expected.any fun expected => decide (nonce ≠ expected.val)) (.attestation "nonce mismatch")
  pure nonce

def rejectDebugPcrs (pcrs : Pcrs) : Except VerifyError Unit :=
  refuse ([0, 1, 2].all fun index =>
      (pcrs.lookup index).any fun pcr => !pcr.isEmpty && pcr.all (· = 0))
    (.attestation ("all-zero PCR0/1/2: attestation is from a debug-mode enclave (no measurement) " ++
      "and is rejected by the production verifier; build with the unsafe " ++
      "`allow-debug-pcrs` feature only for debug/stage drills"))

def checkPcr (pcrs : Pcrs) (index : Nat) (expected : Word 48) : Except VerifyError Unit := do
  let actual ← okOr (VerifyError.attestation s!"Missing PCR{index}") (pcrs.lookup index)
  refuse (actual ≠ expected.val)
    (.pcrMismatch index (hexEncode expected.val) (hexEncode actual))

def verifyPcrs (pcrs : Pcrs) (expected : ExpectedPcrs) : Except VerifyError Unit := do
  checkPcr pcrs 0 expected.pcr0
  checkPcr pcrs 1 expected.pcr1
  checkPcr pcrs 2 expected.pcr2

def intoVerified (attestation : AttestationDocument) (nonce : Bytes) :
    Except VerifyError VerifiedAttestation := do
  let enclavePubkey ← okOr (VerifyError.attestation "missing public key") attestation.publicKey
  pure { enclavePubkey, pcrs := attestation.pcrs, timestamp := attestation.timestamp,
         userData := attestation.userData, nonce }

/-- Verify a keyed document. `authenticate` runs at the time of the call. -/
def verifyAttestation (authenticate : Bytes → Except VerifyError AttestationDocument)
    (doc : Bytes) (expectedPcrs : ExpectedPcrs) (expectedNonce : Option (Word 32)) :
    Except VerifyError VerifiedAttestation := do
  checkDocumentSize doc
  let attestation ← authenticate doc
  let nonce ← checkNonce attestation.nonce expectedNonce
  rejectDebugPcrs attestation.pcrs
  verifyPcrs attestation.pcrs expectedPcrs
  intoVerified attestation nonce

def checkClonePeerPcr3 (ownPcr3 : Word 48) (peer : VerifiedAttestation) :
    Result Unit := do
  refuse (ownPcr3 = Word.zero 48) (.attestation
    ("this enclave's PCR3 is all zero: the parent instance has no IAM role, so a clone " ++
      "peer cannot be bound to the operator account - refusing to clone"))
  let actual ← okOr
    (EnclaveError.attestation "the peer attestation has no PCR3 - refusing to clone")
    (peer.pcrs.lookup 3)
  refuse (actual ≠ ownPcr3.val)
    (.pcrMismatch 3 (hexEncode ownPcr3.val) (hexEncode actual))

theorem checkPcr_ok {pcrs : Pcrs} {index : Nat} {expected : Word 48} {u : Unit}
    (checked : checkPcr pcrs index expected = .ok u) : pcrs.lookup index = some expected.val := by
  simp only [checkPcr, bind_ok, refuse_ok, not_not] at checked
  obtain ⟨actual, found, rfl⟩ := checked
  exact okOr_ok.mp found

theorem verifyAttestation_ok {authenticate : Bytes → Except VerifyError AttestationDocument}
    {doc : Bytes} {expectedPcrs : ExpectedPcrs} {expectedNonce : Option (Word 32)}
    {verified : VerifiedAttestation}
    (passed : verifyAttestation authenticate doc expectedPcrs expectedNonce = .ok verified) :
    ∃ attestation, authenticate doc = .ok attestation ∧
      attestation.pcrs.lookup 0 = some expectedPcrs.pcr0.val ∧
      attestation.pcrs.lookup 1 = some expectedPcrs.pcr1.val ∧
      attestation.pcrs.lookup 2 = some expectedPcrs.pcr2.val ∧
      attestation.publicKey = some verified.enclavePubkey ∧
      attestation.pcrs = verified.pcrs ∧ attestation.userData = verified.userData ∧
      attestation.nonce = some verified.nonce := by
  simp only [verifyAttestation, verifyPcrs, intoVerified, bind_ok] at passed
  obtain ⟨-, -, attestation, authentic, nonce, fresh, -, -, ⟨⟩,
    ⟨⟨⟩, pcr0, ⟨⟩, pcr1, pcr2⟩, publicKey, keyed, ⟨⟩⟩ := passed
  simp only [checkNonce, bind_ok] at fresh
  obtain ⟨found, there, -, -, ⟨⟩⟩ := fresh
  exact ⟨attestation, authentic, checkPcr_ok pcr0, checkPcr_ok pcr1, checkPcr_ok pcr2,
    okOr_ok.mp keyed, rfl, rfl, okOr_ok.mp there⟩

end EnclaveSigner.Attestation
