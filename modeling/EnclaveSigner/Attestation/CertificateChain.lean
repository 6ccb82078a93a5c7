import EnclaveSigner.Attestation.Document
import EnclaveSigner.Lib.MachineInt

/-! # Certificate chains

The chain from the Nitro root to the certificate that signed a document. Each
issuer must sign the next certificate and be a CA. The X.509 decoding, the P-384
operations and the CBOR writer are the work of libraries, and parameters here.
-/

namespace EnclaveSigner.Attestation

open Lib

structure BasicConstraints where
  ca : Bool
  pathLenConstraint : Option UInt8
  deriving DecidableEq

structure KeyUsage where
  digitalSignature : Bool
  keyCertSign : Bool
  deriving DecidableEq

/-- What is read from a decoded certificate. An extension can be absent or
    malformed. -/
structure Certificate where
  tbsDer : Except String Bytes
  signature : Option Bytes
  subjectPublicKey : Option Bytes
  notBefore : UInt64
  notAfter : UInt64
  basicConstraints : Except String (Option BasicConstraints)
  keyUsage : Except String (Option KeyUsage)
  deriving DecidableEq

/-- The parts of a COSE document that the verification reads. -/
structure CoseSign1 where
  protectedHeader : Bytes
  payload : Option Bytes
  signature : Bytes

/-- The X.509 decoder, the P-384 operations and the CBOR writer. -/
structure CertificateLibs where
  VerifyingKey : Type
  Signature : Type
  fromDer : Bytes → Except String Certificate
  fromSec1Bytes : Bytes → Except String VerifyingKey
  signatureFromDer : Bytes → Except String Signature
  signatureFromRaw : Bytes → Except String Signature
  verify : VerifyingKey → Bytes → Signature → Bool
  /-- The CBOR of the signature structure of a protected header and a payload. -/
  sigStructure : Bytes → Bytes → Except String Bytes

def CERT_CLOCK_SKEW_TOLERANCE_SECS : UInt64 := 60

def checkCertValidityWindow (now notBefore notAfter : UInt64) : Except VerifyError Unit := do
  refuse (satAdd64 now CERT_CLOCK_SKEW_TOLERANCE_SECS < notBefore)
    (VerifyError.certificate "certificate not yet valid")
  refuse (now > satAdd64 notAfter CERT_CLOCK_SKEW_TOLERANCE_SECS)
    (VerifyError.certificate "certificate has expired")

def verifyCertValidity (cert : Certificate) (at_ : UInt64) : Except VerifyError Unit :=
  checkCertValidityWindow at_ cert.notBefore cert.notAfter

def extractP384Pubkey (libs : CertificateLibs) (cert : Certificate) :
    Except VerifyError libs.VerifyingKey := do
  let keyBytes ← okOr (VerifyError.certificate "missing public key bytes") cert.subjectPublicKey
  (libs.fromSec1Bytes keyBytes).mapError fun e => .certificate s!"invalid P-384 key: {e}"

/-- The P-384 key of the issuer signed the body of the subject. -/
def verifyIssuerSignedSubject (libs : CertificateLibs) (issuer subject : Certificate) :
    Except VerifyError Unit := do
  let issuerPubkey ← extractP384Pubkey libs issuer
  let tbsBytes ← subject.tbsDer.mapError fun e =>
    VerifyError.certificate s!"TBS DER encode failed: {e}"
  let sigBytes ← okOr (VerifyError.certificate "missing signature bytes") subject.signature
  let signature ← (libs.signatureFromDer sigBytes).mapError fun e =>
    VerifyError.certificate s!"invalid cert signature: {e}"
  refuse (libs.verify issuerPubkey tbsBytes signature = false)
    (VerifyError.certificate "certificate signature invalid")

/-- The budget that an issuer leaves. The trust anchor uses none of it. -/
def spendBudget (isTrustAnchor : Bool) (maxPathLen : Nat) : Except VerifyError Nat :=
  if isTrustAnchor then .ok maxPathLen
  else if maxPathLen = 0 then
    .error (.certificate "certificate path length constraint exceeded")
  else .ok (maxPathLen - 1)

/-- Apply the CA constraints of RFC 5280 6.1.4 to an issuer, and give the budget for
    the next one. -/
def checkCaConstraints (issuer : Certificate) (isTrustAnchor : Bool) (maxPathLen : Nat) :
    Except VerifyError Nat := do
  let found ← issuer.basicConstraints.mapError fun e =>
    VerifyError.certificate s!"invalid BasicConstraints: {e}"
  let basicConstraints ← okOr
    (VerifyError.certificate "issuer certificate missing BasicConstraints") found
  refuse (basicConstraints.ca = false)
    (VerifyError.certificate "issuer certificate is not a CA (BasicConstraints cA=FALSE)")
  let keyUsage ← issuer.keyUsage.mapError fun e => VerifyError.certificate s!"invalid KeyUsage: {e}"
  refuse (keyUsage.any fun usage => !usage.keyCertSign)
    (VerifyError.certificate "issuer certificate KeyUsage forbids keyCertSign")
  let budget ← spendBudget isTrustAnchor maxPathLen
  return match basicConstraints.pathLenConstraint with
    | some pathLenConstraint => min budget pathLenConstraint.toNat
    | none => budget

/-- Go along the chain from issuer to issuer. Only the first one is the trust
    anchor. -/
def verifyIssuers (libs : CertificateLibs) :
    Bool → List Certificate → Nat → Except VerifyError Nat
  | isTrustAnchor, issuer :: subject :: rest, maxPathLen => do
      verifyIssuerSignedSubject libs issuer subject
      let maxPathLen ← checkCaConstraints issuer isTrustAnchor maxPathLen
      verifyIssuers libs false (subject :: rest) maxPathLen
  | _, _, maxPathLen => .ok maxPathLen

def parseCoseEcdsaSignature (libs : CertificateLibs) (sigBytes : Bytes) :
    Except VerifyError libs.Signature := do
  refuse (sigBytes.length ≠ 96) (VerifyError.attestation
    s!"COSE signature must be 96-byte raw P-384 r||s, got {sigBytes.length} bytes")
  (libs.signatureFromRaw sigBytes).mapError fun e =>
    .attestation s!"invalid COSE raw signature: {e}"

def parseCertificate (libs : CertificateLibs) (what : String) (der : Bytes) (at_ : UInt64) :
    Except VerifyError Certificate := do
  let cert ← (libs.fromDer der).mapError fun e =>
    VerifyError.certificate s!"failed to parse {what}: {e}"
  verifyCertValidity cert at_
  return cert

/-- The certificate that signed the document must be allowed to, and must have. -/
def verifyLeaf (libs : CertificateLibs) (leaf : Certificate) (cose : CoseSign1) :
    Except VerifyError Unit := do
  let keyUsage ← leaf.keyUsage.mapError fun e =>
    VerifyError.certificate s!"invalid signing-cert KeyUsage: {e}"
  refuse (keyUsage.any fun usage => !usage.digitalSignature)
    (VerifyError.certificate "signing certificate KeyUsage forbids digitalSignature")
  let signingPubkey ← extractP384Pubkey libs leaf
  let coseSig ← parseCoseEcdsaSignature libs cose.signature
  let toVerify ← (libs.sigStructure cose.protectedHeader (cose.payload.getD [])).mapError fun e =>
    VerifyError.attestation s!"failed to encode sig structure: {e}"
  refuse (libs.verify signingPubkey toVerify coseSig = false)
    (VerifyError.attestation "COSE signature verification failed")

/-- Verify the chain of a document. The bundle starts with the root, and its last
    certificate issued the one that signed. -/
def verifyCertificateChain (libs : CertificateLibs) (signingCertDer : Bytes)
    (cabundle : List Bytes) (cose : CoseSign1) (rootDer : Bytes) (at_ : UInt64) :
    Except VerifyError Unit := do
  refuse (cabundle = []) (VerifyError.certificate "empty certificate bundle")
  refuse (cabundle.head? ≠ some rootDer)
    (VerifyError.certificate "cabundle[0] is not the AWS Nitro root CA")
  let issuers ← cabundle.zipIdx.mapM fun (der, i) => parseCertificate libs s!"cabundle[{i}]" der at_
  let leaf ← parseCertificate libs "signing cert" signingCertDer at_
  let chain := issuers ++ [leaf]
  let _ ← verifyIssuers libs true chain chain.length
  verifyLeaf libs leaf cose

/-- The extensions let the certificate issue others. -/
def Certificate.IsCa (issuer : Certificate) : Prop :=
  ∃ constraints usage, issuer.basicConstraints = .ok (some constraints) ∧ constraints.ca = true ∧
    issuer.keyUsage = .ok usage ∧ usage.any (fun usage => !usage.keyCertSign) = false

/-- The path length constraint, where there is one. -/
def Certificate.pathLen (issuer : Certificate) : Option Nat :=
  match issuer.basicConstraints with
  | .ok (some constraints) => constraints.pathLenConstraint.map UInt8.toNat
  | _ => none

/-- Every constraint along a chain is kept: after an issuer there are no more
    issuers than it allows. The last certificate of a chain is no issuer. -/
def PathLenKept (chain : List Certificate) : Prop :=
  ∀ before issuer after, chain = before ++ issuer :: after → after ≠ [] →
    ∀ limit, issuer.pathLen = some limit → after.length - 1 ≤ limit

variable {libs : CertificateLibs} {issuer subject : Certificate} {chain rest : List Certificate}
  {isTrustAnchor : Bool} {maxPathLen budget left : Nat}

theorem spendBudget_ok : spendBudget isTrustAnchor maxPathLen = .ok budget ↔
    maxPathLen = if isTrustAnchor then budget else budget + 1 := by
  unfold spendBudget
  cases isTrustAnchor with
  | true => simp
  | false =>
      cases maxPathLen with
      | zero => simp
      | succ n => simp

theorem checkCaConstraints_ok (ca : issuer.IsCa) :
    checkCaConstraints issuer isTrustAnchor maxPathLen = .ok left ↔
      ∃ budget, spendBudget isTrustAnchor maxPathLen = .ok budget ∧
        left = issuer.pathLen.elim budget (min budget) := by
  obtain ⟨constraints, usage, basic, isCa, keyUsage, permitted⟩ := ca
  have limited : ∀ budget, (match constraints.pathLenConstraint with
      | some limit => min budget limit.toNat
      | none => budget) = issuer.pathLen.elim budget (min budget) := by
    intro budget
    rw [Certificate.pathLen, basic]
    dsimp only
    cases constraints.pathLenConstraint with
    | none => rfl
    | some limit => rfl
  simp only [checkCaConstraints, basic, keyUsage, bind_ok, mapError_ok, okOr_ok, refuse_ok]
  constructor
  · rintro ⟨_, ⟨⟩, _, ⟨⟩, -, -, _, ⟨⟩, -, -, budget, spent, done⟩
    exact ⟨budget, spent, by rw [← limited]; exact (Except.ok.inj done).symm⟩
  · rintro ⟨budget, spent, rfl⟩
    refine ⟨_, rfl, _, rfl, (), by simp [isCa], _, rfl, (), by simp [permitted], budget, spent, ?_⟩
    rw [← limited]
    rfl

theorem pathLenKept_cons : PathLenKept (issuer :: subject :: rest) ↔
    (∀ limit, issuer.pathLen = some limit → rest.length ≤ limit) ∧
      PathLenKept (subject :: rest) := by
  constructor
  · intro kept
    refine ⟨fun limit found => ?_, ?_⟩
    · have := kept [] issuer (subject :: rest) rfl (by simp) limit found
      simpa using this
    · intro before other after split some limit found
      exact kept (issuer :: before) other after (by rw [split, List.cons_append]) some limit found
  · rintro ⟨first, later⟩ before other after split some limit found
    rcases List.cons_eq_append_iff.mp split with ⟨rfl, whole⟩ | ⟨others, rfl, tail⟩
    · obtain ⟨rfl, rfl⟩ := List.cons.inj whole
      simpa using first limit found
    · exact later others other after tail some limit found

theorem pathLenKept_of_short (short : chain.length ≤ 1) : PathLenKept chain := by
  rintro before issuer after rfl some
  have := List.length_pos_of_ne_nil some
  rw [List.length_append, List.length_cons] at short
  omega

theorem verifyIssuers_cons (linked : verifyIssuerSignedSubject libs issuer subject = .ok ())
    (ca : issuer.IsCa) :
    (∃ left, verifyIssuers libs isTrustAnchor (issuer :: subject :: rest) maxPathLen = .ok left) ↔
      ∃ budget, maxPathLen = (if isTrustAnchor then budget else budget + 1) ∧
        ∃ left, verifyIssuers libs false (subject :: rest)
          (issuer.pathLen.elim budget (min budget)) = .ok left := by
  simp only [verifyIssuers, bind_ok, linked, checkCaConstraints_ok ca, spendBudget_ok]
  constructor
  · rintro ⟨left, -, -, _, ⟨budget, spent, rfl⟩, done⟩
    exact ⟨budget, spent, left, done⟩
  · rintro ⟨budget, spent, left, done⟩
    exact ⟨left, (), trivial, _, ⟨budget, spent, rfl⟩, done⟩

theorem le_pathLen {count : Nat} : count ≤ issuer.pathLen.elim budget (min budget) ↔
    count ≤ budget ∧ ∀ limit, issuer.pathLen = some limit → count ≤ limit := by
  cases issuer.pathLen with
  | none => simp
  | some limit => simp

theorem verifyIssuers_below (links : chain.IsChain fun issuer subject =>
      verifyIssuerSignedSubject libs issuer subject = .ok ())
    (cas : ∀ issuer ∈ chain.dropLast, issuer.IsCa) :
    (∃ left, verifyIssuers libs false chain maxPathLen = .ok left) ↔
      chain.length - 1 ≤ maxPathLen ∧ PathLenKept chain := by
  induction links generalizing maxPathLen with
  | nil => simp [verifyIssuers, pathLenKept_of_short]
  | singleton issuer => simp [verifyIssuers, pathLenKept_of_short]
  | @cons_cons issuer subject rest linked _ ih =>
      have below := fun budget => @ih budget fun other member =>
        cas other (List.mem_cons_of_mem issuer member)
      rw [verifyIssuers_cons linked (cas issuer List.mem_cons_self), pathLenKept_cons]
      simp only [below, Bool.false_eq_true, if_false, le_pathLen, List.length_cons,
        Nat.add_sub_cancel]
      constructor
      · rintro ⟨budget, rfl, ⟨lasts, allowed⟩, kept⟩
        exact ⟨by omega, allowed, kept⟩
      · rintro ⟨lasts, allowed, kept⟩
        exact ⟨maxPathLen - 1, by omega, ⟨by omega, allowed⟩, kept⟩

theorem verifyIssuers_anchor : (∃ left, verifyIssuers libs true chain maxPathLen = .ok left) ↔
    ∃ left, verifyIssuers libs false chain (maxPathLen + 1) = .ok left := by
  rcases chain with _ | ⟨issuer, _ | ⟨subject, rest⟩⟩
  · simp [verifyIssuers]
  · simp [verifyIssuers]
  · simp [verifyIssuers, checkCaConstraints, spendBudget]

/-- Along a chain whose links verify and whose issuers are CAs, no issuer is
    refused for the path length exactly if each constraint allows the issuers after
    it. A larger budget to start with would change nothing. -/
theorem path_length_rule (libs : CertificateLibs) (chain : List Certificate)
    (links : chain.IsChain fun issuer subject =>
      verifyIssuerSignedSubject libs issuer subject = .ok ())
    (cas : ∀ issuer ∈ chain.dropLast, issuer.IsCa) (start : Nat) (enough : chain.length ≤ start) :
    (∃ left, verifyIssuers libs true chain start = .ok left) ↔
      ∀ before issuer after, chain = before ++ issuer :: after → after ≠ [] →
        ∀ limit, issuer.pathLen = some limit → after.length - 1 ≤ limit := by
  change _ ↔ PathLenKept chain
  rw [verifyIssuers_anchor, verifyIssuers_below links cas]
  exact and_iff_right (by omega)

theorem isCa_of_checked (checked : checkCaConstraints issuer isTrustAnchor maxPathLen = .ok left) :
    issuer.IsCa := by
  simp only [checkCaConstraints, bind_ok, mapError_ok, okOr_ok, refuse_ok] at checked
  obtain ⟨found, basic, constraints, some, -, isCa, usage, keyUsage, -, permitted, -⟩ := checked
  subst some
  exact ⟨constraints, usage, basic, by simpa using isCa, keyUsage, by simpa using permitted⟩

theorem verifyIssuers_ok (verified : verifyIssuers libs isTrustAnchor chain maxPathLen = .ok left) :
    (chain.IsChain fun issuer subject =>
      verifyIssuerSignedSubject libs issuer subject = .ok ()) ∧
    ∀ issuer ∈ chain.dropLast, issuer.IsCa := by
  fun_induction verifyIssuers libs isTrustAnchor chain maxPathLen with
  | case1 isTrustAnchor maxPathLen issuer subject rest ih =>
      simp only [bind_ok] at verified
      obtain ⟨⟨⟩, linked, budget, checked, rest⟩ := verified
      obtain ⟨links, cas⟩ := ih budget rest
      refine ⟨.cons_cons linked links, fun other member => ?_⟩
      rcases List.mem_cons.mp member with rfl | later
      · exact isCa_of_checked checked
      · exact cas other later
  | case2 chain isTrustAnchor maxPathLen short =>
      match chain, short with
      | [], _ => exact ⟨.nil, nofun⟩
      | [only], _ => exact ⟨.singleton only, nofun⟩
      | issuer :: subject :: rest, short => exact (short issuer subject rest rfl).elim

theorem verifyIssuers_accepts : (∃ left, verifyIssuers libs true chain chain.length = .ok left) ↔
    (chain.IsChain fun issuer subject =>
      verifyIssuerSignedSubject libs issuer subject = .ok ()) ∧
    (∀ issuer ∈ chain.dropLast, issuer.IsCa) ∧ PathLenKept chain := by
  rw [verifyIssuers_anchor]
  constructor
  · rintro ⟨left, walked⟩
    obtain ⟨links, cas⟩ := verifyIssuers_ok walked
    exact ⟨links, cas, ((verifyIssuers_below links cas).mp ⟨left, walked⟩).2⟩
  · rintro ⟨links, cas, kept⟩
    exact (verifyIssuers_below links cas).mpr ⟨by omega, kept⟩

/-- The certificate is what `der` decodes to, and is valid up to the clock skew. -/
def CertificateLibs.ReadsAt (libs : CertificateLibs) (at_ : UInt64) (der : Bytes)
    (cert : Certificate) : Prop :=
  libs.fromDer der = .ok cert ∧
    cert.notBefore.toNat ≤ at_.toNat + 60 ∧ at_.toNat ≤ cert.notAfter.toNat + 60

theorem parseCertificate_ok {what : String} {der : Bytes} {at_ : UInt64} {cert : Certificate} :
    parseCertificate libs what der at_ = .ok cert ↔ libs.ReadsAt at_ der cert := by
  have valid : verifyCertValidity cert at_ = .ok () ↔
      cert.notBefore.toNat ≤ at_.toNat + 60 ∧ at_.toNat ≤ cert.notAfter.toNat + 60 := by
    have early := cert.notBefore.toNat_lt
    have late := at_.toNat_lt
    simp only [verifyCertValidity, checkCertValidityWindow, refuse_bind_ok, refuse_ok, gt_iff_lt,
      UInt64.lt_iff_toNat_lt, toNat_satAdd64]
    change ¬ min (_ + 60) _ < _ ∧ ¬ min (_ + 60) _ < _ ↔ _
    omega
  simp only [parseCertificate, bind_ok, mapError_ok]
  constructor
  · rintro ⟨_, decoded, ⟨⟩, checked, ⟨⟩⟩
    exact ⟨decoded, valid.mp checked⟩
  · rintro ⟨decoded, inTime⟩
    exact ⟨cert, decoded, (), valid.mpr inTime, rfl⟩

/-- The key of `issuer` verifies the signature of `subject` over its bytes. -/
def CertificateLibs.Signs (libs : CertificateLibs) (issuer subject : Certificate) : Prop :=
  ∃ keyBytes key tbs sigBytes signature,
    issuer.subjectPublicKey = some keyBytes ∧ libs.fromSec1Bytes keyBytes = .ok key ∧
    subject.tbsDer = .ok tbs ∧ subject.signature = some sigBytes ∧
    libs.signatureFromDer sigBytes = .ok signature ∧ libs.verify key tbs signature = true

/-- `leaf` may sign documents, as far as it says for what its key is used, and its key
    verifies the signature of the envelope over the header and the payload. -/
def CertificateLibs.SignsEnvelope (libs : CertificateLibs) (leaf : Certificate)
    (cose : CoseSign1) : Prop :=
  ∃ usage keyBytes key signature signed,
    leaf.keyUsage = .ok usage ∧ (∀ stated ∈ usage, stated.digitalSignature = true) ∧
    leaf.subjectPublicKey = some keyBytes ∧ libs.fromSec1Bytes keyBytes = .ok key ∧
    cose.signature.length = 96 ∧ libs.signatureFromRaw cose.signature = .ok signature ∧
    libs.sigStructure cose.protectedHeader (cose.payload.getD []) = .ok signed ∧
    libs.verify key signed signature = true

theorem extractP384Pubkey_ok {cert : Certificate} {key : libs.VerifyingKey} :
    extractP384Pubkey libs cert = .ok key ↔
      ∃ keyBytes, cert.subjectPublicKey = some keyBytes ∧ libs.fromSec1Bytes keyBytes = .ok key := by
  simp only [extractP384Pubkey, bind_ok, okOr_ok, mapError_ok]

theorem verifyIssuerSignedSubject_ok :
    verifyIssuerSignedSubject libs issuer subject = .ok () ↔ libs.Signs issuer subject := by
  simp only [verifyIssuerSignedSubject, bind_ok, extractP384Pubkey_ok, okOr_ok, mapError_ok,
    refuse_ok, Bool.not_eq_false]
  constructor
  · rintro ⟨key, ⟨keyBytes, present, decoded⟩, tbs, encoded, sigBytes, carried, signature, parsed,
      verified⟩
    exact ⟨keyBytes, key, tbs, sigBytes, signature, present, decoded, encoded, carried, parsed,
      verified⟩
  · rintro ⟨keyBytes, key, tbs, sigBytes, signature, present, decoded, encoded, carried, parsed,
      verified⟩
    exact ⟨key, ⟨keyBytes, present, decoded⟩, tbs, encoded, sigBytes, carried, signature, parsed,
      verified⟩

theorem verifyLeaf_ok {leaf : Certificate} {cose : CoseSign1} :
    verifyLeaf libs leaf cose = .ok () ↔ libs.SignsEnvelope leaf cose := by
  have permitted : ∀ usage : Option KeyUsage,
      ¬ usage.any (fun usage => !usage.digitalSignature) = true ↔
        ∀ stated ∈ usage, stated.digitalSignature = true := by
    intro usage
    cases usage with
    | none => simp
    | some stated => simp
  simp only [verifyLeaf, parseCoseEcdsaSignature, bind_ok, extractP384Pubkey_ok, mapError_ok,
    refuse_ok, Bool.not_eq_false, not_not, permitted]
  constructor
  · rintro ⟨usage, read, -, may, key, ⟨keyBytes, present, decoded⟩, signature, ⟨-, length, parsed⟩,
      signed, encoded, verified⟩
    exact ⟨usage, keyBytes, key, signature, signed, read, may, present, decoded, length, parsed,
      encoded, verified⟩
  · rintro ⟨usage, keyBytes, key, signature, signed, read, may, present, decoded, length, parsed,
      encoded, verified⟩
    exact ⟨usage, read, (), may, key, ⟨keyBytes, present, decoded⟩, signature, ⟨(), length, parsed⟩,
      signed, encoded, verified⟩

/-- A document's chain is accepted exactly if it is rooted, in time, linked, made by
    CAs that keep every path length, and ends in the certificate that signed. -/
theorem accepts_exactly_sound_chains (libs : CertificateLibs) (signingCertDer rootDer : Bytes)
    (cabundle : List Bytes) (cose : CoseSign1) (at_ : UInt64) :
    verifyCertificateChain libs signingCertDer cabundle cose rootDer at_ = .ok () ↔
      cabundle.head? = some rootDer ∧ ∃ issuers leaf,
        List.Forall₂ (libs.ReadsAt at_) cabundle issuers ∧ libs.ReadsAt at_ signingCertDer leaf ∧
        (issuers ++ [leaf]).IsChain libs.Signs ∧ (∀ issuer ∈ issuers, issuer.IsCa) ∧
        PathLenKept (issuers ++ [leaf]) ∧ libs.SignsEnvelope leaf cose := by
  have read := fun issuers => List.forall₂_map_left_iff (R := libs.ReadsAt at_) (f := Prod.fst)
    (l := cabundle.zipIdx) (u := issuers)
  simp only [List.zipIdx_map_fst] at read
  have walk := fun issuers leaf => @verifyIssuers_accepts libs (issuers ++ [leaf])
  simp only [List.dropLast_concat, verifyIssuerSignedSubject_ok] at walk
  simp only [verifyCertificateChain, bind_ok, refuse_ok, not_not, mapM_ok, parseCertificate_ok,
    verifyLeaf_ok, ← read]
  constructor
  · rintro ⟨-, -, -, root, issuers, decoded, leaf, decodedLeaf, left, walked, done⟩
    obtain ⟨links, cas, kept⟩ := (walk issuers leaf).mp ⟨left, walked⟩
    exact ⟨root, issuers, leaf, decoded, decodedLeaf, links, cas, kept, done⟩
  · rintro ⟨root, issuers, leaf, decoded, decodedLeaf, links, cas, kept, done⟩
    obtain ⟨left, walked⟩ := (walk issuers leaf).mpr ⟨links, cas, kept⟩
    have some : cabundle ≠ [] := by
      rintro rfl
      cases root
    exact ⟨(), some, (), root, issuers, decoded, leaf, decodedLeaf, left, walked, done⟩

/-! A chain of three certificates: the root, an issuer that allows no other below it,
and the certificate that signs. -/

/-- The DER of the algorithm of every signature of the chain. -/
def ecdsaWithSha384 : Bytes := natBe 12 0x300a06082a8648ce3d040303

/-- The DER of a P-384 public key. -/
def p384Key (key : Bytes) : Bytes := natBe 23 0x3076301006072a8648ce3d020106052b81040022036200 ++ key

/-- The DER of a certificate with a short signature. -/
def sampleDer (tbs sig : Bytes) : Bytes :=
  natBe 2 0x3082 ++ natBe 2 (tbs.length + sig.length + 15) ++ tbs ++ ecdsaWithSha384
    ++ [0x03, UInt8.ofNat (sig.length + 1), 0] ++ sig

def sampleRootKey : Bytes :=
  natBe 33 0x040668cdefb30e3b118b76cd6801658788eae76b368b8efdcab58de15b04e144bb
    ++ natBe 33 0xb0ce7f06b6ea6aa2c2615c1cddea8c0336d9353fda877b1d62651309fdb0f7cb51
    ++ natBe 31 0x3ed6df6854eac2950eab847485ed3bef8f8f5aa06f228ffb9a9d84dac5a417

def sampleRootTbs : Bytes :=
  natBe 12 0x30820112a003020102020101 ++ ecdsaWithSha384
    ++ natBe 33 0x300f310d300b06035504030c04726f6f74301e170d323631313136313134393539
    ++ natBe 33 0x5a170d3336313131333131343935395a300f310d300b06035504030c04726f6f74
    ++ p384Key sampleRootKey
    ++ natBe 34 0xa3423040300f0603551d130101ff040530030101ff300e0603551d0f0101ff040403
    ++ natBe 34 0x020186301d0603551d0e041604143e09553112e6f9d3801c67472baed11a5339754d

def sampleRootSig : Bytes :=
  natBe 35 0x30650230667581bb03193cb0fdb3a4df6d883278389e9b0a2f8ea87ee7a092e7c75df3
    ++ natBe 35 0xe5a45f9a8075da19ca9a461f31bd56bf6a023100c519feec261db93b0e36286ff1decb
    ++ natBe 33 0x5ce8eb667c94c39d25002b96fe3d3f58283c64d6fbcd9acc4bccfd471d22a5857a

def sampleIssuerKey : Bytes :=
  natBe 33 0x047fd483e3f029eda546a25130c59571868a1bf887ee27dad763be53ebef5638c1
    ++ natBe 33 0x91862ad401d7a9330e482730851da3e25f5c815dd39cc6721ec5f5e02920824ceb
    ++ natBe 31 0xe11bdc1e24548b39a0d5291e79a81f1256f712d0841ef253d4d8a99b513a28

def sampleIssuerTbs : Bytes :=
  natBe 12 0x30820137a003020102020102 ++ ecdsaWithSha384
    ++ natBe 34 0x300f310d300b06035504030c04726f6f74301e170d3236313131363131343935395a
    ++ natBe 33 0x170d3237313131363131343935395a3010310e300c06035504030c05696e746572
    ++ p384Key sampleIssuerKey
    ++ natBe 35 0xa366306430120603551d130101ff040830060101ff020100300e0603551d0f0101ff04
    ++ natBe 35 0x0403020106301d0603551d0e04160414ab72a4bfc292543701255c3371a3f66aab5c29
    ++ natBe 34 0x86301f0603551d230418301680143e09553112e6f9d3801c67472baed11a5339754d

def sampleIssuerSig : Bytes :=
  natBe 35 0x3066023100fdcf26ca4365e11dd0dfcf01f61c9a4f80c76e14a64061f65d241642132d
    ++ natBe 35 0x1902f9549c9abe5b519c41ecf479aaf2e13d023100b652c09846b004d972dad272277b
    ++ natBe 34 0xdfbf74aca59f70feb0b6a04459cacf55b12067e4bbad0327620b162724183e0f5ada

def sampleLeafKey : Bytes :=
  natBe 33 0x04526191d1c2a7a48b3f1c86e4c38420b264456aef8ca968775bc772462e925f61
    ++ natBe 33 0x25e440d0aaa6e52d253dd899c5c89da1901e0eb906bface71b4b8f52e1adbbefc7
    ++ natBe 31 0x3a3d1ee0c414f0d675b7cbf739cf9b0a3f3d002cf2cf82e81bb3e258fe4534

def sampleLeafTbs : Bytes :=
  natBe 12 0x30820131a003020102020102 ++ ecdsaWithSha384
    ++ natBe 34 0x3010310e300c06035504030c05696e746572301e170d323631313136313134393539
    ++ natBe 33 0x5a170d3237313131363131343935395a300f310d300b06035504030c046c656166
    ++ p384Key sampleLeafKey
    ++ natBe 33 0xa360305e300c0603551d130101ff04023000300e0603551d0f0101ff0404030207
    ++ natBe 33 0x80301d0603551d0e04160414d6b04a73c44d02d9dd76796405ebb2af0d38519630
    ++ natBe 32 0x1f0603551d23041830168014ab72a4bfc292543701255c3371a3f66aab5c2986

def sampleLeafSig : Bytes :=
  natBe 34 0x3064023075a4afac6473cd5be499c7f6f53324a9ad77abb8c9559d378ed8c07c9841
    ++ natBe 34 0x310a2645d7320e7f4b3063743e419349723902301ed51a9b4a6235e647fe4b45c35e
    ++ natBe 34 0x57a91174b5b4a6ee50fd39f919e55d429d80fdd908aa07593a2145f2c524ff8eeaa8

def sampleRootCert : Certificate where
  tbsDer := .ok sampleRootTbs
  signature := some sampleRootSig
  subjectPublicKey := some sampleRootKey
  notBefore := 1794829799
  notAfter := 2110189799
  basicConstraints := .ok (some ⟨true, none⟩)
  keyUsage := .ok (some ⟨true, true⟩)

def sampleIssuerCert : Certificate where
  tbsDer := .ok sampleIssuerTbs
  signature := some sampleIssuerSig
  subjectPublicKey := some sampleIssuerKey
  notBefore := 1794829799
  notAfter := 1826365799
  basicConstraints := .ok (some ⟨true, some 0⟩)
  keyUsage := .ok (some ⟨false, true⟩)

def sampleLeafCert : Certificate where
  tbsDer := .ok sampleLeafTbs
  signature := some sampleLeafSig
  subjectPublicKey := some sampleLeafKey
  notBefore := 1794829799
  notAfter := 1826365799
  basicConstraints := .ok (some ⟨false, none⟩)
  keyUsage := .ok (some ⟨true, false⟩)

/-- An empty map, signed by the last certificate. -/
def sampleEnvelope : CoseSign1 where
  protectedHeader := natBe 4 0xa1013822
  payload := some [0xa0]
  signature := natBe 32 0xfaf7d37da9e3a0a429ec399dc76216aae6aa25b18e705f853964b7b30748df7b
    ++ natBe 32 0xf2f14be4097276ecbbe09b1881b2629023a59b9862959344f120020b68c9b2f2
    ++ natBe 32 0x113bd00d58359f8d35ee855285667c831cefa8080e55f80b206830b50f959645

def sampleCertificates : List (Bytes × Certificate) := [
  (sampleDer sampleRootTbs sampleRootSig, sampleRootCert),
  (sampleDer sampleIssuerTbs sampleIssuerSig, sampleIssuerCert),
  (sampleDer sampleLeafTbs sampleLeafSig, sampleLeafCert)]

/-- The CBOR of a short byte string. -/
def cborBytes (bytes : Bytes) : Bytes := UInt8.ofNat (0x40 + bytes.length) :: bytes

/-- The libraries on the certificates and signatures of the chain. -/
def sampleCertificateLibs : CertificateLibs where
  VerifyingKey := Bytes
  Signature := Bytes
  fromDer der := okOr "unknown certificate" (sampleCertificates.lookup der)
  fromSec1Bytes := .ok
  signatureFromDer := .ok
  signatureFromRaw := .ok
  verify := fun key message signature => decide ((key, message, signature) ∈
    [(sampleRootKey, sampleRootTbs, sampleRootSig),
      (sampleRootKey, sampleIssuerTbs, sampleIssuerSig),
      (sampleIssuerKey, sampleLeafTbs, sampleLeafSig),
      (sampleLeafKey, natBe 20 0x846a5369676e61747572653144a10138224041a0, sampleEnvelope.signature)])
  sigStructure protectedHeader payload :=
    if protectedHeader.length < 24 ∧ payload.length < 24 then
      .ok (natBe 12 0x846a5369676e617475726531 ++ cborBytes protectedHeader ++ cborBytes []
        ++ cborBytes payload)
    else .error "long document"

theorem sample_links : [sampleRootCert, sampleIssuerCert, sampleLeafCert].IsChain
    fun issuer subject =>
      verifyIssuerSignedSubject sampleCertificateLibs issuer subject = .ok () :=
  .cons_cons (by decide +kernel) (.cons_cons (by decide +kernel) (.singleton _))

theorem sample_cas : ∀ issuer ∈ [sampleRootCert, sampleIssuerCert, sampleLeafCert].dropLast,
    issuer.IsCa := by
  intro issuer member
  have either : issuer = sampleRootCert ∨ issuer = sampleIssuerCert := by simpa using member
  rcases either with rfl | rfl
  · exact ⟨⟨true, none⟩, some ⟨true, true⟩, rfl, rfl, rfl, rfl⟩
  · exact ⟨⟨true, some 0⟩, some ⟨false, true⟩, rfl, rfl, rfl, rfl⟩

theorem sample_pathLenKept : PathLenKept [sampleRootCert, sampleIssuerCert, sampleLeafCert] := by
  refine pathLenKept_cons.mpr ⟨nofun, pathLenKept_cons.mpr ⟨fun limit _ => Nat.zero_le limit, ?_⟩⟩
  exact pathLenKept_of_short (le_refl 1)

theorem path_length_rule_sample :
    ∃ left, verifyIssuers sampleCertificateLibs true
      [sampleRootCert, sampleIssuerCert, sampleLeafCert] 3 = .ok left :=
  (path_length_rule sampleCertificateLibs _ sample_links sample_cas 3 le_rfl).mpr sample_pathLenKept

/-- The chain of three is accepted for the document that the last one signed. -/
theorem accepts_exactly_sound_chains_sample :
    verifyCertificateChain sampleCertificateLibs (sampleDer sampleLeafTbs sampleLeafSig)
      [sampleDer sampleRootTbs sampleRootSig, sampleDer sampleIssuerTbs sampleIssuerSig]
      sampleEnvelope (sampleDer sampleRootTbs sampleRootSig) 1800000000 = .ok () := by
  refine (accepts_exactly_sound_chains _ _ _ _ _ _).mpr
    ⟨rfl, [sampleRootCert, sampleIssuerCert], sampleLeafCert, ?_, ?_, ?_, sample_cas,
      sample_pathLenKept, ?_⟩
  · exact .cons ⟨by decide +kernel, by decide, by decide⟩
      (.cons ⟨by decide +kernel, by decide, by decide⟩ .nil)
  · exact ⟨by decide +kernel, by decide, by decide⟩
  · exact sample_links.imp fun issuer subject => verifyIssuerSignedSubject_ok.mp
  · exact ⟨some ⟨true, false⟩, sampleLeafKey, sampleLeafKey, sampleEnvelope.signature, _, rfl, by simp,
      rfl, rfl, by decide +kernel, rfl, by rfl, by decide +kernel⟩

end EnclaveSigner.Attestation
