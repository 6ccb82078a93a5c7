import EnclaveSigner.Keys

/-! # Cloning crypto

The cryptography of the handshake that moves a seed from one enclave to another:
the check of the operator's secret, the digest that binds a request to its key
and its donor, and the sealing of the seed under a key agreed by X25519.
-/

namespace EnclaveSigner

open Lib

def MIN_CLONING_SECRET_BYTES : Nat := 32

def MIN_CLONING_SECRET_DISTINCT_BYTES : Nat := 8

/-- How many bytes differ from each other and from those seen before. -/
def countDistinct : (seen : Bytes) → Bytes → Nat
  | _, [] => 0
  | seen, b :: rest =>
      if b ∈ seen then countDistinct seen rest else countDistinct (b :: seen) rest + 1

/-- The secret of the operator is long enough, and holds enough different bytes. -/
def validateCloningSecret (secret : String) : Result Unit := do
  let bytes := utf8 secret
  refuse (bytes = []) (.invalidRequest "cloning_secret is required")
  refuse (bytes.length < MIN_CLONING_SECRET_BYTES) (.invalidRequest
    s!"cloning_secret too short: {bytes.length} bytes < {MIN_CLONING_SECRET_BYTES} minimum")
  let distinct := countDistinct [] bytes
  refuse (distinct < MIN_CLONING_SECRET_DISTINCT_BYTES) (.invalidRequest
    (s!"cloning_secret too low-entropy: {distinct} distinct bytes < " ++
      s!"{MIN_CLONING_SECRET_DISTINCT_BYTES} minimum"))

/-- The primitives: HMAC-SHA256, SHA-256, X25519, HKDF-SHA256 and
    ChaCha20-Poly1305. -/
structure CloneCrypto where
  hmacSha256 : (key message : Bytes) → Word 32
  sha256 : Bytes → Word 32
  /-- The public key of a secret. -/
  x25519 : Word 32 → Word 32
  diffieHellman : (secret peer : Word 32) → Word 32
  wasContributory : (shared : Word 32) → Bool
  hkdfSha256 : (salt shared info : Bytes) → Word 32
  encrypt : (key : Word 32) → (nonce : Word 12) → Bytes → Except String Bytes
  decrypt : (key : Word 32) → (nonce : Word 12) → Bytes → Except String Bytes

/-- The X25519 key pair of one handshake. -/
structure CloneSession where
  secret : Word 32
  publicKey : Word 32
  deriving DecidableEq

section Crypto

variable (crypto : CloneCrypto)

def CloneSession.new (secret : Word 32) : CloneSession := ⟨secret, crypto.x25519 secret⟩

/-- Binds the request to its recipient key and its donor. -/
def makeCloningDigest (secret : String) (encryptionPubkey : Word 32)
    (targetClusterPk : EvmAddress) : Word 32 :=
  crypto.hmacSha256 (utf8 secret) (encryptionPubkey.val ++ targetClusterPk.val)

def verifyCloningDigest (secret : String) (encryptionPubkey : Word 32)
    (targetClusterPk : EvmAddress) (digest : Word 32) : Bool :=
  makeCloningDigest crypto secret encryptionPubkey targetClusterPk = digest

def rejectNonContributory (shared : Word 32) : Result Unit :=
  refuse (crypto.wasContributory shared = false) (.invalidRequest
    "peer X25519 public key was small-order (non-contributory DH)")

def HKDF_SALT : Bytes := utf8 "utexo-cloning-v1"

def HKDF_INFO : Bytes := utf8 "seed-encryption"

/-- Bound to both public keys, in the order donor, requester on both sides. -/
def deriveSymmetricKey (shared donorPubkey requesterPubkey : Word 32) : Word 32 :=
  crypto.hkdfSha256 HKDF_SALT shared.val (HKDF_INFO ++ donorPubkey.val ++ requesterPubkey.val)

def ZERO_NONCE : Word 12 := Word.zero 12

def encryptWithKey (key : Word 32) (plaintext : Bytes) : Result Bytes :=
  (crypto.encrypt key ZERO_NONCE plaintext).mapError fun e => .clone s!"seed seal failed: {e}"

def decryptWithKey (key : Word 32) (ciphertext : Bytes) : Result Seed := do
  let plaintext ← (crypto.decrypt key ZERO_NONCE ciphertext).mapError fun e =>
    EnclaveError.clone s!"seed unseal failed: {e}"
  okOr (.clone s!"decrypted seed has wrong length: {plaintext.length}")
    (Word.ofBytes? 64 plaintext)

/-- Donor side: seal the seed to the requester's key with a fresh keypair, whose
    secret is `ourSecret`. -/
def encryptSeedForPeer (ourSecret peerPubkey : Word 32) (seed : Seed) :
    Result (Bytes × Word 32) := do
  let ourPub := crypto.x25519 ourSecret
  let shared := crypto.diffieHellman ourSecret peerPubkey
  rejectNonContributory crypto shared
  let key := deriveSymmetricKey crypto shared ourPub peerPubkey
  let ciphertext ← encryptWithKey crypto key seed.val
  pure (ciphertext, ourPub)

def CloneSession.decryptSeedFromPeer (session : CloneSession) (peerPubkey : Word 32)
    (ciphertext : Bytes) : Result Seed := do
  let shared := crypto.diffieHellman session.secret peerPubkey
  rejectNonContributory crypto shared
  let key := deriveSymmetricKey crypto shared peerPubkey session.publicKey
  decryptWithKey crypto key ciphertext

end Crypto

end EnclaveSigner
