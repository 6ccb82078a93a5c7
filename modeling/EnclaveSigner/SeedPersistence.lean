import EnclaveSigner.Keys
import EnclaveSigner.Lib.Task

/-! # Seed persistence

The seed of an enclave is kept as a KMS ciphertext in a store that the parent
reaches. A launch with a pinned EVM address accepts only the saved seed of that
address. A launch without a pin only creates: it refuses a saved seed, and it
activates no seed but the one it made itself.

A launch is a task over the world that concurrent launches share. Instants are
numbers of clock ticks.
-/

namespace EnclaveSigner

open Lib

def MAX_CIPHERTEXT_BYTES : Nat := 6144

def seedFailure (message : String) : EnclaveError :=
  .invalidRequest s!"seed persistence: {message}"

/-- The seed that a ciphertext decrypts to. -/
abbrev Kms := Bytes → Option Seed

/-- The KMS as one launch finds it. A launch generates at most once, and a call
    may fail, but it decrypts to nothing else than the KMS does. -/
structure SeedKms (kms : Kms) where
  generate : (deadline : Nat) → Result Bytes
  decrypt : Bytes → (deadline : Nat) → Result Seed
  decrypt_ok : ∀ {ciphertext deadline seed}, decrypt ciphertext deadline = .ok seed →
    kms ciphertext = some seed

structure SeedStore (σ : Type) where
  load : (deadline : Nat) → Task σ EnclaveError (Option Bytes)
  /-- Creates if absent, and returns the blob that is persisted. -/
  create : Bytes → (deadline : Nat) → Task σ EnclaveError Bytes

def validateCiphertext (blob : Bytes) : Result Unit :=
  refuse (blob = [] ∨ blob.length > MAX_CIPHERTEXT_BYTES) (seedFailure "invalid ciphertext length")

section Recover

variable {σ : Type} {kms : Kms} (clock : σ → Nat)

def remainingUntil (deadline : Nat) : Task σ EnclaveError Unit :=
  .read fun world => refuse (deadline - clock world = 0) (.io "request deadline exceeded")

/-- The ciphertext that a launch may decrypt. The pin decides the direction. -/
def custodyCiphertext (store : SeedStore σ) (client : SeedKms kms)
    (expectedEvmAddress : Option EvmAddress) (deadline : Nat) : Task σ EnclaveError Bytes := do
  let saved ← store.load deadline
  match saved, expectedEvmAddress with
  | some blob, some _ => pure blob
  | some _, none =>
      .fail (seedFailure ("saved seed exists; an unpinned launch only bootstraps, set " ++
        "KMS_EXPECTED_EVM_ADDRESS to recover it"))
  | none, none =>
      remainingUntil clock deadline
      let blob ← client.generate deadline
      validateCiphertext blob
      remainingUntil clock deadline
      let committed ← store.create blob deadline
      -- Another initializer's blob, or a planted one, is not decrypted.
      refuse (committed ≠ blob) (seedFailure
        "another initializer committed a different seed; pin its identity and restart")
      pure committed
  | none, some _ =>
      .fail (seedFailure "saved seed is missing; a pinned identity cannot be replaced")

def recoverSeed (store : SeedStore σ) (client : SeedKms kms)
    (expectedEvmAddress : Option EvmAddress) (deadline : Nat) : Task σ EnclaveError Seed := do
  remainingUntil clock deadline
  let ciphertext ← custodyCiphertext clock store client expectedEvmAddress deadline
  validateCiphertext ciphertext
  remainingUntil clock deadline
  let seed ← client.decrypt ciphertext deadline
  remainingUntil clock deadline
  pure seed

end Recover

def restoreKeys (derive : KeyDerivation) (seed : Seed) (expected : Option EvmAddress) :
    Result KeyManager := do
  let manager ← KeyManager.fromSeed derive seed
  refuse (expected.any (manager.evmAddress ≠ ·)) .identityMismatch
  pure manager

/-- The seed store, the KMS and the pin of a launch. -/
structure Launch (σ : Type) (kms : Kms) where
  store : SeedStore σ
  client : SeedKms kms
  expectedEvmAddress : Option EvmAddress
  deadline : Nat

def Launch.loadKeys {σ : Type} {kms : Kms} (launch : Launch σ kms) (clock : σ → Nat)
    (derive : KeyDerivation) : Task σ EnclaveError KeyManager := do
  let seed ← recoverSeed clock launch.store launch.client launch.expectedEvmAddress launch.deadline
  restoreKeys derive seed launch.expectedEvmAddress

/-- The base64 codec of blobs in messages. Decoding what was encoded gives no
    other blob. -/
structure Base64 where
  encode : Bytes → String
  decode : String → Option Bytes
  decode_encode : ∀ {blob blob'}, decode (encode blob) = some blob' → blob' = blob

inductive BlobRequest where
  | load
  | create (ciphertext : String)
  deriving DecidableEq

inductive BlobResponse where
  | null
  | string (text : String)
  /-- Any other JSON value. -/
  | other
  deriving DecidableEq

def decodeBlob (base64 : Base64) : BlobResponse → Result (Option Bytes)
  | .null => .ok none
  | .other => .error (seedFailure "invalid ciphertext encoding")
  | .string encoded => do
      let blob ← okOr (seedFailure "invalid ciphertext encoding") (base64.decode encoded)
      validateCiphertext blob
      pure (some blob)

def brokerError (code : String) : EnclaveError :=
  .custody "seed broker" <|
    if code ∈ ["configuration_error", "seed_id_not_allowed"] then .configuration
    else if code = "access_denied" then .accessDenied
    else if code ∈ ["aws_unavailable", "broker_busy", "operation_timeout", "request_timeout"] then
      .unavailable
    else if code = "invalid_ciphertext" then .invalidCiphertext
    else if code = "internal_error" then .internal
    else .invalidResponse

def seedBroker {σ : Type} (base64 : Base64)
    (request : BlobRequest → (deadline : Nat) → Task σ EnclaveError BlobResponse) :
    SeedStore σ where
  load deadline := do
    let response ← request .load deadline
    decodeBlob base64 response
  create ciphertext deadline := do
    validateCiphertext ciphertext
    let response ← request (.create (base64.encode ciphertext)) deadline
    let blob ← decodeBlob base64 response
    okOr (seedFailure "broker did not return a committed seed") blob

end EnclaveSigner
