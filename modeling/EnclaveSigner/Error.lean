import Mathlib.Data.List.Basic

/-! # Errors of the enclave

The refusals that the modelled requests end in, with the texts sent to the host.
-/

namespace EnclaveSigner

inductive EvmFinalityTag where
  | latest
  | safe
  | finalized
  deriving DecidableEq, Repr

def EvmFinalityTag.asStr : EvmFinalityTag → String
  | latest => "latest"
  | safe => "safe"
  | finalized => "finalized"

inductive CustodyFailure where
  | configuration
  | accessDenied
  | unavailable
  | invalidCiphertext
  | keyOrCiphertext
  | invalidResponse
  | internal
  deriving DecidableEq, Repr

def CustodyFailure.message : CustodyFailure → String
  | configuration => "configuration_error; verify custody configuration"
  | accessDenied => "access_denied; verify credentials and custody policies"
  | unavailable => "unavailable; retry the operation"
  | invalidCiphertext =>
      "invalid_ciphertext; restore the saved ciphertext and verify the key"
  | keyOrCiphertext =>
      "key_or_ciphertext_error; verify the configured KMS key and persisted ciphertext"
  | invalidResponse => "invalid_response; custody response was rejected"
  | internal => "internal_error; verify the enclave SDK and NSM runtime"

inductive EnclaveError where
  | custody (service : String) (failure : CustodyFailure)
  | keyNotInitialized
  | alreadyInitialized
  | invalidKey (reason : String)
  | invalidRequest (reason : String)
  | framing (reason : String)
  | protobufDecode (reason : String)
  | io (reason : String)
  | signing (reason : String)
  | crossCheck (reason : String)
  | evmFinalityPending (receiptBlock : UInt64) (tag : EvmFinalityTag) (finalityBlock : UInt64)
  | internal (reason : String)
  | notReady (state : String)
  | attestation (reason : String)
  | certificate (reason : String)
  | clone (reason : String)
  | pcrMismatch (pcr : Nat) (expected actual : String)
  | nonceReplay
  | exportCapReached (used cap : UInt64)
  | digestMismatch
  | pubkeyMismatch
  | identityMismatch
  | spv (reason : String)
  deriving DecidableEq, Repr

def EnclaveError.message : EnclaveError → String
  | custody service failure => s!"seed custody {service}: {failure.message}"
  | keyNotInitialized => "key not initialized"
  | alreadyInitialized => "already initialized"
  | invalidKey reason => s!"invalid key: {reason}"
  | invalidRequest reason => s!"invalid request: {reason}"
  | framing reason => s!"framing error: {reason}"
  | protobufDecode reason => s!"protobuf decode error: {reason}"
  | io reason => s!"io error: {reason}"
  | signing reason => s!"signing error: {reason}"
  | crossCheck reason => s!"cross-check failed: {reason}"
  | evmFinalityPending receiptBlock tag finalityBlock =>
      s!"FundsIn receipt block {receiptBlock} is above RPC {tag.asStr} block {finalityBlock} - " ++
        "refusing to sign"
  | internal reason => s!"internal error: {reason}"
  | notReady state => s!"not ready: enclave is in {state} state"
  | attestation reason => s!"attestation error: {reason}"
  | certificate reason => s!"certificate error: {reason}"
  | clone reason => s!"clone failed: {reason}"
  | pcrMismatch pcr expected actual =>
      s!"PCR mismatch: PCR{pcr} expected={expected}, actual={actual}"
  | nonceReplay => "nonce replay detected"
  | exportCapReached used cap =>
      s!"seed-export hard cap reached ({used}/{cap}); export refused"
  | digestMismatch => "cloning digest mismatch"
  | pubkeyMismatch => "pubkey mismatch: attestation pubkey does not match claimed pubkey"
  | identityMismatch =>
      "identity mismatch: recovered seed does not derive to expected address"
  | spv reason => s!"spv: {reason}"

/-- What a call in the enclave returns, unless it changes a state. -/
abbrev Result := Except EnclaveError

end EnclaveSigner
