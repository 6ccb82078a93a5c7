import EnclaveSigner.SeedPersistence

/-! # The seed broker of the parent

The broker keeps the seed blob as one object of S3. A create is a conditional
put, which stores nothing when the object exists, and then a get of what is
there. Requests, puts and replies can fail or get lost on the way. A put that
fails may still have been stored.
-/

namespace EnclaveSigner.Parent

open Lib

/-- What all launches share: the clock and the object. -/
structure SeedWorld where
  now : Nat
  object : Option Bytes
  deriving DecidableEq

inductive BrokerError where
  | configuration
  | accessDenied
  | awsUnavailable
  | invalidCiphertext
  | busy
  | operationTimeout
  | requestTimeout
  | invalidFrame
  | invalidRequest
  | seedIdNotAllowed
  | responseTooLarge
  | internal
  deriving DecidableEq

def BrokerError.code : BrokerError → String
  | configuration => "configuration_error"
  | accessDenied => "access_denied"
  | awsUnavailable => "aws_unavailable"
  | invalidCiphertext => "invalid_ciphertext"
  | busy => "broker_busy"
  | operationTimeout => "operation_timeout"
  | requestTimeout => "request_timeout"
  | invalidFrame => "invalid_frame"
  | invalidRequest => "invalid_request"
  | seedIdNotAllowed => "seed_id_not_allowed"
  | responseTooLarge => "response_too_large"
  | internal => "internal_error"

def BrokerError.answer (error : BrokerError) : EnclaveError := brokerError error.code

inductive PutResult where
  /-- Stored, or refused because the object exists. -/
  | settled
  /-- Refused because of another put that is not settled. -/
  | conflict
  | failed (error : BrokerError) (stored : Bool)
  deriving DecidableEq

/-- What goes wrong with one request: before it reaches the broker, at S3, and on
    the way back. -/
structure Weather where
  request : Option BrokerError
  put : PutResult
  get : Option BrokerError
  reply : Option BrokerError

def Weather.clear : Weather := ⟨none, .settled, none, none⟩

def decodeCiphertext (base64 : Base64) (text : String) : Result Bytes := do
  let invalid := BrokerError.invalidCiphertext.answer
  refuse (text.utf8ByteSize > (MAX_CIPHERTEXT_BYTES + 2) / 3 * 4) invalid
  let blob ← okOr invalid (base64.decode text)
  refuse (blob = [] ∨ blob.length > MAX_CIPHERTEXT_BYTES ∨ base64.encode blob ≠ text) invalid
  pure blob

section Broker

variable (weather : Weather)

def failing (error : Option BrokerError) : Result Unit :=
  match error with
  | some error => .error error.answer
  | none => .ok ()

def brokerLoad : Task SeedWorld EnclaveError (Option Bytes) :=
  .read fun world => do
    failing weather.get
    refuse (world.object.any fun blob => blob = [] ∨ blob.length > MAX_CIPHERTEXT_BYTES)
      BrokerError.invalidCiphertext.answer
    pure world.object

def putObject (blob : Bytes) : Task SeedWorld EnclaveError Unit :=
  .atomically fun world =>
    let stored := { world with object := world.object <|> some blob }
    match weather.put with
    | .settled => (.ok (), stored)
    | .conflict => (.ok (), world)
    | .failed error committed => (.error error.answer, if committed then stored else world)

def brokerCreate (blob : Bytes) : Task SeedWorld EnclaveError Bytes := do
  putObject weather blob
  let saved ← brokerLoad weather
  okOr BrokerError.awsUnavailable.answer saved

end Broker

def brokerRequest (base64 : Base64) (weather : BlobRequest → Weather) (request : BlobRequest)
    (_deadline : Nat) : Task SeedWorld EnclaveError BlobResponse := do
  failing (weather request).request
  let response ← (match request with
    | .load => do
        let saved ← brokerLoad (weather request)
        pure (saved.elim .null fun blob => .string (base64.encode blob))
    | .create ciphertext => do
        let blob ← decodeCiphertext base64 ciphertext
        let committed ← brokerCreate (weather request) blob
        pure (.string (base64.encode committed)) : Task SeedWorld EnclaveError BlobResponse)
  failing (weather request).reply
  pure response

def brokerStore (base64 : Base64) (weather : BlobRequest → Weather) : SeedStore SeedWorld :=
  seedBroker base64 (brokerRequest base64 weather)

end EnclaveSigner.Parent
