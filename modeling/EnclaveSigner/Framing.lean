import EnclaveSigner.Error
import EnclaveSigner.Lib.MachineInt
import EnclaveSigner.Lib.Protobuf

/-! # Frames and the shape of a request

A request comes as one frame behind its length. A decoded element takes far more
memory than its bytes, so the shape of the frame is checked before the decode.
The check walks along the messages that hold repeated fields and counts every
field it sees. The parts of a message that hold no counted element are left out
of the decoded messages.
-/

namespace EnclaveSigner

open Lib

def MAX_MESSAGE_SIZE : UInt32 := 24 * 1024 * 1024

def MAX_WIRE_ELEMENTS : Nat := 2 ^ 19

/-- Why a walk over a frame stops. -/
inductive Halt where
  /-- The steps that were allowed are used up. -/
  | fuel
  /-- An access past the end of the bytes. -/
  | panic
  | refused (error : EnclaveError)
  deriving DecidableEq

/-- The request messages that hold other messages or repeated fields. -/
inductive Schema where
  | request
  | sign
  | rgbSource
  | merkleProofEntry
  | submitHeaders
  | leaf
  deriving DecidableEq

def Schema.child (schema : Schema) (tag : UInt32) : Schema :=
  match schema with
  | request => if tag = 3 then sign else if tag = 11 then submitHeaders else leaf
  | sign => if tag = 3 then rgbSource else leaf
  | rgbSource => if tag = 6 then merkleProofEntry else leaf
  | _ => leaf

def shapeError {α : Type} : Except String α → Except Halt α :=
  Except.mapError fun e => .refused (.framing s!"request shape: {e}")

def sliceTo (buf : Bytes) (len : Nat) : Except Halt Bytes :=
  if len ≤ buf.length then .ok (buf.take len) else .error .panic

def advance (buf : Bytes) (len : Nat) : Except Halt Bytes :=
  if len ≤ buf.length then .ok (buf.drop len) else .error .panic

def walk (wire : Wire) : Nat → Bytes → Schema → Nat → Except Halt Nat
  | 0, buf, _, left => if buf = [] then .ok left else .error .fuel
  | fuel + 1, buf, schema, left =>
      if buf = [] then .ok left
      else do
        let ((tag, wireType), buf) ← shapeError (wire.decodeKey buf)
        refuse (left = 0) (.refused (.framing
          s!"request has more than {MAX_WIRE_ELEMENTS} elements"))
        let left := left - 1
        let child := schema.child tag
        if child = .leaf ∨ wireType ≠ .lengthDelimited then
          let buf ← shapeError (wire.skipField wireType tag buf)
          walk wire fuel buf schema left
        else
          let (len, buf) ← shapeError (wire.decodeVarint buf)
          refuse (len.toNat > buf.length)
            (.refused (.framing "request shape: nested message truncated"))
          let nested ← sliceTo buf len.toNat
          let left ← walk wire fuel nested child left
          let buf ← advance buf len.toNat
          walk wire fuel buf schema left

/-- How many elements the walk over a frame counts. -/
def countRequestElements (wire : Wire) (frame : Bytes) : Except Halt Nat := do
  let left ← walk wire frame.length frame .request MAX_WIRE_ELEMENTS
  pure (MAX_WIRE_ELEMENTS - left)

/-- Refuse a frame with too many elements or too deep messages. -/
def checkRequestShape (wire : Wire) (frame : Bytes) : Except Halt Unit := do
  let _ ← countRequestElements wire frame

/-- The decoder that the message definitions give, with what it must agree on
    with the wire: a field ends where stepping over it ends. A field that holds
    no counted element may be refused for other reasons. -/
structure Prost extends Wire where
  mergeLeaf : Schema → UInt32 → WireType → Bytes → Except String Bytes
  mergeBytes : WireType → Bytes → Except String (Bytes × Bytes)
  leaf_skips : ∀ {schema tag wireType bytes rest},
    mergeLeaf schema tag wireType bytes = .ok rest → skipField wireType tag bytes = .ok rest
  bytes_skips : ∀ {wireType bytes value rest} (tag : UInt32),
    mergeBytes wireType bytes = .ok (value, rest) → skipField wireType tag bytes = .ok rest

structure MerkleProofMessage where
  merklePath : List Bytes
  deriving DecidableEq

structure RgbSourceMessage where
  merkleProofs : List MerkleProofMessage
  deriving DecidableEq

inductive SourceNetwork where
  | rgbSource (source : RgbSourceMessage)
  /-- A variant without counted elements. -/
  | other (tag : UInt32)
  deriving DecidableEq

structure SignMessage where
  sourceNetwork : Option SourceNetwork
  deriving DecidableEq

inductive RequestMessage where
  | sign (sign : SignMessage)
  | submitHeaders (headers : List Bytes)
  | other (tag : UInt32)
  deriving DecidableEq

abbrev EnclaveRequest := Option RequestMessage

namespace Prost

variable (prost : Prost)

def mergeRepeatedBytes (schema : Schema) (repeated tag : UInt32) (wireType : WireType)
    (bytes : Bytes) (values : List Bytes) : Except String (List Bytes × Bytes) :=
  if tag = repeated then do
    let (value, bytes) ← prost.mergeBytes wireType bytes
    pure (values ++ [value], bytes)
  else do
    let bytes ← prost.mergeLeaf schema tag wireType bytes
    pure (values, bytes)

def mergeMerkleProofEntry (tag : UInt32) (wireType : WireType) (bytes : Bytes)
    (entry : MerkleProofMessage) : Except String (MerkleProofMessage × Bytes) := do
  let (merklePath, bytes) ←
    prost.mergeRepeatedBytes .merkleProofEntry 4 tag wireType bytes entry.merklePath
  pure (⟨merklePath⟩, bytes)

def mergeSubmitHeaders (tag : UInt32) (wireType : WireType) (bytes : Bytes)
    (headers : List Bytes) : Except String (List Bytes × Bytes) :=
  prost.mergeRepeatedBytes .submitHeaders 1 tag wireType bytes headers

def mergeRgbSource (tag : UInt32) (wireType : WireType) (bytes : Bytes)
    (source : RgbSourceMessage) : Except String (RgbSourceMessage × Bytes) :=
  if tag = 6 then do
    let (entry, bytes) ← prost.mergeMessage prost.mergeMerkleProofEntry wireType bytes ⟨[]⟩
    pure (⟨source.merkleProofs ++ [entry]⟩, bytes)
  else do
    let bytes ← prost.mergeLeaf .rgbSource tag wireType bytes
    pure (source, bytes)

def mergeSign (tag : UInt32) (wireType : WireType) (bytes : Bytes) (sign : SignMessage) :
    Except String (SignMessage × Bytes) :=
  if tag = 3 then do
    let start : RgbSourceMessage :=
      match sign.sourceNetwork with
      | some (.rgbSource source) => source
      | _ => ⟨[]⟩
    let (source, bytes) ← prost.mergeMessage prost.mergeRgbSource wireType bytes start
    pure (⟨some (.rgbSource source)⟩, bytes)
  else do
    let bytes ← prost.mergeLeaf .sign tag wireType bytes
    pure (if tag = 2 ∨ tag = 6 then ⟨some (.other tag)⟩ else sign, bytes)

def OTHER_REQUESTS : List UInt32 := [1, 2, 5, 7, 8, 9, 10, 12, 13, 14, 15, 16, 17, 18]

def mergeRequest (tag : UInt32) (wireType : WireType) (bytes : Bytes) (request : EnclaveRequest) :
    Except String (EnclaveRequest × Bytes) :=
  if tag = 3 then do
    let start : SignMessage :=
      match request with
      | some (.sign sign) => sign
      | _ => ⟨none⟩
    let (sign, bytes) ← prost.mergeMessage prost.mergeSign wireType bytes start
    pure (some (.sign sign), bytes)
  else if tag = 11 then do
    let start : List Bytes :=
      match request with
      | some (.submitHeaders headers) => headers
      | _ => []
    let (headers, bytes) ← prost.mergeMessage prost.mergeSubmitHeaders wireType bytes start
    pure (some (.submitHeaders headers), bytes)
  else do
    let bytes ← prost.mergeLeaf .request tag wireType bytes
    pure (if tag ∈ OTHER_REQUESTS then some (.other tag) else request, bytes)

/-- The decode of a frame by `prost`. -/
def decode (frame : Bytes) : Except String EnclaveRequest :=
  prost.mergeAll prost.mergeRequest frame.length frame none

end Prost

/-- The frame at the front of a stream: four bytes of length, and that many
    bytes. -/
def readFrame (stream : Bytes) : Except Halt Bytes := do
  let shortRead : Halt := .refused (.io "failed to fill whole buffer")
  refuse (stream.length < 4) shortRead
  let len : UInt32 := .ofNat (ofLe (stream.take 4))
  refuse (len = 0) (.refused (.framing "zero-length message"))
  refuse (len > MAX_MESSAGE_SIZE) (.refused (.framing
    s!"message too large: {len} bytes (max {MAX_MESSAGE_SIZE})"))
  refuse (stream.length < 4 + len.toNat) shortRead
  pure ((stream.drop 4).take len.toNat)

/-- A message behind its length. -/
def writeMessage (message : Bytes) : Bytes :=
  natLe 4 (UInt32.ofNat message.length).toNat ++ message

def readRequest (prost : Prost) (stream : Bytes) : Except Halt EnclaveRequest := do
  let frame ← readFrame stream
  checkRequestShape prost.toWire frame
  (prost.decode frame).mapError fun e => .refused (.protobufDecode e)

end EnclaveSigner
