import EnclaveSigner.Lib.Bytes

/-! # BER to DER

The KMS sends its envelope as streaming BER: constructed values of indefinite
length, and a string as a constructed value of primitive chunks. The converter
gives every value a definite and minimal length and joins the chunks of a string
into one primitive.
-/

namespace EnclaveSigner.Kms

open Lib

def MAX_DEPTH : Nat := 16

def MAX_TAG_BYTES : Nat := 4

def MAX_LENGTH_BYTES : Nat := 4

def UNIVERSAL_OCTET_STRING : UInt8 := 0x04

def CONSTRUCTED : UInt8 := 0x20

def CLASS_MASK : UInt8 := 0xC0

def CLASS_CONTEXT : UInt8 := 0x80

/-- A tree of BER values. -/
inductive Node where
  | primitive (tag : Bytes) (bytes : Bytes)
  | constructed (tag : Bytes) (children : List Node)

namespace Node

def isChunk : Node → Bool
  | primitive tag _ => tag = [UNIVERSAL_OCTET_STRING]
  | constructed _ _ => false

def chunkBytes : Node → Bytes
  | primitive _ bytes => bytes
  | constructed _ _ => []

/-- The tags of a constructed string: the universal OCTET STRING, and any
    context-specific tag of one octet. -/
def eligible (tag : Bytes) : Bool :=
  let first := tag.headD 0
  tag.length = 1 &&
    (first = UNIVERSAL_OCTET_STRING ||| CONSTRUCTED || first &&& CLASS_MASK = CLASS_CONTEXT)

/-- Join a constructed string into one primitive. -/
def joined : Node → Node
  | primitive tag bytes => primitive tag bytes
  | constructed tag children =>
      let allChunks := !children.isEmpty && children.all isChunk
      if eligible tag && allChunks then
        primitive [tag.headD 0 &&& ~~~CONSTRUCTED] (children.flatMap chunkBytes)
      else constructed tag children

end Node

/-- The octets after the first one of a long tag: how many there are. -/
def tagTail : Nat → Bytes → Option Nat
  | room + 1, octet :: rest =>
      if octet &&& 0x80 = 0 then some 1 else (tagTail room rest).map (· + 1)
  | _, _ => none

def tagLength : Bytes → Option Nat
  | first :: rest =>
      if first &&& 0x1F = 0x1F then (tagTail (MAX_TAG_BYTES - 1) rest).map (· + 1) else some 1
  | [] => none

/-- The length, or `none` for the indefinite form, and how many octets it has. -/
def parseLength : Bytes → Option (Option Nat × Nat)
  | l :: rest =>
      if l < 0x80 then some (some l.toNat, 1)
      else if l = 0x80 then some (none, 1)
      else
        let n := (l &&& 0x7F).toNat
        if n > MAX_LENGTH_BYTES then none
        else if rest.length < n then none
        else if rest.headD 0 = 0 then none
        else some (some (ofBe (rest.take n)), n + 1)
  | [] => none

structure Header where
  tag : Bytes
  length : Option Nat
  /-- How many octets both are. -/
  size : Nat

def parseHeader (input : Bytes) : Option Header := do
  let offset ← tagLength input
  let (length, octets) ← parseLength (input.drop offset)
  some ⟨input.take offset, length, offset + octets⟩

def isConstructed (tag : Bytes) : Bool := tag.headD 0 &&& CONSTRUCTED ≠ 0

def parseDefinite (parseChild : Bytes → Option (Node × Nat)) : Nat → Bytes → Option (List Node)
  | _, [] => some []
  | 0, _ :: _ => none
  | fuel + 1, bytes => do
      let (child, used) ← parseChild bytes
      let children ← parseDefinite parseChild fuel (bytes.drop used)
      some (child :: children)

/-- The values up to the end-of-contents octets, and how many octets are used. -/
def parseIndefinite (parseChild : Bytes → Option (Node × Nat)) :
    Nat → Bytes → Option (List Node × Nat)
  | 0, _ => none
  | fuel + 1, bytes =>
      if bytes.take 2 = [0, 0] then some ([], 2)
      else do
        let (child, used) ← parseChild bytes
        let (children, more) ← parseIndefinite parseChild fuel (bytes.drop used)
        some (child :: children, used + more)

/-- Parse one value at the start of `input`. Returns the node, joined, and the
    bytes used. `levels` is how deep the value may be. A child takes at least two
    bytes, so the number of bytes is enough for the loops. -/
def parse : Nat → Bytes → Option (Node × Nat)
  | 0, _ => none
  | levels + 1, input =>
      if input.length < 2 then none
      else do
        let header ← parseHeader input
        let rest := input.drop header.size
        match header.length, isConstructed header.tag with
        | some len, false =>
            if rest.length < len then none
            else some (Node.joined (.primitive header.tag (rest.take len)), header.size + len)
        | some len, true =>
            if rest.length < len then none
            else do
              let children ← parseDefinite (parse levels) len (rest.take len)
              some (Node.joined (.constructed header.tag children), header.size + len)
        | none, false => none
        | none, true => do
            let (children, used) ← parseIndefinite (parse levels) (rest.length + 1) rest
            some (Node.joined (.constructed header.tag children), header.size + used)

def encodeLength (len : Nat) : Bytes :=
  if len < 0x80 then [UInt8.ofNat len]
  else
    let digits := (natBe 8 len).dropWhile (· = 0)
    (0x80 ||| UInt8.ofNat digits.length) :: digits

mutual

def Node.encode : Node → Bytes
  | .primitive tag bytes => tag ++ (encodeLength bytes.length ++ bytes)
  | .constructed tag children =>
      tag ++ (encodeLength (encodeAll children).length ++ encodeAll children)

def encodeAll : List Node → Bytes
  | [] => []
  | child :: rest => child.encode ++ encodeAll rest

end

/-- Convert `input` (BER or DER) to DER. -/
def berToDer (input : Bytes) : Option Bytes := do
  let (node, used) ← parse (MAX_DEPTH + 1) input
  if used ≠ input.length then none else some node.encode

end EnclaveSigner.Kms
