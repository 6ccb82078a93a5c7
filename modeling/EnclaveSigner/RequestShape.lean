import EnclaveSigner.Framing

/-! # What the shape check bounds

The walk and the decode read the same fields at the same places. Every element
that the decode adds to a message stands behind a key that the walk has counted.
-/

namespace EnclaveSigner

open Lib

section Halting

variable {α β : Type}

/-- A computation that ends, and ends with a value or a refusal. -/
def Proper (x : Except Halt α) : Prop := ∀ halt, x = .error halt → ∃ error, halt = .refused error

theorem proper_ok (value : α) : Proper (.ok value) := nofun

theorem proper_refuse {bad : Prop} [Decidable bad] (error : EnclaveError) :
    Proper (refuse bad (.refused error)) := by
  intro halt stopped
  unfold refuse at stopped
  split at stopped
  · cases stopped
    exact ⟨error, rfl⟩
  · cases stopped

theorem proper_shapeError (x : Except String α) : Proper (shapeError x) := by
  intro halt stopped
  cases x with
  | ok value => cases stopped
  | error e =>
      cases stopped
      exact ⟨_, rfl⟩

theorem proper_bind {x : Except Halt α} {f : α → Except Halt β} (first : Proper x)
    (second : ∀ value, x = .ok value → Proper (f value)) : Proper (x >>= f) := by
  intro halt stopped
  cases x with
  | error e =>
      cases stopped
      exact first _ rfl
  | ok value => exact second value rfl halt stopped

theorem shapeError_ok {x : Except String α} {value : α} :
    shapeError x = .ok value ↔ x = .ok value :=
  mapError_ok

variable {wire : Wire}

theorem walk_proper (fuel : Nat) (buf : Bytes) (schema : Schema) (left : Nat)
    (enough : buf.length ≤ fuel) : Proper (walk wire fuel buf schema left) := by
  induction fuel generalizing buf schema left with
  | zero =>
      rw [walk, if_pos (List.length_eq_zero_iff.mp (Nat.le_zero.mp enough))]
      exact proper_ok left
  | succ fuel ih =>
      rw [walk]
      split
      · exact proper_ok left
      · refine proper_bind (proper_shapeError _) fun keyed read => ?_
        obtain ⟨-, shorter⟩ := wire.key_suffix (shapeError_ok.mp read)
        refine proper_bind (proper_refuse _) fun _ _ => ?_
        dsimp only
        split
        · refine proper_bind (proper_shapeError _) fun rest skipped => ?_
          have after := (wire.skip_suffix (shapeError_ok.mp skipped)).length_le
          exact ih rest schema _ (by omega)
        · refine proper_bind (proper_shapeError _) fun lengthed read => ?_
          have after := (wire.varint_suffix (shapeError_ok.mp read)).length_le
          refine proper_bind (proper_refuse _) fun _ fits => ?_
          rw [refuse_ok, not_lt] at fits
          rw [sliceTo, if_pos fits, advance, if_pos fits]
          refine proper_bind (proper_ok _) fun nested same => ?_
          cases same
          refine proper_bind (ih _ _ _ ?_) fun left' _ => proper_bind (proper_ok _) ?_
          · rw [List.length_take]
            omega
          · rintro _ ⟨⟩
            apply ih
            rw [List.length_drop]
            omega

end Halting

section Elements

/-- The elements that the bound counts: the Merkle proofs with their paths, and
    the submitted headers. -/
def RgbSourceMessage.elements (source : RgbSourceMessage) : Nat :=
  source.merkleProofs.length + (source.merkleProofs.map (·.merklePath.length)).sum

def SignMessage.elements (sign : SignMessage) : Nat :=
  match sign.sourceNetwork with
  | some (.rgbSource source) => source.elements
  | _ => 0

/-- How many elements a decoded request holds. -/
def EnclaveRequest.elements : EnclaveRequest → Nat
  | some (.sign sign) => sign.elements
  | some (.submitHeaders headers) => headers.length
  | _ => 0

end Elements

section Covers

variable {wire : Wire} {μ : Type} {size : μ → Nat} {schema : Schema}
  {mergeField : UInt32 → WireType → Bytes → μ → Except String (μ × Bytes)}

theorem walk_succ_ok {fuel : Nat} {buf : Bytes} {left left' : Nat}
    (walked : walk wire (fuel + 1) buf schema left = .ok left') :
    buf = [] ∧ left' = left ∨ ∃ tag wireType rest, wire.decodeKey buf = .ok ((tag, wireType), rest) ∧
      0 < left ∧
      ((schema.child tag = .leaf ∨ wireType ≠ .lengthDelimited) ∧
          (∃ after, wire.skipField wireType tag rest = .ok after ∧
            walk wire fuel after schema (left - 1) = .ok left') ∨
        ¬ (schema.child tag = .leaf ∨ wireType ≠ .lengthDelimited) ∧
          ∃ len after middle, wire.decodeVarint rest = .ok (len, after) ∧
            walk wire fuel (after.take len.toNat) (schema.child tag) (left - 1) = .ok middle ∧
            walk wire fuel (after.drop len.toNat) schema middle = .ok left') := by
  rw [walk] at walked
  split at walked
  · rename_i empty
    cases walked
    exact .inl ⟨empty, rfl⟩
  · rw [bind_ok] at walked
    obtain ⟨⟨⟨tag, wireType⟩, rest⟩, read, walked⟩ := walked
    rw [refuse_bind_ok] at walked
    obtain ⟨some, walked⟩ := walked
    refine .inr ⟨tag, wireType, rest, shapeError_ok.mp read, Nat.pos_of_ne_zero some, ?_⟩
    dsimp only at walked
    split at walked
    · rename_i leaf
      rw [bind_ok] at walked
      obtain ⟨after, skipped, walked⟩ := walked
      exact .inl ⟨leaf, after, shapeError_ok.mp skipped, walked⟩
    · rename_i nested
      rw [bind_ok] at walked
      obtain ⟨⟨len, after⟩, read, walked⟩ := walked
      rw [refuse_bind_ok, not_lt] at walked
      obtain ⟨fits, walked⟩ := walked
      dsimp only at fits walked
      rw [sliceTo, if_pos fits, advance, if_pos fits] at walked
      change (walk wire fuel (after.take len.toNat) _ _ >>= fun left =>
        walk wire fuel (after.drop len.toNat) schema left) = _ at walked
      rw [bind_ok] at walked
      obtain ⟨middle, inner, outer⟩ := walked
      exact .inr ⟨nested, len, after, middle, shapeError_ok.mp read, inner, outer⟩

/-- A merged field ends where the walk's field ends, and adds at most what the
    walk counts for it: one for its key, and what the walk counts inside. -/
structure Covered (wire : Wire) (schema : Schema) (size : μ → Nat) (tag : UInt32)
    (wireType : WireType) (bytes : Bytes) (message message' : μ) (rest : Bytes) : Prop where
  flat : schema.child tag = .leaf ∨ wireType ≠ .lengthDelimited →
    wire.skipField wireType tag bytes = .ok rest ∧ size message' ≤ size message + 1
  nested : ¬ (schema.child tag = .leaf ∨ wireType ≠ .lengthDelimited) →
    ∃ len after, wire.decodeVarint bytes = .ok (len, after) ∧ rest = after.drop len.toNat ∧
      ∀ {fuel left left'},
        walk wire fuel (after.take len.toNat) (schema.child tag) left = .ok left' →
        size message' + left' ≤ size message + left + 1

def FieldCovered (wire : Wire) (schema : Schema)
    (mergeField : UInt32 → WireType → Bytes → μ → Except String (μ × Bytes)) (size : μ → Nat) :
    Prop :=
  ∀ {tag wireType bytes message message' rest},
    mergeField tag wireType bytes message = .ok (message', rest) →
    Covered wire schema size tag wireType bytes message message' rest

theorem walk_covers (field : FieldCovered wire schema mergeField size) {fuel fuel' : Nat}
    {buf : Bytes} {left left' : Nat} {message message' : μ}
    (walked : walk wire fuel buf schema left = .ok left')
    (merged : wire.mergeAll mergeField fuel' buf message = .ok message') :
    size message' + left' ≤ size message + left := by
  induction fuel generalizing fuel' buf left message with
  | zero =>
      rw [walk] at walked
      split at walked
      · rename_i empty
        cases walked
        subst empty
        cases Wire.mergeAll_nil merged
        exact Nat.le_refl _
      · cases walked
  | succ fuel ih =>
      rcases walk_succ_ok walked with ⟨rfl, rfl⟩ | ⟨tag, wireType, rest, read, some, walked⟩
      · cases Wire.mergeAll_nil merged
        exact Nat.le_refl _
      · obtain ⟨fuel'', middle, after, grown, merged⟩ := Wire.mergeAll_key read merged
        have covered := field grown
        rcases walked with ⟨leaf, after', skipped, outer⟩ |
          ⟨inside, len, after', middle', lengthed, inner, outer⟩
        · obtain ⟨skips, bound⟩ := covered.flat leaf
          cases skipped.symm.trans skips
          have later := ih outer merged
          omega
        · obtain ⟨len', after'', lengthed', rfl, bound⟩ := covered.nested inside
          cases lengthed.symm.trans lengthed'
          have first := bound inner
          have later := ih outer merged
          omega

theorem covered_leaf {tag : UInt32} {wireType : WireType} {bytes rest : Bytes}
    {message message' : μ} (leaf : schema.child tag = .leaf)
    (skipped : wire.skipField wireType tag bytes = .ok rest)
    (grows : size message' ≤ size message + 1) :
    Covered wire schema size tag wireType bytes message message' rest where
  flat _ := ⟨skipped, grows⟩
  nested inside := absurd (.inl leaf) inside

theorem covered_message {ν : Type} {sizeChild : ν → Nat} {start child' : ν}
    {mergeChild : UInt32 → WireType → Bytes → ν → Except String (ν × Bytes)} {tag : UInt32}
    {wireType : WireType} {bytes rest : Bytes} {message message' : μ}
    (inside : schema.child tag ≠ .leaf)
    (child : FieldCovered wire (schema.child tag) mergeChild sizeChild)
    (merged : wire.mergeMessage mergeChild wireType bytes start = .ok (child', rest))
    (grows : size message' + sizeChild start ≤ size message + sizeChild child' + 1) :
    Covered wire schema size tag wireType bytes message message' rest := by
  obtain ⟨delimited, len, after, lengthed, ends, inner⟩ := Wire.mergeMessage_ok merged
  constructor
  · rintro (leaf | other)
    · exact absurd leaf inside
    · exact absurd delimited other
  · intro _
    refine ⟨len, after, lengthed, ends, fun walked => ?_⟩
    have bound := walk_covers child walked inner
    omega

end Covers

section Messages

variable (prost : Prost)

theorem repeatedBytes_covered {schema : Schema} {repeated : UInt32}
    (leaf : ∀ tag, schema.child tag = .leaf) :
    FieldCovered prost.toWire schema (prost.mergeRepeatedBytes schema repeated) List.length := by
  intro tag wireType bytes values values' rest merged
  rw [Prost.mergeRepeatedBytes] at merged
  split at merged
  · obtain ⟨⟨value, after⟩, read, merged⟩ := bind_ok.mp merged
    cases merged
    refine covered_leaf (leaf tag) (prost.bytes_skips tag read) ?_
    rw [List.length_append, List.length_singleton]
  · obtain ⟨after, read, merged⟩ := bind_ok.mp merged
    cases merged
    exact covered_leaf (leaf tag) (prost.leaf_skips read) (Nat.le_succ _)

theorem merkleProofEntry_covered :
    FieldCovered prost.toWire .merkleProofEntry prost.mergeMerkleProofEntry
      (·.merklePath.length) := by
  intro tag wireType bytes entry entry' rest merged
  obtain ⟨⟨merklePath, after⟩, grown, merged⟩ := bind_ok.mp merged
  cases merged
  have covered := repeatedBytes_covered prost (fun _ => rfl) grown
  exact ⟨covered.flat, covered.nested⟩

theorem submitHeaders_covered :
    FieldCovered prost.toWire .submitHeaders prost.mergeSubmitHeaders List.length :=
  repeatedBytes_covered prost fun _ => rfl

theorem RgbSourceMessage.elements_append (source : RgbSourceMessage) (entry : MerkleProofMessage) :
    RgbSourceMessage.elements ⟨source.merkleProofs ++ [entry]⟩ =
      source.elements + entry.merklePath.length + 1 := by
  simp only [RgbSourceMessage.elements, List.length_append, List.length_singleton, List.map_append,
    List.map_singleton, List.sum_append, List.sum_singleton]
  omega

theorem rgbSource_covered :
    FieldCovered prost.toWire .rgbSource prost.mergeRgbSource RgbSourceMessage.elements := by
  intro tag wireType bytes source source' rest merged
  rw [Prost.mergeRgbSource] at merged
  split at merged
  · rename_i proofs
    subst proofs
    obtain ⟨⟨entry, after⟩, grown, merged⟩ := bind_ok.mp merged
    cases merged
    refine covered_message (by decide) (merkleProofEntry_covered prost) grown ?_
    rw [source.elements_append]
    exact Nat.le_refl _
  · rename_i other
    obtain ⟨after, read, merged⟩ := bind_ok.mp merged
    cases merged
    exact covered_leaf (if_neg other) (prost.leaf_skips read) (Nat.le_succ _)

theorem sign_covered :
    FieldCovered prost.toWire .sign prost.mergeSign SignMessage.elements := by
  intro tag wireType bytes sign sign' rest merged
  obtain ⟨network⟩ := sign
  rw [Prost.mergeSign] at merged
  split at merged
  · rename_i rgb
    subst rgb
    obtain ⟨⟨source, after⟩, grown, merged⟩ := bind_ok.mp merged
    cases merged
    refine covered_message (by decide) (rgbSource_covered prost) grown ?_
    -- The source starts as what it was, or as nothing.
    rcases network with - | (source | other) <;> simp +arith [SignMessage.elements,
      RgbSourceMessage.elements]
  · rename_i other
    obtain ⟨after, read, merged⟩ := bind_ok.mp merged
    cases merged
    refine covered_leaf (if_neg other) (prost.leaf_skips read) ?_
    split
    · exact Nat.zero_le _
    · exact Nat.le_succ _

theorem request_covered :
    FieldCovered prost.toWire .request prost.mergeRequest EnclaveRequest.elements := by
  intro tag wireType bytes request request' rest merged
  unfold Prost.mergeRequest at merged
  split at merged
  · rename_i sign
    subst sign
    obtain ⟨⟨sign, after⟩, grown, merged⟩ := bind_ok.mp merged
    cases merged
    refine covered_message (by decide) (sign_covered prost) grown ?_
    rcases request with - | (sign | headers | other) <;>
      simp +arith [EnclaveRequest.elements, SignMessage.elements]
  · rename_i notSign
    split at merged
    · rename_i submit
      subst submit
      obtain ⟨⟨headers, after⟩, grown, merged⟩ := bind_ok.mp merged
      cases merged
      refine covered_message (by decide) (submitHeaders_covered prost) grown ?_
      rcases request with - | (sign | headers | other) <;> simp +arith [EnclaveRequest.elements]
    · rename_i notSubmit
      obtain ⟨after, read, merged⟩ := bind_ok.mp merged
      cases merged
      refine covered_leaf ((if_neg notSign).trans (if_neg notSubmit)) (prost.leaf_skips read) ?_
      split
      · exact Nat.zero_le _
      · exact Nat.le_succ _

end Messages

section Bound

variable (prost : Prost) (frame : Bytes)

theorem countRequestElements_proper : Proper (countRequestElements prost.toWire frame) :=
  proper_bind (walk_proper _ _ _ _ (Nat.le_refl _)) fun _ _ => proper_ok _

theorem countRequestElements_bounds {count : Nat} {request : EnclaveRequest}
    (counted : countRequestElements prost.toWire frame = .ok count)
    (decoded : prost.decode frame = .ok request) :
    request.elements ≤ count ∧ count ≤ MAX_WIRE_ELEMENTS := by
  obtain ⟨left, walked, counted⟩ := bind_ok.mp counted
  cases counted
  have bound := walk_covers (request_covered prost) walked decoded
  have nothing : EnclaveRequest.elements none = 0 := rfl
  omega

theorem readRequest_bounded {stream : Bytes} {request : EnclaveRequest}
    (read : readRequest prost stream = .ok request) : request.elements ≤ MAX_WIRE_ELEMENTS := by
  simp only [readRequest, checkRequestShape, bind_ok] at read
  obtain ⟨frame, -, -, ⟨count, counted, -⟩, decoded⟩ := read
  obtain ⟨fewer, within⟩ :=
    countRequestElements_bounds prost frame counted (mapError_ok.mp decoded)
  exact Nat.le_trans fewer within

/-- The walk ends on every frame and stays inside it. When it accepts a frame,
    the proofs, path elements and headers of the decoded request are no more
    than the fields it counted, and those no more than the limit. -/
theorem checkRequestShape_bounds :
    Proper (countRequestElements prost.toWire frame) ∧
    ∀ request, checkRequestShape prost.toWire frame = .ok () → prost.decode frame = .ok request →
      ∃ count, countRequestElements prost.toWire frame = .ok count ∧
        request.elements ≤ count ∧ count ≤ MAX_WIRE_ELEMENTS := by
  refine ⟨countRequestElements_proper prost frame, fun request checked decoded => ?_⟩
  obtain ⟨count, counted, -⟩ := bind_ok.mp checked
  exact ⟨count, counted, countRequestElements_bounds prost frame counted decoded⟩

end Bound

/-- The reader takes exactly what the writer makes of a message of 1 byte to 24 MiB. A
    longer message, whose length could wrap, never comes back. -/
theorem reads_exactly_written_messages (stream frame : Bytes) :
    readFrame stream = .ok frame ↔ (∃ rest, stream = writeMessage frame ++ rest) ∧
      0 < frame.length ∧ frame.length ≤ MAX_MESSAGE_SIZE.toNat := by
  have limit : MAX_MESSAGE_SIZE.toNat < 2 ^ 32 := by decide
  -- The four bytes as a number, which fits its type.
  have field : (UInt32.ofNat (ofLe (stream.take 4))).toNat = ofLe (stream.take 4) := by
    have small := ofLe_lt (stream.take 4)
    have width := Nat.pow_le_pow_right (n := 256) (by decide) (stream.length_take_le 4)
    rw [UInt32.toNat_ofNat']
    omega
  simp only [readFrame, bind_ok, refuse_ok, UInt32.lt_iff_toNat_lt, ← UInt32.toNat_inj, field]
  constructor
  · rintro ⟨-, long, -, nonempty, -, short, -, whole, ⟨⟩⟩
    have size : ((stream.drop 4).take (ofLe (stream.take 4))).length = ofLe (stream.take 4) := by
      rw [List.length_take, List.length_drop]
      omega
    have header : natLe 4 (UInt32.ofNat (ofLe (stream.take 4))).toNat = stream.take 4 := by
      have four : (stream.take 4).length = 4 := by
        rw [List.length_take]
        omega
      refine ofLe_inj ((natLe_length _ _).trans four.symm) ?_
      rw [ofLe_natLe, field]
      omega
    refine ⟨⟨(stream.drop 4).drop (ofLe (stream.take 4)), ?_⟩, ?_⟩
    · rw [writeMessage, size, header, List.append_assoc, List.take_append_drop,
        List.take_append_drop]
    · rw [size]
      exact ⟨Nat.pos_of_ne_zero nonempty, not_lt.mp short⟩
  · rintro ⟨⟨rest, rfl⟩, nonempty, short⟩
    have wrapped : (UInt32.ofNat frame.length).toNat = frame.length := by
      rw [UInt32.toNat_ofNat']
      omega
    have header : ofLe ((writeMessage frame ++ rest).take 4) = frame.length := by
      rw [writeMessage, List.append_assoc, List.take_left' (natLe_length _ _), ofLe_natLe, wrapped]
      omega
    have body : (writeMessage frame ++ rest).drop 4 = frame ++ rest := by
      rw [writeMessage, List.append_assoc, List.drop_left' (natLe_length _ _)]
    have total : (writeMessage frame ++ rest).length = 4 + frame.length + rest.length := by
      rw [List.length_append, writeMessage, List.length_append, natLe_length]
    rw [header, body, total, List.take_left]
    refine ⟨(), by omega, (), ?_, (), by omega, (), by omega, rfl⟩
    exact Nat.ne_of_gt nonempty

section Sample

def sampleVarint : Nat → Bytes → Except String (UInt64 × Bytes)
  | fuel + 1, byte :: rest =>
      if byte < 128 then .ok (byte.toUInt64, rest)
      else do
        let (high, rest) ← sampleVarint fuel rest
        pure (byte.toUInt64 - 128 + 128 * high, rest)
  | _, _ => .error "invalid varint"

theorem sampleVarint_suffix {fuel : Nat} {bytes rest : Bytes} {value : UInt64}
    (read : sampleVarint fuel bytes = .ok (value, rest)) :
    rest <:+ bytes ∧ rest.length < bytes.length := by
  induction fuel generalizing bytes value with
  | zero => cases read
  | succ fuel ih =>
      cases bytes with
      | nil => cases read
      | cons byte tail =>
          rw [sampleVarint] at read
          split at read
          · cases read
            exact ⟨List.suffix_cons byte _, Nat.lt_succ_self _⟩
          · obtain ⟨⟨high, after⟩, inner, read⟩ := bind_ok.mp read
            cases read
            obtain ⟨suffix, shorter⟩ := ih inner
            exact ⟨suffix.trans (List.suffix_cons byte tail), Nat.lt_succ_of_lt shorter⟩

def sampleWireType (code : UInt64) : Except String WireType :=
  if code = 0 then .ok .varint
  else if code = 1 then .ok .sixtyFourBit
  else if code = 2 then .ok .lengthDelimited
  else if code = 5 then .ok .thirtyTwoBit
  else .error "invalid wire type value"

def sampleKey (bytes : Bytes) : Except String ((UInt32 × WireType) × Bytes) := do
  let (key, rest) ← sampleVarint 10 bytes
  let wireType ← sampleWireType (key % 8)
  pure (((key / 8).toUInt32, wireType), rest)

def sampleTake (len : Nat) (bytes : Bytes) : Except String (Bytes × Bytes) :=
  if len ≤ bytes.length then .ok (bytes.take len, bytes.drop len) else .error "buffer underflow"

def sampleBytes (bytes : Bytes) : Except String (Bytes × Bytes) := do
  let (len, rest) ← sampleVarint 10 bytes
  sampleTake len.toNat rest

def sampleSkip (wireType : WireType) (bytes : Bytes) : Except String Bytes :=
  match wireType with
  | .varint => (·.2) <$> sampleVarint 10 bytes
  | .sixtyFourBit => (·.2) <$> sampleTake 8 bytes
  | .lengthDelimited => (·.2) <$> sampleBytes bytes
  | .thirtyTwoBit => (·.2) <$> sampleTake 4 bytes
  | .startGroup | .endGroup => .error "unexpected group"

theorem sampleTake_suffix {len : Nat} {bytes value rest : Bytes}
    (read : sampleTake len bytes = .ok (value, rest)) : rest <:+ bytes := by
  unfold sampleTake at read
  split at read
  · cases read
    exact List.drop_suffix len bytes
  · cases read

theorem sampleBytes_suffix {bytes value rest : Bytes}
    (read : sampleBytes bytes = .ok (value, rest)) : rest <:+ bytes := by
  obtain ⟨⟨len, after⟩, lengthed, read⟩ := bind_ok.mp read
  exact (sampleTake_suffix read).trans (sampleVarint_suffix lengthed).1

theorem sampleSkip_suffix {wireType : WireType} {bytes rest : Bytes}
    (read : sampleSkip wireType bytes = .ok rest) : rest <:+ bytes := by
  cases wireType with
  | varint =>
      obtain ⟨⟨value, after⟩, inner, ⟨⟩⟩ := bind_ok.mp read
      exact (sampleVarint_suffix inner).1
  | sixtyFourBit =>
      obtain ⟨⟨value, after⟩, inner, ⟨⟩⟩ := bind_ok.mp read
      exact sampleTake_suffix inner
  | lengthDelimited =>
      obtain ⟨⟨value, after⟩, inner, ⟨⟩⟩ := bind_ok.mp read
      exact sampleBytes_suffix inner
  | thirtyTwoBit =>
      obtain ⟨⟨value, after⟩, inner, ⟨⟩⟩ := bind_ok.mp read
      exact sampleTake_suffix inner
  | startGroup => cases read
  | endGroup => cases read

def sampleProst : Prost where
  decodeVarint := sampleVarint 10
  decodeKey := sampleKey
  skipField wireType _ := sampleSkip wireType
  varint_suffix read := (sampleVarint_suffix read).1
  key_suffix read := by
    obtain ⟨⟨key, after⟩, keyed, read⟩ := bind_ok.mp read
    obtain ⟨wireType, -, ⟨⟩⟩ := bind_ok.mp read
    exact sampleVarint_suffix keyed
  skip_suffix := sampleSkip_suffix
  mergeLeaf _ _ wireType := sampleSkip wireType
  mergeBytes wireType bytes := do
    refuse (wireType ≠ .lengthDelimited) "invalid wire type"
    sampleBytes bytes
  leaf_skips read := read
  bytes_skips _ read := by
    rw [refuse_bind_ok, ne_eq, not_not] at read
    obtain ⟨rfl, read⟩ := read
    exact bind_ok.mpr ⟨_, read, rfl⟩

/-- Two occurrences of `sign`, which the decode merges: one with a proof of two
    path elements, and one with a proof of one. -/
def sampleFrame : Bytes :=
  [0x1a, 9, 0x1a, 7, 0x32, 5, 0x22, 1, 0xaa, 0x22, 0] ++ [0x1a, 6, 0x1a, 4, 0x32, 2, 0x22, 0]

theorem checkRequestShape_bounds_merged :
    (∃ request, sampleProst.decode sampleFrame = .ok request ∧ request.elements = 5) ∧
    ∃ count, countRequestElements sampleProst.toWire sampleFrame = .ok count ∧
      5 ≤ count ∧ count ≤ MAX_WIRE_ELEMENTS :=
  ⟨⟨_, rfl, rfl⟩, (checkRequestShape_bounds sampleProst sampleFrame).2 _ rfl rfl⟩

end Sample

end EnclaveSigner
