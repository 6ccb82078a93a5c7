import Mathlib.Data.List.Infix
import EnclaveSigner.Lib.Bytes
import EnclaveSigner.Lib.Checks

/-! # The protobuf wire format

A message on the wire is a sequence of fields, each behind a key that has its
tag and its wire type. A runtime reads keys and varints and steps over fields it
does not need. `Wire` is such a runtime, with what a reader can rely on: every
step goes forward, and none goes past the end.
-/

namespace EnclaveSigner.Lib

inductive WireType where
  | varint
  | sixtyFourBit
  | lengthDelimited
  | startGroup
  | endGroup
  | thirtyTwoBit
  deriving DecidableEq

/-- The reading primitives of a protobuf runtime. Each leaves the rest of the
    bytes. -/
structure Wire where
  decodeVarint : Bytes → Except String (UInt64 × Bytes)
  decodeKey : Bytes → Except String ((UInt32 × WireType) × Bytes)
  skipField : WireType → UInt32 → Bytes → Except String Bytes
  varint_suffix : ∀ {bytes value rest}, decodeVarint bytes = .ok (value, rest) → rest <:+ bytes
  key_suffix : ∀ {bytes key rest}, decodeKey bytes = .ok (key, rest) →
    rest <:+ bytes ∧ rest.length < bytes.length
  skip_suffix : ∀ {wireType tag bytes rest}, skipField wireType tag bytes = .ok rest →
    rest <:+ bytes

namespace Wire

variable {μ : Type}

/-- Merge the fields of a message into `message`, one after another. A key takes
    a byte, so the length of the bytes is fuel enough. -/
def mergeAll (wire : Wire)
    (mergeField : UInt32 → WireType → Bytes → μ → Except String (μ × Bytes)) :
    Nat → Bytes → μ → Except String μ
  | 0, bytes, message => if bytes = [] then .ok message else .error "out of fuel"
  | fuel + 1, bytes, message =>
      if bytes = [] then .ok message
      else do
        let ((tag, wireType), bytes) ← wire.decodeKey bytes
        let (message, bytes) ← mergeField tag wireType bytes message
        mergeAll wire mergeField fuel bytes message

def mergeMessage (wire : Wire)
    (mergeField : UInt32 → WireType → Bytes → μ → Except String (μ × Bytes))
    (wireType : WireType) (bytes : Bytes) (message : μ) : Except String (μ × Bytes) := do
  refuse (wireType ≠ .lengthDelimited) "invalid wire type"
  let (len, bytes) ← wire.decodeVarint bytes
  refuse (len.toNat > bytes.length) "buffer underflow"
  let message ← mergeAll wire mergeField len.toNat (bytes.take len.toNat) message
  pure (message, bytes.drop len.toNat)

variable {wire : Wire}
  {mergeField : UInt32 → WireType → Bytes → μ → Except String (μ × Bytes)}

theorem mergeAll_nil {fuel : Nat} {message message' : μ}
    (merged : wire.mergeAll mergeField fuel [] message = .ok message') : message' = message := by
  cases fuel <;> exact (Except.ok.inj merged).symm

/-- A merge that succeeds has merged the field behind the first key. -/
theorem mergeAll_key {fuel : Nat} {bytes rest : Bytes} {message message' : μ} {tag : UInt32}
    {wireType : WireType} (read : wire.decodeKey bytes = .ok ((tag, wireType), rest))
    (merged : wire.mergeAll mergeField fuel bytes message = .ok message') :
    ∃ fuel' middle after, mergeField tag wireType rest message = .ok (middle, after) ∧
      wire.mergeAll mergeField fuel' after middle = .ok message' := by
  have nonempty : bytes ≠ [] := by
    rintro rfl
    exact absurd (wire.key_suffix read).2 (Nat.not_lt_zero _)
  cases fuel with
  | zero =>
      rw [mergeAll, if_neg nonempty] at merged
      cases merged
  | succ fuel =>
      rw [mergeAll, if_neg nonempty, bind_ok] at merged
      obtain ⟨_, read', merged⟩ := merged
      cases read.symm.trans read'
      obtain ⟨⟨middle, after⟩, grown, merged⟩ := bind_ok.mp merged
      exact ⟨fuel, middle, after, grown, merged⟩

theorem mergeMessage_ok {wireType : WireType} {bytes rest : Bytes} {message message' : μ}
    (merged : wire.mergeMessage mergeField wireType bytes message = .ok (message', rest)) :
    wireType = .lengthDelimited ∧ ∃ len after, wire.decodeVarint bytes = .ok (len, after) ∧
      rest = after.drop len.toNat ∧
      wire.mergeAll mergeField len.toNat (after.take len.toNat) message = .ok message' := by
  simp only [mergeMessage, bind_ok, refuse_ok, ne_eq, not_not] at merged
  obtain ⟨_, delimited, ⟨len, after⟩, lengthed, _, _, message'', inner, same⟩ := merged
  cases same
  exact ⟨delimited, len, after, lengthed, rfl, inner⟩

end Wire

end EnclaveSigner.Lib
