import EnclaveSigner.Lib.Bytes

/-! # Self-delimiting encodings

An encoding is self-delimiting when a reader can tell where an encoded value
ends, whatever follows it. Such encodings are injective, and stay so when they
are put one after another. A list needs its length in front.
-/

namespace EnclaveSigner.Lib

/-- Two encoded values at the head of one byte string are the same value. -/
def SelfDelimiting {α : Type} (encode : α → Bytes) : Prop :=
  ∀ {a b : α} {x y : Bytes}, encode a ++ x = encode b ++ y → a = b ∧ x = y

namespace SelfDelimiting

variable {α β : Type} {encode : α → Bytes}

theorem injective (delimited : SelfDelimiting encode) : Function.Injective encode := by
  intro a b same
  have padded : encode a ++ [] = encode b ++ [] := by rw [same]
  exact (delimited padded).1

theorem word (n : Nat) : SelfDelimiting (fun word : Word n => word.val) :=
  append_parts

theorem comp {f : β → α} (delimited : SelfDelimiting encode) (injective : Function.Injective f) :
    SelfDelimiting (encode ∘ f) := by
  intro a b x y same
  obtain ⟨image, rest⟩ := delimited same
  exact ⟨injective image, rest⟩

/-- Lists of one length, item after item. -/
theorem items (delimited : SelfDelimiting encode) {a b : List α} {x y : Bytes}
    (length : a.length = b.length) (same : a.flatMap encode ++ x = b.flatMap encode ++ y) :
    a = b ∧ x = y := by
  induction a generalizing b with
  | nil =>
      cases b with
      | nil => exact ⟨rfl, same⟩
      | cons item b => cases length
  | cons item a ih =>
      cases b with
      | nil => cases length
      | cons item' b =>
          simp only [List.flatMap_cons, List.append_assoc] at same
          obtain ⟨rfl, rest⟩ := delimited same
          obtain ⟨rfl, tail⟩ := ih (by simpa using length) rest
          exact ⟨rfl, tail⟩

end SelfDelimiting

/-- A byte string behind its length, a 32-bit integer in big-endian bytes. -/
def lengthPrefixed (part : Bytes) : Bytes := (u32Be (UInt32.ofNat part.length)).val ++ part

theorem lengthPrefixed_parts {a b x y : Bytes} (short : a.length < 2 ^ 32)
    (short' : b.length < 2 ^ 32) (same : lengthPrefixed a ++ x = lengthPrefixed b ++ y) :
    a = b ∧ x = y := by
  rw [lengthPrefixed, lengthPrefixed, List.append_assoc, List.append_assoc] at same
  obtain ⟨lengths, rest⟩ := append_parts same
  have numbers := congrArg UInt32.toNat (u32Be_injective lengths)
  rw [UInt32.toNat_ofNat_of_lt' short, UInt32.toNat_ofNat_of_lt' short'] at numbers
  exact List.append_inj rest numbers

/-- Equally many parts, part after part. -/
theorem flatMap_lengthPrefixed_parts {a b : List Bytes} {x y : Bytes}
    (short : ∀ part ∈ a, part.length < 2 ^ 32) (short' : ∀ part ∈ b, part.length < 2 ^ 32)
    (length : a.length = b.length)
    (same : a.flatMap lengthPrefixed ++ x = b.flatMap lengthPrefixed ++ y) : a = b ∧ x = y := by
  induction a generalizing b with
  | nil =>
      cases b with
      | nil => exact ⟨rfl, same⟩
      | cons part b => cases length
  | cons part a ih =>
      cases b with
      | nil => cases length
      | cons part' b =>
          simp only [List.flatMap_cons, List.append_assoc] at same
          rw [List.forall_mem_cons] at short short'
          obtain ⟨rfl, rest⟩ := lengthPrefixed_parts short.1 short'.1 same
          obtain ⟨rfl, tail⟩ := ih short.2 short'.2 (Nat.succ.inj length) rest
          exact ⟨rfl, tail⟩

end EnclaveSigner.Lib
