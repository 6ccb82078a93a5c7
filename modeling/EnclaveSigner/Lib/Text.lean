import Mathlib.Data.List.Flatten
import EnclaveSigner.Lib.Bytes

/-! # Parts of a text

The cuts that a parser of settings and addresses makes. Each gives characters of
the text in their order, so that no part takes more bytes than the whole.
-/

namespace EnclaveSigner.Lib

def stripPrefix (start text : String) : Option String :=
  (start.toList.isPrefixOf? text.toList).map String.ofList

def stripSuffix (ending text : String) : Option String :=
  (ending.toList.isSuffixOf? text.toList).map String.ofList

def splitOnce (sep : Char) (text : String) : Option (String × String) :=
  match text.toList.dropWhile (· ≠ sep) with
  | [] => none
  | _ :: rest => some (String.ofList (text.toList.takeWhile (· ≠ sep)), String.ofList rest)

def rsplitOnce (sep : Char) (text : String) : Option (String × String) :=
  match text.toList.reverse.dropWhile (· ≠ sep) with
  | [] => none
  | _ :: front => some (String.ofList front.reverse,
      String.ofList (text.toList.reverse.takeWhile (· ≠ sep)).reverse)

def behindFirst (part : List Char) : List Char → Option (List Char)
  | [] => if part.isEmpty then some [] else none
  | c :: rest =>
      match part.isPrefixOf? (c :: rest) with
      | some behind => some behind
      | none => behindFirst part rest

section Length

theorem utf8_length_le {part text : String} (cut : part.toList.Sublist text.toList) :
    (utf8 part).length ≤ (utf8 text).length := by
  rw [utf8_eq_flatMap, utf8_eq_flatMap]
  exact (cut.flatMap String.utf8EncodeChar).length_le

theorem utf8_length_le_four_mul (text : String) :
    (utf8 text).length ≤ 4 * text.toList.length := by
  rw [utf8_eq_flatMap]
  induction text.toList with
  | nil => exact Nat.le_refl _
  | cons c rest ih =>
      have size := c.utf8Size_le_four
      rw [List.flatMap_cons, List.length_append, String.length_utf8EncodeChar, List.length_cons]
      omega

theorem stripPrefix_length {start text rest : String} (found : stripPrefix start text = some rest) :
    (utf8 rest).length ≤ (utf8 text).length := by
  obtain ⟨chars, cut, rfl⟩ := Option.map_eq_some_iff.mp found
  apply utf8_length_le
  rw [String.toList_ofList, ← List.isPrefixOf?_eq_some_iff_append_eq.mp cut]
  exact List.sublist_append_right ..

theorem stripSuffix_length {ending text rest : String}
    (found : stripSuffix ending text = some rest) : (utf8 rest).length ≤ (utf8 text).length := by
  obtain ⟨chars, cut, rfl⟩ := Option.map_eq_some_iff.mp found
  apply utf8_length_le
  rw [String.toList_ofList, ← List.isSuffixOf?_eq_some_iff_append_eq.mp cut]
  exact List.sublist_append_left ..

theorem rsplitOnce_length {sep : Char} {text front last : String}
    (found : rsplitOnce sep text = some (front, last)) :
    (utf8 front).length ≤ (utf8 text).length := by
  unfold rsplitOnce at found
  split at found
  · cases found
  · rename_i c rest cut
    cases found
    apply utf8_length_le
    have behind : rest.Sublist text.toList.reverse := by
      refine (List.sublist_cons_self c rest).trans ?_
      rw [← cut]
      exact List.dropWhile_sublist _
    rw [String.toList_ofList, ← List.reverse_sublist, List.reverse_reverse]
    exact behind

/-- Only letters of one byte have a lower case here. -/
theorem utf8Size_toLower (c : Char) : c.toLower.utf8Size = c.utf8Size := by
  unfold Char.toLower
  split
  · rename_i upper
    have low : c.val.toNat ≤ 0x5A := UInt32.le_iff_toNat_le.mp upper.2
    have sum : (c.val + 0x20).toNat = c.val.toNat + 0x20 := by
      rw [UInt32.toNat_add]
      exact Nat.mod_eq_of_lt (by change c.val.toNat + 32 < _; omega)
    have one : c.utf8Size = 1 :=
      Char.utf8Size_eq_one_iff.mpr (UInt32.le_iff_toNat_le.mpr (low.trans (by decide)))
    rw [one, Char.utf8Size_eq_one_iff]
    refine UInt32.le_iff_toNat_le.mpr ?_
    change (c.val + 0x20).toNat ≤ 127
    omega
  · rfl

theorem utf8_toLower_length (text : String) :
    (utf8 text.toLower).length = (utf8 text).length := by
  change (utf8 (text.map Char.toLower)).length = _
  rw [utf8_eq_flatMap, utf8_eq_flatMap, String.toList_map, List.flatMap_map,
    List.length_flatMap, List.length_flatMap]
  simp only [String.length_utf8EncodeChar, utf8Size_toLower]

end Length

end EnclaveSigner.Lib
