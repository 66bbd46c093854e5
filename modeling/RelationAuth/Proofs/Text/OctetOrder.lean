import Mathlib.Data.List.Lex
import Mathlib.Data.String.Basic
import RelationAuth.Text.Utf8

/-!
# The order of octets

Texts are ordered by their characters, one after another.  Their octets in UTF-8 are in the same
order: a character with more octets begins with a greater one, and the octets of one length hold the
digits of the character's number, the most significant ones first.
-/

namespace RelationAuth.Utf8

/-- The octets of a text are those of its characters, one after another. -/
theorem encode_eq_flatMap (text : String) :
    encode text = text.toList.flatMap String.utf8EncodeChar := by
  have octets : text.toByteArray = (text.toList.flatMap String.utf8EncodeChar).toByteArray := by
    conv_lhs => rw [← String.ofList_toList (s := text), String.toByteArray_ofList, List.utf8Encode]
  rw [encode, String.toUTF8, octets, List.toList_data_toByteArray]

/-- The octets of a lesser character come first, whatever follows. -/
theorem encodeChar_append_lt {lesser greater : Char} (less : lesser < greater)
    (left right : List UInt8) :
    String.utf8EncodeChar lesser ++ left < String.utf8EncodeChar greater ++ right := by
  have codes : lesser.val.toNat < greater.val.toNat := less
  have bound : greater.val.toNat < 0x110000 := by
    have valid := greater.valid
    simp only [UInt32.isValidChar, Nat.isValidChar] at valid
    omega
  simp only [String.utf8EncodeChar]
  split_ifs
  -- What is left are inequalities between digits, once no octet wraps around.
  all_goals
    simp only [List.cons_append, List.nil_append, List.cons_lt_cons_iff, UInt8.lt_iff_toNat_lt,
      ← UInt8.toNat_inj, UInt8.toNat_ofNat']
    simp (disch := omega) only [Nat.mod_eq_of_lt, Nat.add_lt_add_iff_right,
      Nat.add_right_cancel_iff]
    omega

/-- The octets keep the order of texts: the first character that differs decides, or the end of the
shorter text. -/
theorem flatMap_encodeChar_lt {left right : List Char} (less : left < right) :
    left.flatMap String.utf8EncodeChar < right.flatMap String.utf8EncodeChar := by
  induction left generalizing right with
  | nil =>
    rcases right with _ | ⟨first, rest⟩
    · cases less
    · have longer : String.utf8EncodeChar first ≠ [] := String.utf8EncodeChar_ne_nil
      rcases octets : String.utf8EncodeChar first with _ | ⟨octet, others⟩
      · exact absurd octets longer
      · rw [List.flatMap_cons, octets]
        exact List.nil_lt_cons _ _
  | cons lesser lefts ih =>
    rcases right with _ | ⟨greater, rights⟩
    · cases less
    · rw [List.flatMap_cons, List.flatMap_cons]
      rcases List.cons_lt_cons_iff.mp less with first | ⟨rfl, rest⟩
      · exact encodeChar_append_lt first _ _
      · exact List.Lex.append_left _ (ih rest) _

/-- Texts are ordered as their octets are. -/
theorem encode_lt_encode_iff {left right : String} : encode left < encode right ↔ left < right := by
  have strict : ∀ {lesser greater : String}, lesser < greater → encode lesser < encode greater := by
    intro lesser greater less
    rw [encode_eq_flatMap, encode_eq_flatMap]
    exact flatMap_encodeChar_lt (String.lt_iff_toList_lt.mp less)
  refine ⟨fun octets => ?_, strict⟩
  rcases lt_trichotomy left right with less | rfl | more
  · exact less
  · exact absurd octets (List.lt_irrefl _)
  · exact absurd octets (List.lt_asymm (strict more))

end RelationAuth.Utf8
