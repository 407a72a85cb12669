/-
What is shown of a text is the text, so that texts that look alike are the same.
-/
import LuaAtlas.OsText
import Mathlib.Data.List.Basic

namespace LuaAtlas.OsText

theorem shownFrom_append (skipped : OsText) (bytes : OsText) :
    shownFrom skipped.length (skipped ++ bytes) = shownFrom 0 bytes := by
  induction skipped with
  | nil => rfl
  | cons b skipped ih => exact ih

theorem first?_encoded (c : Char) (bytes : OsText) : first? (String.utf8EncodeChar c ++ bytes) = some c := by
  unfold first?
  rw [List.take_append, List.take_of_length_le, List.toByteArray_append]
  · exact ByteArray.utf8DecodeChar?_utf8EncodeChar_append
  · rw [String.length_utf8EncodeChar]
    exact c.utf8Size_le_four

/-- A character is shown as it is. -/
theorem shownFrom_encoded (c : Char) (bytes : OsText) :
    shownFrom 0 (String.utf8EncodeChar c ++ bytes) = c :: shownFrom 0 bytes := by
  have hfirst := first?_encoded c bytes
  have hlength := String.length_utf8EncodeChar c
  cases hencoded : String.utf8EncodeChar c with
  | nil => exact absurd hencoded String.utf8EncodeChar_ne_nil
  | cons b rest =>
    rw [hencoded, List.cons_append] at hfirst
    rw [hencoded, List.length_cons] at hlength
    rw [List.cons_append, shownFrom, hfirst]
    dsimp only
    rw [← hlength, Nat.add_sub_cancel, shownFrom_append]

/-- A text is shown as it is. -/
@[simp] theorem shown_ofString (s : String) : shown s = s := by
  have hchars : ∀ cs : List Char, shownFrom 0 (cs.flatMap String.utf8EncodeChar) = cs := fun cs => by
    induction cs with
    | nil => rfl
    | cons c cs ih => rw [List.flatMap_cons, shownFrom_encoded, ih]
  unfold shown ofString
  rw [hchars, String.ofList_toList]

end LuaAtlas.OsText
