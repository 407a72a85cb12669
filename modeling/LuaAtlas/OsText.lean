/-
Names and paths as the operating system has them: bytes, which need not be text. What is shown of them has a
replacement character wherever bytes make no character, so that different names can look alike.
-/

namespace LuaAtlas

/-- A name or a path of the operating system. -/
abbrev OsText := List UInt8

namespace OsText

/-- The bytes of a text. -/
def ofString (s : String) : OsText := s.toList.flatMap String.utf8EncodeChar

instance : Coe String OsText := ⟨ofString⟩

/-- The character that the bytes begin with. -/
def first? (bytes : OsText) : Option Char := (bytes.take 4).toByteArray.utf8DecodeChar? 0

/-- Whether `b` is one of the bytes behind the first one of a character. -/
def continues (b : UInt8) : Bool := 0x80 ≤ b && b ≤ 0xBF

/-- Whether some character of three or four bytes begins with `a` and `b`. -/
def opens (a b : UInt8) : Bool :=
  if a = 0xE0 then 0xA0 ≤ b && b ≤ 0xBF
  else if a = 0xED then 0x80 ≤ b && b ≤ 0x9F
  else if a = 0xF0 then 0x90 ≤ b && b ≤ 0xBF
  else if a = 0xF4 then 0x80 ≤ b && b ≤ 0x8F
  else 0xE1 ≤ a && a ≤ 0xF3 && continues b

/-- The number of bytes that one replacement character stands for, where no character begins: those that some
character begins with, and at least one. -/
def brokenLength : OsText → Nat
  | a :: b :: c :: _ => if opens a b then (if 0xF0 ≤ a && continues c then 3 else 2) else 1
  | [a, b] => if opens a b then 2 else 1
  | _ => 1

/-- The characters shown of bytes, of which the first ones may have been shown already. -/
def shownFrom : Nat → OsText → List Char
  | _, [] => []
  | n + 1, _ :: bytes => shownFrom n bytes
  | 0, b :: bytes =>
    match first? (b :: bytes) with
    | some c => c :: shownFrom (c.utf8Size - 1) bytes
    | none => '\ufffd' :: shownFrom (brokenLength (b :: bytes) - 1) bytes

/-- What is shown of bytes. -/
def shown (bytes : OsText) : String := String.ofList (shownFrom 0 bytes)

example : shown [46, 0xFF, 0x61] = ".\ufffda" := by decide +kernel

/-- Three bytes that some character begins with make one replacement character. -/
example : shown [0xF0, 0x9F, 0x98, 0x61] = "\ufffda" ∧ shown [0xE2, 0x28] = "\ufffd(" := by decide +kernel

end OsText

end LuaAtlas
