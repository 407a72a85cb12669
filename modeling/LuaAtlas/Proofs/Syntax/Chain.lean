/-
Chains and their names. The dotted name of a chain begins with the variable that the chain starts from, and what
follows begins with a dot or a bracket. So the variable can be read off the name again, whatever the keys in it are,
as long as the variable itself has neither dots nor brackets.
-/
import LuaAtlas.Name
import LuaAtlas.Syntax.Chain
import Mathlib.Data.List.TakeWhile

namespace LuaAtlas.Name

/-- Whether a character ends the first part of a dotted name. -/
def endsRoot (c : Char) : Bool := c = '.' || c = '['

/-- A name that can stand at the beginning of a dotted name: no part of it could be taken for a key. -/
def IsPlain (name : String) : Prop := ∀ c ∈ name.toList, endsRoot c = false

/-- A text that can follow in a dotted name: what comes first in it ends the first part of the name. -/
def Continues (rest : String) : Prop := ∀ c ∈ rest.toList.head?, endsRoot c = true

theorem continues_empty : Continues "" := fun c hc => by simp at hc

theorem Continues.append {rest more : String} (h : Continues rest) (h' : Continues more) :
    Continues (rest ++ more) := by
  intro c hc
  rw [String.toList_append] at hc
  cases hlist : rest.toList with
  | nil =>
    rw [hlist, List.nil_append] at hc
    exact h' c hc
  | cons d ds => exact h c (by simpa [hlist] using hc)

theorem continues_dot (field : String) : Continues ("." ++ field) := by
  intro c hc
  obtain rfl : '.' = c := by simpa using hc
  rfl

/-- The first part of a dotted name. -/
theorem root_append {first rest : String} (hfirst : IsPlain first) (hrest : Continues rest) :
    root (first ++ rest) = first := by
  have hstop : rest.toList.takeWhile (!endsRoot ·) = [] := by
    cases h : rest.toList with
    | nil => rfl
    | cons c cs => rw [List.takeWhile_cons_of_neg (by simp [hrest c (by simp [h])])]
  have htake : (first ++ rest).toList.takeWhile (!endsRoot ·) = first.toList := by
    rw [String.toList_append, List.takeWhile_append_of_pos fun c hc => by simp [hfirst c hc], hstop, List.append_nil]
  unfold root Text.firstSegment
  rw [← String.toList_inj, String.toList_ofList]
  exact htake

end LuaAtlas.Name

namespace LuaAtlas.Syntax.Expr

open LuaAtlas.Name

theorem continues_keySuffix? {key : Expr} {suffix : String} (h : key.keySuffix? = some suffix) :
    Continues suffix := by
  unfold keySuffix? at h
  split at h
  · cases h
    exact continues_dot _
  · cases h
    intro c hc
    obtain rfl : '[' = c := by simpa using hc
    rfl
  · cases h

/-- A dotted name begins with a variable. -/
theorem dottedName?_eq_append : ∀ {e : Expr} {name : String}, e.dottedName? = some name →
    ∃ x rest, e.root? = some x ∧ name = x.name ++ rest ∧ Continues rest
  | .ident id, name, h => by
    cases h
    exact ⟨id, "", rfl, by simp, continues_empty⟩
  | .member base accessor field range, name, h => by
    obtain ⟨b, hb, rfl⟩ := Option.map_eq_some_iff.1 h
    obtain ⟨x, rest, hx, rfl, hrest⟩ := dottedName?_eq_append hb
    exact ⟨x, rest ++ ("." ++ field.name), hx, by simp [String.append_assoc], hrest.append (continues_dot _)⟩
  | .index base key range, name, h => by
    obtain ⟨b, hb, hkey⟩ := Option.bind_eq_some_iff.1 h
    obtain ⟨suffix, hsuffix, rfl⟩ := Option.map_eq_some_iff.1 hkey
    obtain ⟨x, rest, hx, rfl, hrest⟩ := dottedName?_eq_append hb
    exact ⟨x, rest ++ suffix, hx, by simp [String.append_assoc], hrest.append (continues_keySuffix? hsuffix)⟩
  | .paren inner range, name, h => dottedName?_eq_append (e := inner) h
  | .call .., _, h | .func _, _, h | .table .., _, h | .binary .., _, h | .unary .., _, h
  | .string .., _, h | .number .., _, h | .literal _, _, h | .vararg _, _, h => by cases h

/-- The first part of the name of a chain is the variable it starts from. -/
theorem root_dottedName? {e : Expr} {name : String} (h : e.dottedName? = some name) :
    ∃ x, e.root? = some x ∧ (IsPlain x.name → Name.root name = x.name) := by
  obtain ⟨x, rest, hx, rfl, hrest⟩ := dottedName?_eq_append h
  exact ⟨x, hx, fun hplain => root_append hplain hrest⟩

end LuaAtlas.Syntax.Expr
