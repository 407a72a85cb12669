/-
Laws of dotted names. A field keeps the last part of its own name, whatever it is a field of; the
search spelling of a name is reached in one step and never loses a dot; and the ways to cut a path at
a dot are exactly the ways to write it as a field of something.
-/
import LuaAtlas.Inference
import Mathlib.Data.List.TakeWhile

namespace LuaAtlas.Text

/-! ## Last parts -/

/-- What stands behind a separator decides the last part. -/
theorem lastPart_append_cons {isSeparator : Char → Bool} {c : Char} (hc : isSeparator c = true)
    (before after : List Char) :
    lastPart isSeparator (before ++ c :: after) = lastPart isSeparator after := by
  unfold lastPart
  rw [List.reverse_append, List.reverse_cons, List.append_assoc, List.singleton_append, List.takeWhile_append]
  split
  · rename_i hall
    rw [List.takeWhile_cons_of_neg (by simp [hc]), List.append_nil, (List.takeWhile_prefix _).eq_of_length hall]
  · rfl

theorem isSeparator_of_mem_lastPart {isSeparator : Char → Bool} {cs : List Char} {c : Char}
    (h : c ∈ lastPart isSeparator cs) : isSeparator c = false := by
  unfold lastPart at h
  rw [List.mem_reverse] at h
  simpa using List.mem_takeWhile_imp h

/-- A text without separators is its own last part. -/
theorem lastPart_eq_self {isSeparator : Char → Bool} {cs : List Char} (h : ∀ c ∈ cs, isSeparator c = false) :
    lastPart isSeparator cs = cs := by
  have hall : cs.reverse.takeWhile (!isSeparator ·) = cs.reverse :=
    List.takeWhile_eq_self_iff.2 fun c hc => by simp [h c (List.mem_reverse.1 hc)]
  unfold lastPart
  rw [hall, List.reverse_reverse]

/-- A text is its own last part, or a separator stands in front of that. -/
theorem eq_lastPart_or (isSeparator : Char → Bool) (cs : List Char) :
    cs = lastPart isSeparator cs ∨
      ∃ before c, isSeparator c = true ∧ cs = before ++ c :: lastPart isSeparator cs := by
  have hsplit := List.takeWhile_append_dropWhile (p := (!isSeparator ·)) (l := cs.reverse)
  have hcs : cs = (cs.reverse.dropWhile (!isSeparator ·)).reverse ++ lastPart isSeparator cs := by
    unfold lastPart
    rw [← List.reverse_append, hsplit, List.reverse_reverse]
  cases hd : cs.reverse.dropWhile (!isSeparator ·) with
  | nil =>
    rw [hd] at hcs
    exact .inl hcs
  | cons c rest =>
    have hc : isSeparator c = true := by
      have h := List.head_dropWhile_not (!isSeparator ·) (l := cs.reverse) (by simp [hd])
      simpa [hd] using h
    rw [hd, List.reverse_cons, List.append_assoc, List.singleton_append] at hcs
    exact .inr ⟨rest.reverse, c, hc, hcs⟩

end LuaAtlas.Text

namespace LuaAtlas.Name

open LuaAtlas.Text

/-! ## The search spelling -/

/-- The search spelling of a character. -/
def searchChar (c : Char) : Char := if c = ':' then '.' else c

@[simp] theorem toList_normalize (name : String) : (normalize name).toList = name.toList.map searchChar :=
  String.toList_map

@[simp] theorem toList_field (base field : String) :
    (Name.field base field).toList = base.toList ++ '.' :: field.toList := by
  simp [Name.field]

theorem searchChar_of_ne {c : Char} (h : c ≠ ':') : searchChar c = c := if_neg h

theorem searchChar_ne (c : Char) : searchChar c ≠ ':' := by
  unfold searchChar
  split
  · decide
  · assumption

/-- A name without colons is searched as it is. -/
theorem normalize_eq_self {name : String} (h : ':' ∉ name.toList) : normalize name = name := by
  refine String.ext ?_
  rw [toList_normalize]
  refine (List.map_congr_left fun c hc => ?_).trans (List.map_id _)
  exact searchChar_of_ne fun heq => h (heq ▸ hc)

theorem colon_not_mem_normalize (name : String) : ':' ∉ (normalize name).toList := by
  rw [toList_normalize]
  intro h
  obtain ⟨c, -, hc⟩ := List.mem_map.1 h
  exact searchChar_ne c hc

@[simp] theorem normalize_normalize (name : String) : normalize (normalize name) = normalize name :=
  normalize_eq_self (colon_not_mem_normalize name)

theorem normalize_field (base field : String) :
    normalize (Name.field base field) = Name.field (normalize base) (normalize field) := by
  refine String.ext ?_
  rw [toList_normalize, toList_field, toList_field, List.map_append, List.map_cons, toList_normalize, toList_normalize]
  rfl

/-! ## Dots -/

@[simp] theorem dots_field (base field : String) : dots (Name.field base field) = dots base + dots field + 1 := by
  unfold dots
  rw [toList_field, List.count_append, List.count_cons_self]
  omega

/-- The search spelling has all the dots of a name, and one more for each colon. -/
theorem dots_le_normalize (name : String) : dots name ≤ dots (normalize name) := by
  unfold dots
  rw [toList_normalize]
  unfold List.count
  rw [List.countP_map]
  refine List.countP_mono_left fun c _ hc => ?_
  have hdot : c = '.' := by simpa using hc
  subst hdot
  decide

/-! ## The last part of a name -/

@[simp] theorem toList_lastPart (name : String) : (lastPart name).toList = Text.lastPart (· = '.') name.toList :=
  String.toList_ofList

/-- A field ends like its own name. -/
@[simp] theorem lastPart_field (base field : String) : lastPart (Name.field base field) = lastPart field := by
  refine String.ext ?_
  rw [toList_lastPart, toList_lastPart, toList_field]
  exact lastPart_append_cons (by simp) _ _

theorem dot_not_mem_lastPart (name : String) : '.' ∉ (lastPart name).toList := by
  rw [toList_lastPart]
  intro h
  simpa using isSeparator_of_mem_lastPart h

/-- The last part of the search spelling has neither dots nor colons. -/
theorem colon_not_mem_lastPart (name : String) : ':' ∉ (lastPart (normalize name)).toList := by
  have hsub : (lastPart (normalize name)).toList ⊆ (normalize name).toList := by
    rw [toList_lastPart]
    unfold Text.lastPart
    intro c hc
    exact List.mem_reverse.1 ((List.takeWhile_subset _) (List.mem_reverse.1 hc))
  exact fun h => colon_not_mem_normalize name (hsub h)

/-- In front of the last part of a field stands a dot. -/
theorem field_eq_append (base field : String) :
    ∃ before, (Name.field base field).toList = before ++ '.' :: (lastPart field).toList := by
  rw [toList_field, toList_lastPart]
  rcases eq_lastPart_or (· = '.') field.toList with h | ⟨before, c, hc, h⟩
  · exact ⟨base.toList, by rw [← h]⟩
  · have hdot : c = '.' := by simpa using hc
    subst hdot
    exact ⟨base.toList ++ '.' :: before, by rw [List.append_assoc, List.cons_append, ← h]⟩

/-- The search spelling of a field whose last part has no colon ends in that part, and with more characters
behind it, none of them a dot, in that part and these. -/
theorem lastPart_normalize_append {base field more : String} (hcolon : ':' ∉ (lastPart field).toList)
    (hmore : '.' ∉ more.toList) : lastPart (normalize (Name.field base field) ++ more) = lastPart field ++ more := by
  obtain ⟨before, hbefore⟩ := field_eq_append base field
  have hlast : (lastPart field).toList.map searchChar = (lastPart field).toList := by
    refine (List.map_congr_left fun c hc => ?_).trans (List.map_id _)
    exact searchChar_of_ne fun h => hcolon (h ▸ hc)
  refine String.ext ?_
  rw [toList_lastPart, String.toList_append, String.toList_append, toList_normalize, hbefore, List.map_append,
    List.map_cons, hlast, List.append_assoc, List.cons_append]
  refine (lastPart_append_cons (by decide) _ _).trans (lastPart_eq_self fun c hc => ?_)
  have hne : c ≠ '.' := by
    rintro rfl
    rcases List.mem_append.1 hc with h | h
    · exact dot_not_mem_lastPart field h
    · exact hmore h
  simpa using hne

end LuaAtlas.Name

namespace LuaAtlas.Inference

/-! ## Cuts -/

theorem mem_cutChars {first rest : List Char} : ∀ {cs : List Char},
    (first, rest) ∈ cutChars cs ↔ cs = first ++ '.' :: rest
  | [] => by simp [cutChars]
  | c :: cs => by
    rw [cutChars, List.mem_append]
    constructor
    · rintro (h | h)
      · obtain ⟨⟨first', rest'⟩, hcut, heq⟩ := List.mem_map.1 h
        cases heq
        rw [mem_cutChars.1 hcut, List.cons_append]
      · split at h
        · rename_i hc
          cases List.mem_singleton.1 h
          rw [hc, List.nil_append]
        · cases h
    · intro h
      cases first with
      | nil =>
        obtain ⟨rfl, rfl⟩ := List.cons.inj h
        exact .inr (by simp)
      | cons d first =>
        obtain ⟨rfl, hcs⟩ := List.cons.inj h
        exact .inl (List.mem_map.2 ⟨(first, rest), mem_cutChars.2 hcs, rfl⟩)

/-- To cut a path at a dot is to write it as a field. -/
theorem mem_cuts {path first rest : String} : (first, rest) ∈ cuts path ↔ path = Name.field first rest := by
  unfold cuts
  rw [List.mem_map]
  constructor
  · rintro ⟨⟨f, r⟩, hcut, heq⟩
    cases heq
    refine String.ext ?_
    rw [Name.toList_field, String.toList_ofList, String.toList_ofList, ← mem_cutChars]
    exact hcut
  · rintro rfl
    refine ⟨(first.toList, rest.toList), mem_cutChars.2 (Name.toList_field first rest), ?_⟩
    dsimp only
    rw [String.ofList_toList, String.ofList_toList]

end LuaAtlas.Inference
