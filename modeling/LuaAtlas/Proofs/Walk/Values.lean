/-
What is told of a local with its value. Its declaration stands among those that count, at a place that the events in
front of the statement determine. A value that requires a module, calls a function by name or is itself a name tells so
under the name that it is bound to, on the line of this name; parentheses around the value change nothing.
-/
import LuaAtlas.Proofs.Walk.Binding
import LuaAtlas.Proofs.Walk.Globals
import Mathlib

namespace LuaAtlas

open LuaAtlas.Syntax LuaAtlas.Walk LuaAtlas.Declare

/-! ## Calls by name -/

/-- The name of the function whose result a call is. Calls that require a module or tell a metatable are left out. -/
def Syntax.Expr.calledName? : Expr → Option String
  | .call callee args _ =>
    if (Syntax.requiredModule? callee args).isSome ||
        callee.isNamed "setmetatable" && (args[1]?.bind Expr.dottedName?).isSome then none
    else callee.dottedName?
  | _ => none

namespace Walk

/-! ## What a value tells is met -/

theorem valueEvents_inner (c : Context) (b : Binding) : ∀ v : Expr, valueEvents c b v.inner = valueEvents c b v
  | .paren v range => by
    rw [Expr.inner, valueEvents]
    exact valueEvents_inner c b v
  | .func _ | .ident _ | .member .. | .index .. | .call .. | .table .. | .binary .. | .unary .. | .string ..
  | .number .. | .literal _ | .vararg _ => rfl

variable {c : Context} {b : Binding}

/-- A `require` call tells its module. -/
theorem called_of_requiredModule? {v : Expr} {m : String} (h : v.inner.requiredModule? = some m) :
    .called b.line b.name "require" (some m) ∈ valueEvents c b v := by
  rw [← valueEvents_inner]
  generalize v.inner = w at h ⊢
  cases w with
  | call callee args range =>
    rw [valueEvents]
    refine List.mem_append_left _ (List.mem_append_right _ ?_)
    unfold Expr.requiredModule? Syntax.requiredModule? at h
    dsimp only at h
    split at h
    · split at h
      · rename_i value argument hnamed
        cases h
        cases callee with
        | ident id =>
          have hname : id.name = "require" := by simpa [Expr.isNamed] using hnamed
          simp [callFacts, Syntax.requiredModule?, Expr.isNamed, Expr.dottedName?, hname]
        | _ => cases hnamed
      · cases h
    · cases h
  | _ => cases h

/-- A call by name tells this name. -/
theorem called_of_calledName? {v : Expr} {f : String} (h : v.inner.calledName? = some f) :
    .called b.line b.name f none ∈ valueEvents c b v := by
  rw [← valueEvents_inner]
  generalize v.inner = w at h ⊢
  cases w with
  | call callee args range =>
    rw [valueEvents]
    refine List.mem_append_left _ (List.mem_append_right _ ?_)
    unfold Expr.calledName? at h
    dsimp only at h
    split at h
    · cases h
    · rename_i hplain
      rw [Bool.or_eq_true, not_or, Option.not_isSome_iff_eq_none] at hplain
      obtain ⟨hmodule, hmetatable⟩ := hplain
      unfold callFacts
      refine List.mem_append_right _ ?_
      split
      · rename_i hnamed _ hargument
        simp [hargument, (Bool.and_eq_true_iff.1 hnamed).1] at hmetatable
      · simp [h, hmodule]
  | _ => cases h

/-- A name tells itself. -/
theorem equated_of_dottedName? {s : String} : ∀ {v : Expr}, v.dottedName? = some s →
    .equated b.line b.name s ∈ valueEvents c b v
  | .paren v range, h => by
    rw [valueEvents]
    exact equated_of_dottedName? h
  | .ident id, h => by
    cases h
    rw [valueEvents]
    exact List.mem_append_right _ (List.mem_singleton_self _)
  | .member base accessor field range, h => by
    rw [valueEvents, h]
    exact List.mem_append_right _ (List.mem_singleton_self _)
  | .index base key range, h => by
    rw [valueEvents, h]
    exact List.mem_append_right _ (List.mem_append_right _ (List.mem_singleton_self _))

theorem getElem?_valuesEvents (c : Context) : ∀ {bs : List (Option Binding)} {vs : List Expr} {i : Nat} {b : Binding}
    {v : Expr}, bs[i]? = some (some b) → vs[i]? = some v → (valuesEvents c bs vs)[i]? = some (valueEvents c b v)
  | some b' :: bs, v' :: vs, 0, b, v, hb, hv => by
    cases hb
    cases hv
    rw [valuesEvents]
    rfl
  | some b' :: bs, v' :: vs, i + 1, b, v, hb, hv => by
    rw [valuesEvents]
    exact getElem?_valuesEvents c (i := i) hb hv
  | none :: bs, v' :: vs, i + 1, b, v, hb, hv => by
    rw [valuesEvents]
    exact getElem?_valuesEvents c (i := i) hb hv

/-- What the `i`-th value of a `local` statement tells about the `i`-th name. -/
theorem valueEvents_subset_localVars (c : Context) {names : List Ident} {values : List Expr} (range : Range) {i : Nat}
    {x : Ident} {v : Expr} (hx : names[i]? = some x) (hv : values[i]? = some v) :
    valueEvents c ⟨x.name, true, x.range.start.line⟩ v ⊆ stmtEvents c (.localVars names values range) := by
  have hb : (names.map fun x => some (Binding.mk x.name true x.range.start.line))[i]? =
      some (some ⟨x.name, true, x.range.start.line⟩) := by
    rw [List.getElem?_map, hx]
    rfl
  intro e he
  rw [stmtEvents]
  refine List.mem_append_right _ (List.mem_flatten.2 ⟨_, ?_, he⟩)
  exact List.mem_of_getElem? (getElem?_valuesEvents c hb hv)

/-! ## Locals among the declarations -/

theorem getElem?_localDeclarations (c : Context) : ∀ (xs : List Ident) (vs : List Expr) (i : Nat),
    (localDeclarations c xs vs)[i]? = xs[i]?.map fun x => localDeclaration c x vs[i]?
  | [], _, _ => by simp [localDeclarations]
  | x :: xs, [], 0 => by simp [localDeclarations]
  | x :: xs, [], i + 1 => by simp [localDeclarations, getElem?_localDeclarations c xs [] i]
  | x :: xs, v :: vs, 0 => by simp [localDeclarations]
  | x :: xs, v :: vs, i + 1 => by simp [localDeclarations, getElem?_localDeclarations c xs vs i]

theorem exists_of_mem_localDeclarations {c : Context} {xs : List Ident} {vs : List Expr} {d : Declaration}
    (hd : d ∈ localDeclarations c xs vs) : ∃ (x : Ident) (i : Nat), d = localDeclaration c x vs[i]? := by
  obtain ⟨i, hi⟩ := List.getElem?_of_mem hd
  rw [getElem?_localDeclarations] at hi
  obtain ⟨x, -, rfl⟩ := Option.map_eq_some_iff.1 hi
  exact ⟨x, i, rfl⟩

theorem tag?_localDeclaration (c : Context) (x : Ident) (value? : Option Expr) :
    (localDeclaration c x value?).tag? = none := by
  unfold localDeclaration Declaration.withValue
  dsimp only
  split <;> rfl

theorem onlyNew_localDeclarations (c : Context) (xs : List Ident) (vs : List Expr) :
    ∀ d ∈ localDeclarations c xs vs, d.onlyNew = false := by
  intro d hd
  obtain ⟨x, i, rfl⟩ := exists_of_mem_localDeclarations hd
  exact (declares_localDeclaration c x _).counts

end Walk

namespace Declare

/-- What is declared for any name counts. -/
theorem effective_flatMap (known : List String) : ∀ ds : List Declaration, (∀ d ∈ ds, d.onlyNew = false) →
    effective known (ds.flatMap fun d => [siteOf d, .declared d]) = ds
  | [], _ => rfl
  | d :: ds, h => by
    obtain ⟨hd, hds⟩ := List.forall_mem_cons.1 h
    show effective known (.declared d :: ds.flatMap fun d => [siteOf d, .declared d]) = d :: ds
    rw [effective, hd, Bool.false_and, if_neg Bool.false_ne_true, effective_flatMap _ ds hds]

/-- The declarations of a `local` statement stand among those that count. -/
theorem getElem?_effective_localVars (c : Context) (before after : List Event) (names : List Ident) (values : List Expr)
    (range : Range) {i : Nat} {x : Ident} (hx : names[i]? = some x) :
    (effective [] (before ++ stmtEvents c (.localVars names values range) ++ after))[
      (effective [] before).length + i]? = some (localDeclaration c x values[i]?) := by
  have hd := getElem?_localDeclarations c names values i
  rw [hx, Option.map_some] at hd
  obtain ⟨hi, -⟩ := List.getElem?_eq_some_iff.1 hd
  rw [stmtEvents, List.append_assoc, List.append_assoc, effective_append, List.getElem?_append_right (by omega),
    effective_append, effective_flatMap _ _ (onlyNew_localDeclarations c names values), Nat.add_sub_cancel_left,
    List.getElem?_append_left hi, hd]

end Declare

end LuaAtlas
