/-
What the parts of a node give. The meaning of a node is put together from those of its parts: whatever is taken from
the parts is the meaning of one of them, or it is empty where none has it. So what holds of the meanings of all parts
holds of what is taken from them.
-/
import LuaAtlas.Syntax.Meaning
import Mathlib.Data.List.Basic

namespace LuaAtlas.Syntax

namespace Meaning

theorem expr?_eq_some {m : Meaning} {e : Expr} : m.expr? = some e ↔ m = .expr e := by
  cases m <;> simp [expr?]

theorem exprs?_eq_some {m : Meaning} {es : List Expr} : m.exprs? = some es ↔ m = .exprs es := by
  cases m <;> simp [exprs?]

theorem block?_eq_some {m : Meaning} {b : Block} : m.block? = some b ↔ m = .block b := by
  cases m <;> simp [block?]

theorem ident?_eq_some {m : Meaning} {x : Ident} : m.ident? = some x ↔ m = .expr (.ident x) := by
  unfold ident?
  split <;> simp_all

end Meaning

namespace Part

section

variable {P : Meaning → Prop} {ps : List Part} (hps : ∀ p ∈ ps, P p.meaning)

include hps

theorem of_found {isWanted : Part → Bool} {e : Expr} (h : (ps.find? isWanted).bind (·.meaning.expr?) = some e) :
    P (.expr e) := by
  obtain ⟨p, hp, hmeaning⟩ := Option.bind_eq_some_iff.1 h
  exact Meaning.expr?_eq_some.1 hmeaning ▸ hps p (List.mem_of_find?_eq_some hp)

theorem of_expr? {role : Role} {e : Expr} (h : expr? ps role = some e) : P (.expr e) := of_found hps h

theorem of_exprs {e : Expr} (h : e ∈ exprs ps) : P (.expr e) := by
  obtain ⟨p, hp, hmeaning⟩ := List.mem_filterMap.1 h
  exact Meaning.expr?_eq_some.1 hmeaning ▸ hps p hp

theorem of_ident {role : Role} {x : Ident} (h : (ps.find? (·.role? = some role)).bind (·.meaning.ident?) = some x) :
    P (.expr (.ident x)) := by
  obtain ⟨p, hp, hmeaning⟩ := Option.bind_eq_some_iff.1 h
  exact Meaning.ident?_eq_some.1 hmeaning ▸ hps p (List.mem_of_find?_eq_some hp)

theorem of_idents {x : Ident} (h : x ∈ idents ps) : P (.expr (.ident x)) := by
  obtain ⟨p, hp, hmeaning⟩ := List.mem_filterMap.1 h
  exact Meaning.ident?_eq_some.1 hmeaning ▸ hps p hp

theorem of_list {es : List Expr} (h : es ∈ ps.filterMap (·.meaning.exprs?)) : P (.exprs es) := by
  obtain ⟨p, hp, hmeaning⟩ := List.mem_filterMap.1 h
  exact Meaning.exprs?_eq_some.1 hmeaning ▸ hps p hp

theorem of_first_list (hnil : P (.exprs [])) : P (.exprs ((ps.findSome? (·.meaning.exprs?)).getD [])) := by
  cases h : ps.findSome? (·.meaning.exprs?) with
  | none => exact hnil
  | some es =>
    obtain ⟨p, hp, hmeaning⟩ := List.exists_of_findSome?_eq_some h
    exact of_list hps (List.mem_filterMap.2 ⟨p, hp, hmeaning⟩)

/-- The two lists of an assignment. -/
theorem of_lists {targets values : List Expr} (h : ps.filterMap (·.meaning.exprs?) = [targets, values]) :
    P (.exprs targets) ∧ P (.exprs values) := by
  refine ⟨of_list hps ?_, of_list hps ?_⟩
  · rw [h]
    exact List.mem_cons_self ..
  · rw [h]
    exact List.mem_cons_of_mem _ (List.mem_singleton_self _)

theorem of_body {range : Range} (hempty : P (.block (.mk [] range))) : P (.block (body ps range)) := by
  unfold body
  cases h : ps.findSome? (·.meaning.block?) with
  | none => exact hempty
  | some b =>
    obtain ⟨p, hp, hmeaning⟩ := List.exists_of_findSome?_eq_some h
    exact Meaning.block?_eq_some.1 hmeaning ▸ hps p hp

theorem of_function (hnone : P (.params [] false)) (range : Range) :
    ∃ xs isVararg, function ps range = .mk xs isVararg (body ps range) range ∧ P (.params xs isVararg) := by
  unfold function
  dsimp only
  generalize hparams : ps.findSome? _ = params?
  cases params? with
  | none => exact ⟨[], false, rfl, hnone⟩
  | some params =>
    obtain ⟨p, hp, hmeaning⟩ := List.exists_of_findSome?_eq_some hparams
    split at hmeaning
    · rename_i xs isVararg heq
      cases hmeaning
      exact ⟨xs, isVararg, rfl, heq ▸ hps p hp⟩
    · cases hmeaning

theorem of_stmts {s : Stmt} (h : s ∈ ps.filterMap (·.meaning.stmt?)) : ∃ m : Meaning, m.stmt? = some s ∧ P m := by
  obtain ⟨p, hp, hmeaning⟩ := List.mem_filterMap.1 h
  exact ⟨p.meaning, hmeaning, hps p hp⟩

theorem of_member? {role : Role} {accessor : Accessor} {range : Range} {e : Expr}
    (h : member? ps role accessor range = some e) :
    ∃ base field, e = .member base accessor field range ∧ P (.expr base) ∧ P (.expr (.ident field)) := by
  unfold member? at h
  obtain ⟨base, hbase, h⟩ := Option.bind_eq_some_iff.1 h
  obtain ⟨field, hfield, h⟩ := Option.bind_eq_some_iff.1 h
  cases h
  exact ⟨base, field, rfl, of_expr? hps hbase, of_ident hps hfield⟩

theorem of_locals? {range : Range} {s : Stmt} (h : locals? ps range = some s) :
    (∃ targets values r, s = .localVars (locals?.names targets) values range ∧ P (.assignment targets values r)) ∨
      ∃ es, s = .localVars (locals?.names es) [] range ∧ P (.exprs es) := by
  obtain ⟨p, hp, hmeaning⟩ := List.exists_of_findSome?_eq_some h
  split at hmeaning
  · rename_i targets values r heq
    cases hmeaning
    exact Or.inl ⟨targets, values, r, rfl, heq ▸ hps p hp⟩
  · rename_i es heq
    cases hmeaning
    exact Or.inr ⟨es, rfl, heq ▸ hps p hp⟩
  · cases hmeaning

theorem of_entryOf? {e : TableEntry} (h : entryOf? ps = some e) : ∃ value, P (.expr value) ∧
    (e = .positional value ∨ (∃ key, e = .indexed key value ∧ P (.expr key)) ∨
      ∃ key, e = .named key value ∧ P (.expr (.ident key))) := by
  unfold entryOf? at h
  obtain ⟨value, hvalue, h⟩ := Option.bind_eq_some_iff.1 h
  refine ⟨value, of_expr? hps hvalue, ?_⟩
  split at h
  · cases h
    exact Or.inl rfl
  · rename_i p hp _
    obtain ⟨key, hkey, h⟩ := Option.bind_eq_some_iff.1 h
    cases h
    exact Or.inr (Or.inl ⟨key, rfl, Meaning.expr?_eq_some.1 hkey ▸ hps p (List.mem_of_find?_eq_some hp)⟩)
  · rename_i p _ hp _
    obtain ⟨key, hkey, h⟩ := Option.bind_eq_some_iff.1 h
    cases h
    exact Or.inr (Or.inr ⟨key, rfl, Meaning.ident?_eq_some.1 hkey ▸ hps p (List.mem_of_find?_eq_some hp)⟩)

theorem of_branches {range : Range} {c : Clause} (h : c ∈ branches ps range) :
    c = .mk (expr? ps .condition) (body ps range) ∨ P (.clause c) := by
  rcases List.mem_cons.1 h with rfl | h
  · exact Or.inl rfl
  · obtain ⟨p, hp, hmeaning⟩ := List.mem_filterMap.1 h
    split at hmeaning
    · rename_i c' heq
      cases hmeaning
      exact Or.inr (heq ▸ hps p hp)
    · cases hmeaning

theorem of_entries {e : TableEntry} (h : e ∈ ps.filterMap fun p => match p.meaning with
    | .entry e => some e
    | _ => none) : P (.entry e) := by
  obtain ⟨p, hp, hmeaning⟩ := List.mem_filterMap.1 h
  split at hmeaning
  · rename_i e' heq
    cases hmeaning
    exact heq ▸ hps p hp
  · cases hmeaning

theorem of_loop? {range : Range} {s : Stmt} (h : loop? ps range = some s) :
    (∃ x start limit step?, s = .numericFor x start limit step? (body ps range) range ∧
      P (.numeric x start limit step?)) ∨
      ∃ xs iterators, s = .genericFor xs iterators (body ps range) range ∧ P (.generic xs iterators) := by
  obtain ⟨p, hp, hmeaning⟩ := List.exists_of_findSome?_eq_some h
  split at hmeaning
  · rename_i x start limit step? heq
    cases hmeaning
    exact Or.inl ⟨x, start, limit, step?, rfl, heq ▸ hps p hp⟩
  · rename_i xs iterators heq
    cases hmeaning
    exact Or.inr ⟨xs, iterators, rfl, heq ▸ hps p hp⟩
  · cases hmeaning

theorem of_numeric? {m : Meaning} (h : numeric? ps = some m) : ∃ x start limit,
    m = .numeric x start limit (expr? ps .step) ∧ P (.expr (.ident x)) ∧ P (.expr start) ∧ P (.expr limit) := by
  unfold numeric? at h
  obtain ⟨x, hx, h⟩ := Option.bind_eq_some_iff.1 h
  obtain ⟨start, hstart, h⟩ := Option.bind_eq_some_iff.1 h
  obtain ⟨limit, hlimit, h⟩ := Option.bind_eq_some_iff.1 h
  cases h
  exact ⟨x, start, limit, rfl, of_ident hps hx, of_expr? hps hstart, of_expr? hps hlimit⟩

end

end Part

end LuaAtlas.Syntax
