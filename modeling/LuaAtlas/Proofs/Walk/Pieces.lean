/-
What a walk can meet. The events of a file are made of pieces: a use of a name, the facts of a call, a
declared name with the place where it is written. A declaration never stands alone, save for the implicit
`self`: a local, a parameter and a table entry are written where they are declared, and an assigned place
or a declared function has just been met as an expression. Every assigned place and declared function of
the file has its piece. So what holds of all pieces, and of two runs of events one after the other, holds of
a walk over any file.
-/
import LuaAtlas.Walk
import Mathlib.Data.List.Forall2
import Mathlib.Data.List.Perm.Basic

namespace LuaAtlas.Syntax

/-! ## Places -/

/-- What an expression is inside its parentheses. -/
def Expr.inner : Expr → Expr
  | .paren e _ => e.inner
  | e => e

/-- Whether an expression is a variable or a field, which is all that can be assigned to. -/
def Expr.isPlace : Expr → Bool
  | .ident _ | .member .. | .index .. => true
  | _ => false

theorem Expr.inner_of_isPlace : ∀ {e : Expr}, e.isPlace = true → e.inner = e
  | .ident _, _ | .member .., _ | .index .., _ => rfl

mutual

/-- The places that are assigned to and the names of the functions declared in an expression. -/
def exprTargets : Expr → List Expr
  | .member base _ _ _ => exprTargets base
  | .index base key _ => exprTargets base ++ exprTargets key
  | .call callee args _ => exprTargets callee ++ exprsTargets args
  | .func f => functionTargets f
  | .table entries _ => entriesTargets entries
  | .binary left right _ => exprTargets left ++ exprTargets right
  | .unary operand _ => exprTargets operand
  | .paren inner _ => exprTargets inner
  | .ident _ | .string .. | .number .. | .literal _ | .vararg _ => []

def exprsTargets : List Expr → List Expr
  | [] => []
  | e :: es => exprTargets e ++ exprsTargets es

def entriesTargets : List TableEntry → List Expr
  | [] => []
  | e :: es => entryTargets e ++ entriesTargets es

def entryTargets : TableEntry → List Expr
  | .named _ value | .positional value => exprTargets value
  | .indexed key value => exprTargets key ++ exprTargets value

def functionTargets : FuncBody → List Expr
  | .mk _ _ body _ => blockTargets body

def blockTargets : Block → List Expr
  | .mk stmts _ => stmtsTargets stmts

def stmtsTargets : List Stmt → List Expr
  | [] => []
  | s :: ss => stmtTargets s ++ stmtsTargets ss

def clausesTargets : List Clause → List Expr
  | [] => []
  | .mk (some condition) body :: cs => exprTargets condition ++ blockTargets body ++ clausesTargets cs
  | .mk none body :: cs => blockTargets body ++ clausesTargets cs

/-- The places that are assigned to and the names of the functions declared in a statement. -/
def stmtTargets : Stmt → List Expr
  | .localVars _ values _ => exprsTargets values
  | .assign targets values _ => targets ++ exprsTargets targets ++ exprsTargets values
  | .funcDecl _ name f _ => name :: exprTargets name ++ functionTargets f
  | .call callee args _ => exprTargets callee ++ exprsTargets args
  | .ret values _ => exprsTargets values
  | .branch clauses _ => clausesTargets clauses
  | .whileLoop condition body _ => exprTargets condition ++ blockTargets body
  | .repeatLoop body condition _ => blockTargets body ++ exprTargets condition
  | .doBlock body _ => blockTargets body
  | .numericFor _ start limit (some step) body _ =>
    exprTargets start ++ exprTargets limit ++ exprTargets step ++ blockTargets body
  | .numericFor _ start limit none body _ => exprTargets start ++ exprTargets limit ++ blockTargets body
  | .genericFor _ iterators body _ => exprsTargets iterators ++ blockTargets body

end

theorem exprsTargets_eq (es : List Expr) : exprsTargets es = (es.map exprTargets).flatten := by
  induction es with
  | nil =>
    rw [exprsTargets]
    rfl
  | cons e es ih => rw [exprsTargets, ih, List.map_cons, List.flatten_cons]

/-- The targets of an assignment with those inside of them. -/
theorem targets_perm (ts : List Expr) :
    (ts.map fun t => exprTargets t ++ [t]).flatten.Perm (ts ++ exprsTargets ts) := by
  induction ts with
  | nil =>
    rw [exprsTargets]
    exact .refl _
  | cons t ts ih =>
    rw [exprsTargets, List.map_cons, List.flatten_cons, List.append_assoc, List.singleton_append]
    refine List.perm_middle.trans (.cons t ?_)
    refine (ih.append_left _).trans ?_
    exact List.perm_append_comm_assoc ..

/-- An index has a name only if its key is known before the program runs. -/
theorem Expr.keySuffix?_of_dottedName? {base key : Expr} {range : Range} {name : String}
    (h : (Expr.index base key range).dottedName? = some name) : ∃ suffix, key.keySuffix? = some suffix := by
  unfold dottedName? at h
  obtain ⟨b, -, hb⟩ := Option.bind_eq_some_iff.1 h
  obtain ⟨suffix, hs, -⟩ := Option.map_eq_some_iff.1 hb
  exact ⟨suffix, hs⟩

/-- Nothing is assigned to in such a key. -/
theorem exprTargets_of_keySuffix? {key : Expr} {suffix : String} (h : key.keySuffix? = some suffix) :
    exprTargets key = [] := by
  cases key with
  | string value range => rw [exprTargets]
  | number raw range => rw [exprTargets]
  | _ => cases h

theorem exprTargets_key {base key : Expr} {range : Range} {name : String}
    (h : (Expr.index base key range).dottedName? = some name) : exprTargets key = [] := by
  obtain ⟨suffix, hs⟩ := Expr.keySuffix?_of_dottedName? h
  exact exprTargets_of_keySuffix? hs

/-- Everything in a file that is assigned to or declared as a function. -/
def File.targets (file : File) : List Expr := blockTargets file.body

end LuaAtlas.Syntax

namespace LuaAtlas.Walk

open LuaAtlas.Syntax

/-! ## Lists of lists -/

section

variable {α β : Type} {R : List α → List β → Prop} (hnil : R [] [])
  (happend : ∀ {as as' : List α} {bs bs' : List β}, R as bs → R as' bs' → R (as ++ as') (bs ++ bs'))

include hnil happend

/-- What is related list by list is related as a whole. -/
theorem rel_flatten {ass : List (List α)} {bss : List (List β)} (h : List.Forall₂ R ass bss) :
    R ass.flatten bss.flatten := by
  induction h with
  | nil => exact hnil
  | cons h _ ih => exact happend h ih

theorem rel_alternate {ass ass' : List (List α)} {bss bss' : List (List β)} (h : List.Forall₂ R ass bss)
    (h' : List.Forall₂ R ass' bss') : R (alternate ass ass') (alternate bss bss') := by
  induction h generalizing ass' bss' with
  | nil =>
    rw [alternate_nil_left, alternate_nil_left]
    exact rel_flatten hnil happend h'
  | cons h hs ih =>
    cases h' with
    | nil => exact rel_flatten hnil happend (.cons h hs)
    | cons h' hs' => exact happend (happend h h') (ih hs')

end

/-- Alternating only changes the order. -/
theorem alternate_perm {α : Type} : ∀ as bs : List (List α), (alternate as bs).Perm (as.flatten ++ bs.flatten)
  | [], bs => by
    rw [alternate_nil_left]
    exact .refl _
  | a :: as, [] => by
    rw [alternate_nil_right, List.flatten_nil, List.append_nil]
  | a :: as, b :: bs => by
    rw [alternate, List.flatten_cons, List.flatten_cons, List.append_assoc, List.append_assoc]
    refine .append_left a (((alternate_perm as bs).append_left b).trans ?_)
    exact List.perm_append_comm_assoc ..

/-! ## Pieces -/

/-- The events that a walk meets together, with the targets that they declare. -/
inductive Piece : List Expr → List Event → Prop
  | use (c : Context) (e : Expr) : Piece [] (use c e)
  | facts (binding? : Option Binding) (callee : Expr) (args : List Expr) (range : Range) :
      Piece [] (callFacts binding? callee args range)
  | equated (line : Nat) (name source : String) : Piece [] [.equated line name source]
  | opened (chunk : Chunk) : Piece [] [.opened chunk]
  | introduced (c : Context) (x : Ident) (value? : Option Expr) :
      Piece [] [siteOf (localDeclaration c x value?), .declared (localDeclaration c x value?)]
  | entry (c : Context) (base : Binding) (name : String) (key : Range) (value : Expr) :
      Piece [] [siteOf (entryDeclaration c base name key value), .declared (entryDeclaration c base name key value)]
  | self (c : Context) (owner : String) (range : Range) : Piece [] [.declared (selfDeclaration c owner range)]
  | assigned (c : Context) (t : Expr) (name : String) (value? : Option Expr) : t.dottedName? = some name →
      Piece [t] (Walk.use c t.inner ++ [.declared (targetDeclaration c t name value?)])
  | function (c : Context) (isLocal : Bool) (t : Expr) (name : String) (f : FuncBody) :
      t.dottedName? = some name → Piece [t] (Walk.use c t.inner ++ [.declared (functionDeclaration c isLocal t name f)])
  /-- A target without a known name declares nothing. -/
  | unnamed (t : Expr) : t.dottedName? = none → Piece [t] []

/-- Events made of pieces, with the targets of these in some order. -/
inductive Walked : List Expr → List Event → Prop
  | nil : Walked [] []
  | piece {ts : List Expr} {es : List Event} : Piece ts es → Walked ts es
  | append {ts us : List Expr} {es fs : List Event} : Walked ts es → Walked us fs → Walked (ts ++ us) (es ++ fs)
  | perm {ts us : List Expr} {es : List Event} : ts.Perm us → Walked ts es → Walked us es

namespace Walked

theorem flatten {tss : List (List Expr)} {ess : List (List Event)} (h : List.Forall₂ Walked tss ess) :
    Walked tss.flatten ess.flatten := rel_flatten .nil .append h

/-- Events that declare no target, for every element of a list. -/
theorem flatMap {α : Type} {f : α → List Event} (h : ∀ a, Walked [] (f a)) : ∀ as : List α, Walked [] (as.flatMap f)
  | [] => .nil
  | a :: as => (h a).append (flatMap h as)

theorem alternate {tss uss : List (List Expr)} {ess fss : List (List Event)} (h : List.Forall₂ Walked tss ess)
    (h' : List.Forall₂ Walked uss fss) : Walked (tss.flatten ++ uss.flatten) (alternate ess fss) :=
  (rel_alternate .nil .append h h').perm (alternate_perm tss uss)

/-- The events of a call are those of its parts. -/
theorem call {c : Context} {callee : Expr} {args : List Expr} {ts us : List Expr} (binding? : Option Binding)
    (range : Range) (hc : Walked ts (exprEvents c callee)) (ha : Walked us (exprsEvents c args)) :
    Walked (ts ++ us) (exprEvents c callee ++ callFacts binding? callee args range ++ exprsEvents c args) := by
  have h := (hc.append (.piece (.facts binding? callee args range))).append ha
  rw [List.append_nil] at h
  exact h

theorem localVars (c : Context) (xs : List Ident) :
    Walked [] (xs.flatMap fun x => [siteOf (localVar c x), .declared (localVar c x)]) :=
  flatMap (fun x => .piece (.introduced c x none)) xs

theorem localDeclarations (c : Context) : ∀ (xs : List Ident) (vs : List Expr),
    Walked [] ((localDeclarations c xs vs).flatMap fun d => [siteOf d, .declared d])
  | [], _ => .nil
  | x :: xs, [] => (Walked.piece (.introduced c x none)).append (localDeclarations c xs [])
  | x :: xs, v :: vs => (Walked.piece (.introduced c x (some v))).append (localDeclarations c xs vs)

end Walked

/-! ## The walk is made of pieces -/

mutual

theorem exprEvents_walked (c : Context) : ∀ e : Expr, Walked (exprTargets e) (exprEvents c e)
  | .ident id => by
    rw [exprTargets, exprEvents]
    exact .piece (.use c _)
  | .member base accessor field range => by
    rw [exprTargets, exprEvents, ← List.append_nil (exprTargets base)]
    exact (exprEvents_walked c base).append (.piece (.use c _))
  | .index base key range => by
    rw [exprTargets, exprEvents]
    refine (exprEvents_walked c base).append ?_
    split
    · rename_i name hname
      rw [exprTargets_key hname]
      exact .piece (.use c _)
    · exact exprEvents_walked c key
  | .call callee args range => by
    rw [exprTargets, exprEvents]
    exact .call none range (exprEvents_walked c callee) (exprsEvents_walked c args)
  | .func f => by
    rw [exprTargets, exprEvents]
    exact functionEvents_walked c _ none f
  | .table entries range => by
    rw [exprTargets, exprEvents]
    exact entriesEvents_walked c none entries
  | .binary left right range => by
    rw [exprTargets, exprEvents]
    exact (exprEvents_walked c left).append (exprEvents_walked c right)
  | .unary operand range => by
    rw [exprTargets, exprEvents]
    exact exprEvents_walked c operand
  | .paren inner range => by
    rw [exprTargets, exprEvents]
    exact exprEvents_walked c inner
  | .string .. | .number .. | .literal _ | .vararg _ => by
    rw [exprTargets, exprEvents]
    exact .nil

theorem exprsEvents_walked (c : Context) : ∀ es : List Expr, Walked (exprsTargets es) (exprsEvents c es)
  | [] => by
    rw [exprsTargets, exprsEvents]
    exact .nil
  | e :: es => by
    rw [exprsTargets, exprsEvents]
    exact (exprEvents_walked c e).append (exprsEvents_walked c es)

theorem valueEvents_walked (c : Context) (b : Binding) : ∀ e : Expr, Walked (exprTargets e) (valueEvents c b e)
  | .func f => by
    rw [exprTargets, valueEvents]
    exact functionEvents_walked c _ none f
  | .table entries range => by
    rw [exprTargets, valueEvents]
    exact entriesEvents_walked c (some b) entries
  | .call callee args range => by
    rw [exprTargets, valueEvents]
    exact .call (some b) range (exprEvents_walked c callee) (exprsEvents_walked c args)
  | .paren inner range => by
    rw [exprTargets, valueEvents]
    exact valueEvents_walked c b inner
  | .ident id => by
    rw [exprTargets, valueEvents]
    exact (Walked.piece (.use c _)).append (.piece (.equated ..))
  | .member base accessor field range => by
    rw [exprTargets, valueEvents, ← List.append_nil (exprTargets base), ← List.append_nil (_ ++ _)]
    refine ((exprEvents_walked c base).append (.piece (.use c _))).append ?_
    cases (Expr.member base accessor field range).dottedName? with
    | none => exact .nil
    | some name => exact .piece (.equated ..)
  | .index base key range => by
    rw [exprTargets, valueEvents]
    refine (exprEvents_walked c base).append ?_
    split
    · rename_i name hname
      rw [exprTargets_key hname]
      exact (Walked.piece (.use c _)).append (.piece (.equated ..))
    · exact exprEvents_walked c key
  | .binary left right range => by
    rw [exprTargets, valueEvents]
    exact (exprEvents_walked c left).append (exprEvents_walked c right)
  | .unary operand range => by
    rw [exprTargets, valueEvents]
    exact exprEvents_walked c operand
  | .string .. | .number .. | .literal _ | .vararg _ => by
    rw [exprTargets, valueEvents]
    exact .nil

theorem valuesEvents_walked (c : Context) : ∀ (bs : List (Option Binding)) (vs : List Expr),
    List.Forall₂ Walked (vs.map exprTargets) (valuesEvents c bs vs)
  | _, [] => by
    rw [valuesEvents]
    exact .nil
  | some b :: bs, v :: vs => by
    rw [valuesEvents]
    exact .cons (valueEvents_walked c b v) (valuesEvents_walked c bs vs)
  | none :: bs, v :: vs => by
    rw [valuesEvents]
    exact .cons (exprEvents_walked c v) (valuesEvents_walked c bs vs)
  | [], v :: vs => by
    rw [valuesEvents]
    exact .cons (exprEvents_walked c v) (valuesEvents_walked c [] vs)

theorem entriesEvents_walked (c : Context) (base? : Option Binding) : ∀ es : List TableEntry,
    Walked (entriesTargets es) (entriesEvents c base? es)
  | [] => by
    rw [entriesTargets, entriesEvents]
    exact .nil
  | e :: es => by
    rw [entriesTargets, entriesEvents]
    exact (entryEvents_walked c base? e).append (entriesEvents_walked c base? es)

theorem entryEvents_walked (c : Context) (base? : Option Binding) : ∀ e : TableEntry,
    Walked (entryTargets e) (entryEvents c base? e)
  | .named key value => by
    rw [entryTargets]
    unfold entryEvents
    split
    · exact (Walked.piece (.entry ..)).append (valueEvents_walked c _ value)
    · exact exprEvents_walked c value
  | .indexed key value => by
    rw [entryTargets]
    unfold entryEvents
    split
    · rename_i name base hname
      obtain ⟨suffix, hs, -⟩ := Option.map_eq_some_iff.1 hname
      rw [exprTargets_of_keySuffix? hs]
      exact (Walked.piece (.entry ..)).append (valueEvents_walked c _ value)
    · exact (exprEvents_walked c key).append (exprEvents_walked c value)
  | .positional value => by
    rw [entryTargets, entryEvents]
    exact exprEvents_walked c value

theorem functionEvents_walked (c : Context) (name : String) (receiver? : Option (String × Range)) :
    ∀ f : FuncBody, Walked (functionTargets f) (functionEvents c name receiver? f)
  | .mk params isVararg body range => by
    rw [functionTargets]
    unfold functionEvents
    have hopened := Walked.piece (.opened (functionChunk name (.mk params isVararg body range)))
    have hparams := Walked.localVars (c.enter ⟨name, range⟩) params
    cases receiver? with
    | none => exact ((hopened.append .nil).append hparams).append (blockEvents_walked _ body)
    | some receiver =>
      have hself := Walked.piece (.self (c.enter ⟨name, range⟩) receiver.1 receiver.2)
      exact ((hopened.append hself).append hparams).append (blockEvents_walked _ body)

theorem blockEvents_walked (c : Context) : ∀ b : Block, Walked (blockTargets b) (blockEvents c b)
  | .mk stmts range => by
    rw [blockTargets, blockEvents]
    exact stmtsEvents_walked c stmts

theorem stmtsEvents_walked (c : Context) : ∀ ss : List Stmt, Walked (stmtsTargets ss) (stmtsEvents c ss)
  | [] => by
    rw [stmtsTargets, stmtsEvents]
    exact .nil
  | s :: ss => by
    rw [stmtsTargets, stmtsEvents]
    exact (stmtEvents_walked c s).append (stmtsEvents_walked _ ss)

theorem clausesEvents_walked (c : Context) : ∀ cs : List Clause, Walked (clausesTargets cs) (clausesEvents c cs)
  | [] => by
    rw [clausesTargets, clausesEvents]
    exact .nil
  | .mk (some condition) body :: cs => by
    rw [clausesTargets, clausesEvents]
    exact ((exprEvents_walked c condition).append (blockEvents_walked c body)).append (clausesEvents_walked c cs)
  | .mk none body :: cs => by
    rw [clausesTargets, clausesEvents]
    exact (blockEvents_walked c body).append (clausesEvents_walked c cs)

theorem stmtEvents_walked (c : Context) : ∀ s : Stmt, Walked (stmtTargets s) (stmtEvents c s)
  | .localVars names values range => by
    rw [stmtTargets, stmtEvents, exprsTargets_eq]
    exact (Walked.localDeclarations c names values).append (.flatten (valuesEvents_walked c _ values))
  | .assign targets values range => by
    rw [stmtTargets, stmtEvents, exprsTargets_eq values]
    refine (Walked.alternate (targetsEvents_walked c targets values) (valuesEvents_walked c _ values)).perm ?_
    exact (targets_perm targets).append_right _
  | .funcDecl isLocal name f range => by
    rw [stmtTargets, stmtEvents]
    generalize c.withLocals (introduced (.funcDecl isLocal name f range)) = inner
    split
    · rename_i dotted hname
      obtain ⟨es, he, hes⟩ := placeEvents_walked inner name hname
      have hpiece := Walked.piece (.function inner isLocal name dotted f hname)
      have h := hes.append (hpiece.append (functionEvents_walked inner dotted (receiver? name) f))
      rw [List.append_assoc, ← List.append_assoc es, ← he] at h
      exact h.perm List.perm_middle
    · rename_i hname
      have h := (Walked.piece (.unnamed name hname)).append (exprEvents_walked inner name)
      exact h.append (functionEvents_walked inner (anonymousName f) none f)
  | .call callee args range => by
    rw [stmtTargets, stmtEvents]
    exact .call none range (exprEvents_walked c callee) (exprsEvents_walked c args)
  | .ret values range => by
    rw [stmtTargets, stmtEvents]
    exact exprsEvents_walked c values
  | .branch clauses range => by
    rw [stmtTargets, stmtEvents]
    exact clausesEvents_walked c clauses
  | .whileLoop condition body range => by
    rw [stmtTargets, stmtEvents]
    exact (exprEvents_walked c condition).append (blockEvents_walked c body)
  | .repeatLoop body condition range => by
    rw [stmtTargets, stmtEvents]
    exact (blockEvents_walked c body).append (exprEvents_walked c condition)
  | .doBlock body range => by
    rw [stmtTargets, stmtEvents]
    exact blockEvents_walked c body
  | .numericFor x start limit (some step) body range => by
    rw [stmtTargets, stmtEvents]
    refine .append (.append (.append (exprEvents_walked c start) (exprEvents_walked c limit))
      (exprEvents_walked c step)) ?_
    exact (Walked.piece (.introduced c x none)).append (blockEvents_walked _ body)
  | .numericFor x start limit none body range => by
    rw [stmtTargets, stmtEvents]
    refine .append (.append (exprEvents_walked c start) (exprEvents_walked c limit)) ?_
    exact (Walked.piece (.introduced c x none)).append (blockEvents_walked _ body)
  | .genericFor xs iterators body range => by
    rw [stmtTargets, stmtEvents, List.append_assoc]
    exact (exprsEvents_walked c iterators).append ((Walked.localVars c xs).append (blockEvents_walked _ body))

/-- Each target of an assignment is met as an expression and then declared, if it has a name. -/
theorem targetsEvents_walked (c : Context) : ∀ ts vs : List Expr,
    List.Forall₂ Walked (ts.map fun t => exprTargets t ++ [t])
      (List.zipWith (· ++ ·) (targetsEvents c ts) (targetDeclarations c ts vs))
  | [], vs => by
    rw [targetsEvents]
    exact .nil
  | t :: ts, vs => by
    rw [targetsEvents, targetDeclarations]
    refine .cons ?_ (targetsEvents_walked c ts vs.tail)
    split
    · rename_i name hname
      obtain ⟨es, he, hes⟩ := placeEvents_walked c t hname
      have h := hes.append (.piece (.assigned c t name vs.head? hname))
      rw [← List.append_assoc, ← he] at h
      exact h
    · rename_i hname
      exact (exprEvents_walked c t).append (.piece (.unnamed t hname))

/-- The last thing met in an expression that has a name is that name. -/
theorem placeEvents_walked (c : Context) : ∀ (t : Expr) {name : String}, t.dottedName? = some name →
    ∃ es, exprEvents c t = es ++ use c t.inner ∧ Walked (exprTargets t) es
  | .ident id, _, _ => by
    rw [exprTargets, exprEvents]
    exact ⟨[], rfl, .nil⟩
  | .member base accessor field range, _, _ => by
    rw [exprTargets, exprEvents]
    exact ⟨_, rfl, exprEvents_walked c base⟩
  | .index base key range, name, hname => by
    rw [exprTargets, exprTargets_key hname, List.append_nil, exprEvents, hname]
    exact ⟨_, rfl, exprEvents_walked c base⟩
  | .paren inner range, name, hname => by
    rw [exprTargets, exprEvents]
    exact placeEvents_walked c inner hname
  | .call .., _, hname | .func _, _, hname | .table .., _, hname | .binary .., _, hname | .unary .., _, hname
  | .string .., _, hname | .number .., _, hname | .literal _, _, hname | .vararg _, _, hname => by cases hname

end

/-- The events of a file are made of pieces, and all its targets are among these. -/
theorem events_walked (uri : Uri) (file : File) : Walked file.targets (events uri file) :=
  (Walked.piece (.opened _)).append (blockEvents_walked _ file.body)

end LuaAtlas.Walk
