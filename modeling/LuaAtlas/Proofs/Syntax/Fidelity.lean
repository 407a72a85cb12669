/-
The tree of a text without faults is faithful to it. A node without faults stands in the text, its parts follow each
other in it, and so does what they mean: what a rule makes of parts that say what the text says, says it too.

What the code does to a string is right only where its delimiters are equally long. Long brackets need not be: their
levels are compared modulo 256.
-/
import LuaAtlas.Proofs.Syntax.Ending
import LuaAtlas.Proofs.Syntax.Faithful
import LuaAtlas.Proofs.Syntax.Heads

namespace LuaAtlas.Syntax

/-! ## Strings without their delimiters -/

/-- The value of a string is its text without the delimiters. -/
def IsUnquoted (raw value : String) : Prop :=
  ∃ opening inner closing, Delimiters opening closing ∧ raw.toList = opening ++ inner ++ closing ∧
    value = String.ofList inner

/-- The value of a string with equally long delimiters is its text without them. -/
def IsUnquotedIfEven (raw value : String) : Prop :=
  ∃ opening inner closing, Delimiters opening closing ∧ raw.toList = opening ++ inner ++ closing ∧
    (opening.length = closing.length → value = String.ofList inner)

theorem isUnquotedIfEven_of_spells {n : Nonterminal} {raw : String} (hn : (Symbol.made n).isEnclosed = true)
    (h : (Symbol.made n).Spells raw.toList) : IsUnquotedIfEven raw (Meaning.unquote raw) := by
  obtain ⟨opening, inner, closing, hdelimiters, hraw⟩ := h.enclosed hn
  refine ⟨opening, inner, closing, hdelimiters, hraw, fun hlength => ?_⟩
  have hvalue : Meaning.unquote? (String.ofList (opening ++ inner ++ closing)) = some (String.ofList inner) :=
    Meaning.unquote?_of_delimiters hdelimiters hlength
  rw [← hraw, String.ofList_toList] at hvalue
  rw [Meaning.unquote, hvalue, Option.getD_some]

/-! ## Faithful meanings -/

section

variable (isValue : String → String → Prop) (text : List Char)

/-- Expressions in reading order that say what the text says. -/
structure AreFaithful (outer : Range) (es : List Expr) : Prop where
  all : ∀ e ∈ es, Expr.IsFaithful isValue text outer e
  ordered : Range.Ordered (es.map (·.range))

/-- Names in reading order that are spelled as the text in their ranges. -/
structure AreSpelled (outer : Range) (xs : List Ident) : Prop where
  all : ∀ x ∈ xs, x.IsFaithful text outer
  ordered : Range.Ordered (xs.map (·.range))

/-- What a node with the given range stands for says what the text says. -/
def Meaning.IsFaithful (outer : Range) : Meaning → Prop
  | .nothing => True
  | .expr e => Expr.IsFaithful isValue text outer e
  | .exprs es => AreFaithful isValue text outer es
  | .params xs _ => AreSpelled text outer xs
  | .entry e => TableEntry.IsFaithful isValue text outer e
  | .assignment targets values r =>
    r.LiesProperlyIn outer ∧ AreFaithful isValue text r targets ∧ AreFaithful isValue text r values
  | .block b => Block.IsFaithful isValue text outer b
  | .clause c => Clause.IsFaithful isValue text outer c
  | .numeric x start limit step? => x.IsFaithful text outer ∧ Expr.IsFaithful isValue text outer start ∧
      Expr.IsFaithful isValue text outer limit ∧ ∀ e ∈ step?, Expr.IsFaithful isValue text outer e
  | .generic xs iterators => AreSpelled text outer xs ∧ AreFaithful isValue text outer iterators
  | .stmt s => Stmt.IsFaithful isValue text outer s

/-- Parts that follow each other between two positions, each with a meaning that is faithful between two others. -/
inductive Part.Laid : Position → List Part → Position → Prop
  | nil {a b : Position} : a ≤ b → Part.Laid a [] b
  | cons {a start stop b : Position} {p : Part} {ps : List Part} : a ≤ start → start ≤ stop →
      p.meaning.IsFaithful isValue text ⟨start, stop⟩ → Part.Laid stop ps b → Part.Laid a (p :: ps) b

end

variable {isValue : String → String → Prop} {text : List Char} {outer outer' : Range}

theorem AreFaithful.mono {es : List Expr} (h : AreFaithful isValue text outer es) (hle : outer.LiesIn outer') :
    AreFaithful isValue text outer' es := ⟨fun e he => (h.all e he).mono hle, h.ordered⟩

theorem AreSpelled.mono {xs : List Ident} (h : AreSpelled text outer xs) (hle : outer.LiesIn outer') :
    AreSpelled text outer' xs := ⟨fun x hx => (h.all x hx).mono hle, h.ordered⟩

theorem areFaithful_nil : AreFaithful isValue text outer [] := ⟨List.forall_mem_nil _, .nil⟩

theorem areSpelled_nil : AreSpelled text outer [] := ⟨List.forall_mem_nil _, .nil⟩

namespace Meaning

theorem IsFaithful.mono {m : Meaning} (h : m.IsFaithful isValue text outer) (hle : outer.LiesIn outer') :
    m.IsFaithful isValue text outer' := by
  cases m with
  | nothing => trivial
  | expr e => exact Expr.IsFaithful.mono h hle
  | exprs es => exact AreFaithful.mono h hle
  | params xs isVararg => exact AreSpelled.mono h hle
  | entry e => exact TableEntry.IsFaithful.mono h hle
  | assignment targets values r => exact ⟨h.1.trans hle, h.2⟩
  | block b => exact Block.IsFaithful.mono h hle
  | clause c => exact Clause.IsFaithful.mono h hle
  | numeric x start limit step? =>
    obtain ⟨hx, hstart, hlimit, hstep⟩ := h
    exact ⟨hx.mono hle, hstart.mono hle, hlimit.mono hle, fun e he => (hstep e he).mono hle⟩
  | generic xs iterators => exact ⟨h.1.mono hle, h.2.mono hle⟩
  | stmt s => exact Stmt.IsFaithful.mono h hle

/-- What a name says is what it is spelled as. -/
theorem IsFaithful.ident {x : Ident} (h : (Meaning.expr (.ident x)).IsFaithful isValue text outer) :
    x.IsFaithful text outer := by
  cases h with
  | ident hx => exact hx

/-- The statement that something stands for is as faithful as that. -/
theorem IsFaithful.stmt {m : Meaning} (h : m.IsFaithful isValue text outer) {s : Stmt} (hs : m.stmt? = some s) :
    Stmt.IsFaithful isValue text outer s := by
  unfold stmt? at hs
  split at hs
  · cases hs
    exact h
  · cases hs
    cases h with
    | call hr hcallee hargs hordered => exact .call hr hcallee hargs hordered
  · split at hs
    · cases hs
    · cases hs
      obtain ⟨hr, htargets, hvalues⟩ := h
      exact .assign hr htargets.all htargets.ordered hvalues.all hvalues.ordered
  · cases hs

end Meaning

/-! ## Parts in reading order -/

namespace Part

variable {a a' b : Position} {ps : List Part} {p : Part}

theorem Laid.le (h : Laid isValue text a ps b) : a ≤ b := by
  induction h with
  | nil h => exact h
  | cons hstart hstop _ _ ih => exact hstart.trans (hstop.trans ih)

theorem Laid.of_le (h : Laid isValue text a ps b) (hle : a' ≤ a) : Laid isValue text a' ps b := by
  cases h with
  | nil h => exact .nil (hle.trans h)
  | cons hstart hstop hmeaning hrest => exact .cons (hle.trans hstart) hstop hmeaning hrest

/-- What the parts mean is faithful between the two positions. -/
theorem Laid.mem (h : Laid isValue text a ps b) : ∀ p ∈ ps, p.meaning.IsFaithful isValue text ⟨a, b⟩ := by
  induction h with
  | nil _ => exact List.forall_mem_nil _
  | cons hstart hstop hmeaning hrest ih =>
    refine List.forall_mem_cons.2 ⟨hmeaning.mono ⟨hstart, hstop, hrest.le⟩, fun p hp => (ih p hp).mono ?_⟩
    exact ⟨hstart.trans hstop, hrest.le, le_rfl⟩

/-- What is taken from the parts, at most one thing from each, is in reading order. -/
theorem Laid.ordered {α : Type} {f : Part → Option α} {range : α → Range}
    (hf : ∀ p x r, f p = some x → p.meaning.IsFaithful isValue text r → (range x).LiesProperlyIn r)
    (h : Laid isValue text a ps b) : Range.Ordered ((ps.filterMap f).map range) := by
  induction h with
  | nil _ => exact .nil
  | @cons _ start stop _ p ps hstart hstop hmeaning hrest ih =>
    rw [List.filterMap_cons]
    split
    · exact ih
    · rename_i x hx
      refine List.pairwise_cons.2 ⟨fun r hr => ?_, ih⟩
      obtain ⟨y, hy, rfl⟩ := List.mem_map.1 hr
      obtain ⟨q, hq, hqy⟩ := List.mem_filterMap.1 hy
      have hfirst := hf p x _ hx hmeaning
      have hafter := hfirst.stop_le.trans (hf q y _ hqy (hrest.mem q hq)).start_le
      exact ⟨hfirst.lt.trans_le hafter, hafter⟩

variable {r : Range}

theorem exprs_faithful (h : Laid isValue text r.start ps r.stop) : AreFaithful isValue text r (exprs ps) := by
  refine ⟨fun e he => of_exprs h.mem he, h.ordered fun p e r he hp => ?_⟩
  rw [Meaning.expr?_eq_some.1 he] at hp
  exact Expr.IsFaithful.liesIn hp

theorem idents_spelled (h : Laid isValue text r.start ps r.stop) : AreSpelled text r (idents ps) := by
  refine ⟨fun x hx => (of_idents h.mem hx).ident, h.ordered fun p x r hx hp => ?_⟩
  rw [Meaning.ident?_eq_some.1 hx] at hp
  exact hp.ident.liesIn

theorem stmts_faithful (h : Laid isValue text r.start ps r.stop) :
    Block.IsFaithful isValue text r (.mk (ps.filterMap (·.meaning.stmt?)) r) := by
  refine .mk (.refl h.le) (fun s hs => ?_) (h.ordered fun p s r hs hp => (hp.stmt hs).liesIn)
  obtain ⟨m, hmeaning, hfaithful⟩ := of_stmts h.mem hs
  exact hfaithful.stmt hmeaning

theorem Laid.append : ∀ {ps qs : List Part} {a : Position}, Laid isValue text a (ps ++ qs) b →
    ∃ c, Laid isValue text a ps c ∧ Laid isValue text c qs b
  | [], _, a, h => ⟨a, .nil le_rfl, h⟩
  | p :: ps, qs, a, h => by
    cases h with
    | cons hstart hstop hmeaning hrest =>
      obtain ⟨c, hps, hqs⟩ := hrest.append
      exact ⟨c, .cons hstart hstop hmeaning hps, hqs⟩

/-! ## From parts to wholes -/

/-- What else the parts mean comes before a position, and the body behind it. -/
def BodyStandsBehind (isValue : String → String → Prop) (text : List Char) (ps : List Part) (r : Range) : Prop :=
  ∃ c, (∀ p ∈ ps, p.meaning.isTail = false → p.meaning.IsFaithful isValue text ⟨r.start, c⟩) ∧
    ∀ r' : Range, r'.stop ≤ c → (body ps r).StandsBehind r'

theorem AreHeaded.bodyStandsBehind (hps : AreHeaded ps) (h : Laid isValue text r.start ps r.stop) :
    BodyStandsBehind isValue text ps r := by
  obtain ⟨front, back, rfl, hfront, hback⟩ := hps
  obtain ⟨c, hlaid, hlaid'⟩ := h.append
  refine ⟨c, fun p hp htail => ?_, fun r' hr' => ?_⟩
  · rcases List.mem_append.1 hp with hp | hp
    · exact hlaid.mem p hp
    · rw [hback p hp] at htail
      cases htail
  · unfold body
    cases hblock : (front ++ back).findSome? (·.meaning.block?) with
    | none => exact .inl rfl
    | some b =>
      obtain ⟨p, hp, hmeaning⟩ := List.exists_of_findSome?_eq_some hblock
      rcases List.mem_append.1 hp with hp | hp
      · rw [hfront p hp] at hmeaning
        cases hmeaning
      · have hb := hlaid'.mem p hp
        rw [Meaning.block?_eq_some.1 hmeaning] at hb
        exact .inr (hr'.trans (Block.IsFaithful.liesIn hb).start_le)

section

-- what the parts of a node with the range `r` mean
variable (hps : ∀ p ∈ ps, p.meaning.IsFaithful isValue text r)

include hps

theorem expr?_faithful {role : Role} {e : Expr} (h : expr? ps role = some e) : Expr.IsFaithful isValue text r e :=
  of_expr? hps h

theorem first_list_faithful : AreFaithful isValue text r ((ps.findSome? (·.meaning.exprs?)).getD []) :=
  of_first_list hps areFaithful_nil

/-- A block that is not there is empty and has the range of what it would stand in. -/
theorem body_faithful (hr : r.start ≤ r.stop) : Block.IsFaithful isValue text r (body ps r) :=
  of_body hps (Block.IsFaithful.mk (.refl hr) (List.forall_mem_nil _) .nil)

theorem function_faithful (hr : r.start < r.stop) (hbehind : BodyStandsBehind isValue text ps r) :
    FuncBody.IsFaithful isValue text r (function ps r) := by
  obtain ⟨c, hahead, hbehind⟩ := hbehind
  obtain ⟨xs, isVararg, heq, hspelled, hahead⟩ := of_function
    (P := fun m => m.IsFaithful isValue text r ∧ (m.isTail = false → m.IsFaithful isValue text ⟨r.start, c⟩))
    (fun p hp => ⟨hps p hp, hahead p hp⟩) ⟨areSpelled_nil, fun _ => areSpelled_nil⟩ r
  rw [heq]
  refine .mk (.refl hr) hspelled.all hspelled.ordered (fun x hx => hbehind _ ?_) (body_faithful hps hr.le)
  exact ((hahead rfl).all x hx).liesIn.stop_le

/-- A function behind its name. -/
theorem funcDecl_faithful (hr : r.start < r.stop) (hbehind : BodyStandsBehind isValue text ps r) {isLocal : Bool}
    {name : Expr} (hname : expr? ps .name = some name) :
    Stmt.IsFaithful isValue text r (.funcDecl isLocal name (function ps r) r) := by
  refine .funcDecl (.refl hr) (expr?_faithful hps hname) (function_faithful hps hr hbehind) ?_
  obtain ⟨c, hahead, hbehind⟩ := hbehind
  have hname : Expr.IsFaithful isValue text ⟨r.start, c⟩ name :=
    of_expr? (P := fun m => m.isTail = false → m.IsFaithful isValue text ⟨r.start, c⟩) hahead hname rfl
  exact hbehind _ hname.liesIn.stop_le

theorem member?_faithful (hr : r.start < r.stop) {role : Role} {accessor : Accessor} {e : Expr}
    (h : member? ps role accessor r = some e) : Expr.IsFaithful isValue text r e := by
  obtain ⟨base, field, rfl, hbase, hfield⟩ := of_member? hps h
  exact .member (.refl hr) hbase hfield.ident

theorem entryOf?_faithful {e : TableEntry} (h : entryOf? ps = some e) : TableEntry.IsFaithful isValue text r e := by
  obtain ⟨value, hvalue, rfl | ⟨key, rfl, hkey⟩ | ⟨key, rfl, hkey⟩⟩ := of_entryOf? hps h
  · exact .positional hvalue
  · exact .indexed hkey hvalue
  · exact .named hkey.ident hvalue

theorem clause_faithful (hr : r.start ≤ r.stop) {condition? : Option Expr}
    (h : ∀ e ∈ condition?, Expr.IsFaithful isValue text r e) :
    Clause.IsFaithful isValue text r (.mk condition? (body ps r)) := .mk h (body_faithful hps hr)

theorem branches_faithful (hr : r.start ≤ r.stop) : ∀ c ∈ branches ps r, Clause.IsFaithful isValue text r c := by
  intro c hc
  rcases of_branches hps hc with rfl | hfaithful
  · exact clause_faithful hps hr fun e he => expr?_faithful hps he
  · exact hfaithful

theorem numeric?_faithful {m : Meaning} (h : numeric? ps = some m) : m.IsFaithful isValue text r := by
  obtain ⟨x, start, limit, rfl, hx, hstart, hlimit⟩ := of_numeric? hps h
  exact ⟨hx.ident, hstart, hlimit, fun e he => expr?_faithful hps he⟩

theorem loop?_faithful (hr : r.start < r.stop) (hbehind : BodyStandsBehind isValue text ps r) {s : Stmt}
    (h : loop? ps r = some s) : Stmt.IsFaithful isValue text r s := by
  have hbody := body_faithful hps hr.le
  obtain ⟨c, hahead, hbehind⟩ := hbehind
  rcases of_loop?
    (P := fun m => m.IsFaithful isValue text r ∧ (m.isTail = false → m.IsFaithful isValue text ⟨r.start, c⟩))
    (fun p hp => ⟨hps p hp, hahead p hp⟩) h with
    ⟨x, start, limit, step?, rfl, ⟨hx, hstart, hlimit, hstep⟩, hahead⟩ | ⟨xs, iterators, rfl, ⟨hxs, hiterators⟩, hahead⟩
  · exact .numericFor (.refl hr) hx hstart hlimit hstep (hbehind _ (hahead rfl).1.liesIn.stop_le) hbody
  · exact .genericFor (.refl hr) hxs.all hxs.ordered hiterators.all hiterators.ordered
      (fun x hx => hbehind _ ((hahead rfl).1.all x hx).liesIn.stop_le) hbody

end

/-- The names among expressions stand where those stand. -/
theorem names_sublist : ∀ es : List Expr, ((locals?.names es).map (·.range)).Sublist (es.map (·.range))
  | [] => .slnil
  | e :: es => by
    have hrest := names_sublist es
    unfold locals?.names at hrest ⊢
    cases e with
    | ident x => exact hrest.cons_cons x.range
    | _ => exact hrest.cons _

theorem names_spelled {es : List Expr} (h : AreFaithful isValue text r es) : AreSpelled text r (locals?.names es) := by
  refine ⟨fun x hx => ?_, h.ordered.sublist (names_sublist es)⟩
  obtain ⟨e, he, hident⟩ := List.mem_filterMap.1 hx
  obtain rfl : e = .ident x := Meaning.expr.inj (Meaning.ident?_eq_some.1 hident)
  exact Meaning.IsFaithful.ident (h.all _ he)

theorem locals?_faithful (hps : ∀ p ∈ ps, p.meaning.IsFaithful isValue text r) (hr : r.start < r.stop) {s : Stmt}
    (h : locals? ps r = some s) : Stmt.IsFaithful isValue text r s := by
  rcases of_locals? hps h with ⟨targets, values, r', rfl, hr', htargets, hvalues⟩ | ⟨es, rfl, hes⟩
  · have hnames := names_spelled (htargets.mono hr'.liesIn)
    have hvalues := hvalues.mono hr'.liesIn
    exact .localVars (.refl hr) hnames.all hnames.ordered hvalues.all hvalues.ordered
  · have hnames := names_spelled hes
    exact .localVars (.refl hr) hnames.all hnames.ordered (List.forall_mem_nil _) .nil

theorem ofExpr_faithful {e? : Option Expr} (h : ∀ e, e? = some e → Expr.IsFaithful isValue text r e) :
    (Meaning.ofExpr e?).IsFaithful isValue text r := by
  cases e? with
  | none => trivial
  | some e => exact h e rfl

theorem ofStmt_faithful {s? : Option Stmt} (h : ∀ s, s? = some s → Stmt.IsFaithful isValue text r s) :
    (Meaning.ofStmt s?).IsFaithful isValue text r := by
  cases s? with
  | none => trivial
  | some s => exact h s rfl

/-- What a rule makes of parts that say what the text says, says it too. -/
theorem combine_faithful {made : Nonterminal} {start stop : Place} (hspans : (Symbol.made made).Spans text start stop)
    (h : Laid isValue text start.position ps stop.position) (hheaded : made.bindsAhead = true → AreHeaded ps)
    (hvalue : made = .string → isValue (start.textTo stop) (Meaning.unquote (start.textTo stop))) :
    (combine made ps start stop).IsFaithful isValue text (start.rangeTo stop) := by
  have hps : ∀ p ∈ ps, p.meaning.IsFaithful isValue text (start.rangeTo stop) := h.mem
  have hlaid : Laid isValue text (start.rangeTo stop).start ps (start.rangeTo stop).stop := h
  have hr : (start.rangeTo stop).start ≤ (start.rangeTo stop).stop :=
    hspans.start_isIn.position_le hspans.stop_isIn hspans.le
  have hlt : (Symbol.made made).mayBeEmpty = false → (start.rangeTo stop).start < (start.rangeTo stop).stop := fun hne =>
    hspans.start_isIn.position_lt hspans.stop_isIn (hspans.proper hne)
  have hslice : slice text (start.rangeTo stop) = start.textTo stop :=
    Place.slice_rangeTo hspans.start_isIn hspans.stop_isIn
  have hbehind : made.bindsAhead = true → BodyStandsBehind isValue text ps (start.rangeTo stop) :=
    fun hmade => (hheaded hmade).bodyStandsBehind hlaid
  unfold combine
  generalize start.rangeTo stop = r at *
  cases made with
  | chunk | block => exact stmts_faithful hlaid
  | targets | values | names | localNames | expressions | arguments => exact exprs_faithful hlaid
  | assignment | localAssignment =>
    dsimp only
    split
    · rename_i targets values heq
      exact ⟨.refl (hlt rfl), of_lists hps heq⟩
    · trivial
  | localDecl => exact ofStmt_faithful fun s hs => locals?_faithful hps (hlt rfl) hs
  | functionDecl | localFunction =>
    refine ofStmt_faithful fun s hs => ?_
    obtain ⟨name, hname, rfl⟩ := Option.map_eq_some_iff.1 hs
    exact funcDecl_faithful hps (hlt rfl) (hbehind rfl) hname
  | functionExpr => exact Expr.IsFaithful.func (function_faithful hps (hlt rfl) (hbehind rfl))
  | parameters => exact idents_spelled hlaid
  | returnStat =>
    have hvalues := first_list_faithful hps
    exact Stmt.IsFaithful.ret (.refl (hlt rfl)) hvalues.all hvalues.ordered
  | doStat => exact Stmt.IsFaithful.doBlock (.refl (hlt rfl)) (body_faithful hps hr)
  | whileStat =>
    refine ofStmt_faithful fun s hs => ?_
    obtain ⟨condition, hcondition, rfl⟩ := Option.map_eq_some_iff.1 hs
    exact .whileLoop (.refl (hlt rfl)) (expr?_faithful hps hcondition) (body_faithful hps hr)
  | repeatStat =>
    refine ofStmt_faithful fun s hs => ?_
    obtain ⟨condition, hcondition, rfl⟩ := Option.map_eq_some_iff.1 hs
    exact .repeatLoop (.refl (hlt rfl)) (body_faithful hps hr) (expr?_faithful hps hcondition)
  | ifStat => exact Stmt.IsFaithful.branch (.refl (hlt rfl)) (branches_faithful hps hr)
  | elseifClause => exact clause_faithful hps hr fun e he => expr?_faithful hps he
  | elseClause => exact clause_faithful hps hr fun e he => by cases he
  | forStat => exact ofStmt_faithful fun s hs => loop?_faithful hps (hlt rfl) (hbehind rfl) hs
  | numericClause =>
    dsimp only
    cases h : numeric? ps with
    | none => trivial
    | some m => exact numeric?_faithful hps h
  | genericClause =>
    dsimp only
    split
    · rename_i xs iterators heq
      obtain ⟨hxs, hiterators⟩ := of_lists hps heq
      exact ⟨names_spelled hxs, hiterators⟩
    · trivial
  | dotIndex | functionField | methodIndex | functionMethod =>
    exact ofExpr_faithful fun e he => member?_faithful hps (hlt rfl) he
  | bracketIndex =>
    refine ofExpr_faithful fun e he => ?_
    obtain ⟨base, hbase, he⟩ := Option.bind_eq_some_iff.1 he
    obtain ⟨key, hkey, he⟩ := Option.bind_eq_some_iff.1 he
    cases he
    exact .index (.refl (hlt rfl)) (expr?_faithful hps hbase) (expr?_faithful hps hkey)
  | call =>
    refine ofExpr_faithful fun e he => ?_
    obtain ⟨callee, hcallee, rfl⟩ := Option.map_eq_some_iff.1 he
    have hargs := first_list_faithful hps
    exact .call (.refl (hlt rfl)) (expr?_faithful hps hcallee) hargs.all hargs.ordered
  | binary =>
    refine ofExpr_faithful fun e he => ?_
    obtain ⟨left, hleft, he⟩ := Option.bind_eq_some_iff.1 he
    obtain ⟨right, hright, he⟩ := Option.bind_eq_some_iff.1 he
    cases he
    exact .binary (.refl (hlt rfl)) (expr?_faithful hps hleft) (expr?_faithful hps hright)
  | unary =>
    refine ofExpr_faithful fun e he => ?_
    obtain ⟨operand, hoperand, rfl⟩ := Option.map_eq_some_iff.1 he
    exact .unary (.refl (hlt rfl)) (expr?_faithful hps hoperand)
  | parenthesized =>
    refine ofExpr_faithful fun e he => ?_
    obtain ⟨inner, hinner, rfl⟩ := Option.map_eq_some_iff.1 he
    exact .paren (.refl (hlt rfl)) (of_found hps hinner)
  | table => exact Expr.IsFaithful.table (.refl (hlt rfl)) fun e he => of_entries hps he
  | entry =>
    dsimp only
    cases h : entryOf? ps with
    | none => trivial
    | some e => exact entryOf?_faithful hps h
  | string => exact Expr.IsFaithful.string (.refl (hlt rfl)) (hslice ▸ hvalue rfl)
  | _ => trivial

end Part

/-! ## Nodes without faults -/

/-- A token of the text says what the text says. -/
theorem ofToken_faithful {t : Token} {k : Terminal} (hterminal : t.terminal? = some k)
    (h : (Symbol.terminal k).Spans text t.start t.stop) :
    (Meaning.ofToken t).IsFaithful isValue text (t.start.rangeTo t.stop) := by
  have hslice := Place.slice_rangeTo h.start_isIn h.stop_isIn
  have hr : ∀ {k' : Terminal}, t.terminal? = some k' → (Symbol.terminal k').mayBeEmpty = false →
      (t.start.rangeTo t.stop).LiesProperlyIn (t.start.rangeTo t.stop) := by
    intro k' hk' hne
    cases hterminal.symm.trans hk'
    exact .refl (h.start_isIn.position_lt h.stop_isIn (h.proper hne))
  unfold Meaning.ofToken
  dsimp only
  split
  · rename_i hname
    exact Expr.IsFaithful.ident ⟨hr hname rfl, hslice.symm⟩
  · rename_i hnumber
    exact Expr.IsFaithful.number (hr hnumber rfl) hslice.symm
  · rename_i hnil
    exact Expr.IsFaithful.literal (hr hnil rfl)
  · rename_i htrue
    exact Expr.IsFaithful.literal (hr htrue rfl)
  · rename_i hfalse
    exact Expr.IsFaithful.literal (hr hfalse rfl)
  · rename_i hellipsis
    exact Expr.IsFaithful.vararg (hr hellipsis rfl)
  · trivial

namespace Node

/-- What the nodes of a text without faults are read as: what stands in quotes is what the text says. -/
def Reads (isValue : String → String → Prop) : Prop := ∀ raw : String, (Symbol.made .string).Spells raw.toList →
  isValue raw (Meaning.unquote raw)

mutual

theorem addParts_laid (hvalue : Reads isValue) : ∀ (n : Node), n.Fits text → ∀ (role? : Option Role) {rest : List Part}
    {b : Position}, Part.Laid isValue text n.stop.position rest b →
    Part.Laid isValue text n.start.position (addParts role? rest n) b
  | leaf t e, h, role?, rest, b, hrest => by
    cases h with
    | leaf hterminal hspans =>
      have hle := hspans.start_isIn.position_le hspans.stop_isIn hspans.le
      rw [addParts]
      split
      · exact .cons le_rfl hle (ofToken_faithful hterminal hspans) hrest
      · exact hrest.of_le hle
  | tree (.rule k) cs e d, h, role?, rest, b, hrest => by
    cases h with
    | tree hspans hcs hlaid harranged =>
      have hle := hspans.start_isIn.position_le hspans.stop_isIn hspans.le
      rw [addParts]
      split
      · have hheaded : (Rule.get k).makes.bindsAhead = true → _ := fun hmade =>
          harranged.areHeaded hcs hmade (Rule.get k).roles
        have hparts := addAllParts_laid hvalue cs hcs none (Rule.get k).roles hspans.start_isIn hspans.stop_isIn hlaid
          (.nil le_rfl)
        refine .cons le_rfl hle (Part.combine_faithful hspans hparts hheaded fun hmakes => hvalue _ ?_) hrest
        rw [← hmakes]
        exact hspans.spells
      · exact addAllParts_laid hvalue cs hcs role? (Rule.get k).roles hspans.start_isIn hspans.stop_isIn hlaid hrest
  | tree .error cs e d, h, _, _, _, _ => by cases h
  | tree .skipped cs e d, h, _, _, _, _ => by cases h

theorem addAllParts_laid (hvalue : Reads isValue) : ∀ (ns : List Node), (∀ n ∈ ns, n.Fits text) →
    ∀ (around? : Option Role) (roles : List (Option Role)) {rest : List Part} {p q : Place} {b : Position},
    p.IsIn text → q.IsIn text → Laid p.index ns q.index → Part.Laid isValue text q.position rest b →
    Part.Laid isValue text p.position (addAllParts around? roles rest ns) b
  | [], _, around?, roles, rest, p, q, b, hp, hq, hlaid, hrest => by
    rw [addAllParts]
    exact hrest.of_le (hp.position_le hq hlaid)
  | n :: ns, h, around?, roles, rest, p, q, b, hp, hq, hlaid, hrest => by
    have hn := h n (List.mem_cons_self ..)
    have hns : ∀ m ∈ ns, m.Fits text := fun m hm => h m (List.mem_cons_of_mem _ hm)
    obtain ⟨σ, -, hspans⟩ := hn.spans
    have hle := hp.position_le hspans.start_isIn hlaid.1
    rw [addAllParts]
    split
    · exact (addParts_laid hvalue n hn none
        (addAllParts_laid hvalue ns hns around? roles hspans.stop_isIn hq hlaid.2 hrest)).of_le hle
    · exact (addParts_laid hvalue n hn _
        (addAllParts_laid hvalue ns hns around? roles.tail hspans.stop_isIn hq hlaid.2 hrest)).of_le hle

end

/-- What a node without faults stands for says what the text in its range says. -/
theorem meaning_faithful (hvalue : Reads isValue) {n : Node} (h : n.Fits text) :
    n.meaning.IsFaithful isValue text n.range := by
  have hparts := addParts_laid hvalue n h none (.nil le_rfl)
  unfold meaning
  cases hhead : (n.addParts none []).head? with
  | none => trivial
  | some p => exact hparts.mem p (List.mem_of_mem_head? hhead)

/-! ## Comments -/

mutual

theorem addComments_faithful : ∀ (n : Node), n.Fits text → n.range.LiesIn outer → ∀ {rest : List Comment},
    (∀ c ∈ rest, c.IsFaithful text outer) → ∀ c ∈ addComments rest n, c.IsFaithful text outer
  | leaf t e, _, _, rest, hrest => by
    rw [addComments]
    exact hrest
  | tree head cs e d, h, hle, rest, hrest => by
    cases h with
    | tree hspans hcs hlaid =>
      rw [addComments]
      split
      · refine List.forall_mem_cons.2 ⟨⟨hle, ?_⟩, hrest⟩
        exact (Place.slice_rangeTo hspans.start_isIn hspans.stop_isIn).symm
      · exact addAllComments_faithful cs hcs hspans.start_isIn hspans.stop_isIn hlaid hle hrest

theorem addAllComments_faithful : ∀ (ns : List Node), (∀ n ∈ ns, n.Fits text) → ∀ {p q : Place}, p.IsIn text →
    q.IsIn text → Laid p.index ns q.index → (p.rangeTo q).LiesIn outer → ∀ {rest : List Comment},
    (∀ c ∈ rest, c.IsFaithful text outer) → ∀ c ∈ addAllComments rest ns, c.IsFaithful text outer
  | [], _, _, _, _, _, _, _, rest, hrest => by
    rw [addAllComments]
    exact hrest
  | n :: ns, h, p, q, hp, hq, hlaid, hle, rest, hrest => by
    have hn := h n (List.mem_cons_self ..)
    have hns : ∀ m ∈ ns, m.Fits text := fun m hm => h m (List.mem_cons_of_mem _ hm)
    obtain ⟨σ, -, hspans⟩ := hn.spans
    have hrestLe : n.stop.index ≤ q.index := hlaid.2.le hns
    have hstart := hp.position_le hspans.start_isIn hlaid.1
    have hself := hspans.start_isIn.position_le hspans.stop_isIn hspans.le
    have hstop := hspans.stop_isIn.position_le hq hrestLe
    have hnIn : n.range.LiesIn (p.rangeTo q) := ⟨hstart, hself, hstop⟩
    have hrestIn : (n.stop.rangeTo q).LiesIn (p.rangeTo q) := ⟨hstart.trans hself, hstop, le_rfl⟩
    rw [addAllComments]
    exact addComments_faithful n hn (hnIn.trans hle)
      (addAllComments_faithful ns hns hspans.stop_isIn hq hlaid.2 (hrestIn.trans hle) hrest)

end

end Node

/-! ## Texts without faults -/

theorem file_faithful (hvalue : Node.Reads isValue) {source : String} (h : (parse source).isDegraded = false) :
    (parse source).file.IsFaithful isValue source.toList := by
  unfold parse at h ⊢
  cases htree : Node.ofText source with
  | none =>
    rw [htree] at h
    cases h
  | some root =>
    rw [htree] at h
    dsimp only at h ⊢
    split
    · rename_i hpenalty
      have hfits := Node.ofText_fits htree hpenalty
      obtain ⟨σ, -, hspans⟩ := hfits.spans
      have hle := hspans.start_isIn.position_le hspans.stop_isIn hspans.le
      refine ⟨hle, ?_, Node.addComments_faithful root hfits (.refl hle) (List.forall_mem_nil _)⟩
      show Block.IsFaithful isValue source.toList root.range (root.meaning.block?.getD (.mk [] root.range))
      have hmeaning := Node.meaning_faithful hvalue hfits
      cases hblock : root.meaning.block? with
      | none => exact .mk (.refl hle) (List.forall_mem_nil _) .nil
      | some b =>
        rw [Meaning.block?_eq_some.1 hblock] at hmeaning
        exact hmeaning
    · rename_i hpenalty
      rw [if_neg hpenalty] at h
      cases h

theorem isDegraded_parse (source : String) : (parse source).isDegraded = hasErrors source := by
  unfold parse hasErrors
  cases Node.ofText source with
  | none => rfl
  | some root =>
    dsimp only
    split
    · rename_i hpenalty
      simp [Outcome.isDegraded, hpenalty]
    · rename_i hpenalty
      simp [Outcome.isDegraded, hpenalty]

/-- A text without syntax errors has a tree that is faithful to it, where a string is its text without the delimiters if
these are equally long; or else the program ends on it, and a string in it is cut. -/
theorem parse_is_faithful {source : String} (h : hasErrors source = false) :
    (∃ file, parse? source = some (.complete file) ∧ file.IsFaithful IsUnquotedIfEven source.toList) ∨
      parse? source = none ∧ HasCut source.toList := by
  unfold parse?
  cases hfatal : isFatal source with
  | true => exact .inr ⟨rfl, hasCut_of_isFatal hfatal⟩
  | false =>
    left
    rw [← isDegraded_parse] at h
    have hfile := file_faithful (fun _ hraw => isUnquotedIfEven_of_spells rfl hraw) h
    cases hparse : parse source with
    | complete file =>
      rw [hparse] at hfile
      exact ⟨file, rfl, hfile⟩
    | degraded file =>
      rw [hparse] at h
      cases h

theorem parse_is_faithful_to_greeting : hasErrors "local s, n = 'grüß dich', 1 -- so\n" = false ∧
    ∃ file, parse? "local s, n = 'grüß dich', 1 -- so\n" = some (.complete file) ∧
      file.IsFaithful IsUnquotedIfEven "local s, n = 'grüß dich', 1 -- so\n".toList := by
  have hfacts : hasErrors "local s, n = 'grüß dich', 1 -- so\n" = false ∧
      (parse? "local s, n = 'grüß dich', 1 -- so\n").isSome = true := by decide +kernel
  obtain ⟨h, hsome⟩ := hfacts
  refine ⟨h, (parse_is_faithful h).resolve_right fun hnone => ?_⟩
  rw [hnone.1] at hsome
  cases hsome

/-! ## Delimiters of different lengths -/

/-- An assignment whose value opens at level 256 and closes at level 0. -/
def uneven : List Char := "x = [".toList ++ List.replicate 256 '=' ++ "[ab]]".toList

theorem length_uneven : uneven.length = 266 := by decide +kernel

theorem single_of_mem_uneven : ∀ c ∈ uneven, c ≠ '\n' ∧ c.utf8Size = 1 := by
  have hall : uneven.all (fun c => c != '\n' && c.utf8Size == 1) = true := by decide +kernel
  intro c hc
  simpa using List.all_eq_true.1 hall c hc

/-- The string that a whole text of one assignment has on the right, with its range. -/
def soleString? : Outcome → Option (String × Range)
  | .complete ⟨.mk [.assign _ [.string value r] _] _, _, _⟩ => some (value, r)
  | _ => none

theorem soleString?_uneven {source : String} (h : source.toList = uneven) :
    (parse? source).bind soleString? = some ("", ⟨⟨0, 4⟩, ⟨0, 266⟩⟩) := by
  unfold parse? isFatal parse Node.ofText Place.ofText
  rw [h]
  decide +kernel

theorem unquoted_of_soleString? {o : Outcome} {value : String} {r : Range} (h : soleString? o = some (value, r))
    (hfile : o.file.IsFaithful isValue text) : isValue (slice text r) value := by
  unfold soleString? at h
  split at h
  · cases h
    cases hfile.body with
    | mk _ hstmts _ =>
      cases hstmts _ (List.mem_singleton_self _) with
      | assign _ _ _ hvalues _ =>
        cases hvalues _ (List.mem_singleton_self _) with
        | string _ hvalue => exact hvalue
  · cases h

theorem complete_of_soleString? {o : Outcome} {p : String × Range} (h : soleString? o = some p) :
    ∃ file, o = .complete file := by
  cases o with
  | complete file => exact ⟨file, rfl⟩
  | degraded file => cases h

/-- The delimiters of a string have no letters. -/
theorem Delimiters.not_mem {opening closing : List Char} (h : Delimiters opening closing) :
    'a' ∉ opening ∧ 'a' ∉ closing := by
  cases h <;> simp [List.mem_replicate]

/-- A string whose delimiters are not equally long can be lost as a whole. -/
theorem uneven_string_lost : ∃ source file, parse? source = some (.complete file) ∧
    ¬ file.IsFaithful IsUnquoted source.toList := by
  obtain ⟨o, ho, hsole⟩ := Option.bind_eq_some_iff.1 (soleString?_uneven (String.toList_ofList (l := uneven)))
  obtain ⟨file, rfl⟩ := complete_of_soleString? hsole
  refine ⟨_, file, ho, fun h => ?_⟩
  obtain ⟨opening, inner, closing, hdelimiters, hraw, hvalue⟩ := unquoted_of_soleString? hsole h
  have hinner : inner = [] := by simpa using (congrArg String.toList hvalue).symm
  have hposition : ∀ i ≤ 266, (Place.nth uneven i).position = ⟨0, i⟩ := by
    intro i hi
    have hlength : (uneven.take i).length = i := List.length_take_of_le (hi.trans length_uneven.ge)
    show Position.origin.advance (uneven.take i) = ⟨0, i⟩
    rw [Position.advance_of_single _ _ fun c hc => single_of_mem_uneven c (List.mem_of_mem_take hc), hlength]
    exact congrArg (Position.mk 0) (Nat.zero_add i)
  have hrange : (⟨⟨0, 4⟩, ⟨0, 266⟩⟩ : Range) = (Place.nth uneven 4).rangeTo (Place.nth uneven 266) := by
    rw [Place.rangeTo, hposition 4 (by decide), hposition 266 le_rfl]
  have hmem : 'a' ∈ (uneven.drop 4).take (266 - 4) := by decide +kernel
  rw [String.toList_ofList, hrange, Place.slice_rangeTo (Place.isIn_nth (length_uneven ▸ by decide))
    (Place.isIn_nth length_uneven.ge), hinner, List.append_nil, Place.textTo, String.toList_ofList] at hraw
  exact (List.mem_append.1 (hraw ▸ hmem)).elim hdelimiters.not_mem.1 hdelimiters.not_mem.2

end LuaAtlas.Syntax
