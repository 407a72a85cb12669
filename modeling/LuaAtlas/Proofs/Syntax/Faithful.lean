/-
Trees that are faithful to the text. What a tree says about the text holds of the text: a name, a number and a comment
are spelled as the text in their range, a string is that text without its delimiters, every range lies in the range
around it, what stands in a list stands there in reading order, and what binds names in a body stands before it.
-/
import LuaAtlas.Proofs.Syntax.Place
import LuaAtlas.Syntax.Tree

namespace LuaAtlas

/-! ## Ranges in ranges -/

namespace Range

/-- A range in the range around it. -/
structure LiesIn (r outer : Range) : Prop where
  start_le : outer.start ≤ r.start
  le : r.start ≤ r.stop
  stop_le : r.stop ≤ outer.stop

/-- A range with some text in it, in the range around it. -/
structure LiesProperlyIn (r outer : Range) : Prop where
  start_le : outer.start ≤ r.start
  lt : r.start < r.stop
  stop_le : r.stop ≤ outer.stop

/-- Ranges in reading order, none of which begins before the last has ended. -/
def Ordered (rs : List Range) : Prop := rs.Pairwise fun a b => a.start < b.start ∧ a.stop ≤ b.start

variable {r outer outer' : Range}

theorem LiesProperlyIn.liesIn (h : r.LiesProperlyIn outer) : r.LiesIn outer := ⟨h.start_le, h.lt.le, h.stop_le⟩

theorem LiesIn.refl (h : r.start ≤ r.stop) : r.LiesIn r := ⟨le_rfl, h, le_rfl⟩

theorem LiesProperlyIn.refl (h : r.start < r.stop) : r.LiesProperlyIn r := ⟨le_rfl, h, le_rfl⟩

theorem LiesIn.trans (h : r.LiesIn outer) (h' : outer.LiesIn outer') : r.LiesIn outer' :=
  ⟨h'.start_le.trans h.start_le, h.le, h.stop_le.trans h'.stop_le⟩

theorem LiesProperlyIn.trans (h : r.LiesProperlyIn outer) (h' : outer.LiesIn outer') : r.LiesProperlyIn outer' :=
  ⟨h'.start_le.trans h.start_le, h.lt, h.stop_le.trans h'.stop_le⟩

end Range

namespace Syntax

/-! ## Faithful trees -/

/-- A name that is spelled as the text in its range. -/
structure Ident.IsFaithful (text : List Char) (outer : Range) (x : Ident) : Prop where
  liesIn : x.range.LiesProperlyIn outer
  name : x.name = slice text x.range

/-- A comment that is spelled as the text in its range. -/
structure Comment.IsFaithful (text : List Char) (outer : Range) (c : Comment) : Prop where
  liesIn : c.range.LiesIn outer
  text : c.text = slice text c.range

/-- A block behind a range. An empty one may have any range. -/
def Block.StandsBehind (b : Block) (r : Range) : Prop := b.stmts = [] ∨ r.stop ≤ b.range.start

section

-- what the text in the range of a string may mean
variable (isValue : String → String → Prop) (text : List Char)

mutual

/-- An expression in the range around it that says what the text says. -/
inductive Expr.IsFaithful : Range → Expr → Prop
  | ident {outer : Range} {x : Ident} : x.IsFaithful text outer → Expr.IsFaithful outer (.ident x)
  | member {outer r : Range} {base : Expr} {accessor : Accessor} {field : Ident} : r.LiesProperlyIn outer →
      Expr.IsFaithful r base → field.IsFaithful text r → Expr.IsFaithful outer (.member base accessor field r)
  | index {outer r : Range} {base key : Expr} : r.LiesProperlyIn outer → Expr.IsFaithful r base →
      Expr.IsFaithful r key → Expr.IsFaithful outer (.index base key r)
  | call {outer r : Range} {callee : Expr} {args : List Expr} : r.LiesProperlyIn outer → Expr.IsFaithful r callee →
      (∀ e ∈ args, Expr.IsFaithful r e) → Range.Ordered (args.map (·.range)) →
      Expr.IsFaithful outer (.call callee args r)
  | func {outer : Range} {f : FuncBody} : FuncBody.IsFaithful outer f → Expr.IsFaithful outer (.func f)
  | table {outer r : Range} {entries : List TableEntry} : r.LiesProperlyIn outer →
      (∀ e ∈ entries, TableEntry.IsFaithful r e) → Expr.IsFaithful outer (.table entries r)
  | binary {outer r : Range} {left right : Expr} : r.LiesProperlyIn outer → Expr.IsFaithful r left →
      Expr.IsFaithful r right → Expr.IsFaithful outer (.binary left right r)
  | unary {outer r : Range} {operand : Expr} : r.LiesProperlyIn outer → Expr.IsFaithful r operand →
      Expr.IsFaithful outer (.unary operand r)
  | paren {outer r : Range} {inner : Expr} : r.LiesProperlyIn outer → Expr.IsFaithful r inner →
      Expr.IsFaithful outer (.paren inner r)
  | string {outer r : Range} {value : String} : r.LiesProperlyIn outer → isValue (slice text r) value →
      Expr.IsFaithful outer (.string value r)
  | number {outer r : Range} {raw : String} : r.LiesProperlyIn outer → raw = slice text r →
      Expr.IsFaithful outer (.number raw r)
  | literal {outer r : Range} : r.LiesProperlyIn outer → Expr.IsFaithful outer (.literal r)
  | vararg {outer r : Range} : r.LiesProperlyIn outer → Expr.IsFaithful outer (.vararg r)

/-- An entry of a table with the given range. -/
inductive TableEntry.IsFaithful : Range → TableEntry → Prop
  | named {outer : Range} {key : Ident} {value : Expr} : key.IsFaithful text outer → Expr.IsFaithful outer value →
      TableEntry.IsFaithful outer (.named key value)
  | indexed {outer : Range} {key value : Expr} : Expr.IsFaithful outer key → Expr.IsFaithful outer value →
      TableEntry.IsFaithful outer (.indexed key value)
  | positional {outer : Range} {value : Expr} : Expr.IsFaithful outer value →
      TableEntry.IsFaithful outer (.positional value)

/-- A function in the range around it. -/
inductive FuncBody.IsFaithful : Range → FuncBody → Prop
  | mk {outer r : Range} {params : List Ident} {isVararg : Bool} {body : Block} : r.LiesProperlyIn outer →
      (∀ x ∈ params, x.IsFaithful text r) → Range.Ordered (params.map (·.range)) →
      (∀ x ∈ params, body.StandsBehind x.range) → Block.IsFaithful r body →
      FuncBody.IsFaithful outer (.mk params isVararg body r)

/-- A block in the range around it; it may be empty. -/
inductive Block.IsFaithful : Range → Block → Prop
  | mk {outer r : Range} {stmts : List Stmt} : r.LiesIn outer → (∀ s ∈ stmts, Stmt.IsFaithful r s) →
      Range.Ordered (stmts.map (·.range)) → Block.IsFaithful outer (.mk stmts r)

/-- A branch of a statement with the given range. -/
inductive Clause.IsFaithful : Range → Clause → Prop
  | mk {outer : Range} {condition? : Option Expr} {body : Block} : (∀ e ∈ condition?, Expr.IsFaithful outer e) →
      Block.IsFaithful outer body → Clause.IsFaithful outer (.mk condition? body)

/-- A statement in the range around it. -/
inductive Stmt.IsFaithful : Range → Stmt → Prop
  | localVars {outer r : Range} {names : List Ident} {values : List Expr} : r.LiesProperlyIn outer →
      (∀ x ∈ names, x.IsFaithful text r) → Range.Ordered (names.map (·.range)) →
      (∀ e ∈ values, Expr.IsFaithful r e) → Range.Ordered (values.map (·.range)) →
      Stmt.IsFaithful outer (.localVars names values r)
  | assign {outer r : Range} {targets values : List Expr} : r.LiesProperlyIn outer →
      (∀ e ∈ targets, Expr.IsFaithful r e) → Range.Ordered (targets.map (·.range)) →
      (∀ e ∈ values, Expr.IsFaithful r e) → Range.Ordered (values.map (·.range)) →
      Stmt.IsFaithful outer (.assign targets values r)
  | funcDecl {outer r : Range} {isLocal : Bool} {name : Expr} {f : FuncBody} : r.LiesProperlyIn outer →
      Expr.IsFaithful r name → FuncBody.IsFaithful r f → f.body.StandsBehind name.range →
      Stmt.IsFaithful outer (.funcDecl isLocal name f r)
  | call {outer r : Range} {callee : Expr} {args : List Expr} : r.LiesProperlyIn outer → Expr.IsFaithful r callee →
      (∀ e ∈ args, Expr.IsFaithful r e) → Range.Ordered (args.map (·.range)) →
      Stmt.IsFaithful outer (.call callee args r)
  | ret {outer r : Range} {values : List Expr} : r.LiesProperlyIn outer → (∀ e ∈ values, Expr.IsFaithful r e) →
      Range.Ordered (values.map (·.range)) → Stmt.IsFaithful outer (.ret values r)
  | branch {outer r : Range} {clauses : List Clause} : r.LiesProperlyIn outer →
      (∀ c ∈ clauses, Clause.IsFaithful r c) → Stmt.IsFaithful outer (.branch clauses r)
  | whileLoop {outer r : Range} {condition : Expr} {body : Block} : r.LiesProperlyIn outer →
      Expr.IsFaithful r condition → Block.IsFaithful r body → Stmt.IsFaithful outer (.whileLoop condition body r)
  | repeatLoop {outer r : Range} {body : Block} {condition : Expr} : r.LiesProperlyIn outer →
      Block.IsFaithful r body → Expr.IsFaithful r condition → Stmt.IsFaithful outer (.repeatLoop body condition r)
  | doBlock {outer r : Range} {body : Block} : r.LiesProperlyIn outer → Block.IsFaithful r body →
      Stmt.IsFaithful outer (.doBlock body r)
  | numericFor {outer r : Range} {x : Ident} {start limit : Expr} {step? : Option Expr} {body : Block} :
      r.LiesProperlyIn outer → x.IsFaithful text r → Expr.IsFaithful r start → Expr.IsFaithful r limit →
      (∀ e ∈ step?, Expr.IsFaithful r e) → body.StandsBehind x.range → Block.IsFaithful r body →
      Stmt.IsFaithful outer (.numericFor x start limit step? body r)
  | genericFor {outer r : Range} {xs : List Ident} {iterators : List Expr} {body : Block} :
      r.LiesProperlyIn outer → (∀ x ∈ xs, x.IsFaithful text r) → Range.Ordered (xs.map (·.range)) →
      (∀ e ∈ iterators, Expr.IsFaithful r e) → Range.Ordered (iterators.map (·.range)) →
      (∀ x ∈ xs, body.StandsBehind x.range) → Block.IsFaithful r body →
      Stmt.IsFaithful outer (.genericFor xs iterators body r)

end

/-- A file that says what the text says. -/
structure File.IsFaithful (file : File) : Prop where
  le : file.range.start ≤ file.range.stop
  body : Block.IsFaithful isValue text file.range file.body
  comments : ∀ c ∈ file.comments, c.IsFaithful text file.range

end

/-! ## What stands in a range stands in every range around it -/

variable {isValue : String → String → Prop} {text : List Char} {outer outer' : Range}

theorem Ident.IsFaithful.mono {x : Ident} (h : x.IsFaithful text outer) (hle : outer.LiesIn outer') :
    x.IsFaithful text outer' := ⟨h.liesIn.trans hle, h.name⟩

theorem FuncBody.IsFaithful.mono {f : FuncBody} (h : FuncBody.IsFaithful isValue text outer f)
    (hle : outer.LiesIn outer') : FuncBody.IsFaithful isValue text outer' f := by
  cases h with
  | mk hr hparams hordered hbehind hbody => exact .mk (hr.trans hle) hparams hordered hbehind hbody

theorem Block.IsFaithful.mono {b : Block} (h : Block.IsFaithful isValue text outer b) (hle : outer.LiesIn outer') :
    Block.IsFaithful isValue text outer' b := by
  cases h with
  | mk hr hstmts hordered => exact .mk (hr.trans hle) hstmts hordered

theorem Expr.IsFaithful.mono {e : Expr} (h : Expr.IsFaithful isValue text outer e) (hle : outer.LiesIn outer') :
    Expr.IsFaithful isValue text outer' e := by
  cases h with
  | ident hx => exact .ident (hx.mono hle)
  | member hr hbase hfield => exact .member (hr.trans hle) hbase hfield
  | index hr hbase hkey => exact .index (hr.trans hle) hbase hkey
  | call hr hcallee hargs hordered => exact .call (hr.trans hle) hcallee hargs hordered
  | func hf => exact .func (hf.mono hle)
  | table hr hentries => exact .table (hr.trans hle) hentries
  | binary hr hleft hright => exact .binary (hr.trans hle) hleft hright
  | unary hr hoperand => exact .unary (hr.trans hle) hoperand
  | paren hr hinner => exact .paren (hr.trans hle) hinner
  | string hr hvalue => exact .string (hr.trans hle) hvalue
  | number hr hraw => exact .number (hr.trans hle) hraw
  | literal hr => exact .literal (hr.trans hle)
  | vararg hr => exact .vararg (hr.trans hle)

theorem TableEntry.IsFaithful.mono {e : TableEntry} (h : TableEntry.IsFaithful isValue text outer e)
    (hle : outer.LiesIn outer') : TableEntry.IsFaithful isValue text outer' e := by
  cases h with
  | named hkey hvalue => exact .named (hkey.mono hle) (hvalue.mono hle)
  | indexed hkey hvalue => exact .indexed (hkey.mono hle) (hvalue.mono hle)
  | positional hvalue => exact .positional (hvalue.mono hle)

theorem Clause.IsFaithful.mono {c : Clause} (h : Clause.IsFaithful isValue text outer c) (hle : outer.LiesIn outer') :
    Clause.IsFaithful isValue text outer' c := by
  cases h with
  | mk hcondition hbody => exact .mk (fun e he => (hcondition e he).mono hle) (hbody.mono hle)

theorem Stmt.IsFaithful.mono {s : Stmt} (h : Stmt.IsFaithful isValue text outer s) (hle : outer.LiesIn outer') :
    Stmt.IsFaithful isValue text outer' s := by
  cases h with
  | localVars hr hnames hnamesOrdered hvalues hordered =>
    exact .localVars (hr.trans hle) hnames hnamesOrdered hvalues hordered
  | assign hr htargets htargetsOrdered hvalues hordered =>
    exact .assign (hr.trans hle) htargets htargetsOrdered hvalues hordered
  | funcDecl hr hname hf hbehind => exact .funcDecl (hr.trans hle) hname hf hbehind
  | call hr hcallee hargs hordered => exact .call (hr.trans hle) hcallee hargs hordered
  | ret hr hvalues hordered => exact .ret (hr.trans hle) hvalues hordered
  | branch hr hclauses => exact .branch (hr.trans hle) hclauses
  | whileLoop hr hcondition hbody => exact .whileLoop (hr.trans hle) hcondition hbody
  | repeatLoop hr hbody hcondition => exact .repeatLoop (hr.trans hle) hbody hcondition
  | doBlock hr hbody => exact .doBlock (hr.trans hle) hbody
  | numericFor hr hx hstart hlimit hstep hbehind hbody =>
    exact .numericFor (hr.trans hle) hx hstart hlimit hstep hbehind hbody
  | genericFor hr hxs hxsOrdered hiterators hordered hbehind hbody =>
    exact .genericFor (hr.trans hle) hxs hxsOrdered hiterators hordered hbehind hbody

theorem Block.IsFaithful.liesIn {b : Block} (h : Block.IsFaithful isValue text outer b) : b.range.LiesIn outer := by
  cases h with
  | mk hr => exact hr

theorem Block.IsFaithful.stmts {b : Block} (h : Block.IsFaithful isValue text outer b) :
    (∀ s ∈ b.stmts, Stmt.IsFaithful isValue text b.range s) ∧ Range.Ordered (b.stmts.map (·.range)) := by
  cases h with
  | mk _ hstmts hordered => exact ⟨hstmts, hordered⟩

theorem FuncBody.IsFaithful.liesIn {f : FuncBody} (h : FuncBody.IsFaithful isValue text outer f) :
    f.range.LiesProperlyIn outer := by
  cases h with
  | mk hr => exact hr

theorem FuncBody.IsFaithful.body_start {f : FuncBody} (h : FuncBody.IsFaithful isValue text outer f) :
    f.range.start ≤ f.body.range.start := by
  cases h with
  | mk _ _ _ _ hbody => exact hbody.liesIn.start_le

theorem Expr.IsFaithful.liesIn {e : Expr} (h : Expr.IsFaithful isValue text outer e) :
    e.range.LiesProperlyIn outer := by
  cases h with
  | ident hx => exact hx.liesIn
  | func hf => exact hf.liesIn
  | member hr | index hr | call hr | table hr | binary hr | unary hr | paren hr | string hr | number hr | literal hr
  | vararg hr => exact hr

theorem Stmt.IsFaithful.liesIn {s : Stmt} (h : Stmt.IsFaithful isValue text outer s) :
    s.range.LiesProperlyIn outer := by
  cases h <;> assumption

end Syntax

end LuaAtlas
