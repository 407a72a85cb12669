/-
Where the names of a syntax tree come from. The meaning of a node is put together from those of its parts, and no
name in it is made up: every identifier of the tree of a text is a token of that text, read as a name.
-/
import LuaAtlas.Proofs.Syntax.Parts
import LuaAtlas.Proofs.Syntax.Reader
import LuaAtlas.Syntax.Parse

namespace LuaAtlas.Syntax

/-! ## Identifiers -/

mutual

/-- The identifiers in an expression. -/
def exprIdents : Expr → List Ident
  | .ident id => [id]
  | .member base _ field _ => exprIdents base ++ [field]
  | .index base key _ => exprIdents base ++ exprIdents key
  | .call callee args _ => exprIdents callee ++ exprsIdents args
  | .func f => functionIdents f
  | .table entries _ => entriesIdents entries
  | .binary left right _ => exprIdents left ++ exprIdents right
  | .unary operand _ => exprIdents operand
  | .paren inner _ => exprIdents inner
  | .string .. | .number .. | .literal _ | .vararg _ => []

def exprsIdents : List Expr → List Ident
  | [] => []
  | e :: es => exprIdents e ++ exprsIdents es

def entriesIdents : List TableEntry → List Ident
  | [] => []
  | e :: es => entryIdents e ++ entriesIdents es

def entryIdents : TableEntry → List Ident
  | .named key value => key :: exprIdents value
  | .indexed key value => exprIdents key ++ exprIdents value
  | .positional value => exprIdents value

def functionIdents : FuncBody → List Ident
  | .mk params _ body _ => params ++ blockIdents body

def blockIdents : Block → List Ident
  | .mk stmts _ => stmtsIdents stmts

def stmtsIdents : List Stmt → List Ident
  | [] => []
  | s :: ss => stmtIdents s ++ stmtsIdents ss

def clausesIdents : List Clause → List Ident
  | [] => []
  | c :: cs => clauseIdents c ++ clausesIdents cs

def clauseIdents : Clause → List Ident
  | .mk (some condition) body => exprIdents condition ++ blockIdents body
  | .mk none body => blockIdents body

/-- The identifiers in a statement. -/
def stmtIdents : Stmt → List Ident
  | .localVars names values _ => names ++ exprsIdents values
  | .assign targets values _ => exprsIdents targets ++ exprsIdents values
  | .funcDecl _ name f _ => exprIdents name ++ functionIdents f
  | .call callee args _ => exprIdents callee ++ exprsIdents args
  | .ret values _ => exprsIdents values
  | .branch clauses _ => clausesIdents clauses
  | .whileLoop condition body _ => exprIdents condition ++ blockIdents body
  | .repeatLoop body condition _ => blockIdents body ++ exprIdents condition
  | .doBlock body _ => blockIdents body
  | .numericFor x start limit (some step) body _ =>
    x :: exprIdents start ++ exprIdents limit ++ exprIdents step ++ blockIdents body
  | .numericFor x start limit none body _ => x :: exprIdents start ++ exprIdents limit ++ blockIdents body
  | .genericFor xs iterators body _ => xs ++ exprsIdents iterators ++ blockIdents body

end

/-- The identifiers of a file. -/
def File.idents (file : File) : List Ident := blockIdents file.body

theorem mem_exprsIdents {x : Ident} : ∀ {es : List Expr}, x ∈ exprsIdents es ↔ ∃ e ∈ es, x ∈ exprIdents e
  | [] => by simp [exprsIdents]
  | e :: es => by simp [exprsIdents, mem_exprsIdents]

theorem mem_entriesIdents {x : Ident} : ∀ {es : List TableEntry}, x ∈ entriesIdents es ↔ ∃ e ∈ es, x ∈ entryIdents e
  | [] => by simp [entriesIdents]
  | e :: es => by simp [entriesIdents, mem_entriesIdents]

theorem mem_stmtsIdents {x : Ident} : ∀ {ss : List Stmt}, x ∈ stmtsIdents ss ↔ ∃ s ∈ ss, x ∈ stmtIdents s
  | [] => by simp [stmtsIdents]
  | s :: ss => by simp [stmtsIdents, mem_stmtsIdents]

theorem mem_clausesIdents {x : Ident} : ∀ {cs : List Clause}, x ∈ clausesIdents cs ↔ ∃ c ∈ cs, x ∈ clauseIdents c
  | [] => by simp [clausesIdents]
  | c :: cs => by simp [clausesIdents, mem_clausesIdents]

/-! ## Meanings -/

/-- The identifiers in what a node stands for. -/
def Meaning.idents : Meaning → List Ident
  | .nothing => []
  | .expr e => exprIdents e
  | .exprs es => exprsIdents es
  | .params ids _ => ids
  | .entry e => entryIdents e
  | .assignment targets values _ => exprsIdents targets ++ exprsIdents values
  | .block b => blockIdents b
  | .clause c => clauseIdents c
  | .numeric var start limit none => var :: exprIdents start ++ exprIdents limit
  | .numeric var start limit (some step) => var :: exprIdents start ++ exprIdents limit ++ exprIdents step
  | .generic vars iterators => vars ++ exprsIdents iterators
  | .stmt s => stmtIdents s

namespace Meaning

theorem mem_idents_ident (x : Ident) : x ∈ (Meaning.expr (.ident x)).idents := by
  rw [idents, exprIdents]
  exact List.mem_singleton_self x

theorem idents_of_stmt? {m : Meaning} {s : Stmt} (h : m.stmt? = some s) : m.idents = stmtIdents s := by
  unfold stmt? at h
  split at h
  · cases h
    rfl
  · cases h
    rw [idents, exprIdents, stmtIdents]
  · split at h
    · cases h
    · cases h
      rw [idents, stmtIdents]
  · cases h

end Meaning

/-! ## Parts -/

namespace Part

/-- The identifiers in what the parts stand for. -/
def spelled (ps : List Part) : List Ident := ps.flatMap (·.meaning.idents)

theorem mem_spelled {ps : List Part} {x : Ident} : x ∈ spelled ps ↔ ∃ p ∈ ps, x ∈ p.meaning.idents := List.mem_flatMap

theorem forall_spelled_nil {ok : Ident → Prop} : ∀ x ∈ spelled [], ok x := List.forall_mem_nil _

theorem mem_spelled_cons {p : Part} {ps : List Part} {x : Ident} :
    x ∈ spelled (p :: ps) ↔ x ∈ p.meaning.idents ∨ x ∈ spelled ps := by
  simp [spelled]

theorem subset_spelled {ps : List Part} {p : Part} (h : p ∈ ps) : p.meaning.idents ⊆ spelled ps :=
  fun _ hx => mem_spelled.2 ⟨p, h, hx⟩

/-- Whether a meaning has no identifiers but those of the parts. -/
def IsSpelledIn (ps : List Part) (m : Meaning) : Prop := m.idents ⊆ spelled ps

theorem isSpelledIn (ps : List Part) : ∀ p ∈ ps, IsSpelledIn ps p.meaning := fun _ hp => subset_spelled hp

theorem expr?_subset {ps : List Part} {r : Role} {e : Expr} (h : expr? ps r = some e) : exprIdents e ⊆ spelled ps :=
  of_expr? (isSpelledIn ps) h

theorem exprs_subset (ps : List Part) : exprsIdents (exprs ps) ⊆ spelled ps := by
  intro x hx
  obtain ⟨e, he, hx⟩ := mem_exprsIdents.1 hx
  exact of_exprs (isSpelledIn ps) he hx

theorem idents_subset (ps : List Part) : idents ps ⊆ spelled ps := fun x hx =>
  of_idents (isSpelledIn ps) hx (Meaning.mem_idents_ident x)

theorem body_subset (ps : List Part) (range : Range) : blockIdents (body ps range) ⊆ spelled ps :=
  of_body (isSpelledIn ps) (List.nil_subset _)

theorem function_subset (ps : List Part) (range : Range) : functionIdents (function ps range) ⊆ spelled ps := by
  obtain ⟨xs, isVararg, heq, hxs⟩ := of_function (isSpelledIn ps) (List.nil_subset _) range
  rw [heq, functionIdents]
  exact List.append_subset.2 ⟨hxs, body_subset ps range⟩

theorem names_subset (es : List Expr) : locals?.names es ⊆ exprsIdents es := by
  intro x hx
  obtain ⟨e, he, hident⟩ := List.mem_filterMap.1 hx
  obtain rfl : e = .ident x := Meaning.expr.inj (Meaning.ident?_eq_some.1 hident)
  exact mem_exprsIdents.2 ⟨_, he, Meaning.mem_idents_ident x⟩

theorem list_subset (ps : List Part) : exprsIdents ((ps.findSome? (·.meaning.exprs?)).getD []) ⊆ spelled ps :=
  of_first_list (isSpelledIn ps) (List.nil_subset _)

theorem member?_subset {ps : List Part} {role : Role} {accessor : Accessor} {range : Range} {e : Expr}
    (h : member? ps role accessor range = some e) : exprIdents e ⊆ spelled ps := by
  obtain ⟨base, field, rfl, hbase, hfield⟩ := of_member? (isSpelledIn ps) h
  rw [exprIdents]
  exact List.append_subset.2 ⟨hbase, hfield⟩

theorem ofExpr_subset {ps : List Part} {e? : Option Expr} (h : ∀ e, e? = some e → exprIdents e ⊆ spelled ps) :
    (Meaning.ofExpr e?).idents ⊆ spelled ps := by
  cases e? with
  | none => exact List.nil_subset _
  | some e => exact h e rfl

theorem ofStmt_subset {ps : List Part} {s? : Option Stmt} (h : ∀ s, s? = some s → stmtIdents s ⊆ spelled ps) :
    (Meaning.ofStmt s?).idents ⊆ spelled ps := by
  cases s? with
  | none => exact List.nil_subset _
  | some s => exact h s rfl

theorem locals?_subset {ps : List Part} {range : Range} {s : Stmt} (h : locals? ps range = some s) :
    stmtIdents s ⊆ spelled ps := by
  rcases of_locals? (isSpelledIn ps) h with ⟨targets, values, r, rfl, hsub⟩ | ⟨es, rfl, hsub⟩
  · obtain ⟨htargets, hvalues⟩ := List.append_subset.1 hsub
    rw [stmtIdents]
    exact List.append_subset.2 ⟨List.Subset.trans (names_subset targets) htargets, hvalues⟩
  · rw [stmtIdents]
    exact List.append_subset.2 ⟨List.Subset.trans (names_subset es) hsub, by simp [exprsIdents]⟩

theorem entryOf?_subset {ps : List Part} {e : TableEntry} (h : entryOf? ps = some e) : entryIdents e ⊆ spelled ps := by
  obtain ⟨value, hvalue, rfl | ⟨key, rfl, hkey⟩ | ⟨key, rfl, hkey⟩⟩ := of_entryOf? (isSpelledIn ps) h
  · rw [entryIdents]
    exact hvalue
  · rw [entryIdents]
    exact List.append_subset.2 ⟨hkey, hvalue⟩
  · rw [entryIdents]
    exact List.cons_subset.2 ⟨hkey (Meaning.mem_idents_ident key), hvalue⟩

theorem clause_subset {ps : List Part} (condition? : Option Expr)
    (hcondition : ∀ e, condition? = some e → exprIdents e ⊆ spelled ps) (range : Range) :
    clauseIdents (.mk condition? (body ps range)) ⊆ spelled ps := by
  cases condition? with
  | none =>
    rw [clauseIdents]
    exact body_subset ps range
  | some condition =>
    rw [clauseIdents]
    exact List.append_subset.2 ⟨hcondition condition rfl, body_subset ps range⟩

theorem branches_subset (ps : List Part) (range : Range) : clausesIdents (branches ps range) ⊆ spelled ps := by
  intro x hx
  obtain ⟨c, hc, hx⟩ := mem_clausesIdents.1 hx
  rcases of_branches (isSpelledIn ps) hc with rfl | hsub
  · exact clause_subset _ (fun e he => expr?_subset he) range hx
  · exact hsub hx

theorem loop?_subset {ps : List Part} {range : Range} {s : Stmt} (h : loop? ps range = some s) :
    stmtIdents s ⊆ spelled ps := by
  have hbody := body_subset ps range
  rcases of_loop? (isSpelledIn ps) h with ⟨x, start, limit, step?, rfl, hsub⟩ | ⟨xs, iterators, rfl, hsub⟩
  · cases step? with
    | none =>
      rw [stmtIdents]
      exact List.append_subset.2 ⟨hsub, hbody⟩
    | some step =>
      rw [stmtIdents]
      exact List.append_subset.2 ⟨hsub, hbody⟩
  · rw [stmtIdents]
    exact List.append_subset.2 ⟨hsub, hbody⟩

theorem numeric?_subset {ps : List Part} {m : Meaning} (h : numeric? ps = some m) : m.idents ⊆ spelled ps := by
  obtain ⟨x, start, limit, rfl, hx, hstart, hlimit⟩ := of_numeric? (isSpelledIn ps) h
  have hhead : x :: exprIdents start ++ exprIdents limit ⊆ spelled ps :=
    List.append_subset.2 ⟨List.cons_subset.2 ⟨hx (Meaning.mem_idents_ident x), hstart⟩, hlimit⟩
  cases hstep : expr? ps .step with
  | none => exact hhead
  | some step => exact List.append_subset.2 ⟨hhead, expr?_subset hstep⟩

theorem stmts_subset (ps : List Part) (range : Range) :
    blockIdents (.mk (ps.filterMap (·.meaning.stmt?)) range) ⊆ spelled ps := by
  intro x hx
  rw [blockIdents] at hx
  obtain ⟨s, hs, hx⟩ := mem_stmtsIdents.1 hx
  obtain ⟨m, hmeaning, hsub⟩ := of_stmts (isSpelledIn ps) hs
  rw [← Meaning.idents_of_stmt? hmeaning] at hx
  exact hsub hx

theorem entries_subset (ps : List Part) : entriesIdents (ps.filterMap fun p => match p.meaning with
    | .entry e => some e
    | _ => none) ⊆ spelled ps := by
  intro x hx
  obtain ⟨e, he, hx⟩ := mem_entriesIdents.1 hx
  exact of_entries (isSpelledIn ps) he hx

/-- What a rule makes of its parts has no identifier that they do not have. -/
theorem combine_subset (made : Nonterminal) (ps : List Part) (start stop : Place) :
    (combine made ps start stop).idents ⊆ spelled ps := by
  cases made with
  | chunk | block => exact stmts_subset ps (start.rangeTo stop)
  | targets | values | names | localNames | expressions | arguments => exact exprs_subset ps
  | assignment | localAssignment =>
    unfold combine
    dsimp only
    split
    · rename_i targets values heq
      exact List.append_subset.2 (of_lists (isSpelledIn ps) heq)
    · exact List.nil_subset _
  | localDecl => exact ofStmt_subset fun s hs => locals?_subset hs
  | functionDecl | localFunction =>
    refine ofStmt_subset fun s hs => ?_
    obtain ⟨name, hname, rfl⟩ := Option.map_eq_some_iff.1 hs
    rw [stmtIdents]
    exact List.append_subset.2 ⟨expr?_subset hname, function_subset ps _⟩
  | functionExpr =>
    show exprIdents (.func _) ⊆ _
    rw [exprIdents]
    exact function_subset ps (start.rangeTo stop)
  | parameters => exact idents_subset ps
  | returnStat =>
    show stmtIdents (.ret _ (start.rangeTo stop)) ⊆ _
    rw [stmtIdents]
    exact list_subset ps
  | doStat =>
    show stmtIdents (.doBlock _ (start.rangeTo stop)) ⊆ _
    rw [stmtIdents]
    exact body_subset ps (start.rangeTo stop)
  | whileStat =>
    refine ofStmt_subset fun s hs => ?_
    obtain ⟨condition, hcondition, rfl⟩ := Option.map_eq_some_iff.1 hs
    rw [stmtIdents]
    exact List.append_subset.2 ⟨expr?_subset hcondition, body_subset ps _⟩
  | repeatStat =>
    refine ofStmt_subset fun s hs => ?_
    obtain ⟨condition, hcondition, rfl⟩ := Option.map_eq_some_iff.1 hs
    rw [stmtIdents]
    exact List.append_subset.2 ⟨body_subset ps _, expr?_subset hcondition⟩
  | ifStat =>
    show stmtIdents (.branch _ (start.rangeTo stop)) ⊆ _
    rw [stmtIdents]
    exact branches_subset ps _
  | elseifClause => exact clause_subset _ (fun e he => expr?_subset he) _
  | elseClause => exact clause_subset none (fun e he => by cases he) _
  | forStat => exact ofStmt_subset fun s hs => loop?_subset hs
  | numericClause =>
    show ((numeric? ps).getD .nothing).idents ⊆ _
    cases h : numeric? ps with
    | none => exact List.nil_subset _
    | some m => exact numeric?_subset h
  | genericClause =>
    unfold combine
    dsimp only
    split
    · rename_i vars iterators heq
      obtain ⟨hvars, hiterators⟩ := of_lists (isSpelledIn ps) heq
      exact List.append_subset.2 ⟨List.Subset.trans (names_subset vars) hvars, hiterators⟩
    · exact List.nil_subset _
  | dotIndex | functionField | methodIndex | functionMethod => exact ofExpr_subset fun e he => member?_subset he
  | bracketIndex =>
    refine ofExpr_subset fun e he => ?_
    obtain ⟨base, hbase, he⟩ := Option.bind_eq_some_iff.1 he
    obtain ⟨key, hkey, he⟩ := Option.bind_eq_some_iff.1 he
    cases he
    rw [exprIdents]
    exact List.append_subset.2 ⟨expr?_subset hbase, expr?_subset hkey⟩
  | call =>
    refine ofExpr_subset fun e he => ?_
    obtain ⟨callee, hcallee, rfl⟩ := Option.map_eq_some_iff.1 he
    rw [exprIdents]
    exact List.append_subset.2 ⟨expr?_subset hcallee, list_subset ps⟩
  | binary =>
    refine ofExpr_subset fun e he => ?_
    obtain ⟨left, hleft, he⟩ := Option.bind_eq_some_iff.1 he
    obtain ⟨right, hright, he⟩ := Option.bind_eq_some_iff.1 he
    cases he
    rw [exprIdents]
    exact List.append_subset.2 ⟨expr?_subset hleft, expr?_subset hright⟩
  | unary =>
    refine ofExpr_subset fun e he => ?_
    obtain ⟨operand, hoperand, rfl⟩ := Option.map_eq_some_iff.1 he
    rw [exprIdents]
    exact expr?_subset hoperand
  | parenthesized =>
    refine ofExpr_subset fun e he => ?_
    obtain ⟨inner, hinner, rfl⟩ := Option.map_eq_some_iff.1 he
    rw [exprIdents]
    exact of_found (isSpelledIn ps) hinner
  | table =>
    show exprIdents (.table _ (start.rangeTo stop)) ⊆ _
    rw [exprIdents]
    exact entries_subset ps
  | entry =>
    show (((entryOf? ps).map Meaning.entry).getD .nothing).idents ⊆ _
    cases h : entryOf? ps with
    | none => exact List.nil_subset _
    | some e => exact entryOf?_subset h
  | string =>
    show exprIdents (.string (Meaning.unquote (start.textTo stop)) (start.rangeTo stop)) ⊆ _
    rw [exprIdents]
    exact List.nil_subset _
  | _ => exact List.nil_subset _

end Part

/-! ## Nodes -/

variable {ok : Ident → Prop}

/-- A token whose name, if it is read as one, is all right. -/
def Token.Names (ok : Ident → Prop) (t : Token) : Prop :=
  t.terminal? = some .name → ok ⟨t.start.textTo t.stop, t.start.rangeTo t.stop⟩

theorem ofToken_names {t : Token} (h : t.Names ok) : ∀ x ∈ (Meaning.ofToken t).idents, ok x := by
  unfold Meaning.ofToken
  dsimp only
  split
  · rename_i hname
    intro x hx
    rw [Meaning.idents, exprIdents] at hx
    cases List.mem_singleton.1 hx
    exact h hname
  all_goals
    intro x hx
    simp [Meaning.idents, exprIdents] at hx

namespace Node

mutual

theorem addParts_names : ∀ (n : Node), n.Holds (Token.Names ok) → ∀ (role? : Option Role) {rest : List Part},
    (∀ x ∈ Part.spelled rest, ok x) → ∀ x ∈ Part.spelled (addParts role? rest n), ok x
  | leaf t e, h, role?, rest, hrest => by
    rw [addParts]
    split
    · intro x hx
      rcases Part.mem_spelled_cons.1 hx with hx | hx
      · exact ofToken_names (holds_leaf.1 h) x hx
      · exact hrest x hx
    · exact hrest
  | tree (.rule n) cs e d, h, role?, rest, hrest => by
    rw [addParts]
    split
    · intro x hx
      rcases Part.mem_spelled_cons.1 hx with hx | hx
      · have hparts := addAllParts_names cs (holds_tree.1 h) none (Rule.get n).roles Part.forall_spelled_nil
        exact hparts x (Part.combine_subset _ _ _ _ hx)
      · exact hrest x hx
    · exact addAllParts_names cs (holds_tree.1 h) role? _ hrest
  | tree .error cs e d, h, role?, rest, hrest => by
    rw [addParts]
    · exact addAllParts_names cs (holds_tree.1 h) role? [] hrest
    · simp
  | tree .skipped cs e d, h, role?, rest, hrest => by
    rw [addParts]
    · exact addAllParts_names cs (holds_tree.1 h) role? [] hrest
    · simp

theorem addAllParts_names : ∀ (ns : List Node), (∀ n ∈ ns, n.Holds (Token.Names ok)) → ∀ (around? : Option Role)
    (roles : List (Option Role)) {rest : List Part}, (∀ x ∈ Part.spelled rest, ok x) →
    ∀ x ∈ Part.spelled (addAllParts around? roles rest ns), ok x
  | [], _, around?, roles, rest, hrest => by
    rw [addAllParts]
    exact hrest
  | n :: ns, h, around?, roles, rest, hrest => by
    have hn := h n (List.mem_cons_self ..)
    have hns : ∀ m ∈ ns, m.Holds (Token.Names ok) := fun m hm => h m (List.mem_cons_of_mem _ hm)
    rw [addAllParts]
    split
    · exact addParts_names n hn none (addAllParts_names ns hns around? roles hrest)
    · exact addParts_names n hn _ (addAllParts_names ns hns around? roles.tail hrest)

end

theorem meaning_names {n : Node} (h : n.Holds (Token.Names ok)) : ∀ x ∈ n.meaning.idents, ok x := by
  have hparts := addParts_names n h none Part.forall_spelled_nil
  unfold meaning
  cases hhead : (n.addParts none []).head? with
  | none => exact fun x hx => by cases hx
  | some p => exact fun x hx => hparts x (Part.subset_spelled (List.mem_of_mem_head? hhead) hx)

mutual

theorem addKept_names : ∀ (n : Node), n.Holds (Token.Names ok) → ∀ {rest : List Stmt},
    (∀ x ∈ stmtsIdents rest, ok x) → ∀ x ∈ stmtsIdents (addKept rest n), ok x
  | leaf t e, _, rest, hrest => by
    rw [addKept]
    exact hrest
  | tree (.rule n) cs e d, h, rest, hrest => by
    rw [addKept]
    split
    · exact addAllKept_names cs (holds_tree.1 h) hrest
    · split
      · split
        · rename_i s hs
          split
          · intro x hx
            rw [stmtsIdents] at hx
            rcases List.mem_append.1 hx with hx | hx
            · refine meaning_names h x ?_
              rwa [Meaning.idents_of_stmt? hs]
            · exact hrest x hx
          · exact hrest
        · exact hrest
      · exact hrest
  | tree .error cs e d, h, rest, hrest => by
    rw [addKept]
    · exact addAllKept_names cs (holds_tree.1 h) hrest
    · simp
  | tree .skipped cs e d, h, rest, hrest => by
    rw [addKept]
    · exact addAllKept_names cs (holds_tree.1 h) hrest
    · simp

theorem addAllKept_names : ∀ (ns : List Node), (∀ n ∈ ns, n.Holds (Token.Names ok)) → ∀ {rest : List Stmt},
    (∀ x ∈ stmtsIdents rest, ok x) → ∀ x ∈ stmtsIdents (addAllKept rest ns), ok x
  | [], _, rest, hrest => by
    rw [addAllKept]
    exact hrest
  | n :: ns, h, rest, hrest => by
    rw [addAllKept]
    exact addKept_names n (h n (List.mem_cons_self ..))
      (addAllKept_names ns (fun m hm => h m (List.mem_cons_of_mem _ hm)) hrest)

end

end Node

/-- What holds of all names that a reader can come upon holds of the identifiers of every text. -/
theorem parse_names (laws : TokenLaws (Token.Names ok)) (text : String) : ∀ x ∈ (parse text).file.idents, ok x := by
  unfold parse
  cases htree : Node.ofText text with
  | none =>
    intro x hx
    simp [Outcome.file, File.idents, blockIdents, stmtsIdents] at hx
  | some root =>
    have hroot := Node.ofText_holds laws htree
    dsimp only
    split
    · show ∀ x ∈ blockIdents (root.meaning.block?.getD (.mk [] root.range)), ok x
      cases hblock : root.meaning.block? with
      | none =>
        intro x hx
        simp [blockIdents, stmtsIdents] at hx
      | some b =>
        have hnames := Node.meaning_names hroot
        rwa [Meaning.block?_eq_some.1 hblock] at hnames
    · show ∀ x ∈ blockIdents (.mk root.kept root.range), ok x
      rw [blockIdents]
      exact Node.addAllKept_names _ hroot.children (by simp [stmtsIdents])

end LuaAtlas.Syntax
