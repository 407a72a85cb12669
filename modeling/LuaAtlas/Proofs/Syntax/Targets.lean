/-
What can be assigned to. The grammar lets nothing but variables and fields stand in a list of targets or behind the
word `function`, and reading keeps to that through every repair: whatever has no fault in the tree of a text has such
parts as its rule can have, and from what has one no statement is made. So every target of every text is a variable or
a field.
-/
import LuaAtlas.Proofs.Syntax.Meaning
import LuaAtlas.Proofs.Walk.Pieces

namespace LuaAtlas.Syntax

/-! ## Targets in meanings -/

/-- Expressions all of which are variables or fields. -/
def ArePlaces (es : List Expr) : Prop := ∀ e ∈ es, e.isPlace = true

theorem arePlaces_nil : ArePlaces [] := List.forall_mem_nil _

theorem arePlaces_append {es fs : List Expr} : ArePlaces (es ++ fs) ↔ ArePlaces es ∧ ArePlaces fs :=
  List.forall_mem_append

theorem arePlaces_exprs {es : List Expr} (h : ∀ e ∈ es, ArePlaces (exprTargets e)) : ArePlaces (exprsTargets es) := by
  induction es with
  | nil => exact arePlaces_nil
  | cons e es ih =>
    obtain ⟨he, hes⟩ := List.forall_mem_cons.1 h
    exact arePlaces_append.2 ⟨he, ih hes⟩

theorem arePlaces_entries {es : List TableEntry} (h : ∀ e ∈ es, ArePlaces (entryTargets e)) :
    ArePlaces (entriesTargets es) := by
  induction es with
  | nil => exact arePlaces_nil
  | cons e es ih =>
    obtain ⟨he, hes⟩ := List.forall_mem_cons.1 h
    exact arePlaces_append.2 ⟨he, ih hes⟩

theorem arePlaces_stmts {ss : List Stmt} (h : ∀ s ∈ ss, ArePlaces (stmtTargets s)) : ArePlaces (stmtsTargets ss) := by
  induction ss with
  | nil => exact arePlaces_nil
  | cons s ss ih =>
    obtain ⟨hs, hss⟩ := List.forall_mem_cons.1 h
    exact arePlaces_append.2 ⟨hs, ih hss⟩

theorem arePlaces_clauses {cs : List Clause} (h : ∀ c ∈ cs, ArePlaces (clausesTargets [c])) :
    ArePlaces (clausesTargets cs) := by
  induction cs with
  | nil => exact arePlaces_nil
  | cons c cs ih =>
    obtain ⟨hc, hcs⟩ := List.forall_mem_cons.1 h
    obtain ⟨condition?, body⟩ := c
    cases condition? with
    | none => exact arePlaces_append.2 ⟨(arePlaces_append.1 hc).1, ih hcs⟩
    | some condition => exact arePlaces_append.2 ⟨(arePlaces_append.1 hc).1, ih hcs⟩

/-- What is assigned to and declared as a function in what a node stands for. -/
def Meaning.targets : Meaning → List Expr
  | .nothing | .params .. => []
  | .expr e => exprTargets e
  | .exprs es => exprsTargets es
  | .entry e => entryTargets e
  | .assignment targets values _ => targets ++ exprsTargets targets ++ exprsTargets values
  | .block b => blockTargets b
  | .clause c => clausesTargets [c]
  | .numeric _ start limit none => exprTargets start ++ exprTargets limit
  | .numeric _ start limit (some step) => exprTargets start ++ exprTargets limit ++ exprTargets step
  | .generic _ iterators => exprsTargets iterators
  | .stmt s => stmtTargets s

/-- Whether what a node stands for assigns to places only. -/
def Meaning.HasPlaces (m : Meaning) : Prop := ArePlaces m.targets

theorem Meaning.HasPlaces.stmt {m : Meaning} (h : m.HasPlaces) {s : Stmt} (hs : m.stmt? = some s) :
    ArePlaces (stmtTargets s) := by
  unfold stmt? at hs
  split at hs
  · cases hs
    exact h
  · cases hs
    rw [HasPlaces, targets, exprTargets] at h
    rwa [stmtTargets]
  · split at hs
    · cases hs
    · cases hs
      exact h
  · cases hs

/-! ## From parts to wholes -/

namespace Part

/-- What is assigned to or declared by what a rule makes of its parts, apart from what is inside these. -/
def aims (made : Nonterminal) (ps : List Part) : List Expr :=
  match made with
  | .assignment | .localAssignment => (ps.filterMap (·.meaning.exprs?)).head?.getD []
  | .functionDecl | .localFunction => (expr? ps .name).toList
  | _ => []

section

variable {ps : List Part} (hps : ∀ p ∈ ps, p.meaning.HasPlaces)

include hps

theorem expr?_places {role : Role} {e : Expr} (h : expr? ps role = some e) : ArePlaces (exprTargets e) :=
  of_expr? hps h

theorem exprs_places : ArePlaces (exprsTargets (exprs ps)) := arePlaces_exprs fun _ he => of_exprs hps he

theorem first_list_places : ArePlaces (exprsTargets ((ps.findSome? (·.meaning.exprs?)).getD [])) :=
  of_first_list hps arePlaces_nil

theorem body_places (range : Range) : ArePlaces (blockTargets (body ps range)) := of_body hps arePlaces_nil

theorem function_places (range : Range) : ArePlaces (functionTargets (function ps range)) := body_places hps range

theorem stmts_places (range : Range) : ArePlaces (blockTargets (.mk (ps.filterMap (·.meaning.stmt?)) range)) := by
  refine arePlaces_stmts fun s hs => ?_
  obtain ⟨m, hmeaning, hplaces⟩ := of_stmts hps hs
  exact hplaces.stmt hmeaning

theorem member?_places {role : Role} {accessor : Accessor} {range : Range} {e : Expr}
    (h : member? ps role accessor range = some e) : ArePlaces (exprTargets e) := by
  obtain ⟨base, field, rfl, hbase, -⟩ := of_member? hps h
  rw [exprTargets]
  exact hbase

theorem locals?_places {range : Range} {s : Stmt} (h : locals? ps range = some s) : ArePlaces (stmtTargets s) := by
  rcases of_locals? hps h with ⟨targets, values, r, rfl, hplaces⟩ | ⟨es, rfl, -⟩
  · exact (arePlaces_append.1 hplaces).2
  · exact arePlaces_nil

theorem entryOf?_places {e : TableEntry} (h : entryOf? ps = some e) : ArePlaces (entryTargets e) := by
  obtain ⟨value, hvalue, rfl | ⟨key, rfl, hkey⟩ | ⟨key, rfl, -⟩⟩ := of_entryOf? hps h
  · exact hvalue
  · exact arePlaces_append.2 ⟨hkey, hvalue⟩
  · exact hvalue

theorem clause_places {condition? : Option Expr} (h : ∀ e ∈ condition?, ArePlaces (exprTargets e)) (range : Range) :
    ArePlaces (clausesTargets [.mk condition? (body ps range)]) := by
  cases condition? with
  | none => exact arePlaces_append.2 ⟨body_places hps range, arePlaces_nil⟩
  | some condition =>
    have hcondition := arePlaces_append.2 ⟨h condition rfl, body_places hps range⟩
    exact arePlaces_append.2 ⟨hcondition, arePlaces_nil⟩

theorem branches_places (range : Range) : ArePlaces (clausesTargets (branches ps range)) := by
  refine arePlaces_clauses fun c hc => ?_
  rcases of_branches hps hc with rfl | hplaces
  · exact clause_places hps (fun e he => expr?_places hps he) range
  · exact hplaces

theorem entries_places : ArePlaces (entriesTargets (ps.filterMap fun p => match p.meaning with
    | .entry e => some e
    | _ => none)) := arePlaces_entries fun _ he => of_entries hps he

theorem numeric?_places {m : Meaning} (h : numeric? ps = some m) : m.HasPlaces := by
  obtain ⟨x, start, limit, rfl, -, hstart, hlimit⟩ := of_numeric? hps h
  have hbounds := arePlaces_append.2 ⟨hstart, hlimit⟩
  cases hstep : expr? ps .step with
  | none => exact hbounds
  | some step => exact arePlaces_append.2 ⟨hbounds, expr?_places hps hstep⟩

theorem loop?_places {range : Range} {s : Stmt} (h : loop? ps range = some s) : ArePlaces (stmtTargets s) := by
  have hbody := body_places hps range
  rcases of_loop? hps h with ⟨x, start, limit, step?, rfl, hplaces⟩ | ⟨xs, iterators, rfl, hplaces⟩
  · cases step? with
    | none => exact arePlaces_append.2 ⟨hplaces, hbody⟩
    | some step => exact arePlaces_append.2 ⟨hplaces, hbody⟩
  · exact arePlaces_append.2 ⟨hplaces, hbody⟩

end

theorem ofExpr_places {e? : Option Expr} (h : ∀ e, e? = some e → ArePlaces (exprTargets e)) :
    (Meaning.ofExpr e?).HasPlaces := by
  cases e? with
  | none => exact arePlaces_nil
  | some e => exact h e rfl

theorem ofStmt_places {s? : Option Stmt} (h : ∀ s, s? = some s → ArePlaces (stmtTargets s)) :
    (Meaning.ofStmt s?).HasPlaces := by
  cases s? with
  | none => exact arePlaces_nil
  | some s => exact h s rfl

/-- What a rule makes of its parts assigns to what it aims at, and to what they do. -/
theorem combine_places {made : Nonterminal} {ps : List Part} (hps : ∀ p ∈ ps, p.meaning.HasPlaces)
    (haims : ArePlaces (aims made ps)) (start stop : Place) : (combine made ps start stop).HasPlaces := by
  unfold combine
  dsimp only
  generalize start.rangeTo stop = r
  cases made with
  | chunk | block => exact stmts_places hps r
  | targets | values | names | localNames | expressions | arguments => exact exprs_places hps
  | assignment | localAssignment =>
    unfold aims at haims
    dsimp only at haims ⊢
    split
    · rename_i targets values heq
      obtain ⟨htargets, hvalues⟩ := of_lists hps heq
      rw [heq] at haims
      exact arePlaces_append.2 ⟨arePlaces_append.2 ⟨haims, htargets⟩, hvalues⟩
    · exact arePlaces_nil
  | localDecl => exact ofStmt_places fun s hs => locals?_places hps hs
  | functionDecl | localFunction =>
    refine ofStmt_places fun s hs => ?_
    obtain ⟨name, hname, rfl⟩ := Option.map_eq_some_iff.1 hs
    have hplace : name.isPlace = true := haims name (Option.mem_toList.2 hname)
    exact arePlaces_append.2 ⟨List.forall_mem_cons.2 ⟨hplace, expr?_places hps hname⟩, function_places hps r⟩
  | functionExpr => exact function_places hps r
  | parameters => exact arePlaces_nil
  | returnStat => exact first_list_places hps
  | doStat => exact body_places hps r
  | whileStat =>
    refine ofStmt_places fun s hs => ?_
    obtain ⟨condition, hcondition, rfl⟩ := Option.map_eq_some_iff.1 hs
    exact arePlaces_append.2 ⟨expr?_places hps hcondition, body_places hps r⟩
  | repeatStat =>
    refine ofStmt_places fun s hs => ?_
    obtain ⟨condition, hcondition, rfl⟩ := Option.map_eq_some_iff.1 hs
    exact arePlaces_append.2 ⟨body_places hps r, expr?_places hps hcondition⟩
  | ifStat => exact branches_places hps r
  | elseifClause => exact clause_places hps (fun e he => expr?_places hps he) r
  | elseClause => exact clause_places hps (fun e he => by cases he) r
  | forStat => exact ofStmt_places fun s hs => loop?_places hps hs
  | numericClause =>
    dsimp only
    cases h : numeric? ps with
    | none => exact arePlaces_nil
    | some m => exact numeric?_places hps h
  | genericClause =>
    dsimp only
    split
    · rename_i xs iterators heq
      exact (of_lists hps heq).2
    · exact arePlaces_nil
  | dotIndex | functionField | methodIndex | functionMethod => exact ofExpr_places fun e he => member?_places hps he
  | bracketIndex =>
    refine ofExpr_places fun e he => ?_
    obtain ⟨base, hbase, he⟩ := Option.bind_eq_some_iff.1 he
    obtain ⟨key, hkey, he⟩ := Option.bind_eq_some_iff.1 he
    cases he
    exact arePlaces_append.2 ⟨expr?_places hps hbase, expr?_places hps hkey⟩
  | call =>
    refine ofExpr_places fun e he => ?_
    obtain ⟨callee, hcallee, rfl⟩ := Option.map_eq_some_iff.1 he
    exact arePlaces_append.2 ⟨expr?_places hps hcallee, first_list_places hps⟩
  | binary =>
    refine ofExpr_places fun e he => ?_
    obtain ⟨left, hleft, he⟩ := Option.bind_eq_some_iff.1 he
    obtain ⟨right, hright, he⟩ := Option.bind_eq_some_iff.1 he
    cases he
    exact arePlaces_append.2 ⟨expr?_places hps hleft, expr?_places hps hright⟩
  | unary =>
    refine ofExpr_places fun e he => ?_
    obtain ⟨operand, hoperand, rfl⟩ := Option.map_eq_some_iff.1 he
    rw [exprTargets]
    exact expr?_places hps hoperand
  | parenthesized =>
    refine ofExpr_places fun e he => ?_
    obtain ⟨inner, hinner, rfl⟩ := Option.map_eq_some_iff.1 he
    rw [exprTargets]
    exact of_found hps hinner
  | table => exact entries_places hps
  | entry =>
    dsimp only
    cases h : entryOf? ps with
    | none => exact arePlaces_nil
    | some e => exact entryOf?_places hps h
  | _ => exact arePlaces_nil

/-! ## Parts that stand for places -/

/-- Whether the expression that a part stands for, if it stands for one, is a variable or a field. -/
def IsPlace (p : Part) : Prop := ∀ e, p.meaning.expr? = some e → e.isPlace = true

end Part

theorem ofExpr_isPlace {e? : Option Expr} (h : ∀ e, e? = some e → e.isPlace = true) {e : Expr}
    (he : (Meaning.ofExpr e?).expr? = some e) : e.isPlace = true := by
  cases e? with
  | none => cases he
  | some e' =>
    cases he
    exact h e rfl

theorem member?_isPlace {ps : List Part} {role : Role} {accessor : Accessor} {range : Range} {e : Expr}
    (h : Part.member? ps role accessor range = some e) : e.isPlace = true := by
  unfold Part.member? at h
  obtain ⟨base, -, h⟩ := Option.bind_eq_some_iff.1 h
  obtain ⟨field, -, h⟩ := Option.bind_eq_some_iff.1 h
  cases h
  rfl

/-- An expression that is made of places is one. -/
theorem combine_isPlace {made : Nonterminal} (h : (Symbol.made made).isPlaces = true) (hvisible : made.isVisible = true)
    (ps : List Part) (start stop : Place) {e : Expr} (he : (Part.combine made ps start stop).expr? = some e) :
    e.isPlace = true := by
  cases made with
  | dotIndex | functionField | functionMethod => exact ofExpr_isPlace (fun e he => member?_isPlace he) he
  | bracketIndex =>
    refine ofExpr_isPlace (fun e he => ?_) he
    obtain ⟨base, -, he⟩ := Option.bind_eq_some_iff.1 he
    obtain ⟨key, -, he⟩ := Option.bind_eq_some_iff.1 he
    cases he
    rfl
  | var | moreTargets | functionName | functionPath | functionBody | moreLocalNames => cases hvisible
  | parameters | block | «attribute» | comment => cases he
  | _ => cases h

/-- What stands for places without being a node in its own right has such parts only. -/
theorem checks_of_not_isVisible {made : Nonterminal} (h : (Symbol.made made).isPlaces = true)
    (hvisible : made.isVisible = false) : (fun w => w.all Symbol.isPlaces) ∈ made.checks := by
  cases made with
  | var | moreTargets | functionName | functionPath | functionBody | moreLocalNames => exact List.mem_cons_self ..
  | bracketIndex | dotIndex | functionField | functionMethod => cases hvisible
  | parameters | block | «attribute» | comment => cases hvisible
  | _ => cases h

theorem ofToken_isPlace {t : Token} {k : Terminal} (hterminal : t.terminal? = some k)
    (h : (Symbol.terminal k).isPlaces = true) {e : Expr} (he : (Meaning.ofToken t).expr? = some e) :
    e.isPlace = true := by
  unfold Meaning.ofToken at he
  dsimp only at he
  split at he
  · cases he
    rfl
  case h_7 => cases he
  all_goals
    cases hterminal.symm.trans ‹_›
    cases h

namespace Node

variable {text : List Char}

theorem IsAside.isPlaces {n : Node} (h : n.IsAside) : ∃ σ, n.symbol? = some σ ∧ σ.isPlaces = true := by
  rcases h with h | h
  · exact ⟨_, h, rfl⟩
  · exact ⟨_, h, rfl⟩

mutual

theorem addParts_isPlace : ∀ (n : Node), n.Fits text → (∃ σ, n.symbol? = some σ ∧ σ.isPlaces = true) →
    ∀ (role? : Option Role) {rest : List Part}, (∀ p ∈ rest, p.IsPlace) → ∀ p ∈ addParts role? rest n, p.IsPlace
  | leaf t e, h, ⟨σ, hσ, hplaces⟩, role?, rest, hrest => by
    cases h with
    | leaf hterminal _ =>
      rw [symbol?, hterminal] at hσ
      cases hσ
      rw [addParts]
      split
      · exact List.forall_mem_cons.2 ⟨fun e he => ofToken_isPlace hterminal hplaces he, hrest⟩
      · exact hrest
  | tree (.rule k) cs e d, h, ⟨σ, hσ, hplaces⟩, role?, rest, hrest => by
    cases h with
    | tree _ hcs _ harranged =>
      cases hσ
      rw [addParts]
      split
      · rename_i hvisible
        exact List.forall_mem_cons.2 ⟨fun e he => combine_isPlace hplaces hvisible _ _ _ he, hrest⟩
      · rename_i hvisible
        have hcheck := checks_of_not_isVisible hplaces (Bool.eq_false_of_not_eq_true hvisible)
        exact addAllParts_isPlace cs hcs harranged.aside (harranged.checked _ hcheck) role? _ hrest
  | tree .error cs e d, h, _, _, _, _ => by cases h
  | tree .skipped cs e d, h, _, _, _, _ => by cases h

theorem addAllParts_isPlace : ∀ (ns : List Node), (∀ n ∈ ns, n.Fits text) → (∀ n ∈ ns, n.isExtra = true → n.IsAside) →
    (symbols ns).all Symbol.isPlaces = true → ∀ (around? : Option Role) (roles : List (Option Role)) {rest : List Part},
    (∀ p ∈ rest, p.IsPlace) → ∀ p ∈ addAllParts around? roles rest ns, p.IsPlace
  | [], _, _, _, around?, roles, rest, hrest => by
    rw [addAllParts]
    exact hrest
  | n :: ns, h, haside, hplaces, around?, roles, rest, hrest => by
    obtain ⟨hn, hns⟩ := List.forall_mem_cons.1 h
    obtain ⟨hnAside, hnsAside⟩ := List.forall_mem_cons.1 haside
    rw [addAllParts]
    split
    · rename_i hextra
      rw [symbols_cons_extra hextra] at hplaces
      exact addParts_isPlace n hn (hnAside hextra).isPlaces none
        (addAllParts_isPlace ns hns hnsAside hplaces around? roles hrest)
    · rename_i hextra
      obtain ⟨σ, hσ, -⟩ := hn.spans
      rw [symbols_cons (Bool.eq_false_of_not_eq_true hextra) hσ, List.all_cons, Bool.and_eq_true] at hplaces
      exact addParts_isPlace n hn ⟨σ, hσ, hplaces.1⟩ _
        (addAllParts_isPlace ns hns hnsAside hplaces.2 around? roles.tail hrest)

end

/-! ## Lists of places -/

/-- What stands aside is no list. -/
theorem IsAside.exprs?_addParts {n : Node} (h : n.IsAside) (role? : Option Role) (rest : List Part) :
    (addParts role? rest n).filterMap (·.meaning.exprs?) = rest.filterMap (·.meaning.exprs?) := by
  cases n with
  | leaf t e =>
    rcases h with h | h
    · obtain ⟨k, -, hk⟩ := Option.map_eq_some_iff.1 h
      cases hk
    · obtain ⟨k, hk, heof⟩ := Option.map_eq_some_iff.1 h
      cases heof
      rw [addParts, hk]
      rfl
  | tree head cs e d =>
    cases head with
    | rule k =>
      rcases h with h | h
      · have hmakes : (Rule.get k).makes = .comment := Symbol.made.inj (Option.some.inj h)
        rw [addParts, hmakes]
        rfl
      · cases h
    | error => rcases h with h | h <;> cases h
    | skipped => rcases h with h | h <;> cases h

/-- The list that a node for targets stands for. -/
theorem exprs_addParts {n : Node} (h : n.Fits text)
    (hsymbol : n.symbol? = some (.made .targets) ∨ n.symbol? = some (.made .localNames)) (role? : Option Role)
    (rest : List Part) : ∃ es isFatal, ArePlaces es ∧ addParts role? rest n = ⟨role?, true, .exprs es, isFatal⟩ :: rest := by
  cases h with
  | leaf hterminal _ =>
    rw [symbol?, hterminal] at hsymbol
    rcases hsymbol with h | h <;> cases h
  | @tree k cs e d _ hcs _ harranged =>
    have hmakes : (Rule.get k).makes = .targets ∨ (Rule.get k).makes = .localNames :=
      hsymbol.imp (fun h => Symbol.made.inj (Option.some.inj h)) fun h => Symbol.made.inj (Option.some.inj h)
    refine ⟨Part.exprs (addAllParts none (Rule.get k).roles [] cs),
      (addAllParts none (Rule.get k).roles [] cs).any (·.isFatal), fun e he => ?_, ?_⟩
    · obtain ⟨p, hp, hmeaning⟩ := List.mem_filterMap.1 he
      have hchecked : (symbols cs).all Symbol.isPlaces = true := by
        refine harranged.checked (fun w => w.all Symbol.isPlaces) ?_
        rcases hmakes with hmakes | hmakes
        all_goals
          rw [hmakes]
          exact List.mem_cons_self ..
      exact addAllParts_isPlace cs hcs harranged.aside hchecked none _ (List.forall_mem_nil _) p hp e hmeaning
    · rw [addParts]
      rcases hmakes with hmakes | hmakes
      all_goals
        rw [hmakes]
        rfl

/-- If the first symbol of some nodes is one for targets, the first list among their parts is that of the targets. -/
theorem arePlaces_head {σ : Symbol} (hσ : σ = .made .targets ∨ σ = .made .localNames) : ∀ {ns : List Node},
    (∀ n ∈ ns, n.Fits text) → (∀ n ∈ ns, n.isExtra = true → n.IsAside) → (symbols ns).head? = some σ →
    ∀ (around? : Option Role) (roles : List (Option Role)) (rest : List Part),
    ∀ es ∈ ((addAllParts around? roles rest ns).filterMap (·.meaning.exprs?)).head?, ArePlaces es
  | [], _, _, hhead, _, _, _ => by cases hhead
  | n :: ns, h, haside, hhead, around?, roles, rest => by
    obtain ⟨hn, hns⟩ := List.forall_mem_cons.1 h
    obtain ⟨hnAside, hnsAside⟩ := List.forall_mem_cons.1 haside
    rw [addAllParts]
    split
    · rename_i hextra
      rw [symbols_cons_extra hextra] at hhead
      rw [(hnAside hextra).exprs?_addParts]
      exact arePlaces_head hσ hns hnsAside hhead around? roles rest
    · rename_i hextra
      obtain ⟨τ, hτ, -⟩ := hn.spans
      rw [symbols_cons (Bool.eq_false_of_not_eq_true hextra) hτ] at hhead
      obtain rfl : τ = σ := Option.some.inj hhead
      have hsymbol : n.symbol? = some (.made .targets) ∨ n.symbol? = some (.made .localNames) :=
        hσ.imp (fun heq => hτ.trans (congrArg some heq)) fun heq => hτ.trans (congrArg some heq)
      obtain ⟨es, isFatal, hes, hparts⟩ := exprs_addParts hn hsymbol (roles.head?.join <|> around?)
        (addAllParts around? roles.tail rest ns)
      rw [hparts]
      intro es' hes'
      cases hes'
      exact hes

/-- What a rule aims at is a list of places, if its parts are such as they can be. -/
theorem aims_places {made : Nonterminal} {cs : List Node} (hcs : ∀ c ∈ cs, c.Fits text) (h : Arranged made cs)
    (roles : List (Option Role)) : ArePlaces (Part.aims made (addAllParts none roles [] cs)) := by
  have hlist : ∀ σ : Symbol, σ = .made .targets ∨ σ = .made .localNames → (symbols cs).head? = some σ →
      ArePlaces (((addAllParts none roles [] cs).filterMap (·.meaning.exprs?)).head?.getD []) := by
    intro σ hσ hhead
    have hplaces := arePlaces_head hσ hcs h.aside hhead none roles []
    cases hfirst : ((addAllParts none roles [] cs).filterMap (·.meaning.exprs?)).head? with
    | none => exact arePlaces_nil
    | some targets => exact hplaces targets hfirst
  have hname : (symbols cs).all Symbol.isPlaces = true →
      ArePlaces (Part.expr? (addAllParts none roles [] cs) .name).toList := by
    intro hchecked e he
    obtain ⟨p, hp, hmeaning⟩ := Option.bind_eq_some_iff.1 (Option.mem_toList.1 he)
    exact addAllParts_isPlace cs hcs h.aside hchecked none roles (List.forall_mem_nil _) p
      (List.mem_of_find?_eq_some hp) e hmeaning
  cases made with
  | assignment => exact hlist _ (Or.inl rfl) (of_decide_eq_true (h.checked _ (List.mem_cons_self ..)))
  | localAssignment => exact hlist _ (Or.inr rfl) (of_decide_eq_true (h.checked _ (List.mem_cons_self ..)))
  | functionDecl | localFunction => exact hname (h.checked _ (List.mem_cons_self ..))
  | _ => exact arePlaces_nil

/-! ## Nodes -/

theorem ofToken_places (t : Token) : (Meaning.ofToken t).HasPlaces := by
  unfold Meaning.ofToken
  dsimp only
  split <;> exact arePlaces_nil

mutual

theorem addParts_places : ∀ (n : Node), n.Fits text → ∀ (role? : Option Role) {rest : List Part},
    (∀ p ∈ rest, p.meaning.HasPlaces) → ∀ p ∈ addParts role? rest n, p.meaning.HasPlaces
  | leaf t e, _, role?, rest, hrest => by
    rw [addParts]
    split
    · exact List.forall_mem_cons.2 ⟨ofToken_places t, hrest⟩
    · exact hrest
  | tree (.rule k) cs e d, h, role?, rest, hrest => by
    cases h with
    | tree _ hcs _ harranged =>
      rw [addParts]
      split
      · have hparts := addAllParts_places cs hcs none (Rule.get k).roles (List.forall_mem_nil _)
        exact List.forall_mem_cons.2 ⟨Part.combine_places hparts (aims_places hcs harranged _) d.start d.stop, hrest⟩
      · exact addAllParts_places cs hcs role? _ hrest
  | tree .error cs e d, h, _, _, _ => by cases h
  | tree .skipped cs e d, h, _, _, _ => by cases h

theorem addAllParts_places : ∀ (ns : List Node), (∀ n ∈ ns, n.Fits text) → ∀ (around? : Option Role)
    (roles : List (Option Role)) {rest : List Part}, (∀ p ∈ rest, p.meaning.HasPlaces) →
    ∀ p ∈ addAllParts around? roles rest ns, p.meaning.HasPlaces
  | [], _, around?, roles, rest, hrest => by
    rw [addAllParts]
    exact hrest
  | n :: ns, h, around?, roles, rest, hrest => by
    obtain ⟨hn, hns⟩ := List.forall_mem_cons.1 h
    rw [addAllParts]
    split
    · exact addParts_places n hn none (addAllParts_places ns hns around? roles hrest)
    · exact addParts_places n hn _ (addAllParts_places ns hns around? roles.tail hrest)

end

theorem meaning_places {n : Node} (h : n.Fits text) : n.meaning.HasPlaces := by
  have hparts := addParts_places n h none (List.forall_mem_nil _)
  unfold meaning
  cases hhead : (n.addParts none []).head? with
  | none => exact arePlaces_nil
  | some p => exact hparts p (List.mem_of_mem_head? hhead)

variable {good : Token → Prop}

mutual

/-- What is kept from a text with faults has none. -/
theorem addKept_places : ∀ (n : Node), n.Stands good text → ∀ {rest : List Stmt}, ArePlaces (stmtsTargets rest) →
    ArePlaces (stmtsTargets (addKept rest n))
  | leaf t e, _, rest, hrest => by
    rw [addKept]
    exact hrest
  | tree (.rule k) cs e d, h, rest, hrest => by
    rw [addKept]
    split
    · exact addAllKept_places cs h.children hrest
    · split
      · rename_i hkept
        cases h with
        | tree hfits _ =>
          have hplaces := meaning_places (hfits (of_decide_eq_true (Bool.and_eq_true_iff.1 hkept).1))
          split
          · rename_i s hs
            split
            · exact arePlaces_append.2 ⟨hplaces.stmt hs, hrest⟩
            · exact hrest
          · exact hrest
      · exact hrest
  | tree .error cs e d, h, rest, hrest => by
    rw [addKept]
    · exact addAllKept_places cs h.children hrest
    · simp
  | tree .skipped cs e d, h, rest, hrest => by
    rw [addKept]
    · exact addAllKept_places cs h.children hrest
    · simp

theorem addAllKept_places : ∀ (ns : List Node), (∀ n ∈ ns, n.Stands good text) → ∀ {rest : List Stmt},
    ArePlaces (stmtsTargets rest) → ArePlaces (stmtsTargets (addAllKept rest ns))
  | [], _, rest, hrest => by
    rw [addAllKept]
    exact hrest
  | n :: ns, h, rest, hrest => by
    obtain ⟨hn, hns⟩ := List.forall_mem_cons.1 h
    rw [addAllKept]
    exact addKept_places n hn (addAllKept_places ns hns hrest)

end

end Node

/-- Every target of every text is a variable or a field. -/
theorem targets_are_places (text : String) : ArePlaces (parse text).file.targets := by
  unfold parse
  cases htree : Node.ofText text with
  | none => exact arePlaces_nil
  | some root =>
    dsimp only
    split
    · rename_i hpenalty
      have hplaces := Node.meaning_places (Node.ofText_fits htree hpenalty)
      show ArePlaces (blockTargets (root.meaning.block?.getD (.mk [] root.range)))
      cases hblock : root.meaning.block? with
      | none => exact arePlaces_nil
      | some b => rwa [Meaning.block?_eq_some.1 hblock] at hplaces
    · exact Node.addAllKept_places _ (Node.ofText_stands htree).children arePlaces_nil

end LuaAtlas.Syntax
