/-
A walk follows static scoping. It reports what a file mentions, one mention after the other, and nothing else:
wherever a name is used outside the condition of a `repeat` loop, the locals that the walk knows are those that
are bound there, and each of them is declared in the file, in a chunk around the use.
-/
import LuaAtlas.Proofs.Syntax.Scoping
import LuaAtlas.Proofs.Walk.Scope
import Mathlib.Data.List.Forall2

namespace LuaAtlas.Walk

open LuaAtlas.Syntax

/-! ## What a walk knows -/

/-- The declaration of a local that is bound at `b`, as it is seen from inside the chunks `stack`. -/
structure Declares (d : Declaration) (b : Ident) (stack : List ChunkRef) : Prop where
  called : d.name = b.name
  range : d.range = b.range
  isLocal : d.isLocal = true
  counts : d.onlyNew = false
  around : d.stack <+: stack

/-- The context agrees with the scope, and what is in scope is declared among the events. -/
structure Sees (E : List Event) (c : Context) (σ : Scope) : Prop where
  locals : ∀ n, n ∈ c.locals ↔ ∃ b ∈ σ.binders, b.name = n
  declared : ∀ b ∈ σ.binders, ∃ d, .declared d ∈ E ∧ Declares d b c.stack

/-- What a walk knows of a scope; nothing inside the condition of a `repeat` loop. -/
def Knows (E : List Event) (c : Context) (σ : Scope) : Prop := σ.inCondition = false → Sees E c σ

variable {E : List Event}

theorem knows_outermost (E : List Event) (stack : List ChunkRef) : Knows E ⟨stack, []⟩ .outermost := by
  intro _
  exact ⟨fun n => by simp [Scope.outermost], fun b hb => by cases hb⟩

theorem knows_condition (E : List Event) (c : Context) (σ : Scope) : Knows E c σ.condition := by
  intro h
  cases h

theorem Knows.enter {c : Context} {σ : Scope} (h : Knows E c σ) (chunk : ChunkRef) : Knows E (c.enter chunk) σ := by
  intro hσ
  refine ⟨(h hσ).locals, fun b hb => ?_⟩
  obtain ⟨d, hd, hdeclares⟩ := (h hσ).declared b hb
  exact ⟨d, hd, { hdeclares with around := hdeclares.around.trans (List.prefix_append _ _) }⟩

theorem Knows.bind {c : Context} {σ : Scope} (h : Knows E c σ) {names : List String} {xs : List Ident}
    (hnames : ∀ n, n ∈ names ↔ ∃ x ∈ xs, x.name = n)
    (hdeclared : ∀ x ∈ xs, ∃ d, .declared d ∈ E ∧ Declares d x c.stack) :
    Knows E (c.withLocals names) (σ.bind xs) := by
  intro hσ
  obtain ⟨hlocals, hold⟩ := h hσ
  constructor
  · intro n
    simp only [Context.withLocals, Scope.bind, List.mem_append, List.mem_reverse, hnames, hlocals, or_and_right,
      exists_or]
  · intro b hb
    simp only [Scope.bind, List.mem_append, List.mem_reverse] at hb
    rcases hb with hb | hb
    · exact hdeclared b hb
    · exact hold b hb

theorem mem_map_name (xs : List Ident) (n : String) : n ∈ xs.map (·.name) ↔ ∃ x ∈ xs, x.name = n := List.mem_map

/-! ## Declarations of binders -/

theorem declares_localVar (c : Context) (x : Ident) : Declares (localVar c x) x c.stack :=
  ⟨rfl, rfl, rfl, rfl, List.prefix_refl _⟩

theorem declares_localDeclaration (c : Context) (x : Ident) (value? : Option Expr) :
    Declares (localDeclaration c x value?) x c.stack := by
  unfold localDeclaration Declaration.withValue
  dsimp only
  split <;> exact ⟨rfl, rfl, rfl, rfl, List.prefix_refl _⟩

theorem exists_localDeclaration (c : Context) {x : Ident} : ∀ {xs : List Ident} (vs : List Expr), x ∈ xs →
    ∃ value?, localDeclaration c x value? ∈ localDeclarations c xs vs
  | y :: xs, [], h => by
    rw [localDeclarations]
    rcases List.mem_cons.1 h with rfl | h
    · exact ⟨none, List.mem_cons_self ..⟩
    · obtain ⟨value?, hmem⟩ := exists_localDeclaration c [] h
      exact ⟨value?, List.mem_cons_of_mem _ hmem⟩
  | y :: xs, v :: vs, h => by
    rw [localDeclarations]
    rcases List.mem_cons.1 h with rfl | h
    · exact ⟨some v, List.mem_cons_self ..⟩
    · obtain ⟨value?, hmem⟩ := exists_localDeclaration c vs h
      exact ⟨value?, List.mem_cons_of_mem _ hmem⟩

theorem introduced_eq (s : Stmt) : introduced s = s.binders.map (·.name) := by
  unfold introduced
  split
  · rfl
  · rfl
  · rename_i hlocal hfunction
    unfold Stmt.binders
    split
    · exact absurd rfl (hlocal _ _ _)
    · exact absurd rfl (hfunction _ _ _)
    · rfl

/-- A statement declares what it binds. -/
theorem stmt_declares (c : Context) : ∀ s : Stmt, ∀ x ∈ s.binders,
    ∃ d, .declared d ∈ stmtEvents c s ∧ Declares d x c.stack
  | .localVars names values range, x, hx => by
    obtain ⟨value?, hmem⟩ := exists_localDeclaration c values hx
    refine ⟨_, ?_, declares_localDeclaration c x value?⟩
    rw [stmtEvents]
    refine List.mem_append_left _ (List.mem_flatMap.2 ⟨_, hmem, ?_⟩)
    simp
  | .funcDecl true (.ident id) f range, x, hx => by
    cases List.mem_singleton.1 hx
    refine ⟨functionDeclaration (c.withLocals [id.name]) true (.ident id) id.name f, ?_, ?_⟩
    · rw [stmtEvents]
      exact List.mem_append_right _ (List.mem_cons_self ..)
    · exact ⟨rfl, rfl, rfl, rfl, List.prefix_refl _⟩
  | .funcDecl false _ _ _, x, hx => by cases hx

/-- What a statement binds is known behind it. -/
theorem Knows.behind {c : Context} {σ : Scope} (h : Knows E c σ) (s : Stmt) (hE : stmtEvents c s ⊆ E) :
    Knows E (c.withLocals (introduced s)) (σ.bind s.binders) := by
  rw [introduced_eq]
  refine h.bind (mem_map_name _) fun x hx => ?_
  obtain ⟨d, hd, hdeclares⟩ := stmt_declares c s x hx
  exact ⟨d, hE hd, hdeclares⟩

/-- Local variables that are declared in turn are known behind that. -/
theorem Knows.localVars {c : Context} {σ : Scope} (h : Knows E c σ) (xs : List Ident)
    (hE : xs.flatMap (fun x => [siteOf (localVar c x), .declared (localVar c x)]) ⊆ E) :
    Knows E (c.withLocals (xs.map (·.name))) (σ.bind xs) := by
  refine h.bind (mem_map_name _) fun x hx => ⟨_, hE ?_, declares_localVar c x⟩
  refine List.mem_flatMap.2 ⟨x, hx, ?_⟩
  simp

/-! ## Reports -/

/-- Whether an event tells nothing of what is mentioned. -/
def Event.isSilent : Event → Bool
  | .opened _ | .equated .. | .metatable .. | .called .. => true
  | _ => false

/-- The site of a chain called `name`. -/
def chainSite (c : Context) (name : String) (e : Expr) : Site := ⟨name, e.nameRange, e.range, c.isLocal name, c.stack⟩

theorem use_eq {c : Context} {e : Expr} {name : String} (h : e.dottedName? = some name) :
    use c e = [.site (chainSite c name e)] := by
  unfold use
  rw [h]
  rfl

theorem dottedName?_inner : ∀ e : Expr, e.inner.dottedName? = e.dottedName?
  | .paren e _ => dottedName?_inner e
  | .ident _ | .member .. | .index .. | .call .. | .func _ | .table .. | .binary .. | .unary .. | .string ..
  | .number .. | .literal _ | .vararg _ => rfl

/-- A walk that takes a value to be given to a local or not agrees with what the value is given to. -/
def Owns (E : List Event) (isLocal : Bool) : Owner → Prop
  | .introduced => isLocal = true
  | .target t σ => ∃ c name, Knows E c σ ∧ t.dottedName? = some name ∧ isLocal = c.isLocal name

/-- Events that report mentions, made in contexts that agree with the scopes there. -/
inductive Reports (E : List Event) : List Mention → List Event → Prop
  | nil : Reports E [] []
  | append {ms ns : List Mention} {es fs : List Event} :
      Reports E ms es → Reports E ns fs → Reports E (ms ++ ns) (es ++ fs)
  | silent {e : Event} : e.isSilent = true → Reports E [] [e]
  | self (c : Context) (owner : String) (range : Range) : Reports E [] [.declared (selfDeclaration c owner range)]
  | used {c : Context} {σ : Scope} {e : Expr} {name : String} : Knows E c σ → e.dottedName? = some name →
      Reports E [.used e σ] [.site (chainSite c name e)]
  | argument (edge : Edge) (range : Range) : Reports E [.argument edge.targetModule range] [.required edge range]
  | introduced (c : Context) (x : Ident) (value? : Option Expr) :
      Reports E [.introduced x] [siteOf (localDeclaration c x value?), .declared (localDeclaration c x value?)]
  | key {owner : Owner} (c : Context) (base : Binding) (name : String) (range : Range) (value : Expr) :
      Owns E base.isLocal owner → Reports E [.key range owner]
        [siteOf (entryDeclaration c base name range value), .declared (entryDeclaration c base name range value)]
  | assigned {c : Context} {σ : Scope} {t : Expr} {name : String} (value? : Option Expr) : Knows E c σ →
      t.dottedName? = some name → Reports E [.used t.inner σ, .assigned t σ]
        [.site (chainSite c name t.inner), .declared (targetDeclaration c t name value?)]
  /-- A local function knows itself at its own name. -/
  | function {c : Context} {σ : Scope} {t : Expr} {name : String} (isLocal : Bool) (f : FuncBody) : Knows E c σ →
      t.dottedName? = some name → (∀ id, isLocal = true → t = .ident id → id.name ∈ c.locals) →
      Reports E [.used t.inner σ, .function isLocal t σ]
        [.site (chainSite c name t.inner), .declared (functionDeclaration c isLocal t name f)]

namespace Reports

theorem flatten {mss : List (List Mention)} {ess : List (List Event)} (h : List.Forall₂ (Reports E) mss ess) :
    Reports E mss.flatten ess.flatten :=
  rel_flatten .nil .append h

theorem alternate {mss nss : List (List Mention)} {ess fss : List (List Event)} (h : List.Forall₂ (Reports E) mss ess)
    (h' : List.Forall₂ (Reports E) nss fss) : Reports E (alternate mss nss) (alternate ess fss) :=
  rel_alternate .nil .append h h'

theorem flatMap {α : Type} {m : α → Mention} {f : α → List Event} (h : ∀ a, Reports E [m a] (f a)) :
    ∀ as : List α, Reports E (as.map m) (as.flatMap f)
  | [] => .nil
  | a :: as => (h a).append (flatMap h as)

theorem localVars (c : Context) (xs : List Ident) : Reports E (xs.map .introduced)
    (xs.flatMap fun x => [siteOf (localVar c x), .declared (localVar c x)]) :=
  flatMap (fun x => .introduced c x none) xs

theorem localDeclarations (c : Context) : ∀ (xs : List Ident) (vs : List Expr), Reports E (xs.map .introduced)
    ((localDeclarations c xs vs).flatMap fun d => [siteOf d, .declared d])
  | [], _ => .nil
  | x :: xs, [] => (Reports.introduced c x none).append (localDeclarations c xs [])
  | x :: xs, v :: vs => (Reports.introduced c x (some v)).append (localDeclarations c xs vs)

theorem use {c : Context} {σ : Scope} (h : Knows E c σ) {e : Expr} {name : String} (hname : e.dottedName? = some name) :
    Reports E [.used e σ] (use c e) := by
  rw [use_eq hname]
  exact .used h hname

theorem chain {c : Context} {σ : Scope} (h : Knows E c σ) (e : Expr) :
    Reports E (chainMentions σ e) (Walk.use c e) := by
  unfold chainMentions
  cases hname : e.dottedName? with
  | some name => exact use h hname
  | none =>
    unfold Walk.use
    rw [hname]
    exact .nil

theorem facts (binding? : Option Binding) (callee : Expr) (args : List Expr) (range : Range) :
    Reports E (argumentMentions callee args) (callFacts binding? callee args range) := by
  have h : Reports E (argumentMentions callee args ++ []) (callFacts binding? callee args range) := by
    unfold argumentMentions callFacts
    refine .append ?_ ?_
    · cases requiredModule? callee args with
      | none => exact .nil
      | some m =>
        cases args with
        | nil => exact .nil
        | cons arg args => exact .argument ⟨m, range⟩ arg.range
    · split
      · exact .silent rfl
      · split
        · exact .silent rfl
        · exact .nil
  rw [List.append_nil] at h
  exact h

theorem call {c : Context} {callee : Expr} {args : List Expr} {ms ns : List Mention} (binding? : Option Binding)
    (range : Range) (hc : Reports E ms (exprEvents c callee)) (ha : Reports E ns (exprsEvents c args)) :
    Reports E (ms ++ argumentMentions callee args ++ ns)
      (exprEvents c callee ++ callFacts binding? callee args range ++ exprsEvents c args) :=
  (hc.append (facts binding? callee args range)).append ha

end Reports

/-! ## The walk reports what is mentioned -/

theorem implicitSelf_eq (name : Expr) : implicitSelf name = ((receiver? name).map fun r => ⟨"self", r.2⟩).toList := by
  unfold implicitSelf receiver?
  cases name with
  | member base accessor field range =>
    cases accessor with
    | dot => rfl
    | colon => cases h : base.dottedName? <;> simp [h]
  | _ => rfl

theorem owns_target {c : Context} {σ : Scope} (hk : Knows E c σ) (t : Expr) :
    Option.Rel (fun o b => Owns E b.isLocal o) (targetOwner? σ t) (targetBinding? c t) := by
  unfold targetOwner? targetBinding?
  cases hname : t.dottedName? with
  | none => exact .none
  | some name => exact .some ⟨c, name, hk, hname, rfl⟩

theorem implicitSelf_of_unnamed {name : Expr} (h : name.dottedName? = none) : implicitSelf name = [] := by
  unfold implicitSelf
  split
  · rw [Expr.dottedName?, Option.map_eq_none_iff] at h
    rw [h]
    rfl
  · rfl

mutual

theorem reports_expr {c : Context} {σ : Scope} (hk : Knows E c σ) : ∀ e : Expr, exprEvents c e ⊆ E →
    Reports E (exprMentions σ none e) (exprEvents c e)
  | .ident id, _ => by
    rw [exprMentions, exprEvents]
    exact .use hk rfl
  | .member base accessor field range, hE => by
    rw [exprEvents] at hE
    rw [exprMentions, exprEvents]
    exact (reports_expr hk base (List.append_subset.1 hE).1).append (.chain hk _)
  | .index base key range, hE => by
    rw [exprEvents] at hE
    obtain ⟨hbase, hkey⟩ := List.append_subset.1 hE
    rw [exprMentions, exprEvents]
    refine (reports_expr hk base hbase).append ?_
    cases hname : (Expr.index base key range).dottedName? with
    | some name => exact .use hk hname
    | none =>
      rw [hname] at hkey
      exact reports_expr hk key hkey
  | .call callee args range, hE => by
    rw [exprEvents] at hE
    obtain ⟨hcallee, hargs⟩ := List.append_subset.1 hE
    rw [exprMentions, exprEvents]
    exact .call none range (reports_expr hk callee (List.append_subset.1 hcallee).1) (reports_exprs hk args hargs)
  | .func f, hE => by
    rw [exprEvents] at hE
    rw [exprMentions, exprEvents]
    exact reports_function hk _ none rfl f hE
  | .table entries range, hE => by
    rw [exprEvents] at hE
    rw [exprMentions, exprEvents]
    exact reports_entries hk .none entries hE
  | .binary left right range, hE => by
    rw [exprEvents] at hE
    obtain ⟨hleft, hright⟩ := List.append_subset.1 hE
    rw [exprMentions, exprEvents]
    exact (reports_expr hk left hleft).append (reports_expr hk right hright)
  | .unary operand range, hE => by
    rw [exprEvents] at hE
    rw [exprMentions, exprEvents]
    exact reports_expr hk operand hE
  | .paren inner range, hE => by
    rw [exprEvents] at hE
    rw [exprMentions, exprEvents]
    exact reports_expr hk inner hE
  | .string .., _ | .number .., _ | .literal _, _ | .vararg _, _ => by
    rw [exprMentions, exprEvents]
    exact .nil

theorem reports_exprs {c : Context} {σ : Scope} (hk : Knows E c σ) : ∀ es : List Expr, exprsEvents c es ⊆ E →
    Reports E (exprsMentions σ es) (exprsEvents c es)
  | [], _ => by
    rw [exprsMentions, exprsEvents]
    exact .nil
  | e :: es, hE => by
    rw [exprsEvents] at hE
    obtain ⟨he, hes⟩ := List.append_subset.1 hE
    rw [exprsMentions, exprsEvents]
    exact (reports_expr hk e he).append (reports_exprs hk es hes)

theorem reports_value {c : Context} {σ : Scope} (hk : Knows E c σ) {owner : Owner} (b : Binding)
    (ho : Owns E b.isLocal owner) : ∀ e : Expr, valueEvents c b e ⊆ E →
    Reports E (exprMentions σ (some owner) e) (valueEvents c b e)
  | .func f, hE => by
    rw [valueEvents] at hE
    rw [exprMentions, valueEvents]
    exact reports_function hk _ none rfl f hE
  | .table entries range, hE => by
    rw [valueEvents] at hE
    rw [exprMentions, valueEvents]
    exact reports_entries hk (.some ho) entries hE
  | .call callee args range, hE => by
    rw [valueEvents] at hE
    obtain ⟨hcallee, hargs⟩ := List.append_subset.1 hE
    rw [exprMentions, valueEvents]
    exact .call (some b) range (reports_expr hk callee (List.append_subset.1 hcallee).1) (reports_exprs hk args hargs)
  | .paren inner range, hE => by
    rw [valueEvents] at hE
    rw [exprMentions, valueEvents]
    exact reports_value hk b ho inner hE
  | .ident id, _ => by
    rw [exprMentions, valueEvents, ← List.append_nil [Mention.used _ _]]
    exact (Reports.use hk rfl).append (.silent rfl)
  | .member base accessor field range, hE => by
    rw [valueEvents] at hE
    obtain ⟨hplace, -⟩ := List.append_subset.1 hE
    rw [exprMentions, valueEvents, ← List.append_nil (_ ++ chainMentions _ _)]
    refine ((reports_expr hk base (List.append_subset.1 hplace).1).append (.chain hk _)).append ?_
    cases (Expr.member base accessor field range).dottedName? with
    | none => exact .nil
    | some name => exact .silent rfl
  | .index base key range, hE => by
    rw [valueEvents] at hE
    obtain ⟨hbase, hkey⟩ := List.append_subset.1 hE
    rw [exprMentions, valueEvents]
    refine (reports_expr hk base hbase).append ?_
    cases hname : (Expr.index base key range).dottedName? with
    | some name => exact (Reports.use hk hname).append (.silent rfl)
    | none =>
      rw [hname] at hkey
      exact reports_expr hk key hkey
  | .binary left right range, hE => by
    rw [valueEvents] at hE
    obtain ⟨hleft, hright⟩ := List.append_subset.1 hE
    rw [exprMentions, valueEvents]
    exact (reports_expr hk left hleft).append (reports_expr hk right hright)
  | .unary operand range, hE => by
    rw [valueEvents] at hE
    rw [exprMentions, valueEvents]
    exact reports_expr hk operand hE
  | .string .., _ | .number .., _ | .literal _, _ | .vararg _, _ => by
    rw [exprMentions, valueEvents]
    exact .nil

theorem reports_values {c : Context} {σ : Scope} (hk : Knows E c σ) : ∀ {owners : List (Option Owner)}
    {bs : List (Option Binding)}, List.Forall₂ (Option.Rel fun o b => Owns E b.isLocal o) owners bs →
    ∀ vs : List Expr, (valuesEvents c bs vs).flatten ⊆ E →
    List.Forall₂ (Reports E) (valuesMentions σ owners vs) (valuesEvents c bs vs)
  | _, _, _, [], _ => by
    rw [valuesMentions, valuesEvents]
    exact .nil
  | _, _, .cons (.some ho) hos, v :: vs, hE => by
    rw [valuesEvents, List.flatten_cons] at hE
    obtain ⟨hv, hvs⟩ := List.append_subset.1 hE
    rw [valuesMentions, valuesEvents]
    exact .cons (reports_value hk _ ho v hv) (reports_values hk hos vs hvs)
  | _, _, .cons .none hos, v :: vs, hE => by
    rw [valuesEvents, List.flatten_cons] at hE
    obtain ⟨hv, hvs⟩ := List.append_subset.1 hE
    rw [valuesMentions, valuesEvents]
    exact .cons (reports_expr hk v hv) (reports_values hk hos vs hvs)
  | _, _, .nil, v :: vs, hE => by
    rw [valuesEvents, List.flatten_cons] at hE
    obtain ⟨hv, hvs⟩ := List.append_subset.1 hE
    rw [valuesMentions, valuesEvents]
    exact .cons (reports_expr hk v hv) (reports_values hk .nil vs hvs)

theorem reports_entries {c : Context} {σ : Scope} (hk : Knows E c σ) {owner? : Option Owner} {base? : Option Binding}
    (ho : Option.Rel (fun o b => Owns E b.isLocal o) owner? base?) : ∀ es : List TableEntry,
    entriesEvents c base? es ⊆ E → Reports E (entriesMentions σ owner? es) (entriesEvents c base? es)
  | [], _ => by
    rw [entriesMentions, entriesEvents]
    exact .nil
  | e :: es, hE => by
    rw [entriesEvents] at hE
    obtain ⟨he, hes⟩ := List.append_subset.1 hE
    rw [entriesMentions, entriesEvents]
    exact (reports_entry hk ho e he).append (reports_entries hk ho es hes)

theorem reports_entry {c : Context} {σ : Scope} (hk : Knows E c σ) : ∀ {owner? : Option Owner} {base? : Option Binding},
    Option.Rel (fun o b => Owns E b.isLocal o) owner? base? → ∀ e : TableEntry, entryEvents c base? e ⊆ E →
    Reports E (entryMentions σ owner? e) (entryEvents c base? e)
  | _, _, .none, .named key value, hE => by
    unfold entryEvents at hE ⊢
    rw [entryMentions]
    exact reports_expr hk value hE
  | _, some base, .some ho, .named key value, hE => by
    unfold entryEvents at hE ⊢
    rw [entryMentions]
    dsimp only [entryName?, Option.map_some] at hE ⊢
    obtain ⟨-, hvalue⟩ := List.append_subset.1 (show [_, _] ++ _ ⊆ E from hE)
    exact (Reports.key c base _ key.range value ho).append
      (reports_value hk ⟨_, base.isLocal, key.range.start.line⟩ ho value hvalue)
  | _, _, .none, .indexed key value, hE => by
    unfold entryEvents at hE ⊢
    unfold entryMentions
    obtain ⟨hkey, hvalue⟩ := List.append_subset.1 hE
    exact (reports_expr hk key hkey).append (reports_expr hk value hvalue)
  | _, some base, .some ho, .indexed key value, hE => by
    unfold entryEvents at hE ⊢
    unfold entryMentions
    dsimp only [entryName?, Option.bind_some] at hE ⊢
    cases hsuffix : key.keySuffix? with
    | some suffix =>
      rw [hsuffix] at hE
      obtain ⟨-, hvalue⟩ := List.append_subset.1 (show [_, _] ++ _ ⊆ E from hE)
      exact (Reports.key c base _ key.range value ho).append
        (reports_value hk ⟨_, base.isLocal, key.range.start.line⟩ ho value hvalue)
    | none =>
      rw [hsuffix] at hE
      obtain ⟨hkey, hvalue⟩ := List.append_subset.1 hE
      exact (reports_expr hk key hkey).append (reports_expr hk value hvalue)
  | _, _, _, .positional value, hE => by
    rw [entryEvents] at hE
    rw [entryMentions, entryEvents]
    exact reports_expr hk value hE

theorem reports_function {c : Context} {σ : Scope} (hk : Knows E c σ) (name : String)
    (receiver? : Option (String × Range)) {implicit : List Ident}
    (himplicit : implicit = (receiver?.map fun r => ⟨"self", r.2⟩).toList) : ∀ f : FuncBody,
    functionEvents c name receiver? f ⊆ E →
    Reports E (functionMentions σ implicit f) (functionEvents c name receiver? f)
  | .mk params isVararg body range, hE => by
    unfold functionEvents at hE ⊢
    rw [functionMentions]
    obtain ⟨hhead, hbody⟩ := List.append_subset.1 hE
    obtain ⟨hself, hparams⟩ := List.append_subset.1 hhead
    have hinner := hk.enter ⟨name, range⟩
    have hknows : Knows E ((c.enter ⟨name, range⟩).withLocals
        (params.map (·.name) ++ if receiver?.isSome then ["self"] else [])) (σ.bind (implicit ++ params)) := by
      refine hinner.bind (fun n => ?_) fun x hx => ?_
      · cases receiver? <;> simp [himplicit, eq_comm, or_comm]
      · rcases List.mem_append.1 hx with hx | hx
        · cases receiver? with
          | none => simp [himplicit] at hx
          | some r =>
            obtain rfl : x = ⟨"self", r.2⟩ := by simpa [himplicit] using hx
            refine ⟨selfDeclaration (c.enter ⟨name, range⟩) r.1 r.2, hself ?_, ⟨rfl, rfl, rfl, rfl, List.prefix_refl _⟩⟩
            exact List.mem_cons_of_mem _ (List.mem_singleton_self _)
        · refine ⟨_, hparams (List.mem_flatMap.2 ⟨x, hx, ?_⟩), declares_localVar _ x⟩
          exact List.mem_cons_of_mem _ (List.mem_singleton_self _)
    have hopened : Reports E [] [.opened (functionChunk name (.mk params isVararg body range))] := .silent rfl
    have hparameters := Reports.localVars (E := E) (c.enter ⟨name, range⟩) params
    have hblock := reports_block hknows body hbody
    cases receiver? with
    | none => exact ((hopened.append .nil).append hparameters).append hblock
    | some r => exact ((hopened.append (.self _ r.1 r.2)).append hparameters).append hblock

theorem reports_block {c : Context} {σ : Scope} (hk : Knows E c σ) : ∀ b : Block, blockEvents c b ⊆ E →
    Reports E (blockMentions σ b) (blockEvents c b)
  | .mk stmts range, hE => by
    rw [blockEvents] at hE
    rw [blockMentions, blockEvents]
    exact reports_stmts hk stmts hE

theorem reports_stmts {c : Context} {σ : Scope} (hk : Knows E c σ) : ∀ ss : List Stmt, stmtsEvents c ss ⊆ E →
    Reports E (stmtsMentions σ ss) (stmtsEvents c ss)
  | [], _ => by
    rw [stmtsMentions, stmtsEvents]
    exact .nil
  | s :: ss, hE => by
    rw [stmtsEvents] at hE
    obtain ⟨hs, hss⟩ := List.append_subset.1 hE
    rw [stmtsMentions, stmtsEvents]
    exact (reports_stmt hk s hs).append (reports_stmts (hk.behind s hs) ss hss)

theorem reports_clauses {c : Context} {σ : Scope} (hk : Knows E c σ) : ∀ cs : List Clause, clausesEvents c cs ⊆ E →
    Reports E (clausesMentions σ cs) (clausesEvents c cs)
  | [], _ => by
    rw [clausesMentions, clausesEvents]
    exact .nil
  | .mk (some condition) body :: cs, hE => by
    rw [clausesEvents] at hE
    obtain ⟨hfirst, hcs⟩ := List.append_subset.1 hE
    obtain ⟨hcondition, hbody⟩ := List.append_subset.1 hfirst
    rw [clausesMentions, clausesEvents]
    exact ((reports_expr hk condition hcondition).append (reports_block hk body hbody)).append
      (reports_clauses hk cs hcs)
  | .mk none body :: cs, hE => by
    rw [clausesEvents] at hE
    obtain ⟨hbody, hcs⟩ := List.append_subset.1 hE
    rw [clausesMentions, clausesEvents]
    exact (reports_block hk body hbody).append (reports_clauses hk cs hcs)

theorem reports_stmt {c : Context} {σ : Scope} (hk : Knows E c σ) : ∀ s : Stmt, stmtEvents c s ⊆ E →
    Reports E (stmtMentions σ s) (stmtEvents c s)
  | .localVars names values range, hE => by
    rw [stmtEvents] at hE
    obtain ⟨-, hvalues⟩ := List.append_subset.1 hE
    rw [stmtMentions, stmtEvents]
    refine (Reports.localDeclarations c names values).append (.flatten (reports_values hk ?_ values hvalues))
    rw [List.forall₂_map_left_iff, List.forall₂_map_right_iff, List.forall₂_same]
    exact fun x _ => .some rfl
  | .assign targets values range, hE => by
    rw [stmtEvents] at hE
    have hplaces := reports_targets hk targets values fun e he => hE (mem_alternate.2 (.inl he))
    have howners : List.Forall₂ (Option.Rel fun o b => Owns E b.isLocal o) (targets.map (targetOwner? σ))
        (targets.map (targetBinding? c)) := by
      rw [List.forall₂_map_left_iff, List.forall₂_map_right_iff, List.forall₂_same]
      exact fun t _ => owns_target hk t
    rw [stmtMentions, stmtEvents]
    exact .alternate hplaces (reports_values hk howners values fun e he => hE (mem_alternate.2 (.inr he)))
  | .funcDecl isLocal name f range, hE => by
    have hinner := hk.behind _ hE
    rw [stmtEvents] at hE
    rw [stmtMentions, stmtEvents]
    have hself : ∀ id, isLocal = true → name = .ident id →
        id.name ∈ (c.withLocals (introduced (.funcDecl isLocal name f range))).locals := by
      rintro id rfl rfl
      exact List.mem_cons_self ..
    generalize c.withLocals (introduced (.funcDecl isLocal name f range)) = inner at hinner hE hself
    generalize σ.bind (Stmt.funcDecl isLocal name f range).binders = visible at hinner
    obtain ⟨hname, hbody⟩ := List.append_subset.1 hE
    cases hdotted : name.dottedName? with
    | some dotted =>
      rw [hdotted] at hbody
      obtain ⟨ms, es, hms, hes, hplace⟩ := reports_place hinner name hdotted hname
      have hfunction := reports_function hinner dotted (receiver? name) (implicitSelf_eq name) f
        (List.cons_subset.1 hbody).2
      have h := (hplace.append (.function isLocal f hinner hdotted hself)).append hfunction
      rw [hms, hes]
      simpa using h
    | none =>
      rw [hdotted] at hbody
      rw [implicitSelf_of_unnamed hdotted]
      simpa using (reports_expr hinner name hname).append (reports_function hinner (anonymousName f) none rfl f hbody)
  | .call callee args range, hE => by
    rw [stmtEvents] at hE
    obtain ⟨hcallee, hargs⟩ := List.append_subset.1 hE
    rw [stmtMentions, stmtEvents]
    exact .call none range (reports_expr hk callee (List.append_subset.1 hcallee).1) (reports_exprs hk args hargs)
  | .ret values range, hE => by
    rw [stmtEvents] at hE
    rw [stmtMentions, stmtEvents]
    exact reports_exprs hk values hE
  | .branch clauses range, hE => by
    rw [stmtEvents] at hE
    rw [stmtMentions, stmtEvents]
    exact reports_clauses hk clauses hE
  | .whileLoop condition body range, hE => by
    rw [stmtEvents] at hE
    obtain ⟨hcondition, hbody⟩ := List.append_subset.1 hE
    rw [stmtMentions, stmtEvents]
    exact (reports_expr hk condition hcondition).append (reports_block hk body hbody)
  | .repeatLoop body condition range, hE => by
    rw [stmtEvents] at hE
    obtain ⟨hbody, hcondition⟩ := List.append_subset.1 hE
    rw [stmtMentions, stmtEvents]
    exact (reports_block hk body hbody).append (reports_expr (knows_condition E c _) condition hcondition)
  | .doBlock body range, hE => by
    rw [stmtEvents] at hE
    rw [stmtMentions, stmtEvents]
    exact reports_block hk body hE
  | .numericFor x start limit (some step) body range, hE => by
    rw [stmtEvents] at hE
    obtain ⟨hhead, hloop⟩ := List.append_subset.1 hE
    obtain ⟨hbounds, hstep⟩ := List.append_subset.1 hhead
    obtain ⟨hstart, hlimit⟩ := List.append_subset.1 hbounds
    obtain ⟨hvar, hbody⟩ := List.append_subset.1 (show [_, _] ++ _ ⊆ E from hloop)
    rw [stmtMentions, stmtEvents]
    have hbounds := (reports_expr hk start hstart).append (reports_expr hk limit hlimit)
    exact (hbounds.append (reports_expr hk step hstep)).append
      ((Reports.introduced c x none).append (reports_block (hk.localVars [x] hvar) body hbody))
  | .numericFor x start limit none body range, hE => by
    rw [stmtEvents] at hE
    obtain ⟨hbounds, hloop⟩ := List.append_subset.1 hE
    obtain ⟨hstart, hlimit⟩ := List.append_subset.1 hbounds
    obtain ⟨hvar, hbody⟩ := List.append_subset.1 (show [_, _] ++ _ ⊆ E from hloop)
    rw [stmtMentions, stmtEvents]
    exact ((reports_expr hk start hstart).append (reports_expr hk limit hlimit)).append
      ((Reports.introduced c x none).append (reports_block (hk.localVars [x] hvar) body hbody))
  | .genericFor xs iterators body range, hE => by
    rw [stmtEvents] at hE
    obtain ⟨hfirst, hbody⟩ := List.append_subset.1 hE
    obtain ⟨hiterators, hvars⟩ := List.append_subset.1 hfirst
    rw [stmtMentions, stmtEvents]
    exact ((reports_exprs hk iterators hiterators).append (.localVars c xs)).append
      (reports_block (hk.localVars xs hvars) body hbody)

/-- Each target of an assignment is met as an expression and then declared, if it has a name. -/
theorem reports_targets {c : Context} {σ : Scope} (hk : Knows E c σ) : ∀ ts vs : List Expr,
    (List.zipWith (· ++ ·) (targetsEvents c ts) (targetDeclarations c ts vs)).flatten ⊆ E →
    List.Forall₂ (Reports E) (targetsMentions σ ts)
      (List.zipWith (· ++ ·) (targetsEvents c ts) (targetDeclarations c ts vs))
  | [], vs, _ => by
    rw [targetsMentions, targetsEvents]
    exact .nil
  | t :: ts, vs, hE => by
    rw [targetsEvents, targetDeclarations, List.zipWith_cons_cons, List.flatten_cons] at hE
    obtain ⟨hfirst, hrest⟩ := List.append_subset.1 hE
    obtain ⟨ht, -⟩ := List.append_subset.1 hfirst
    rw [targetsMentions, targetsEvents, targetDeclarations]
    refine .cons ?_ (reports_targets hk ts vs.tail hrest)
    cases hname : t.dottedName? with
    | some name =>
      obtain ⟨ms, es, hms, hes, hplace⟩ := reports_place hk t hname ht
      rw [hms, hes]
      simpa using hplace.append (.assigned vs.head? hk hname)
    | none => simpa using reports_expr hk t ht

/-- The last thing met in an expression that has a name is that name. -/
theorem reports_place {c : Context} {σ : Scope} (hk : Knows E c σ) : ∀ (t : Expr) {name : String},
    t.dottedName? = some name → exprEvents c t ⊆ E →
    ∃ ms es, exprMentions σ none t = ms ++ [.used t.inner σ] ∧
      exprEvents c t = es ++ [.site (chainSite c name t.inner)] ∧ Reports E ms es
  | .ident id, name, hname, _ => by
    rw [exprMentions, exprEvents, use_eq hname]
    exact ⟨[], [], rfl, rfl, .nil⟩
  | .member base accessor field range, name, hname, hE => by
    rw [exprEvents] at hE
    rw [exprMentions, exprEvents, chainMentions, hname, use_eq hname]
    exact ⟨_, _, rfl, rfl, reports_expr hk base (List.append_subset.1 hE).1⟩
  | .index base key range, name, hname, hE => by
    rw [exprEvents] at hE
    rw [exprMentions, exprEvents, hname, use_eq hname]
    exact ⟨_, _, rfl, rfl, reports_expr hk base (List.append_subset.1 hE).1⟩
  | .paren inner range, name, hname, hE => by
    rw [exprEvents] at hE
    rw [exprMentions, exprEvents]
    exact reports_place hk inner hname hE
  | .call .., _, hname, _ | .func _, _, hname, _ | .table .., _, hname, _ | .binary .., _, hname, _
  | .unary .., _, hname, _ | .string .., _, hname, _ | .number .., _, hname, _ | .literal _, _, hname, _
  | .vararg _, _, hname, _ => by cases hname

end

/-- A walk over a file reports what the file mentions. -/
theorem reports_file (uri : Uri) (file : File) : Reports (events uri file) file.mentions (events uri file) := by
  have hopened : Reports (events uri file) [] [.opened (fileChunk uri file)] := .silent rfl
  refine hopened.append (reports_block (knows_outermost _ _) file.body ?_)
  exact List.subset_cons_self _ _

end LuaAtlas.Walk
