/-
Heads of functions and loops. What a function or a loop binds comes in front of its body, and behind the body nothing
comes that has a meaning. The grammar has it so, and the parts of a node without faults follow each other as the grammar
has them; so what the parts mean divides into a head without blocks and a tail of blocks.
-/
import LuaAtlas.Proofs.Syntax.Meaning

namespace LuaAtlas.Syntax

/-! ## Heads and tails -/

namespace Meaning

/-- What has no meaning, and blocks. -/
def isTail : Meaning → Bool
  | nothing | block _ => true
  | _ => false

theorem block?_ofExpr (e? : Option Expr) : (ofExpr e?).block? = none := by cases e? <;> rfl

theorem block?_ofStmt (s? : Option Stmt) : (ofStmt s?).block? = none := by cases s? <;> rfl

theorem block?_ofToken (t : Token) : (ofToken t).block? = none := by
  unfold ofToken
  dsimp only
  split <;> rfl

end Meaning

namespace Part

/-- A head without blocks, and behind it blocks and what has no meaning. -/
def AreHeaded (ps : List Part) : Prop :=
  ∃ front back, ps = front ++ back ∧ (∀ p ∈ front, p.meaning.block? = none) ∧ ∀ p ∈ back, p.meaning.isTail = true

variable {ps : List Part} {p : Part}

theorem areHeaded_of_tail (h : ∀ p ∈ ps, p.meaning.isTail = true) : AreHeaded ps :=
  ⟨[], ps, rfl, List.forall_mem_nil _, h⟩

theorem AreHeaded.cons (h : AreHeaded ps) (hp : p.meaning.block? = none) : AreHeaded (p :: ps) := by
  obtain ⟨front, back, rfl, hfront, hback⟩ := h
  exact ⟨p :: front, back, rfl, List.forall_mem_cons.2 ⟨hp, hfront⟩, hback⟩

/-- What is visible and not a block or a whole file itself stands for no block. -/
theorem block?_combine {made : Nonterminal} (h : (Symbol.made made).isHead = true) (hvisible : made.isVisible = true)
    (ps : List Part) (start stop : Place) : (combine made ps start stop).block? = none := by
  unfold combine
  dsimp only
  generalize start.rangeTo stop = r
  cases made with
  | chunk | block => cases h
  | localDecl | functionDecl | localFunction | whileStat | repeatStat | forStat => exact Meaning.block?_ofStmt _
  | dotIndex | functionField | methodIndex | functionMethod | bracketIndex | call | binary | unary | parenthesized =>
    exact Meaning.block?_ofExpr _
  | assignment | localAssignment | genericClause =>
    dsimp only
    split <;> rfl
  | numericClause =>
    dsimp only
    cases hnumeric : numeric? ps with
    | none => rfl
    | some m =>
      obtain ⟨x, start, limit, rfl, -⟩ := of_numeric? (P := fun _ => True) (fun _ _ => trivial) hnumeric
      rfl
  | entry =>
    dsimp only
    cases entryOf? ps <;> rfl
  | _ => rfl

end Part

/-! ## Parts of nodes -/

namespace Node

variable {text : List Char}

theorem IsAside.isHead {n : Node} (h : n.IsAside) : ∃ σ, n.symbol? = some σ ∧ σ.isHead = true := by
  rcases h with h | h
  · exact ⟨_, h, rfl⟩
  · exact ⟨_, h, rfl⟩

theorem IsAside.isTail {n : Node} (h : n.IsAside) : ∃ σ, n.symbol? = some σ ∧ σ.isTail = true := by
  rcases h with h | h
  · exact ⟨_, h, rfl⟩
  · exact ⟨_, h, rfl⟩

/-- The first of some nodes stands aside, or its symbol is the first of theirs. -/
theorem symbol_of_cons {n : Node} (hn : n.Fits text) (haside : n.isExtra = true → n.IsAside) (ns : List Node) :
    n.IsAside ∧ symbols (n :: ns) = symbols ns ∨
      ∃ σ, n.symbol? = some σ ∧ symbols (n :: ns) = σ :: symbols ns := by
  cases hextra : n.isExtra with
  | true => exact .inl ⟨haside hextra, symbols_cons_extra hextra ns⟩
  | false =>
    obtain ⟨σ, hσ, -⟩ := hn.spans
    exact .inr ⟨σ, hσ, symbols_cons hextra hσ ns⟩

/-- The parts of some nodes are those of the first before those of the others. -/
theorem exists_addAllParts_cons (around? : Option Role) (roles : List (Option Role)) (rest : List Part) (n : Node)
    (ns : List Node) : ∃ role? roles', addAllParts around? roles rest (n :: ns) =
      addParts role? (addAllParts around? roles' rest ns) n := by
  rw [addAllParts]
  split
  · exact ⟨_, _, rfl⟩
  · exact ⟨_, _, rfl⟩

theorem makes_of_invisible_head {made : Nonterminal} (h : (Symbol.made made).isHead = true)
    (hvisible : made.isVisible = false) : (fun w => w.all Symbol.isHead) ∈ made.checks := by
  cases made with
  | functionName | functionPath => exact List.mem_cons_of_mem _ (List.mem_singleton_self _)
  | chunk | block => cases h
  | _ => cases hvisible.symm.trans h

mutual

theorem addParts_head : ∀ (n : Node), n.Fits text → (∃ σ, n.symbol? = some σ ∧ σ.isHead = true) →
    ∀ (role? : Option Role) {rest : List Part}, Part.AreHeaded rest → Part.AreHeaded (addParts role? rest n)
  | leaf t e, _, _, role?, rest, hrest => by
    rw [addParts]
    split
    · exact hrest.cons (Meaning.block?_ofToken t)
    · exact hrest
  | tree (.rule k) cs e d, h, ⟨σ, hσ, hhead⟩, role?, rest, hrest => by
    obtain rfl : .made (Rule.get k).makes = σ := Option.some.inj hσ
    cases h with
    | tree _ hcs _ harranged =>
      rw [addParts]
      split
      · rename_i hvisible
        exact hrest.cons (Part.block?_combine hhead hvisible _ d.start d.stop)
      · rename_i hvisible
        have hcheck := makes_of_invisible_head hhead (Bool.eq_false_of_not_eq_true hvisible)
        exact addAllParts_head cs hcs harranged.aside (harranged.checked _ hcheck) role? _ hrest
  | tree .error cs e d, h, _, _, _, _ => by cases h
  | tree .skipped cs e d, h, _, _, _, _ => by cases h

theorem addAllParts_head : ∀ (ns : List Node), (∀ n ∈ ns, n.Fits text) → (∀ n ∈ ns, n.isExtra = true → n.IsAside) →
    (symbols ns).all Symbol.isHead = true → ∀ (around? : Option Role) (roles : List (Option Role)) {rest : List Part},
    Part.AreHeaded rest → Part.AreHeaded (addAllParts around? roles rest ns)
  | [], _, _, _, around?, roles, rest, hrest => by
    rw [addAllParts]
    exact hrest
  | n :: ns, h, haside, hheads, around?, roles, rest, hrest => by
    obtain ⟨hn, hns⟩ := List.forall_mem_cons.1 h
    obtain ⟨hnAside, hnsAside⟩ := List.forall_mem_cons.1 haside
    obtain ⟨role?, roles', heq⟩ := exists_addAllParts_cons around? roles rest n ns
    rw [heq]
    rcases symbol_of_cons hn hnAside ns with ⟨hn', hsymbols⟩ | ⟨σ, hσ, hsymbols⟩
    · rw [hsymbols] at hheads
      exact addParts_head n hn hn'.isHead role? (addAllParts_head ns hns hnsAside hheads around? roles' hrest)
    · rw [hsymbols, List.all_cons, Bool.and_eq_true] at hheads
      exact addParts_head n hn ⟨σ, hσ, hheads.1⟩ role? (addAllParts_head ns hns hnsAside hheads.2 around? roles' hrest)

end

/-- A block, a comment, and the word or the end of the text behind a block. -/
theorem addParts_tail {n : Node} (h : n.Fits text) (htail : ∃ σ, n.symbol? = some σ ∧ σ.isTail = true)
    (role? : Option Role) {rest : List Part} (hrest : ∀ p ∈ rest, p.meaning.isTail = true) :
    ∀ p ∈ addParts role? rest n, p.meaning.isTail = true := by
  obtain ⟨σ, hσ, htail⟩ := htail
  cases h with
  | @leaf t k e hterminal _ =>
    rw [symbol?, hterminal] at hσ
    obtain rfl : .terminal k = σ := Option.some.inj hσ
    rw [addParts]
    split
    · refine List.forall_mem_cons.2 ⟨?_, hrest⟩
      unfold Meaning.ofToken
      cases k with
      | endWord | eof =>
        rw [hterminal]
        rfl
      | _ => cases htail
    · exact hrest
  | @tree k cs e d _ _ _ _ =>
    obtain rfl : .made (Rule.get k).makes = σ := Option.some.inj hσ
    rw [addParts]
    generalize (Rule.get k).makes = made at htail
    cases made with
    | block | comment => exact List.forall_mem_cons.2 ⟨rfl, hrest⟩
    | _ => cases htail

theorem addAllParts_tail : ∀ (ns : List Node), (∀ n ∈ ns, n.Fits text) → (∀ n ∈ ns, n.isExtra = true → n.IsAside) →
    (symbols ns).all Symbol.isTail = true → ∀ (around? : Option Role) (roles : List (Option Role)) {rest : List Part},
    (∀ p ∈ rest, p.meaning.isTail = true) → ∀ p ∈ addAllParts around? roles rest ns, p.meaning.isTail = true
  | [], _, _, _, around?, roles, rest, hrest => by
    rw [addAllParts]
    exact hrest
  | n :: ns, h, haside, htails, around?, roles, rest, hrest => by
    obtain ⟨hn, hns⟩ := List.forall_mem_cons.1 h
    obtain ⟨hnAside, hnsAside⟩ := List.forall_mem_cons.1 haside
    obtain ⟨role?, roles', heq⟩ := exists_addAllParts_cons around? roles rest n ns
    rw [heq]
    rcases symbol_of_cons hn hnAside ns with ⟨hn', hsymbols⟩ | ⟨σ, hσ, hsymbols⟩
    · rw [hsymbols] at htails
      exact addParts_tail hn hn'.isTail role? (addAllParts_tail ns hns hnsAside htails around? roles' hrest)
    · rw [hsymbols, List.all_cons, Bool.and_eq_true] at htails
      exact addParts_tail hn ⟨σ, hσ, htails.1⟩ role? (addAllParts_tail ns hns hnsAside htails.2 around? roles' hrest)

mutual

/-- The parameters and the body of a function, with what comes behind it. -/
theorem addParts_headed : ∀ (n : Node), n.Fits text → n.symbol? = some (.made .functionBody) →
    ∀ (role? : Option Role) {rest : List Part}, (∀ p ∈ rest, p.meaning.isTail = true) →
    Part.AreHeaded (addParts role? rest n)
  | leaf t e, h, hσ, _, _, _ => by
    cases h with
    | leaf hterminal _ =>
      rw [symbol?, hterminal] at hσ
      cases hσ
  | tree (.rule k) cs e d, h, hσ, role?, rest, hrest => by
    have hmakes : (Rule.get k).makes = .functionBody := Symbol.made.inj (Option.some.inj hσ)
    cases h with
    | tree _ hcs _ harranged =>
      have hheaded : Symbol.areHeaded (symbols cs) = true := by
        refine harranged.checked _ ?_
        rw [hmakes]
        exact List.mem_cons_of_mem _ (List.mem_singleton_self _)
      rw [addParts, hmakes]
      exact addAllParts_headed cs hcs harranged.aside hheaded role? _ hrest
  | tree .error cs e d, h, _, _, _, _ => by cases h
  | tree .skipped cs e d, h, _, _, _, _ => by cases h

theorem addAllParts_headed : ∀ (ns : List Node), (∀ n ∈ ns, n.Fits text) →
    (∀ n ∈ ns, n.isExtra = true → n.IsAside) → Symbol.areHeaded (symbols ns) = true →
    ∀ (around? : Option Role) (roles : List (Option Role)) {rest : List Part},
    (∀ p ∈ rest, p.meaning.isTail = true) → Part.AreHeaded (addAllParts around? roles rest ns)
  | [], _, _, _, around?, roles, rest, hrest => by
    rw [addAllParts]
    exact Part.areHeaded_of_tail hrest
  | n :: ns, h, haside, hheaded, around?, roles, rest, hrest => by
    obtain ⟨hn, hns⟩ := List.forall_mem_cons.1 h
    obtain ⟨hnAside, hnsAside⟩ := List.forall_mem_cons.1 haside
    obtain ⟨role?, roles', heq⟩ := exists_addAllParts_cons around? roles rest n ns
    rw [heq]
    rcases symbol_of_cons hn hnAside ns with ⟨hn', hsymbols⟩ | ⟨σ, hσ, hsymbols⟩
    · rw [hsymbols] at hheaded
      exact addParts_head n hn hn'.isHead role? (addAllParts_headed ns hns hnsAside hheaded around? roles' hrest)
    · rw [hsymbols, Symbol.areHeaded] at hheaded
      split at hheaded
      · rename_i hhead
        exact addParts_head n hn ⟨σ, hσ, hhead⟩ role? (addAllParts_headed ns hns hnsAside hheaded around? roles' hrest)
      · rw [Bool.and_eq_true, Bool.or_eq_true, decide_eq_true_iff] at hheaded
        have htail := addAllParts_tail ns hns hnsAside hheaded.2 around? roles' hrest
        rcases hheaded.1 with rfl | hn'
        · exact addParts_headed n hn hσ role? htail
        · exact Part.areHeaded_of_tail (addParts_tail hn ⟨σ, hσ, hn'⟩ role? htail)

end

end Node

/-- What binds names in front of a body. -/
def Nonterminal.bindsAhead : Nonterminal → Bool
  | functionDecl | localFunction | functionExpr | forStat => true
  | _ => false

/-- What binds names in front of a body has the body behind them. -/
theorem Node.Arranged.areHeaded {text : List Char} {made : Nonterminal} {cs : List Node} (h : Arranged made cs)
    (hcs : ∀ c ∈ cs, c.Fits text) (hmade : made.bindsAhead = true) (roles : List (Option Role)) :
    Part.AreHeaded (addAllParts none roles [] cs) := by
  refine addAllParts_headed cs hcs h.aside (h.checked _ ?_) none roles (List.forall_mem_nil _)
  cases made with
  | functionDecl | localFunction => exact List.mem_cons_of_mem _ (List.mem_singleton_self _)
  | functionExpr | forStat => exact List.mem_singleton_self _
  | _ => cases hmade

end LuaAtlas.Syntax
