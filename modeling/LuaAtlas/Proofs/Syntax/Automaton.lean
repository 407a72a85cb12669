/-
Steps of the automaton. Tokens and parts lead from state to state; what the table says about these steps is checked
on the table once and used for every run. Nothing leads into the state that skips text or out of it, a complete rule
always ends in a part that has some text, whatever leads to the end of a string is enclosed in its delimiters, nothing
but variables and fields leads to the end of a list of targets, and what is bound in a body comes before the body.
-/
import LuaAtlas.Syntax.Automaton
import Mathlib.Data.List.Basic

namespace LuaAtlas.Syntax

/-! ## Symbols -/

/-- What leads from one state to the next: a token or a part that a rule makes. -/
inductive Symbol
  | terminal (t : Terminal)
  | made (n : Nonterminal)
deriving DecidableEq

namespace Symbol

/-- Whether the text of a symbol can be empty. -/
def mayBeEmpty : Symbol → Bool
  | terminal .remark | terminal .remarkBody | terminal .longBody | terminal .eof | made .chunk | made .comment => true
  | _ => false

/-- Whether a symbol is a string without what stands around it in the grammar. -/
def isEnclosed : Symbol → Bool
  | made .quotedString | made .longString | made .string => true
  | _ => false

/-- Whether the first symbol opens a string that the second closes. -/
def encloses : Symbol → Symbol → Bool
  | terminal .doubleQuote, terminal .doubleQuote | terminal .singleQuote, terminal .singleQuote
  | terminal .longOpen, terminal .longClose => true
  | _, _ => false

/-- Whether the symbols make a string: they are one already, or the first and the last enclose the others. -/
def areEnclosed : List Symbol → Bool
  | [σ] => σ.isEnclosed
  | σ :: τ :: rest => σ.encloses ((τ :: rest).getLast (List.cons_ne_nil _ _))
  | [] => false

/-- Whether all expressions among what a symbol stands for are variables or fields. -/
def isPlaces : Symbol → Bool
  | terminal .name | terminal .comma | terminal .functionWord | terminal .localWord | terminal .endWord
  | terminal .eof | made .var | made .moreTargets | made .bracketIndex | made .dotIndex | made .functionName
  | made .functionPath | made .functionField | made .functionMethod | made .functionBody | made .parameters
  | made .block | made .attribute | made .moreLocalNames | made .comment => true
  | _ => false

/-- Whether there is no block among what a symbol stands for. -/
def isHead : Symbol → Bool
  | terminal _ | made .functionName | made .functionPath => true
  | made .chunk | made .block => false
  | made n => n.isVisible

/-- Whether a symbol stands for a block or for what has no meaning. -/
def isTail : Symbol → Bool
  | terminal .endWord | terminal .eof | made .block | made .comment => true
  | _ => false

/-- Whether nothing that has a meaning comes behind the first block among what the symbols stand for. -/
def areHeaded : List Symbol → Bool
  | [] => true
  | σ :: w => if σ.isHead then areHeaded w else (σ = made .functionBody || σ.isTail) && w.all isTail

end Symbol

/-- What has to hold of the parts of targets, of names that are declared and of what binds names in a body. -/
def Nonterminal.checks : Nonterminal → List (List Symbol → Bool)
  | assignment => [fun w => w.head? = some (.made .targets)]
  | localAssignment => [fun w => w.head? = some (.made .localNames)]
  | targets | moreTargets | var | localNames | moreLocalNames => [fun w => w.all Symbol.isPlaces]
  | functionName | functionPath => [fun w => w.all Symbol.isPlaces, fun w => w.all Symbol.isHead]
  | functionDecl | localFunction | functionBody => [fun w => w.all Symbol.isPlaces, Symbol.areHeaded]
  | functionExpr | forStat => [Symbol.areHeaded]
  | _ => []

namespace Automaton

/-! ## Steps -/

/-- Where tokens and parts lead from the state `s` with the given row. -/
def Row.steps (s : Nat) (row : Row) : List (Symbol × Nat) :=
  (row.shifts ++ row.repeats).map (fun (t, r) => (.terminal t, r)) ++
    (if s = skipping || row.mode?.isNone then []
      else [(.terminal .dashes, inRemark), (.terminal .remarkOpen, inLongRemark)]) ++
    row.gotos.map fun (n, r) => (.made n, r)

/-- The rules that are complete in a row before some token. -/
def Row.complete (row : Row) : List Nat :=
  row.reductions.filterMap fun (set, rule) => if (lookaheads[set]?.getD []).isEmpty then none else some rule

/-- Where tokens and parts lead from a state. -/
def steps (s : Nat) : List (Symbol × Nat) := (row s).steps s

/-- The rules that are complete in a state before some token. -/
def complete (s : Nat) : List Nat := (row s).complete

theorem mem_of_lookup {α : Type} [DecidableEq α] {a : α} {r : Nat} : ∀ {l : List (α × Nat)}, lookup a l = some r →
    (a, r) ∈ l
  | (b, n) :: rest, h => by
    rw [lookup] at h
    split at h
    · rename_i heq
      cases h
      rw [heq]
      exact List.mem_cons_self ..
    · exact List.mem_cons_of_mem _ (mem_of_lookup h)

theorem mem_steps_of_comment? {s r : Nat} {t : Terminal} (h : comment? s t = some r) : (.terminal t, r) ∈ steps s := by
  refine List.mem_append_left _ (List.mem_append_right _ ?_)
  unfold comment? at h
  split at h
  · cases h
  · rename_i hs
    rw [if_neg hs]
    split at h
    · rename_i ht
      cases h
      simp [ht]
    · split at h
      · rename_i ht
        cases h
        simp [ht]
      · cases h

theorem mem_steps_of_shift? {s r : Nat} {t : Terminal} (h : shift? s t = some r) : (.terminal t, r) ∈ steps s := by
  unfold shift? at h
  split at h
  · rename_i n hn
    cases h
    refine List.mem_append_left _ (List.mem_append_left _ (List.mem_map.2 ⟨(t, r), ?_, rfl⟩))
    exact List.mem_append_left _ (mem_of_lookup hn)
  · exact mem_steps_of_comment? h

theorem mem_steps_of_target? {s r : Nat} {t : Terminal} (h : target? s t = some r) : (.terminal t, r) ∈ steps s := by
  unfold target? at h
  split at h
  · rename_i n hn
    cases h
    exact mem_steps_of_shift? hn
  · refine List.mem_append_left _ (List.mem_append_left _ (List.mem_map.2 ⟨(t, r), ?_, rfl⟩))
    exact List.mem_append_right _ (mem_of_lookup h)

theorem goto_comment (s : Nat) : goto s .comment = s := if_pos rfl

/-- A part leads along a step or nowhere. -/
theorem mem_steps_goto {s : Nat} {n : Nonterminal} (hn : n ≠ .comment) :
    goto s n = skipping ∨ (.made n, goto s n) ∈ steps s := by
  unfold goto
  rw [if_neg hn]
  cases h : lookup n (row s).gotos with
  | none => exact Or.inl rfl
  | some r => exact Or.inr (List.mem_append_right _ (List.mem_map.2 ⟨(n, r), mem_of_lookup h, rfl⟩))

theorem mem_complete_of_reduction? {s k : Nat} {t : Terminal} (h : reduction? s t = some k) : k ∈ complete s := by
  obtain ⟨⟨set, rule⟩, hfind, rfl⟩ := Option.map_eq_some_iff.1 h
  refine List.mem_filterMap.2 ⟨(set, rule), List.mem_of_find?_eq_some hfind, ?_⟩
  have ht := List.find?_some hfind
  cases hset : lookaheads[set]?.getD [] with
  | nil =>
    simp only [hset] at ht
    cases ht
  | cons a as => simp [hset]

theorem mem_complete_of_mem_reductions {s k : Nat} (h : k ∈ reductions s) : k ∈ complete s := by
  obtain ⟨⟨set, rule⟩, hmem, hrule⟩ := List.mem_filterMap.1 h
  refine List.mem_filterMap.2 ⟨(set, rule), hmem, ?_⟩
  cases hset : lookaheads[set]?.getD [] with
  | nil => simp [hset] at hrule
  | cons a as =>
    dsimp only at hrule ⊢
    rw [hset] at hrule ⊢
    split at hrule
    · exact hrule
    · cases hrule

/-! ## What the table says -/

/-- What is checked of every row of the table holds in every state. -/
theorem forall_of_rows {p : Nat → Row → Bool} (hrows : (rows.toList.zipIdx.all fun (row, s) => p s row) = true)
    (hrest : ∀ s, p s default = true) (s : Nat) : p s (row s) = true := by
  unfold row
  cases h : rows[s]? with
  | none => exact hrest s
  | some row =>
    have hmem : (row, s) ∈ rows.toList.zipIdx := List.mem_zipIdx_iff_getElem?.2 (by rw [Array.getElem?_toList, h])
    exact List.all_eq_true.1 hrows (row, s) hmem

theorem steps_default (s : Nat) : Row.steps s default = [] := by
  unfold Row.steps
  simp [default, instInhabitedRow.default]

theorem steps_skipping : steps skipping = [] := by decide +kernel

theorem complete_skipping : complete skipping = [] := by decide +kernel

/-- What a symbol can lead to in one step. -/
structure IsStep (σ : Symbol) (r : Nat) : Prop where
  ne_skipping : r ≠ skipping
  ne_beginning : r ≠ beginning
  accepts : r = accepting → σ = .made .chunk
  complete_of_mayBeEmpty : σ.mayBeEmpty = true → complete r = []
  ne_eof : σ ≠ .terminal .eof

instance (σ : Symbol) (r : Nat) : Decidable (IsStep σ r) :=
  decidable_of_iff (r ≠ skipping ∧ r ≠ beginning ∧ (r = accepting → σ = .made .chunk) ∧
      (σ.mayBeEmpty = true → complete r = []) ∧ σ ≠ .terminal .eof)
    ⟨fun ⟨h1, h2, h3, h4, h5⟩ => ⟨h1, h2, h3, h4, h5⟩, fun ⟨h1, h2, h3, h4, h5⟩ => ⟨h1, h2, h3, h4, h5⟩⟩

theorem isStep_of_mem {s r : Nat} {σ : Symbol} (h : (σ, r) ∈ steps s) : IsStep σ r := by
  have hall := forall_of_rows (p := fun s row => (row.steps s).all fun (σ, r) => decide (IsStep σ r))
    (by decide +kernel) (fun s => by rw [steps_default]; rfl) s
  exact of_decide_eq_true (List.all_eq_true.1 hall (σ, r) h)

theorem source_ne_skipping {s r : Nat} {σ : Symbol} (h : (σ, r) ∈ steps s) : s ≠ skipping := by
  rintro rfl
  rw [steps_skipping] at h
  cases h

/-- A complete rule makes no comment. One without parts makes a file, and only such a one is complete at the
beginning of a file. -/
theorem complete_rule {s k : Nat} (h : k ∈ complete s) : (Rule.get k).makes ≠ .comment ∧
    ((Rule.get k).size = 0 → (Rule.get k).makes = .chunk) ∧ (s = beginning → (Rule.get k).size = 0) := by
  have hall := forall_of_rows (p := fun s row => row.complete.all fun k => (Rule.get k).makes ≠ .comment &&
    ((Rule.get k).size ≠ 0 || (Rule.get k).makes = .chunk) && (s ≠ beginning || (Rule.get k).size = 0))
    (by decide +kernel) (fun _ => rfl) s
  have hk := List.all_eq_true.1 hall k h
  simp only [Bool.and_eq_true, Bool.or_eq_true, decide_eq_true_eq] at hk
  exact ⟨hk.1.1, fun hsize => hk.1.2.resolve_left (not_not_intro hsize),
    fun hs => hk.2.resolve_left (not_not_intro hs)⟩

/-- Only comments are put together whatever follows. -/
theorem makes_of_finished? {s k : Nat} (h : finished? s = some k) : (Rule.get k).makes = .comment ∧ s ≠ skipping := by
  have hall := forall_of_rows (p := fun s row => row.mode?.isSome || row.reductions.head?.all fun (_, k) =>
    (Rule.get k).makes = .comment && s ≠ skipping) (by decide +kernel) (fun _ => rfl) s
  unfold finished? at h
  split at h
  · rename_i hmode
    obtain ⟨⟨set, rule⟩, hhead, rfl⟩ := Option.map_eq_some_iff.1 h
    rw [hhead, Option.isSome_eq_false_iff.2 hmode] at hall
    simpa using hall
  · cases h

/-- Where a long bracket can open, either the text of one can stand as well or none can close. -/
theorem takes_longOpen {s : Nat} (h : takes s .longOpen = true) :
    takes s .longBody = true ∨ takes s .longClose = false ∧ takes s .remarkClose = false := by
  rcases Nat.lt_or_ge s rows.size with hlt | hge
  · have hall : ∀ s < rows.size, takes s .longOpen = true →
        takes s .longBody = true ∨ takes s .longClose = false ∧ takes s .remarkClose = false := by
      decide +kernel
    exact hall s hlt h
  · have hrow : row s = default := by
      unfold row
      rw [Array.getElem?_eq_none hge]
      rfl
    have hne : s ≠ skipping ∧ s ≠ accepting := by
      constructor
      all_goals
        rintro rfl
        exact absurd hge (by decide +kernel)
    unfold takes reduction? shift? comment? at h
    rw [hrow] at h
    simp [default, instInhabitedRow.default, lookup, hne.1] at h

/-! ## Words that lead to a state -/

/-- The states that a row leads to, one bit for each. -/
def Row.mask (s : Nat) (row : Row) : Nat := (row.steps s).foldr (fun (_, q) mask => mask ||| 1 <<< q) 0

theorem testBit_mask {s r : Nat} {σ : Symbol} {row : Row} (h : (σ, r) ∈ row.steps s) :
    (row.mask s).testBit r = true := by
  unfold Row.mask
  generalize row.steps s = steps at h
  induction steps with
  | nil => cases h
  | cons step steps ih =>
    rw [List.foldr_cons, Nat.testBit_or, Bool.or_eq_true]
    rcases List.mem_cons.1 h with rfl | h
    · rw [Nat.one_shiftLeft]
      exact Or.inr Nat.testBit_two_pow_self
    · exact Or.inl (ih h)

/-- The steps that lead to a state, each with the state that it comes from. -/
def into (r : Nat) : List (Nat × Symbol) :=
  -- most rows are passed over by their masks, which are put together only once
  rows.toList.zipIdx.flatMap fun (row, s) => bif (row.mask s).testBit r then
    (row.steps s).filterMap fun (σ, q) => if q.beq r then some (s, σ) else none
  else []

theorem mem_into {s r : Nat} {σ : Symbol} (h : (σ, r) ∈ steps s) : (s, σ) ∈ into r := by
  have hrow : (row s, s) ∈ rows.toList.zipIdx := by
    rw [List.mem_zipIdx_iff_getElem?, Array.getElem?_toList]
    unfold steps row at h
    unfold row
    cases hs : rows[s]? with
    | none =>
      rw [hs, Option.getD_none, steps_default] at h
      cases h
    | some row => rfl
  refine List.mem_flatMap.2 ⟨(row s, s), hrow, ?_⟩
  dsimp only
  rw [testBit_mask h, cond_true]
  refine List.mem_filterMap.2 ⟨(σ, r), h, ?_⟩
  simp

/-- Whether all words of `n` symbols that lead to a state, before the word `w`, pass a check. -/
def allWords (check : List Symbol → Bool) : Nat → Nat → List Symbol → Bool
  | 0, _, w => check w
  | n + 1, r, w => (into r).all fun (s, σ) => allWords check n s (σ :: w)

theorem allWords_step {check : List Symbol → Bool} {n s r : Nat} {σ : Symbol} {w : List Symbol}
    (h : allWords check (n + 1) r w = true) (hstep : (σ, r) ∈ steps s) : allWords check n s (σ :: w) = true :=
  List.all_eq_true.1 h (s, σ) (mem_into hstep)

/-- Whatever leads to the end of a string is enclosed in the delimiters of one. -/
theorem areEnclosed_of_complete {s k : Nat} (h : k ∈ complete s)
    (hmakes : (Symbol.made (Rule.get k).makes).isEnclosed = true) :
    allWords Symbol.areEnclosed (Rule.get k).size s [] = true := by
  have hall := forall_of_rows (p := fun s row => row.complete.all fun k =>
    !(Symbol.made (Rule.get k).makes).isEnclosed || allWords Symbol.areEnclosed (Rule.get k).size s [])
    (by decide +kernel) (fun _ => rfl) s
  have hk := List.all_eq_true.1 hall k h
  rw [hmakes] at hk
  exact hk

/-- What has to hold of the parts of a rule holds of all words that lead to where it is complete. -/
theorem checked_of_complete {s k : Nat} (h : k ∈ complete s) :
    ∀ check ∈ (Rule.get k).makes.checks, allWords check (Rule.get k).size s [] = true := by
  have hall := forall_of_rows (p := fun s row => row.complete.all fun k => (Rule.get k).makes.checks.all fun check =>
    allWords check (Rule.get k).size s []) (by decide +kernel) (fun _ => rfl) s
  exact List.all_eq_true.1 (List.all_eq_true.1 hall k h)

end Automaton

end LuaAtlas.Syntax
