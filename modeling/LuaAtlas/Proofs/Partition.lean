/-
What a search finds. A prefix tree holds what was put into it, each value under its own name, so that the
values below the characters of a text are some of those whose names begin with it; and whatever the mode, a
search of a partition finds some of its symbols.
-/
import LuaAtlas.Partition
import Mathlib.Data.List.Basic

namespace LuaAtlas.TrieNode

variable {α : Type}

/-! ## Values -/

@[simp] theorem toList_node (here : List α) (branches : List (Char × TrieNode α)) :
    (node here branches).toList = here ++ branchesToList branches := by
  rw [toList]

@[simp] theorem branchesToList_nil : branchesToList ([] : List (Char × TrieNode α)) = [] := by
  rw [branchesToList]

@[simp] theorem branchesToList_cons (c : Char) (t : TrieNode α) (branches : List (Char × TrieNode α)) :
    branchesToList ((c, t) :: branches) = t.toList ++ branchesToList branches := by
  rw [branchesToList]

theorem mem_branchesToList {a : α} {c : Char} {t : TrieNode α} (ha : a ∈ t.toList) :
    ∀ {branches : List (Char × TrieNode α)}, (c, t) ∈ branches → a ∈ branchesToList branches
  | [], h => by cases h
  | (d, u) :: rest, h => by
    rw [branchesToList_cons, List.mem_append]
    rcases List.mem_cons.1 h with h | h
    · cases h
      exact .inl ha
    · exact .inr (mem_branchesToList ha h)

/-- The branch that changes is a new one or the one found under the character; no other branch changes. -/
theorem find?_changeBranch (c : Char) (f : TrieNode α → TrieNode α) (d : Char) : ∀ branches : List (Char × TrieNode α),
    if d = c then ∃ t, (t = empty ∨ branches.find? (·.1 = c) = some (c, t)) ∧
        (changeBranch c f branches).find? (·.1 = d) = some (c, f t)
      else (changeBranch c f branches).find? (·.1 = d) = branches.find? (·.1 = d)
  | [] => by
    split
    · rename_i hd
      subst hd
      exact ⟨empty, .inl rfl, by simp [changeBranch]⟩
    · rename_i hd
      simp [changeBranch, Ne.symm hd]
  | (e, u) :: rest => by
    have ih := find?_changeBranch c f d rest
    unfold changeBranch
    by_cases hce : c = e
    · subst hce
      rw [if_pos rfl]
      split
      · rename_i hd
        subst hd
        exact ⟨u, .inr (by simp), by simp⟩
      · rename_i hd
        simp [Ne.symm hd]
    · rw [if_neg hce]
      by_cases hlt : c < e
      · rw [if_pos hlt]
        split
        · rename_i hd
          subst hd
          exact ⟨empty, .inl rfl, by simp⟩
        · rename_i hd
          rw [List.find?_cons_of_neg (by simpa using Ne.symm hd)]
      · rw [if_neg hlt]
        split at ih
        · rename_i hd
          subst hd
          obtain ⟨t, ht, hfind⟩ := ih
          rw [if_pos rfl]
          refine ⟨t, ht.imp id fun ht => ?_, ?_⟩
          · rw [List.find?_cons_of_neg (by simpa using Ne.symm hce)]
            exact ht
          · rw [List.find?_cons_of_neg (by simpa using Ne.symm hce)]
            exact hfind
        · rename_i hd
          rw [if_neg hd, List.find?_cons, List.find?_cons, ih]

theorem mem_changeBranch {a : α} {c : Char} {f : TrieNode α → TrieNode α} : ∀ {branches : List (Char × TrieNode α)},
    a ∈ branchesToList (changeBranch c f branches) →
      a ∈ branchesToList branches ∨ ∃ t, (t = empty ∨ (c, t) ∈ branches) ∧ a ∈ (f t).toList
  | [], h => by
    rw [changeBranch, branchesToList_cons, branchesToList_nil, List.append_nil] at h
    exact .inr ⟨empty, .inl rfl, h⟩
  | (d, u) :: rest, h => by
    unfold changeBranch at h
    split at h
    · rename_i hcd
      subst hcd
      rw [branchesToList_cons, List.mem_append] at h
      rcases h with h | h
      · exact .inr ⟨u, .inr (List.mem_cons_self ..), h⟩
      · exact .inl (by rw [branchesToList_cons]; exact List.mem_append_right _ h)
    · split at h
      · rw [branchesToList_cons, List.mem_append] at h
        rcases h with h | h
        · exact .inr ⟨empty, .inl rfl, h⟩
        · exact .inl h
      · rw [branchesToList_cons, List.mem_append] at h
        rcases h with h | h
        · exact .inl (by rw [branchesToList_cons]; exact List.mem_append_left _ h)
        · rcases mem_changeBranch h with h | ⟨t, ht, h⟩
          · exact .inl (by rw [branchesToList_cons]; exact List.mem_append_right _ h)
          · exact .inr ⟨t, ht.imp id (List.mem_cons_of_mem _), h⟩

@[simp] theorem toList_empty : (empty : TrieNode α).toList = [] := by simp [empty]

/-- Inserting adds one value. -/
theorem mem_toList_insert {a b : α} : ∀ {cs : List Char} {t : TrieNode α},
    b ∈ (t.insert a cs).toList → b = a ∨ b ∈ t.toList
  | [], .node here branches, h => by
    rw [insert, toList_node, List.append_assoc, List.mem_append, List.mem_append, List.mem_singleton] at h
    rw [toList_node, List.mem_append]
    tauto
  | c :: cs, .node here branches, h => by
    rw [insert, toList_node, List.mem_append] at h
    rw [toList_node, List.mem_append]
    rcases h with h | h
    · exact .inr (.inl h)
    · rcases mem_changeBranch h with h | ⟨t, ht, h⟩
      · exact .inr (.inr h)
      · rcases mem_toList_insert h with h | h
        · exact .inl h
        · rcases ht with rfl | ht
          · rw [toList_empty] at h
            cases h
          · exact .inr (.inr (mem_branchesToList h ht))

/-- What stands below some characters stands in the tree. -/
theorem mem_of_descend? {a : α} : ∀ {cs : List Char} {t u : TrieNode α}, t.descend? cs = some u → a ∈ u.toList → a ∈ t.toList
  | [], t, u, h, ha => by
    rw [descend?] at h
    cases h
    exact ha
  | c :: cs, .node here branches, u, h, ha => by
    rw [descend?] at h
    obtain ⟨⟨d, t⟩, hfind, h⟩ := Option.bind_eq_some_iff.1 h
    rw [toList_node]
    exact List.mem_append_right _ (mem_branchesToList (mem_of_descend? h ha) (List.mem_of_find?_eq_some hfind))

/-! ## Names -/

/-- In a tree that hangs at `path`, every value stands under its own name. -/
def Named (name : α → String) (path : List Char) (t : TrieNode α) : Prop :=
  ∀ cs u, t.descend? cs = some u → ∀ a ∈ u.toList, path ++ cs <+: (name a).toList

theorem named_empty (name : α → String) (path : List Char) : Named name path empty := by
  intro cs u h a ha
  cases cs with
  | nil =>
    rw [descend?] at h
    cases h
    rw [toList_empty] at ha
    cases ha
  | cons c cs =>
    rw [empty, descend?] at h
    cases h

theorem Named.branch {name : α → String} {path : List Char} {here : List α} {branches : List (Char × TrieNode α)}
    (h : Named name path (.node here branches)) {c : Char} {t : TrieNode α}
    (hc : branches.find? (·.1 = c) = some (c, t)) : Named name (path ++ [c]) t := by
  intro cs u hu a ha
  have hdescend : descend? (c :: cs) (.node here branches) = some u := by
    rw [descend?, hc]
    exact hu
  rw [List.append_assoc, List.singleton_append]
  exact h (c :: cs) u hdescend a ha

theorem Named.insert {name : α → String} {a : α} : ∀ {cs path : List Char} {t : TrieNode α},
    Named name path t → path ++ cs = (name a).toList → Named name path (t.insert a cs)
  | cs, path, t, h, ha, [], u, hu, b, hb => by
    rw [descend?] at hu
    cases hu
    rw [List.append_nil]
    rcases mem_toList_insert hb with rfl | hb
    · exact ⟨cs, ha⟩
    · simpa using h [] t (by rw [descend?]) b hb
  | [], path, .node here branches, h, _, d :: ds, u, hu, b, hb => by
    rw [TrieNode.insert, descend?] at hu
    exact h (d :: ds) u (by rw [descend?]; exact hu) b hb
  | c :: cs, path, .node here branches, h, ha, d :: ds, u, hu, b, hb => by
    rw [TrieNode.insert, descend?] at hu
    have hbranch := find?_changeBranch c (TrieNode.insert a cs) d branches
    split at hbranch
    · rename_i hd
      subst hd
      obtain ⟨t, ht, hfind⟩ := hbranch
      rw [hfind, Option.bind_some] at hu
      have hnamed : Named name (path ++ [d]) t := by
        rcases ht with rfl | ht
        · exact named_empty name _
        · exact h.branch ht
      have hnew := hnamed.insert (a := a) (by rw [List.append_assoc, List.singleton_append, ha])
      simpa using hnew ds u hu b hb
    · rw [hbranch] at hu
      exact h (d :: ds) u (by rw [descend?]; exact hu) b hb

theorem named_foldl (name : α → String) : ∀ (as : List α) {t : TrieNode α}, Named name [] t →
    Named name [] (as.foldl (fun t a => t.insert a (name a).toList) t)
  | [], _, h => h
  | a :: as, _, h => named_foldl name as (h.insert (a := a) (List.nil_append _))

theorem mem_foldl_insert {name : α → String} {b : α} : ∀ (as : List α) {t : TrieNode α},
    b ∈ (as.foldl (fun t a => t.insert a (name a).toList) t).toList → b ∈ as ∨ b ∈ t.toList
  | [], _, h => .inr h
  | a :: as, t, h => by
    rcases mem_foldl_insert as h with h | h
    · exact .inl (List.mem_cons_of_mem _ h)
    · rcases mem_toList_insert h with rfl | h
      · exact .inl (List.mem_cons_self ..)
      · exact .inr h

end LuaAtlas.TrieNode

namespace LuaAtlas.Trie

variable {α : Type}

/-! ## Trees of given values -/

theorem root_foldl (name : α → String) : ∀ (as : List α) (t : Trie α),
    (as.foldl (fun t a => t.insert (name a) a) t).root =
      as.foldl (fun node a => node.insert a (name a).toList) t.root
  | [], _ => rfl
  | a :: as, t => root_foldl name as (t.insert (name a) a)

theorem root_ofList (name : α → String) (as : List α) :
    (ofList name as).root = as.foldl (fun node a => node.insert a (name a).toList) .empty :=
  root_foldl name as empty

theorem size_foldl (name : α → String) : ∀ (as : List α) (t : Trie α),
    (as.foldl (fun t a => t.insert (name a) a) t).size = t.size + as.length
  | [], _ => rfl
  | a :: as, t => by
    rw [List.foldl_cons, size_foldl name as (t.insert (name a) a), List.length_cons]
    show t.size + 1 + as.length = _
    omega

/-- The count is the number of values. -/
theorem size_ofList (name : α → String) (as : List α) : (ofList name as).size = as.length := by
  refine (size_foldl name as empty).trans ?_
  exact Nat.zero_add _

/-- What is found below a text is one of the given values, and its name begins with the text. -/
theorem mem_startingWith {name : α → String} {as : List α} {start : String} {a : α}
    (h : a ∈ (ofList name as).startingWith start) : a ∈ as ∧ start.toList <+: (name a).toList := by
  unfold startingWith at h
  rw [root_ofList] at h
  split at h
  · rename_i u hu
    refine ⟨?_, TrieNode.named_foldl name as (TrieNode.named_empty name []) _ u hu a h⟩
    rcases TrieNode.mem_foldl_insert as (TrieNode.mem_of_descend? hu h) with h | h
    · exact h
    · rw [TrieNode.toList_empty] at h
      cases h
  · cases h

end LuaAtlas.Trie

namespace LuaAtlas.Dictionary

/-! ## Dictionaries -/

theorem symbols_insert (s : Symbol) (name : String) : ∀ d : Dictionary,
    (d.insert s).symbols name = d.symbols name ++ if s.searchName = name then [s] else []
  | [] => by
    unfold insert symbols
    by_cases h : name = s.searchName
    · simp [h]
    · simp [List.lookup_cons, h, Ne.symm h, beq_eq_decide]
  | (key, ss) :: rest => by
    have ih := symbols_insert s name rest
    unfold symbols at ih ⊢
    rw [insert]
    by_cases hname : name = key
    · subst hname
      split
      · rename_i h
        simp [h]
      · rename_i h
        simp [Ne.symm h]
    · split
      · rename_i h
        simp [List.lookup_cons, hname, h ▸ Ne.symm hname, beq_eq_decide]
      · simp [List.lookup_cons, hname, ih, beq_eq_decide]

theorem symbols_foldl (name : String) (ss : List Symbol) (d : Dictionary) :
    (ss.foldl (fun d s => d.insert s) d).symbols name = d.symbols name ++ ss.filter (·.searchName = name) := by
  induction ss generalizing d with
  | nil => simp
  | cons s ss ih =>
    rw [List.foldl_cons, ih, symbols_insert, List.append_assoc, List.filter_cons]
    by_cases h : s.searchName = name <;> simp [h]

/-- A dictionary has under each name the symbols of that name, in order. -/
theorem symbols_ofList (name : String) (ss : List Symbol) :
    (ofList ss).symbols name = ss.filter (·.searchName = name) := by
  unfold ofList
  rw [symbols_foldl]
  rfl

theorem isSome_lookup_insert (s : Symbol) (name : String) : ∀ d : Dictionary,
    ((d.insert s).lookup name).isSome = ((d.lookup name).isSome || decide (s.searchName = name))
  | [] => by
    unfold insert
    by_cases h : name = s.searchName
    · simp [h]
    · simp [List.lookup_cons, h, Ne.symm h, beq_eq_decide]
  | (key, ss) :: rest => by
    have ih := isSome_lookup_insert s name rest
    rw [insert]
    by_cases hname : name = key
    · subst hname
      split <;> simp
    · split
      · rename_i h
        simp [List.lookup_cons, hname, h ▸ Ne.symm hname, beq_eq_decide]
      · simp [List.lookup_cons, hname, ih, beq_eq_decide]

/-- A dictionary has the names of its symbols. -/
theorem isSome_lookup_ofList (name : String) (ss : List Symbol) :
    ((ofList ss).lookup name).isSome = true ↔ name ∈ ss.map (·.searchName) := by
  have hfold : ∀ (ss : List Symbol) (d : Dictionary), ((ss.foldl (fun d s => d.insert s) d).lookup name).isSome =
      ((d.lookup name).isSome || decide (name ∈ ss.map (·.searchName))) := by
    intro ss
    induction ss with
    | nil => simp
    | cons s ss ih =>
      intro d
      rw [List.foldl_cons, ih, isSome_lookup_insert, Bool.or_assoc]
      simp [eq_comm]
  unfold ofList
  simp [hfold]

end LuaAtlas.Dictionary

namespace LuaAtlas.Partition

/-! ## Searching -/

/-- A partition is the partition of its symbols. -/
theorem eq_ofList (p : Partition) : p = .ofList p.symbols := by
  obtain ⟨symbols, byName, trie, rfl, rfl⟩ := p
  rfl

/-- A search by whole names keeps the symbols with that name. -/
theorem search_exactlyEqual (p : Partition) (query : String) :
    p.search query .exactlyEqual = p.symbols.filter (·.searchName = query) := by
  show p.byName.symbols query = _
  rw [p.byName_eq, Dictionary.symbols_ofList]

/-- A search by whole names finds the symbols of the partition with that name. -/
theorem mem_search_exactlyEqual {p : Partition} {query : String} {s : Symbol} :
    s ∈ p.search query .exactlyEqual ↔ s ∈ p.symbols ∧ s.searchName = query := by
  simp [search_exactlyEqual]

/-- A search by the beginning of names finds symbols of the partition whose names begin so. -/
theorem mem_search_prefixMatch {symbols : List Symbol} {query : String} {s : Symbol}
    (h : s ∈ (ofList symbols).search query .prefixMatch) : s ∈ symbols ∧ query.toList <+: s.searchName.toList :=
  Trie.mem_startingWith h

/-- A search finds symbols of the partition. -/
theorem mem_of_mem_search {symbols : List Symbol} {query : String} {s : Symbol} : ∀ {mode : SearchMode},
    s ∈ (ofList symbols).search query mode → s ∈ symbols
  | .exactlyEqual, h => (mem_search_exactlyEqual.1 h).1
  | .prefixMatch, h => (mem_search_prefixMatch h).1
  | .fuzzyMatching, h => by
    dsimp only [search] at h
    split at h
    · exact List.mem_of_mem_filter h
    · cases h

end LuaAtlas.Partition
