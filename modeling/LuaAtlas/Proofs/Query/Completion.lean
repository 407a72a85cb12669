/-
What completion offers. No two items are the same to the typist; every item goes on with what is being typed; and
whatever the document itself declares that goes on with it is offered. Symbols come from a search around the document
and from tags, whose substituted paths share nothing with the input but its last part.
-/
import LuaAtlas.Proofs.Index.Answers
import LuaAtlas.Proofs.Inference.Soundness
import LuaAtlas.Proofs.Partition.Order
import LuaAtlas.Query.Completion

namespace LuaAtlas

namespace Name

/-- A name without dots is its own last part. -/
theorem lastPart_of_plain {name : String} (h : isDotted name = false) : lastPart name = name := by
  refine String.ext ?_
  rw [toList_lastPart]
  refine Text.lastPart_eq_self fun c hc => ?_
  rw [decide_eq_false_iff_not]
  rintro rfl
  rw [isDotted, List.contains_eq_mem, decide_eq_false_iff_not] at h
  exact h hc

/-- What is added to a name without a dot is added to its last part. -/
theorem lastPart_append {name : List Char} {more : List Char} (h : '.' ∉ more) :
    Text.lastPart (· = '.') (name ++ more) = Text.lastPart (· = '.') name ++ more := by
  have hmore : Text.lastPart (· = '.') more = more := Text.lastPart_eq_self fun c hc => by
    rw [decide_eq_false_iff_not]
    rintro rfl
    exact h hc
  have hnone : ∀ c ∈ Text.lastPart (· = '.') name ++ more, decide (c = '.') = false := by
    intro c hc
    rcases List.mem_append.1 hc with hc | hc
    · exact Text.isSeparator_of_mem_lastPart hc
    · rw [← hmore] at hc
      exact Text.isSeparator_of_mem_lastPart hc
  rcases Text.eq_lastPart_or (· = '.') name with hname | ⟨before, c, hc, hname⟩
  · rw [← hname] at hnone ⊢
    exact Text.lastPart_eq_self hnone
  · conv_lhs => rw [hname, List.append_assoc, List.cons_append]
    exact (Text.lastPart_append_cons hc _ _).trans (Text.lastPart_eq_self hnone)

/-- A name that another begins, with as many dots, has a last part that the other's begins. -/
theorem lastPart_begins {start name : String} (h : start.toList <+: name.toList) (hdots : dots name = dots start) :
    (lastPart start).toList <+: (lastPart name).toList := by
  obtain ⟨more, hmore⟩ := h
  have hnone : '.' ∉ more := by
    unfold dots at hdots
    rw [← hmore, List.count_append] at hdots
    rw [← List.count_eq_zero]
    omega
  rw [toList_lastPart, toList_lastPart, ← hmore, lastPart_append hnone]
  exact List.prefix_append ..

end Name

namespace Query

open LuaAtlas.Inference

/-! ## Items that are the same -/

theorem Item.isSame_iff {a b : Item} : a.isSame b = true ↔
    a.label = b.label ∧ a.kind = b.kind ∧ a.insertText = b.insertText ∧ a.isSnippet = b.isSnippet := by
  simp [Item.isSame, and_assoc]

theorem mem_of_mem_distinctItems {i : Item} : ∀ {is earlier : List Item}, i ∈ distinctItems earlier is → i ∈ is
  | [], _, h => h
  | j :: is, earlier, h => by
    rw [distinctItems] at h
    split at h
    · exact List.mem_cons_of_mem _ (mem_of_mem_distinctItems h)
    · rcases List.mem_cons.1 h with rfl | h
      · exact List.mem_cons_self ..
      · exact List.mem_cons_of_mem _ (mem_of_mem_distinctItems h)

/-- An item that is kept is not the same as one of the earlier items. -/
theorem fresh_of_mem_distinctItems {i : Item} : ∀ {is earlier : List Item}, i ∈ distinctItems earlier is →
    ∀ e ∈ earlier, e.isSame i = false
  | [], _, h => by cases h
  | j :: is, earlier, h => by
    rw [distinctItems] at h
    split at h
    · exact fresh_of_mem_distinctItems h
    · rename_i hfresh
      rcases List.mem_cons.1 h with rfl | h
      · simpa using hfresh
      · exact fun e he => fresh_of_mem_distinctItems h e (List.mem_cons_of_mem _ he)

theorem pairwise_distinctItems : ∀ is earlier : List Item,
    (distinctItems earlier is).Pairwise fun a b => a.isSame b = false
  | [], _ => .nil
  | i :: is, earlier => by
    rw [distinctItems]
    split
    · exact pairwise_distinctItems is earlier
    · refine .cons (fun j hj => ?_) (pairwise_distinctItems is _)
      exact fresh_of_mem_distinctItems hj i (List.mem_cons_self ..)

/-- For an item that is left out the same one is kept, or was there before. -/
theorem exists_isSame_distinctItems {i : Item} : ∀ (earlier : List Item) {is : List Item}, i ∈ is →
    ∃ j, (j ∈ earlier ∨ j ∈ distinctItems earlier is) ∧ j.isSame i = true
  | earlier, j :: is, h => by
    have hself : j.isSame j = true := Item.isSame_iff.2 ⟨rfl, rfl, rfl, rfl⟩
    rw [distinctItems]
    split
    · rename_i hsame
      rcases List.mem_cons.1 h with rfl | h
      · obtain ⟨e, he, hsame⟩ := List.any_eq_true.1 hsame
        exact ⟨e, .inl he, hsame⟩
      · exact exists_isSame_distinctItems earlier h
    · rcases List.mem_cons.1 h with rfl | h
      · exact ⟨i, .inr (List.mem_cons_self ..), hself⟩
      · obtain ⟨e, he, hsame⟩ := exists_isSame_distinctItems (j :: earlier) h
        refine ⟨e, ?_, hsame⟩
        rcases he with he | he
        · rcases List.mem_cons.1 he with rfl | he
          · exact .inr (List.mem_cons_self ..)
          · exact .inl he
        · exact .inr (List.mem_cons_of_mem _ he)

/-! ## Symbols that an input stands for -/

variable {x : Index} {uri : Uri}

/-- The label of an item is its symbol's name, or the last part of it behind a dot. -/
theorem itemOf_label (dotted : Bool) (s : Symbol) :
    (itemOf dotted s).label = if dotted then Name.lastPart s.searchName else s.searchName := by
  unfold itemOf
  cases s.kind <;> rfl

/-- What a search for completions finds begins with the input. -/
theorem begins_of_mem_searchCompletion {input : String} {s : Symbol}
    (h : s ∈ x.searchCompletion uri input .prefixMatch) : (Name.normalize input).toList <+: s.searchName.toList := by
  obtain ⟨d, scope, -, hs⟩ := Index.finds_of_searchCompletion h
  exact (Partition.mem_search_prefixMatch_iff.1 hs).2

/-- What tags lead to ends with a part that begins with the last part of the input. -/
theorem begins_of_mem_resolve {path : String} {s : Symbol} (h : s ∈ resolve x .completion path uri) :
    (Name.lastPart (Name.normalize path)).toList <+: (Name.lastPart s.searchName).toList := by
  unfold resolve at h
  cases hrun : resolve? x .completion maxSteps {} path uri with
  | none =>
    rw [hrun] at h
    cases h
  | some answer =>
    rw [hrun] at h
    obtain ⟨-, -, -, hmatches⟩ := resolve?_sound hrun (List.ne_nil_of_mem h)
    exact hmatches s h

theorem begins_of_mem_completionSymbols {input : String} (hinput : Name.normalize input = input) {s : Symbol}
    (h : s ∈ completionSymbols x uri input) :
    (Name.lastPart input).toList <+: (itemOf (Name.isDotted input) s).label.toList := by
  rw [itemOf_label]
  unfold completionSymbols at h
  dsimp only at h
  by_cases hdotted : Name.isDotted input = true
  · rw [if_pos hdotted] at h ⊢
    rcases List.mem_append.1 h with h | h
    · obtain ⟨hs, hdots⟩ := List.mem_filter.1 h
      have hbegins := begins_of_mem_searchCompletion hs
      rw [hinput] at hbegins
      exact Name.lastPart_begins hbegins (of_decide_eq_true hdots)
    · have hbegins := begins_of_mem_resolve h
      rwa [hinput] at hbegins
  · rw [if_neg hdotted] at h ⊢
    have hbegins := begins_of_mem_searchCompletion h
    rwa [hinput, ← Name.lastPart_of_plain (Bool.eq_false_iff.2 hdotted)] at hbegins

/-- The symbols of the document itself that an input begins are found. -/
theorem mem_searchCompletion_own {d : Document} (hd : x.document? uri = some d) {input : String} {s : Symbol}
    (hs : s ∈ d.symbols) (hbegins : (Name.normalize input).toList <+: s.searchName.toList) :
    s ∈ x.searchCompletion uri input .prefixMatch := by
  have hfound : s ∈ (x.walk uri).flatMap fun visit => visit.1.search input .prefixMatch visit.2 :=
    List.mem_flatMap.2 ⟨(d, .all), Index.mem_walk_self hd, Partition.mem_search_prefixMatch_iff.2 ⟨hs, hbegins⟩⟩
  unfold Index.searchCompletion
  dsimp only
  unfold Index.firstFound
  rw [if_neg (by simpa using List.ne_nil_of_mem hfound)]
  exact hfound

theorem mem_completionSymbols_own {d : Document} (hd : x.document? uri = some d) {input : String}
    (hinput : Name.normalize input = input) {s : Symbol} (hs : s ∈ d.symbols)
    (hbegins : input.toList <+: s.searchName.toList)
    (hdots : Name.isDotted input = true → Name.dots s.searchName = Name.dots input) :
    s ∈ completionSymbols x uri input := by
  have hfound : s ∈ x.searchCompletion uri input .prefixMatch := mem_searchCompletion_own hd hs (by rwa [hinput])
  unfold completionSymbols
  dsimp only
  split
  · rename_i hdotted
    exact List.mem_append_left _ (List.mem_filter.2 ⟨hfound, decide_eq_true (hdots hdotted)⟩)
  · exact hfound

/-- In any index and for any input, no two of the offered items have the same label, kind and text to insert; each
label goes on with the last part of the input, which is all of an input without dots; and for every symbol of the
document whose name begins with the input, and has as many dots if that has any, its item is offered, as far as label,
kind and text to insert go. -/
theorem completion_is_sound_and_complete (x : Index) (uri : Uri) (input : String) :
    let name := Name.normalize input
    (complete x uri input).Pairwise (fun a b => a.isSame b = false) ∧
    (∀ i ∈ complete x uri input,
      (if Name.isDotted name then Name.lastPart name else name).toList <+: i.label.toList) ∧
    ∀ d, x.document? uri = some d → ∀ s ∈ d.symbols, name.toList <+: s.searchName.toList →
      (Name.isDotted name = true → Name.dots s.searchName = Name.dots name) →
      ∃ i ∈ complete x uri input, i.label = (itemOf (Name.isDotted name) s).label ∧
        i.kind = (itemOf (Name.isDotted name) s).kind ∧ i.insertText = (itemOf (Name.isDotted name) s).insertText ∧
        i.isSnippet = (itemOf (Name.isDotted name) s).isSnippet := by
  intro name
  have hname : Name.normalize name = name := Name.normalize_normalize input
  refine ⟨pairwise_distinctItems _ [], fun i hi => ?_, fun d hd s hs hbegins hdots => ?_⟩
  · obtain ⟨s, hs, rfl⟩ := List.mem_map.1 (mem_of_mem_distinctItems hi)
    have hlabel := begins_of_mem_completionSymbols hname hs
    split
    · exact hlabel
    · rename_i hplain
      rwa [Name.lastPart_of_plain (Bool.eq_false_iff.2 hplain)] at hlabel
  · have hfound := mem_completionSymbols_own hd hname hs hbegins hdots
    obtain ⟨i, hi, hsame⟩ := exists_isSame_distinctItems []
      (List.mem_map_of_mem (f := itemOf (Name.isDotted name)) hfound)
    refine ⟨i, ?_, Item.isSame_iff.1 hsame⟩
    rcases hi with hi | hi
    · cases hi
    · exact hi

end Query

end LuaAtlas
