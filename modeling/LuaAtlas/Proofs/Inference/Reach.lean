/-
What a query can reach. All that tags lead to is written in the index, which is finite; a substitution puts such a
name in front of a tail of the path. Hence the parts of all paths that a query meets come from a finite stock, and
as long as the paths do not grow without bound there are finitely many of them.
-/
import LuaAtlas.Proofs.Inference.Soundness
import Mathlib.Data.Set.Finite.List
import Mathlib.Data.Set.Finite.Lattice

namespace LuaAtlas.Name

/-- The parts of a name between its dots. -/
def parts (name : String) : List (List Char) := name.toList.splitOn '.'

theorem parts_field (base field : String) : parts (Name.field base field) = parts base ++ parts field := by
  unfold parts
  rw [toList_field, List.splitOn_append_cons_self]

/-- A name is its parts with dots between them. -/
theorem parts_injective : Function.Injective parts := by
  have hjoin : ∀ name, ['.'].intercalate (parts name) = name.toList := fun name => List.intercalate_splitOn '.'
  intro a b h
  refine String.ext ?_
  rw [← hjoin a, ← hjoin b, h]

theorem length_splitOn (cs : List Char) : (cs.splitOn '.').length = cs.count '.' + 1 := by
  induction cs with
  | nil => rfl
  | cons c cs ih =>
    rw [List.splitOn_cons_eq_if_modifyHead]
    split
    · rename_i hc
      rw [List.length_cons, ih, eq_of_beq hc, List.count_cons_self]
    · rename_i hc
      rw [List.length_modifyHead, ih, List.count_cons_of_ne (by simpa using hc)]

theorem length_parts (name : String) : (parts name).length = dots name + 1 := length_splitOn name.toList

end LuaAtlas.Name

namespace LuaAtlas.Inference

variable {x : Index} {purpose : Purpose}

/-! ## The stock of an index -/

/-- The symbol is filed in a document of the index. -/
def Known (x : Index) (s : Symbol) : Prop := ∃ d, x.Has d ∧ s ∈ d.filedSymbols

theorem Known.of_finds {query : String} {mode : SearchMode} {s : Symbol} (h : x.Finds query mode s) : Known x s := by
  obtain ⟨d, scope, hd, hs⟩ := h
  exact ⟨d, hd, Document.mem_filedSymbols_of_search hs⟩

theorem finite_documents (x : Index) : {d | x.Has d}.Finite := by
  refine (List.finite_toSet (x.workspace.documents ++ x.stdlib.documents ++ x.user.documents)).subset ?_
  rintro d ⟨shelf, hd⟩
  cases shelf with
  | workspace => exact List.mem_append_left _ (List.mem_append_left _ hd)
  | stdlib => exact List.mem_append_left _ (List.mem_append_right _ hd)
  | user => exact List.mem_append_right _ hd

theorem finite_known (x : Index) : {s | Known x s}.Finite := by
  refine ((finite_documents x).biUnion fun d _ => List.finite_toSet d.filedSymbols).subset ?_
  rintro s ⟨d, hd, hs⟩
  exact Set.mem_biUnion hd hs

/-- The places that are written on a symbol: its name, its tag, what it returns and what it calls. -/
def mentions (s : Symbol) : List Place :=
  (s.searchName :: (s.tag?.toList.flatMap fun tag => [tag.typeName, tag.typeName ++ ".__index"]) ++
    s.returnName?.toList ++ s.callReturnOf?.toList).map (⟨s.uri, ·⟩)

/-- The places that are written in an index: on its symbols, and the variables that its files return. -/
def Mentioned (x : Index) (q : Place) : Prop :=
  (∃ s, Known x s ∧ q ∈ mentions s) ∨ ∃ d, x.Has d ∧ d.uri = q.uri ∧ d.returnName? = some q.path

theorem finite_mentioned (x : Index) : {q | Mentioned x q}.Finite := by
  have hsymbols := (finite_known x).biUnion fun s _ => List.finite_toSet (mentions s)
  have hdocuments := (finite_documents x).biUnion fun d _ =>
    List.finite_toSet (d.returnName?.toList.map fun name => (⟨d.uri, name⟩ : Place))
  refine (hsymbols.union hdocuments).subset ?_
  rintro ⟨uri, path⟩ (⟨s, hs, hq⟩ | ⟨d, hd, rfl, hname⟩)
  · exact .inl (Set.mem_biUnion hs hq)
  · refine .inr (Set.mem_biUnion hd ?_)
    simp [hname]

/-- The places that paths can be made of: the start of a query and what is written in the index. -/
theorem finite_sources (x : Index) (start : Place) : {m | m = start ∨ Mentioned x m}.Finite :=
  (Set.finite_singleton start).union (finite_mentioned x)

section

variable {s : Symbol} (hs : Known x s)
include hs

theorem mentioned_searchName : Mentioned x ⟨s.uri, s.searchName⟩ := .inl ⟨s, hs, by simp [mentions]⟩

theorem mentioned_typeName {tag : Tag} (ht : s.tag? = some tag) : Mentioned x ⟨s.uri, tag.typeName⟩ :=
  .inl ⟨s, hs, by simp [mentions, ht]⟩

theorem mentioned_metatable {tag : Tag} (ht : s.tag? = some tag) : Mentioned x ⟨s.uri, tag.typeName ++ ".__index"⟩ :=
  .inl ⟨s, hs, by simp [mentions, ht]⟩

theorem mentioned_returnName {name : String} (hn : s.returnName? = some name) : Mentioned x ⟨s.uri, name⟩ :=
  .inl ⟨s, hs, by simp [mentions, hn]⟩

theorem mentioned_callee {callee : String} (hc : s.callReturnOf? = some callee) : Mentioned x ⟨s.uri, callee⟩ :=
  .inl ⟨s, hs, by simp [mentions, hc]⟩

end

/-! ## What a search meets is written somewhere -/

/-- A search in one place may go on to another: by a substitution, or to find the function of a call. -/
def Enters (x : Index) (purpose : Purpose) (p q : Place) : Prop :=
  Follows x purpose (Answers x purpose) p q ∨ Calls x purpose p q

theorem finds_of_lookupBeside {s t : Symbol} {name : String} (h : t ∈ lookupBeside x purpose s name) :
    x.Finds name .exactlyEqual t := by
  obtain ⟨l, hl, ht⟩ := Index.mem_firstFound h
  rcases List.mem_pair.1 hl with rfl | rfl
  · exact Index.finds_of_searchDocument (List.mem_of_mem_filter ht)
  · exact finds_of_searchAround (List.mem_of_mem_filter ht)

theorem mentioned_of_points {s : Symbol} (hs : Known x s) {q : Place} (h : Points x purpose s q) : Mentioned x q := by
  have hbeside : ∀ {t name}, t ∈ lookupBeside x purpose s name → Known x t :=
    fun ht => .of_finds (finds_of_lookupBeside ht)
  cases h with
  | type _ _ ht => exact mentioned_searchName (hbeside ht)
  | typeName ht _ _ => exact mentioned_typeName hs ht
  | metatable ht _ => exact mentioned_metatable hs ht
  | metatableTag _ _ hl ht => exact mentioned_typeName (hbeside hl) ht
  | required _ _ _ hd hn =>
    obtain ⟨hmem, huri⟩ := Index.document?_mem hd
    exact .inr ⟨_, ⟨.workspace, hmem⟩, huri, hn⟩
  | called _ _ hl hn => exact mentioned_returnName (hbeside (hl ▸ List.mem_cons_self ..)) hn

theorem known_of_answers {c : Place} {f : Symbol} (h : Answers x purpose c f) : Known x f := by
  obtain ⟨q, fs, -, hq⟩ := h
  have hmem : f ∈ direct x purpose q := hq ▸ List.mem_cons_self ..
  cases purpose with
  | definition => exact .of_finds (finds_of_lookup hmem)
  | completion => exact .of_finds (finds_of_lookup (List.mem_of_mem_filter hmem))

/-- A search goes on to a place that is written in the index, as it stands or in front of a tail of the path. -/
theorem mentioned_of_enters {p q : Place} (h : Enters x purpose p q) : ∃ m, Mentioned x m ∧ q.uri = m.uri ∧
    (q.path = m.path ∨ ∃ first rest, p.path = Name.field first rest ∧ q.path = Name.field m.path rest) := by
  rcases h with @⟨u, first, rest, s, m, hs, hleads⟩ | @⟨u, first, rest, s, c, hs, hdefers⟩
  · have hknown : Known x s := .of_finds (finds_of_lookup hs)
    refine ⟨m, ?_, rfl, .inr ⟨first, rest, rfl, rfl⟩⟩
    cases hleads with
    | points hp => exact mentioned_of_points hknown hp
    | calls _ ha hn => exact mentioned_returnName (known_of_answers ha) hn
  · have hknown : Known x s := .of_finds (finds_of_lookup hs)
    obtain ⟨-, hcallee, -⟩ := hdefers
    exact ⟨_, mentioned_callee hknown hcallee, rfl, .inl rfl⟩

/-! ## Finitely many places -/

/-- The document of a place and the parts of its path are those of the start or of a place written in the index. -/
theorem stock_of_enters {start p : Place} (h : Relation.ReflTransGen (Enters x purpose) start p) :
    (∃ m, (m = start ∨ Mentioned x m) ∧ p.uri = m.uri) ∧
      ∀ part ∈ Name.parts p.path, ∃ m, (m = start ∨ Mentioned x m) ∧ part ∈ Name.parts m.path := by
  induction h with
  | refl => exact ⟨⟨start, .inl rfl, rfl⟩, fun part hpart => ⟨start, .inl rfl, hpart⟩⟩
  | tail _ hstep ih =>
    obtain ⟨m, hm, huri, hpath⟩ := mentioned_of_enters hstep
    refine ⟨⟨m, .inr hm, huri⟩, fun part hpart => ?_⟩
    rcases hpath with hpath | ⟨first, rest, hbefore, hpath⟩
    · exact ⟨m, .inr hm, hpath ▸ hpart⟩
    · rw [hpath, Name.parts_field] at hpart
      rcases List.mem_append.1 hpart with hpart | hpart
      · exact ⟨m, .inr hm, hpart⟩
      · refine ih.2 part ?_
        rw [hbefore, Name.parts_field]
        exact List.mem_append_right _ hpart

/-- Words of bounded length over a finite stock are finitely many. -/
theorem finite_words {α : Type} {stock : Set α} (h : stock.Finite) (n : Nat) :
    {l : List α | l.length ≤ n ∧ ∀ a ∈ l, a ∈ stock}.Finite := by
  have : Finite stock := h
  refine ((List.finite_length_le stock n).image (List.map Subtype.val)).subset ?_
  rintro l ⟨hlength, hmem⟩
  lift l to List stock using hmem
  exact ⟨l, by simpa using hlength, rfl⟩

/-- A query whose paths do not grow beyond a bound meets finitely many places. -/
theorem finite_of_bounded {start : Place} {bound : Nat}
    (h : ∀ p, Relation.ReflTransGen (Enters x purpose) start p → Name.dots p.path ≤ bound) :
    {p | Relation.ReflTransGen (Enters x purpose) start p}.Finite := by
  have huris := (finite_sources x start).image Place.uri
  have hparts := (finite_sources x start).biUnion fun m _ => List.finite_toSet (Name.parts m.path)
  have hinj : Function.Injective fun p : Place => (p.uri, Name.parts p.path) := by
    rintro ⟨u, a⟩ ⟨v, b⟩ heq
    obtain ⟨huv, hab⟩ := Prod.mk.inj heq
    exact Place.mk.injEq .. ▸ ⟨huv, Name.parts_injective hab⟩
  refine ((huris.prod (finite_words hparts (bound + 1))).preimage hinj.injOn).subset ?_
  intro p hp
  obtain ⟨⟨m, hm, huri⟩, hstock⟩ := stock_of_enters hp
  refine ⟨⟨m, hm, huri.symm⟩, ?_, fun part hpart => ?_⟩
  · rw [Name.length_parts]
    exact Nat.succ_le_succ (h p hp)
  · obtain ⟨m, hm, hpart⟩ := hstock part hpart
    exact Set.mem_biUnion hm hpart

end LuaAtlas.Inference
