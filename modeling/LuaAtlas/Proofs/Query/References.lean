/-
Where a definition is used. References are looked for by the name a symbol is searched by, among names as they are
written. A symbol is always written where it is declared, for what is declared by an assignment or as a function is
never in parentheses, and so it is among its own references, unless its written name has a colon: this is replaced in the
one name and not in the other.
-/
import LuaAtlas.Proofs.Query.Sight
import LuaAtlas.Proofs.Syntax.Targets

namespace LuaAtlas

open LuaAtlas.Syntax LuaAtlas.Walk

namespace Document

/-- The symbols of `writtenSymbols`, each behind the declaration that it comes from. -/
def writtenPairs (d : Document) : List (Declaration × Symbol) :=
  ((Declare.effective [] (events d.uri d.source)).zip d.symbols).filter (!·.1.isImplicitSelf)

/-- Every symbol that is written out is declared under its name, and is one of the places where that name is written. -/
def Cites (d : Document) : Prop :=
  ∀ p ∈ d.writtenPairs, p.2.searchName = Name.normalize p.1.name ∧ p.2.range ∈ d.occurrences p.1.name

theorem mem_occurrences {d : Document} {name : String} {r : Range} :
    r ∈ d.occurrences name ↔ ∃ s ∈ sites (events d.uri d.source), s.name = name ∧ s.range = r := by
  have hsites : d.occurrences name = ((sites (events d.uri d.source)).filter (·.name = name)).map (·.range) :=
    filterMap_occurrence name (events d.uri d.source)
  rw [hsites]
  simp [and_assoc]

/-- Where two lists agree, so do the pairs of their zip. -/
theorem eq_of_mem_zip {α β γ : Type} {f : α → γ} {g : β → γ} : ∀ {as : List α} {bs : List β},
    bs.map g = as.map f → ∀ p ∈ as.zip bs, g p.2 = f p.1
  | [], _, _, p, hp => by cases hp
  | a :: as, [], h, p, hp => by cases h
  | a :: as, b :: bs, h, p, hp => by
    obtain ⟨hb, hbs⟩ := List.cons.inj h
    rcases List.mem_cons.1 hp with rfl | hp
    · exact hb
    · exact eq_of_mem_zip hbs p hp

theorem cites_ofFile (shelf : Shelf) (uri : Uri) (state : DocumentState) {file : File}
    (hplaces : ArePlaces file.targets) : (ofFile shelf uri state file).Cites := by
  intro p hp
  obtain ⟨hzip, hself⟩ := List.mem_filter.1 hp
  have hplacement := eq_of_mem_zip (Declare.symbols_placement shelf uri (events uri file) (annotations file.comments)) p hzip
  have hname : p.2.searchName = Name.normalize p.1.name := congrArg Placement.searchName hplacement
  have hrange : p.2.range = p.1.range := congrArg Placement.range hplacement
  have hdeclared : p.1 ∈ declarations (events uri file) :=
    (Declare.effective_sublist (events uri file) []).subset (List.of_mem_zip hzip).1
  have hspelled := (events_walked uri file).spelled hplaces
  obtain ⟨s, hs, hsname, hsrange⟩ := hspelled.exists_site (List.mem_filter.2 ⟨hdeclared, hself⟩)
  exact ⟨hname, mem_occurrences.2 ⟨s, hs, hsname, hsrange.trans hrange.symm⟩⟩

theorem Cites.of_bare {d e : Document} (hb : e.bare = d.bare) (h : d.Cites) : e.Cites := by
  have huri : e.uri = d.uri := by injection hb
  have hsource : e.source = d.source := by injection hb
  have hall : e.all = d.all := by injection hb
  unfold Cites writtenPairs occurrences symbols at h ⊢
  rwa [huri, hsource, hall]

theorem cites_intrinsic : Index.Intrinsic Cites := by
  refine ⟨fun _ _ hb h => h.of_bare hb, fun shelf uri text => ?_, fun uri => ?_⟩
  · have hplaces := targets_are_places text
    generalize parse text = o at hplaces ⊢
    cases o <;> exact cites_ofFile shelf uri _ hplaces
  · intro p hp
    cases (List.of_mem_zip (List.mem_of_mem_filter hp)).2

end Document

namespace Query

/-- A symbol that is written out is among the places where its name is written as it is written there. It is among its own
references if that name has no colon. -/
theorem references_include_declaration (config : Config) (steps : List Index.Step) {uri : Uri} {d : Document}
    (hd : ((Index.empty config).run steps).document? uri = some d) :
    ∀ p ∈ d.writtenPairs, p.2.range ∈ d.occurrences p.1.name ∧
      (':' ∉ p.1.name.toList → ⟨uri, p.2.range⟩ ∈ referencesOf ((Index.empty config).run steps) p.2) := by
  intro p hp
  obtain ⟨hmem, rfl⟩ := Index.document?_mem hd
  obtain ⟨hname, hrange⟩ := Document.cites_intrinsic.run config steps ⟨.workspace, hmem⟩ p hp
  refine ⟨hrange, fun hcolon => ?_⟩
  have huri : p.2.uri = d.uri :=
    (Index.run_owns config steps ⟨.workspace, hmem⟩).uri p.2 (List.of_mem_zip (List.mem_of_mem_filter hp)).2
  unfold referencesOf
  rw [huri, hd, hname, Name.normalize_eq_self hcolon]
  exact List.mem_map_of_mem hrange

set_option maxRecDepth 100000 in
/-- A field with a plain key is among its own references. -/
theorem references_of_field :
    let x := (Index.empty {}).run [.build .empty .workspace mainUri (some "t['a']=1")]
    ∃ d, x.document? mainUri = some d ∧
      ∃ p ∈ d.writtenPairs, ':' ∉ p.1.name.toList ∧ ⟨mainUri, p.2.range⟩ ∈ referencesOf x p.2 := by
  intro x
  have hinput : ∃ d ∈ x.document? mainUri, ∃ p ∈ d.writtenPairs, ':' ∉ p.1.name.toList := by decide +kernel
  obtain ⟨d, hd, p, hp, hcolon⟩ := hinput
  have hrefs := (references_include_declaration {} _ hd p hp).2 hcolon
  exact ⟨d, hd, p, hp, hcolon, hrefs⟩

set_option maxRecDepth 100000 in
/-- A field whose key has a colon is declared, and nowhere referred to. -/
theorem colon_key_has_no_references :
    let x := (Index.empty {}).run [.build .empty .workspace mainUri (some "t['a:b']=1")]
    ∃ d ∈ x.document? mainUri, ∃ y ∈ d.writtenSymbols, y.searchName = "t.a.b" ∧ y.range = ⟨⟨0, 0⟩, ⟨0, 8⟩⟩ ∧
      referencesOf x y = [] := by
  decide +kernel

end Query

end LuaAtlas
