/-
One walk, three views. A file has one list of the places where names are written. The occurrences of a name
are the places of that list with this name; a cursor means the first place it stands in, where the arguments
of `require` calls stand among the names; and the symbols of the file, the implicit `self` of methods left
out, are declared at some of these places, in this order.
-/
import LuaAtlas.Document
import LuaAtlas.Proofs.Walk.Pieces
import Mathlib.Data.List.Basic

namespace LuaAtlas

open LuaAtlas.Syntax LuaAtlas.Walk

/-- A name as it is searched, where it is written and the chunks around. -/
structure Placement where
  searchName : String
  range : Range
  stack : List ChunkRef
deriving DecidableEq, Repr

def Symbol.placement (s : Symbol) : Placement := ⟨s.searchName, s.range, s.containers⟩

/-- A name as it is written, where it is written and the chunks around. -/
structure Spelling where
  name : String
  range : Range
  stack : List ChunkRef
deriving DecidableEq, Repr

/-- How a written name is searched. -/
def Spelling.placement (s : Spelling) : Placement := ⟨Name.normalize s.name, s.range, s.stack⟩

namespace Walk

def Site.placement (s : Site) : Placement := ⟨Name.normalize s.name, s.range, s.stack⟩

def Declaration.placement (d : Declaration) : Placement := ⟨Name.normalize d.name, d.range, d.stack⟩

def Site.spelling (s : Site) : Spelling := ⟨s.name, s.range, s.stack⟩

def Declaration.spelling (d : Declaration) : Spelling := ⟨d.name, d.range, d.stack⟩

/-! ## Marks and sites -/

/-- What a cursor can point at. -/
inductive Mark
  | name (s : Site)
  /-- The argument of a `require` call. -/
  | argument (module : String) (range : Range)
deriving DecidableEq, Repr

namespace Mark

/-- Where a cursor has to be. -/
def hitRange : Mark → Range
  | .name s => s.hitRange
  | .argument _ range => range

/-- What a cursor there points at. -/
def hit : Mark → Document.Hit
  | .name s => .name (Name.normalize s.name) s.range s.isLocal s.stack
  | .argument module range => .required module range

def site? : Mark → Option Site
  | .name s => some s
  | .argument .. => none

end Mark

/-- The names and the arguments of `require` calls, as a walk meets them. -/
def marks (es : List Event) : List Mark :=
  es.filterMap fun
    | .site s => some (.name s)
    | .required edge range => some (.argument edge.targetModule range)
    | _ => none

/-- The places where names are written. -/
def sites (es : List Event) : List Site := (marks es).filterMap Mark.site?

theorem sites_append (es fs : List Event) : sites (es ++ fs) = sites es ++ sites fs := by
  unfold sites marks
  rw [List.filterMap_append, List.filterMap_append]

/-- A cursor points at the first mark it stands in. -/
theorem findSome?_hitOf? (p : Position) : ∀ es : List Event,
    es.findSome? (Document.hitOf? p) = ((marks es).find? (·.hitRange.contains p)).map Mark.hit
  | [] => rfl
  | e :: es => by
    have ih := findSome?_hitOf? p es
    cases e with
    | site s =>
      have hmarks : marks (.site s :: es) = .name s :: marks es := rfl
      rw [hmarks, List.findSome?_cons, List.find?_cons]
      cases h : s.hitRange.contains p with
      | true => simp [Document.hitOf?, Mark.hitRange, Mark.hit, h]
      | false => simp [Document.hitOf?, Mark.hitRange, h, ih]
    | required edge range =>
      have hmarks : marks (.required edge range :: es) = .argument edge.targetModule range :: marks es := rfl
      rw [hmarks, List.findSome?_cons, List.find?_cons]
      cases h : range.contains p with
      | true => simp [Document.hitOf?, Mark.hitRange, Mark.hit, h]
      | false => simp [Document.hitOf?, Mark.hitRange, h, ih]
    | _ => exact ih

/-- A name occurs at the sites with this name. -/
theorem filterMap_occurrence (name : String) : ∀ es : List Event,
    (es.filterMap fun
      | .site s => if s.name = name then some s.range else none
      | _ => none) = ((sites es).filter (·.name = name)).map (·.range)
  | [] => rfl
  | e :: es => by
    have ih := filterMap_occurrence name es
    cases e with
    | site s =>
      have hsites : sites (.site s :: es) = s :: sites es := rfl
      rw [hsites, List.filter_cons]
      by_cases h : s.name = name
      · simp [h, ih]
      · simp [h, ih]
    | _ => exact ih

/-! ## Declarations are written somewhere -/

/-- Whether a declaration is that of the `self` which a method gets without writing it. -/
def Declaration.isImplicitSelf (d : Declaration) : Bool :=
  d.tag?.any fun tag => d = selfDeclaration ⟨d.stack, []⟩ tag.typeName d.range

@[simp] theorem isImplicitSelf_self (c : Context) (owner : String) (range : Range) :
    (selfDeclaration c owner range).isImplicitSelf = true := by
  simp [Declaration.isImplicitSelf, selfDeclaration]

/-- The declarations among events. -/
def declarations (es : List Event) : List Declaration :=
  es.filterMap fun
    | .declared d => some d
    | _ => none

/-- The declarations that are written out. -/
def written (es : List Event) : List Declaration := (declarations es).filter (!·.isImplicitSelf)

theorem written_append (es fs : List Event) : written (es ++ fs) = written es ++ written fs := by
  unfold written declarations
  rw [List.filterMap_append, List.filter_append]

/-- What a value tells does not change where its name is written. -/
@[simp] theorem Declaration.withValue_spelling (d : Declaration) (functionName : String) (value? : Option Expr) :
    (d.withValue functionName value?).spelling = d.spelling := by
  unfold Declaration.withValue
  split <;> rfl

@[simp] theorem Declaration.withValue_placement (d : Declaration) (functionName : String) (value? : Option Expr) :
    (d.withValue functionName value?).placement = d.placement :=
  congrArg Spelling.placement (d.withValue_spelling functionName value?)

/-- Every declaration that is written out has its site, spelled alike and in order. -/
def Spelled (es : List Event) : Prop := ((written es).map Declaration.spelling).Sublist ((sites es).map Site.spelling)

theorem Spelled.append {es fs : List Event} (h : Spelled es) (h' : Spelled fs) : Spelled (es ++ fs) := by
  unfold Spelled at h h' ⊢
  rw [written_append, sites_append, List.map_append, List.map_append]
  exact List.Sublist.append h h'

theorem spelled_of_written_nil {es : List Event} (h : written es = []) : Spelled es := by
  unfold Spelled
  rw [h]
  exact List.nil_sublist _

/-- A site with its declaration. -/
theorem spelled_pair {s : Site} {d : Declaration} (h : d.spelling = s.spelling) : Spelled [.site s, .declared d] := by
  have hw : written [.site s, .declared d] = [d].filter (!·.isImplicitSelf) := rfl
  unfold Spelled
  rw [hw, show sites [.site s, .declared d] = [s] from rfl, List.map_singleton, ← h]
  exact List.filter_sublist.map _

theorem written_use (c : Context) (e : Expr) : written (use c e) = [] := by
  unfold use
  split <;> rfl

theorem written_callFacts (binding? : Option Binding) (callee : Expr) (args : List Expr) (range : Range) :
    written (callFacts binding? callee args range) = [] := by
  unfold callFacts
  rw [written_append]
  refine List.append_eq_nil_iff.2 ⟨?_, ?_⟩
  · split <;> rfl
  · split
    · rfl
    · split <;> rfl

/-- The use of a place that is not in parentheses. -/
theorem use_inner {c : Context} {t : Expr} {name : String} (ht : t.isPlace = true) (hname : t.dottedName? = some name) :
    use c t.inner = [.site ⟨name, t.nameRange, t.range, c.isLocal name, c.stack⟩] := by
  rw [Expr.inner_of_isPlace ht]
  unfold use
  rw [hname]

theorem Piece.spelled {ts : List Expr} {es : List Event} (h : Piece ts es) (hts : ∀ t ∈ ts, t.isPlace = true) :
    Spelled es := by
  cases h with
  | use c e => exact spelled_of_written_nil (written_use c e)
  | facts binding? callee args range => exact spelled_of_written_nil (written_callFacts binding? callee args range)
  | equated line name source => exact spelled_of_written_nil rfl
  | opened chunk => exact spelled_of_written_nil rfl
  | introduced c x value? => exact spelled_pair rfl
  | entry c base name key value => exact spelled_pair rfl
  | self c owner range => exact spelled_of_written_nil (by simp [written, declarations])
  | assigned c t name value? hname =>
    rw [use_inner (hts t (List.mem_singleton_self t)) hname]
    exact spelled_pair (Declaration.withValue_spelling ..)
  | function c isLocal t name f hname =>
    rw [use_inner (hts t (List.mem_singleton_self t)) hname]
    exact spelled_pair rfl
  | unnamed t hname => exact spelled_of_written_nil rfl

theorem Walked.spelled {ts : List Expr} {es : List Event} (h : Walked ts es) (hts : ∀ t ∈ ts, t.isPlace = true) :
    Spelled es := by
  induction h with
  | nil => exact spelled_of_written_nil rfl
  | piece h => exact h.spelled hts
  | append _ _ ih ih' =>
    rw [List.forall_mem_append] at hts
    exact (ih hts.1).append (ih' hts.2)
  | perm hp _ ih => exact ih fun t ht => hts t (hp.mem_iff.1 ht)

/-- Every declaration that is written out has its site, in order. -/
def Shown (es : List Event) : Prop := ((written es).map Declaration.placement).Sublist ((sites es).map Site.placement)

theorem Spelled.shown {es : List Event} (h : Spelled es) : Shown es := by
  have hplacements := List.Sublist.map Spelling.placement h
  rwa [List.map_map, List.map_map] at hplacements

/-- What is written out has a site that is spelled alike. -/
theorem Spelled.exists_site {es : List Event} (h : Spelled es) {d : Declaration} (hd : d ∈ written es) :
    ∃ s ∈ sites es, s.name = d.name ∧ s.range = d.range := by
  obtain ⟨s, hs, heq⟩ := List.mem_map.1 (List.Sublist.subset h (List.mem_map_of_mem hd))
  exact ⟨s, hs, congrArg Spelling.name heq, congrArg Spelling.range heq⟩

/-- A target that has a name is one of the sites, with its name. -/
def Sited (es : List Event) (t : Expr) : Prop :=
  ∀ name, t.dottedName? = some name → ∃ s ∈ sites es, s.name = name ∧ s.hitRange = t.nameRange ∧ s.range = t.range

theorem Sited.mono {es fs : List Event} {t : Expr} (hsub : sites es ⊆ sites fs) (h : Sited es t) : Sited fs t := by
  intro name hname
  obtain ⟨s, hs, hspec⟩ := h name hname
  exact ⟨s, hsub hs, hspec⟩

theorem sited_use {c : Context} {t : Expr} (ht : t.isPlace = true) (es : List Event) :
    Sited (use c t.inner ++ es) t := by
  intro name hname
  rw [use_inner ht hname]
  exact ⟨_, List.mem_cons_self .., rfl, rfl, rfl⟩

theorem Piece.sited {ts : List Expr} {es : List Event} (h : Piece ts es) {t : Expr} (ht : t ∈ ts)
    (hplace : t.isPlace = true) : Sited es t := by
  cases h with
  | assigned c u name value? hname =>
    cases List.mem_singleton.1 ht
    exact sited_use hplace _
  | function c isLocal u name f hname =>
    cases List.mem_singleton.1 ht
    exact sited_use hplace _
  | unnamed u hname =>
    cases List.mem_singleton.1 ht
    intro name hname'
    rw [hname] at hname'
    cases hname'
  | _ => cases ht

theorem Walked.sited {ts : List Expr} {es : List Event} (h : Walked ts es) {t : Expr} (ht : t ∈ ts)
    (hplace : t.isPlace = true) : Sited es t := by
  induction h with
  | nil => cases ht
  | piece h => exact h.sited ht hplace
  | append _ _ ih ih' =>
    rcases List.mem_append.1 ht with ht | ht
    · refine (ih ht).mono ?_
      rw [sites_append]
      exact List.subset_append_left _ _
    · refine (ih' ht).mono ?_
      rw [sites_append]
      exact List.subset_append_right _ _
  | perm hp _ ih => exact ih (hp.mem_iff.2 ht)

end Walk

/-! ## From declarations to symbols -/

namespace Declare

/-- The declarations that count are among those that are met. -/
theorem effective_sublist : ∀ (es : List Event) (known : List String), (effective known es).Sublist (declarations es)
  | [], _ => .slnil
  | e :: es, known => by
    cases e with
    | declared d =>
      have hd : declarations (.declared d :: es) = d :: declarations es := rfl
      rw [hd, effective]
      split
      · exact (effective_sublist es known).cons d
      · exact (effective_sublist es _).cons_cons d
    | _ => exact effective_sublist es known

/-- A change that `g` does not see. -/
theorem map_changeFirst {α β : Type} {p : α → Bool} {f : α → α} {g : α → β} (h : ∀ a, g (f a) = g a) :
    ∀ as : List α, (changeFirst p f as).map g = as.map g
  | [] => rfl
  | a :: as => by
    rw [changeFirst]
    split
    · rw [List.map_cons, List.map_cons, h]
    · rw [List.map_cons, List.map_cons, map_changeFirst h as]

theorem map_changeLast {α β : Type} {p : α → Bool} {f : α → α} {g : α → β} (h : ∀ a, g (f a) = g a) (as : List α) :
    (changeLast p f as).map g = as.map g := by
  unfold changeLast
  rw [List.map_reverse, map_changeFirst h, List.map_reverse, List.reverse_reverse]

theorem map_foldl {α β γ : Type} {step : List α → γ → List α} {g : α → β} (h : ∀ as c, (step as c).map g = as.map g) :
    ∀ (cs : List γ) (as : List α), (cs.foldl step as).map g = as.map g
  | [], _ => rfl
  | c :: cs, as => (map_foldl h cs (step as c)).trans (h as c)

end Declare

/-- A symbol without what was learnt about its value. -/
def Symbol.plain (s : Symbol) : Symbol := { s with tag? := none, requiredModule? := none, callReturnOf? := none }

namespace Declare

section

variable {β : Type} {g : Symbol → β} (hg : ∀ s tag?, g { s with tag? := tag? } = g s)

include hg

/-- An assigned name changes nothing but tags. -/
theorem map_applyEqual (ss : List Symbol) (e : Event) : (applyEqual ss e).map g = ss.map g := by
  cases e with
  | equated line name source =>
    apply map_changeFirst
    intro s
    unfold linkEqual
    split
    · exact hg s _
    · rfl
  | _ => rfl

/-- A metatable changes nothing but tags. -/
theorem map_applyMetatable (ss : List Symbol) (e : Event) : (applyMetatable ss e).map g = ss.map g := by
  cases e with
  | metatable line object metatable =>
    have hlink : ∀ s, g (linkMetatable metatable s) = g s := by
      intro s
      unfold linkMetatable
      split
      · rfl
      · exact hg s _
    unfold applyMetatable
    dsimp only
    split
    · exact map_changeLast hlink ss
    · exact map_changeFirst hlink ss
  | _ => rfl

/-- An annotation changes nothing but tags. -/
theorem map_annotated (ss : List Symbol) (a : Annotation) : ( applyAnnotation ss a).map g = ss.map g := by
  apply map_changeFirst
  intro s
  exact hg s _

/-- Tags are all that assigned names, metatables and annotations change. -/
theorem map_tagged (es : List Event) (as : List Annotation) (ss : List Symbol) : (tagged es as ss).map g = ss.map g := by
  unfold tagged
  dsimp only
  rw [map_foldl (map_annotated hg), map_foldl (map_applyMetatable hg), map_foldl (map_applyEqual hg)]

end

theorem applyCall_plain (ss : List Symbol) (e : Event) : (applyCall ss e).map Symbol.plain = ss.map Symbol.plain := by
  unfold applyCall
  split
  · refine map_changeFirst (fun s => ?_) ss
    split <;> rfl
  · rfl

/-- Apart from what was learnt about their values, the symbols are those of the declarations that count. -/
theorem symbols_plain (shelf : Shelf) (uri : Uri) (es : List Event) (as : List Annotation) :
    (symbols shelf uri es as).map Symbol.plain = (effective [] es).map (symbolOf shelf uri · |>.plain) := by
  unfold symbols
  rw [map_foldl applyCall_plain, map_tagged fun _ _ => rfl, List.map_map]
  rfl

theorem symbols_placement (shelf : Shelf) (uri : Uri) (es : List Event) (as : List Annotation) :
    (symbols shelf uri es as).map Symbol.placement = (effective [] es).map Declaration.placement := by
  have h := congrArg (List.map Symbol.placement) (symbols_plain shelf uri es as)
  rw [List.map_map, List.map_map] at h
  exact h

end Declare

namespace Document

/-- The symbols of a document except the implicit `self` of methods; there is one symbol for each
declaration that counts. -/
def writtenSymbols (d : Document) : List Symbol :=
  (((Declare.effective [] (events d.uri d.source)).zip d.symbols).filter (!·.1.isImplicitSelf)).map (·.2)

theorem map_filter_zip {α β γ : Type} {p : α → Bool} {f : α → γ} {g : β → γ} : ∀ {as : List α} {bs : List β},
    bs.map g = as.map f → (((as.zip bs).filter (p ·.1)).map (·.2)).map g = (as.filter p).map f
  | [], _, _ => rfl
  | a :: as, [], h => by cases h
  | a :: as, b :: bs, h => by
    obtain ⟨hb, hbs⟩ := List.cons.inj h
    rw [List.zip_cons_cons, List.filter_cons, List.filter_cons]
    split
    · rw [List.map_cons, List.map_cons, List.map_cons, hb, map_filter_zip hbs]
    · exact map_filter_zip hbs

end Document

end LuaAtlas
