/-
What stubs are for. They are offered as completions and count for nothing else: whatever is done to an index, its
settings, modules and workspace come out as if there were no stubs, and all that is asked besides completion is
answered from these. So two runs that differ in their stub builds give the same answers.

Both halves are told by the index without its stubs. A build of a stub does not change it, any other operation can as
well be done on it, and a query that ignores stubs can as well be asked of it.
-/
import LuaAtlas.Proofs.Index.Run
import LuaAtlas.Query.Definition
import LuaAtlas.Query.Outline

namespace LuaAtlas

namespace Index

/-- The index without its stubs. -/
def withoutStubs (x : Index) : Index := { x with stdlib := .empty, user := .empty }

@[simp] theorem withoutStubs_config (x : Index) : x.withoutStubs.config = x.config := rfl

@[simp] theorem withoutStubs_document? (x : Index) (uri : Uri) : x.withoutStubs.document? uri = x.document? uri := rfl

@[simp] theorem withoutStubs_resolve? (x : Index) (required : String) :
    x.withoutStubs.resolve? required = x.resolve? required := rfl

@[simp] theorem withoutStubs_contains (x : Index) (uri : Uri) :
    x.withoutStubs.workspace.contains uri = x.workspace.contains uri := rfl

@[simp] theorem withoutStubs_sourceText (x : Index) (disk : Disk) (uri : Uri) (text? : Option String) :
    x.withoutStubs.sourceText disk uri text? = x.sourceText disk uri text? := rfl

@[simp] theorem withoutStubs_targets (x : Index) (d : Document) : x.withoutStubs.targets d = x.targets d := rfl

/-- Whether an operation builds a stub. -/
def Step.buildsStub : Step → Bool
  | .build _ shelf _ _ => shelf ≠ .workspace
  | _ => false

/-! ## Operations without stubs -/

theorem withoutStubs_register (x : Index) (uri : Uri) :
    x.withoutStubs.register uri = (x.register uri).withoutStubs := by
  unfold register
  rw [apply_ite withoutStubs]
  rfl

theorem withoutStubs_isKept (x : Index) (uri : Uri) (text : String) :
    x.withoutStubs.isKept .workspace uri text = x.isKept .workspace uri text := by
  unfold isKept; rfl

theorem withoutStubs_replacement (x : Index) (uri : Uri) (text : String) :
    x.withoutStubs.replacement .workspace uri text = x.replacement .workspace uri text := by
  unfold replacement; rfl

theorem withoutStubs_rebuild (x : Index) (uri : Uri) (text : String) :
    x.withoutStubs.rebuild .workspace uri text = (x.rebuild .workspace uri text).map withoutStubs id := by
  have hk' := withoutStubs_isKept x uri text
  cases hk : x.isKept .workspace uri text with
  | true =>
    rw [rebuild_kept hk, rebuild_kept (hk'.trans hk)]
    rfl
  | false =>
    rw [rebuild_workspace hk, rebuild_workspace (hk'.trans hk), withoutStubs_replacement]
    refine Prod.ext ?_ rfl
    show List.foldl _ (withoutStubs { x with workspace := x.workspace.insert _ }) _ = _
    exact List.foldl_hom withoutStubs fun _ _ => rfl

theorem withoutStubs_load? (x : Index) (disk : Disk) (uri : Uri) :
    x.withoutStubs.load? disk uri = (x.load? disk uri).map withoutStubs := by
  simp only [load?, withoutStubs_rebuild]
  cases uri.path? with
  | none => rfl
  | some path => cases h : (disk.readSource path x.config.maxFileSize).toOption <;> simp [withoutStubs, h]

theorem withoutStubs_linkTarget (disk : Disk) (uri : Uri) (x : Index) (t : Uri) :
    linkTarget disk uri x.withoutStubs t = (linkTarget disk uri x t).map withoutStubs id := by
  unfold linkTarget
  rw [withoutStubs_load?, withoutStubs_contains]
  cases x.workspace.contains t with
  | true => rfl
  | false => cases x.load? disk t <;> rfl

theorem withoutStubs_linkRequires (disk : Disk) (x : Index) (uri : Uri) :
    linkRequires disk x.withoutStubs uri = (linkRequires disk x uri).map withoutStubs id := by
  unfold linkRequires
  rw [withoutStubs_document?]
  cases x.document? uri with
  | none => rfl
  | some d =>
    show List.foldl _ (Prod.map withoutStubs id (x, [])) (x.targets d) = _
    refine List.foldl_hom (Prod.map withoutStubs id) fun acc t => ?_
    dsimp only [Prod.map]
    rw [withoutStubs_linkTarget]
    rfl

theorem withoutStubs_linkPending (disk : Disk) : ∀ (n : Nat) (pending : List Uri) (x : Index),
    linkPending disk n pending x.withoutStubs = (linkPending disk n pending x).withoutStubs
  | 0, _, _ => rfl
  | n + 1, pending, x => by
    unfold linkPending
    cases pending.getLast? with
    | none => rfl
    | some uri =>
      dsimp only
      rw [withoutStubs_linkRequires]
      exact withoutStubs_linkPending disk n _ _

theorem withoutStubs_link (disk : Disk) (x : Index) (uri : Uri) :
    link disk x.withoutStubs uri = (link disk x uri).withoutStubs :=
  withoutStubs_linkPending disk _ [uri] x

theorem withoutStubs_buildText (x : Index) (disk : Disk) (uri : Uri) (text : String) :
    (x.withoutStubs.buildText disk .workspace uri text).1 = (x.buildText disk .workspace uri text).1.withoutStubs := by
  rw [buildText_workspace, buildText_workspace, withoutStubs_register, withoutStubs_rebuild, Prod.map_fst,
    withoutStubs_link]

/-- Building a stub changes nothing but stubs. -/
theorem buildText_withoutStubs (x : Index) (disk : Disk) {shelf : Shelf} (hs : shelf ≠ .workspace) (uri : Uri)
    (text : String) : (x.buildText disk shelf uri text).1.withoutStubs = x.withoutStubs := by
  rw [buildText_stub x disk hs]
  cases hk : x.isKept shelf uri text with
  | true => rw [rebuild_kept hk]
  | false =>
    rw [rebuild_stub hs hk]
    cases shelf with
    | workspace => exact absurd rfl hs
    | stdlib => rfl
    | user => rfl

/-! ## Runs without stubs -/

/-- Building a stub changes nothing else, and all that is done else takes no notice of stubs. -/
theorem step_withoutStubs (x : Index) (s : Step) :
    (x.step s).withoutStubs = if s.buildsStub then x.withoutStubs else x.withoutStubs.step s := by
  cases s with
  | register uri => exact (withoutStubs_register x uri).symm
  | reset => rfl
  | init config => rfl
  | build disk shelf uri text? =>
    by_cases hs : shelf = .workspace
    · subst hs
      rw [if_neg (by simp [Step.buildsStub]), step_build_eq, step_build_eq, withoutStubs_sourceText]
      cases x.sourceText disk uri text? with
      | error err => rfl
      | ok text => exact (withoutStubs_buildText x disk uri text).symm
    · rw [if_pos (by simp [Step.buildsStub, hs]), step_build_eq]
      cases x.sourceText disk uri text? with
      | error err => rfl
      | ok text => exact buildText_withoutStubs x disk hs uri text

/-- Without its stubs, an index after a run is what the other operations of the run make of the index without stubs. -/
theorem run_withoutStubs : ∀ (steps : List Step) (x : Index),
    (x.run steps).withoutStubs = x.withoutStubs.run (steps.filter fun s => !s.buildsStub)
  | [], _ => rfl
  | s :: steps, x => by
    rw [run_cons, run_withoutStubs steps, step_withoutStubs]
    cases hs : s.buildsStub <;> simp [hs, run_cons]

/-! ## Searches without stubs -/

@[simp] theorem withoutStubs_searchDocument (x : Index) (uri : Uri) (query : String) (mode : SearchMode)
    (scope : SearchScope) :
    x.withoutStubs.searchDocument uri query mode scope = x.searchDocument uri query mode scope := rfl

@[simp] theorem withoutStubs_searchGlobals (x : Index) (query : String) (mode : SearchMode) :
    x.withoutStubs.searchGlobals query mode = x.searchGlobals query mode := rfl

@[simp] theorem withoutStubs_searchWorkspace (x : Index) (query : String) (mode : SearchMode) :
    x.withoutStubs.searchWorkspace query mode = x.searchWorkspace query mode := rfl

theorem withoutStubs_walkFrom (x : Index) : ∀ depth, x.withoutStubs.walkFrom depth = x.walkFrom depth
  | 0 => by funext uri seen; rfl
  | depth + 1 => by
    funext uri seen
    simp only [walkFrom, withoutStubs_walkFrom x depth, withoutStubs_document?, withoutStubs_targets]

@[simp] theorem withoutStubs_walk (x : Index) (uri : Uri) : x.withoutStubs.walk uri = x.walk uri := by
  simp only [walk, withoutStubs_walkFrom, withoutStubs_config]

theorem withoutStubs_visitFrom {m : Type → Type} [Monad m] (x : Index) (f : Document → SearchScope → m Unit) :
    ∀ depth, x.withoutStubs.visitFrom f depth = x.visitFrom f depth
  | 0 => by funext scope uri; rfl
  | depth + 1 => by
    funext scope uri
    simp only [visitFrom, withoutStubs_visitFrom x f depth, withoutStubs_document?, withoutStubs_targets]

@[simp] theorem withoutStubs_visit {m : Type → Type} [Monad m] (x : Index) (uri : Uri)
    (f : Document → SearchScope → m Unit) : x.withoutStubs.visit uri f = x.visit uri f := by
  simp only [visit, withoutStubs_visitFrom, withoutStubs_config]

@[simp] theorem withoutStubs_searchDefinition (x : Index) (uri : Uri) (query : String) (mode : SearchMode)
    (origin : SearchScope) :
    x.withoutStubs.searchDefinition uri query mode origin = x.searchDefinition uri query mode origin := by
  simp only [searchDefinition, withoutStubs_walk, withoutStubs_searchGlobals]

end Index

/-! ## Tags without stubs -/

namespace Inference

open Index

theorem withoutStubs_lookup (x : Index) : lookup x.withoutStubs .definition = lookup x .definition := by
  funext uri name mode
  simp only [lookup, searchAround, withoutStubs_searchDocument, withoutStubs_searchDefinition]

theorem withoutStubs_lookupBeside (x : Index) :
    lookupBeside x.withoutStubs .definition = lookupBeside x .definition := by
  funext s name
  simp only [lookupBeside, searchAround, withoutStubs_searchDocument, withoutStubs_searchDefinition]

theorem withoutStubs_substitutes (x : Index) : substitutes x.withoutStubs .definition = substitutes x .definition := by
  funext resolve s
  simp only [substitutes, deferred?, pointed, withoutStubs_lookupBeside, withoutStubs_resolve?, withoutStubs_document?]

theorem withoutStubs_merged (x : Index) : merged x.withoutStubs .definition = merged x .definition := by
  funext resolve p
  unfold merged direct
  rw [withoutStubs_lookup]

theorem withoutStubs_candidates (x : Index) : candidates x.withoutStubs .definition = candidates x .definition := by
  funext uri name
  simp only [candidates, withoutStubs_lookup, withoutStubs_config]

theorem withoutStubs_followSymbol (x : Index) :
    followSymbol x.withoutStubs .definition = followSymbol x .definition := by
  funext resolve rest s
  simp only [followSymbol, withoutStubs_substitutes, withoutStubs_merged]

theorem withoutStubs_followCut (x : Index) : followCut x.withoutStubs .definition = followCut x .definition := by
  funext resolve uri cut
  simp only [followCut, withoutStubs_candidates, withoutStubs_followSymbol]

theorem withoutStubs_resolvePath (x : Index) : ∀ fuel,
    resolvePath x.withoutStubs .definition fuel = resolvePath x .definition fuel
  | 0 => rfl
  | fuel + 1 => by
    funext p
    simp only [resolvePath, withoutStubs_followCut, withoutStubs_resolvePath x fuel]

@[simp] theorem withoutStubs_resolve? (x : Index) (fuel : Nat) (stats : Stats) (path : String) (uri : Uri) :
    resolve? x.withoutStubs .definition fuel stats path uri = resolve? x .definition fuel stats path uri := by
  simp only [resolve?, withoutStubs_resolvePath]

end Inference

/-! ## Answers without stubs -/

namespace Query

open Index Inference

theorem withoutStubs_definition? (x : Index) (uri : Uri) (p : Position) :
    definition? x.withoutStubs uri p = definition? x uri p := by
  simp only [definition?, Use.found, resolve, withoutStubs_document?, Index.withoutStubs_resolve?,
    withoutStubs_searchDefinition, Inference.withoutStubs_resolve?]

theorem withoutStubs_outline (x : Index) (uri : Uri) : outline x.withoutStubs uri = outline x uri := rfl

theorem withoutStubs_references (x : Index) (uri : Uri) (p : Position) :
    references x.withoutStubs uri p = references x uri p := by
  simp only [references, referencesOf, withoutStubs_definition?, withoutStubs_document?]

/-- Two indexes that give the same answers to all that can be asked besides completion. Following tags gives none or
one after the same number of steps, with the same counters. -/
structure AnswerAlike (x y : Index) : Prop where
  document : ∀ uri query mode scope, x.searchDocument uri query mode scope = y.searchDocument uri query mode scope
  definitions : ∀ uri query mode origin,
    x.searchDefinition uri query mode origin = y.searchDefinition uri query mode origin
  workspace : ∀ query mode, x.searchWorkspace query mode = y.searchWorkspace query mode
  walk : ∀ uri, x.walk uri = y.walk uri
  visits : ∀ (m : Type → Type) [Monad m] (uri : Uri) (f : Document → SearchScope → m Unit),
    x.visit uri f = y.visit uri f
  modules : ∀ required, x.resolve? required = y.resolve? required
  tags : ∀ fuel stats path uri,
    Inference.resolve? x .definition fuel stats path uri = Inference.resolve? y .definition fuel stats path uri
  definition : ∀ uri p, definition? x uri p = definition? y uri p
  references : ∀ uri p, references x uri p = references y uri p
  outline : ∀ uri, outline x uri = outline y uri

/-- Indexes that differ in their stubs only give the same answers. -/
theorem answerAlike_of_withoutStubs {x y : Index} (h : x.withoutStubs = y.withoutStubs) : AnswerAlike x y where
  document uri query mode scope := by
    rw [← withoutStubs_searchDocument x, h, withoutStubs_searchDocument]
  definitions uri query mode origin := by
    rw [← withoutStubs_searchDefinition x, h, withoutStubs_searchDefinition]
  workspace query mode := by
    rw [← withoutStubs_searchWorkspace x, h, withoutStubs_searchWorkspace]
  walk uri := by
    rw [← withoutStubs_walk x, h, withoutStubs_walk]
  visits m _ uri f := by
    rw [← withoutStubs_visit x, h, withoutStubs_visit]
  modules required := by
    rw [← Index.withoutStubs_resolve? x, h, Index.withoutStubs_resolve?]
  tags fuel stats path uri := by
    rw [← Inference.withoutStubs_resolve? x, h, Inference.withoutStubs_resolve?]
  definition uri p := by
    rw [← withoutStubs_definition? x, h, withoutStubs_definition?]
  references uri p := by
    rw [← withoutStubs_references x, h, withoutStubs_references]
  outline uri := by
    rw [← withoutStubs_outline x, h, withoutStubs_outline]

/-- Whether stubs are built, which ones, when and from what shows in completions only: runs that are the same up to
their stub builds end in indexes that give the same answers to all else. -/
theorem stubs_show_in_completion_only (x : Index) {steps steps' : List Step}
    (h : (steps.filter fun s => !s.buildsStub) = steps'.filter fun s => !s.buildsStub) :
    AnswerAlike (x.run steps) (x.run steps') := by
  refine answerAlike_of_withoutStubs ?_
  rw [run_withoutStubs, run_withoutStubs, h]

def stubUri : Uri := ⟨"file:///stub.lua"⟩

set_option maxRecDepth 100000 in
/-- A stub is offered where there is nothing else to offer, and all other answers are the same without it. -/
theorem stub_is_only_offered :
    let x := (Index.empty {}).run [.register stubUri, .build .empty .stdlib stubUri (some "x=1")]
    let y := (Index.empty {}).run [.register stubUri]
    (x.searchCompletion stubUri "x" .exactlyEqual).map (·.searchName) = ["x"] ∧
      y.searchCompletion stubUri "x" .exactlyEqual = [] ∧ AnswerAlike x y :=
  ⟨by decide +kernel, by decide +kernel, stubs_show_in_completion_only _ rfl⟩

end Query

end LuaAtlas
