/-
Runs of an index: registering modules, building documents, forgetting them all. A build is the
replacement of one document and, in the workspace, the link loop behind it; a registered module keeps
its URI until everything is forgotten.
-/
import LuaAtlas.Proofs.Index.Link

namespace LuaAtlas.Index

/-! ## Registering -/

/-- Registering appends to the modules and touches nothing else. -/
theorem register_eq (x : Index) (uri : Uri) :
    ∃ more, x.register uri = { x with modules := x.modules ++ more } := by
  unfold register
  split
  · exact ⟨[], by rw [List.append_nil]⟩
  · exact ⟨_, rfl⟩

theorem mem_register {x : Index} {uri : Uri} {m : String × Uri} (h : m ∈ (x.register uri).modules) :
    m ∈ x.modules ∨ m = (uri.moduleName, uri) := by
  unfold register at h
  split at h
  · exact .inl h
  · simpa using h

@[simp] theorem register_config (x : Index) (uri : Uri) : (x.register uri).config = x.config := by
  obtain ⟨more, h⟩ := register_eq x uri; rw [h]

@[simp] theorem register_library (x : Index) (uri : Uri) (shelf : Shelf) :
    (x.register uri).library shelf = x.library shelf := by
  obtain ⟨more, h⟩ := register_eq x uri; rw [h]; cases shelf <;> rfl

@[simp] theorem register_document? (x : Index) (uri v : Uri) : (x.register uri).document? v = x.document? v :=
  congrArg (·.find? v) (register_library x uri .workspace)

/-- What a `require` argument stands for never changes. -/
theorem register_resolve? {x : Index} {required : String} {t : Uri} (h : x.resolve? required = some t) (uri : Uri) :
    (x.register uri).resolve? required = some t := by
  obtain ⟨more, hr⟩ := register_eq x uri
  unfold resolve? at h ⊢
  obtain ⟨m, hm, rfl⟩ := Option.map_eq_some_iff.1 h
  rw [hr, List.find?_append, hm]
  rfl

theorem register_targets {x : Index} {d : Document} {t : Uri} (h : t ∈ x.targets d) (uri : Uri) :
    t ∈ (x.register uri).targets d := by
  obtain ⟨r, hr, ht⟩ := mem_targets.1 h
  exact mem_targets.2 ⟨r, hr, register_resolve? ht uri⟩

/-! ## Building -/

theorem buildText_workspace (x : Index) (disk : Disk) (uri : Uri) (text : String) :
    (x.buildText disk .workspace uri text).1 = link disk ((x.register uri).rebuild .workspace uri text).1 uri := by
  unfold buildText; rw [if_pos rfl]

theorem buildText_state (x : Index) (disk : Disk) (uri : Uri) (text : String) :
    (x.buildText disk .workspace uri text).2 = ((x.register uri).rebuild .workspace uri text).2 := by
  unfold buildText; rw [if_pos rfl]

theorem buildText_stub (x : Index) (disk : Disk) {shelf : Shelf} (hs : shelf ≠ .workspace) (uri : Uri) (text : String) :
    x.buildText disk shelf uri text = x.rebuild shelf uri text := by
  unfold buildText; rw [if_neg hs]

section

variable {x : Index} {disk : Disk} {shelf : Shelf} {uri : Uri} {text? : Option String}

theorem build_of_ok {text : String} (h : x.sourceText disk uri text? = .ok text) : x.build disk shelf uri text? =
    ((x.buildText disk shelf uri text).1, .ok (x.buildText disk shelf uri text).2) := by
  unfold build
  rw [h]

theorem build_of_error {err : BuildError} (h : x.sourceText disk uri text? = .error err) :
    x.build disk shelf uri text? = (x, .error err) := by
  unfold build
  rw [h]

/-- A build that succeeds builds from some text: the given one or that of the file. -/
theorem build_ok {y : Index} {state : DocumentState} (h : x.build disk shelf uri text? = (y, .ok state)) :
    ∃ text, x.sourceText disk uri text? = .ok text ∧ x.buildText disk shelf uri text = (y, state) := by
  cases ht : x.sourceText disk uri text? with
  | error e =>
    rw [build_of_error ht] at h
    cases h
  | ok text =>
    rw [build_of_ok ht] at h
    cases h
    exact ⟨text, rfl, rfl⟩

/-- A build that fails fails for want of a text, and has changed nothing. -/
theorem build_error {y : Index} {err : BuildError} (h : x.build disk shelf uri text? = (y, .error err)) :
    x.sourceText disk uri text? = .error err ∧ y = x := by
  cases ht : x.sourceText disk uri text? with
  | error e =>
    rw [build_of_error ht] at h
    cases h
    exact ⟨rfl, rfl⟩
  | ok text =>
    rw [build_of_ok ht] at h
    cases h

end

/-- After a workspace build the document is there. -/
theorem buildText_self (x : Index) (disk : Disk) (uri : Uri) (text : String) :
    ∃ d, (x.buildText disk .workspace uri text).1.document? uri = some d := by
  rw [buildText_workspace]
  obtain ⟨d, hd⟩ := rebuild_self (x.register uri) uri text
  obtain ⟨e, he, -⟩ := link_old hd hd
  exact ⟨e, he⟩

/-! ## Runs -/

/-- An operation on an index. A build comes with the disk as it is then. -/
inductive Step
  | register (uri : Uri)
  | build (disk : Disk) (shelf : Shelf) (uri : Uri) (text? : Option String)
  | reset
  | init (config : Config)

/-- Whether an operation forgets all documents. -/
def Step.forgets : Step → Bool
  | .reset | .init _ => true
  | _ => false

/-- The index after an operation. -/
def step (x : Index) : Step → Index
  | .register uri => x.register uri
  | .build disk shelf uri text? => (x.build disk shelf uri text?).1
  | .reset => x.reset
  | .init config => empty config

/-- A build goes through with some text, or it fails for want of one and changes nothing. -/
theorem step_build (x : Index) (disk : Disk) (shelf : Shelf) (uri : Uri) (text? : Option String) :
    (∃ text, x.sourceText disk uri text? = .ok text ∧
      x.step (.build disk shelf uri text?) = (x.buildText disk shelf uri text).1) ∨
    (∃ err, x.sourceText disk uri text? = .error err ∧ x.step (.build disk shelf uri text?) = x) := by
  cases ht : x.sourceText disk uri text? with
  | ok text => exact .inl ⟨text, rfl, congrArg Prod.fst (build_of_ok ht)⟩
  | error err => exact .inr ⟨err, rfl, congrArg Prod.fst (build_of_error ht)⟩

theorem step_build_eq (x : Index) (disk : Disk) (shelf : Shelf) (uri : Uri) (text? : Option String) :
    x.step (.build disk shelf uri text?) =
      match x.sourceText disk uri text? with
      | .ok text => (x.buildText disk shelf uri text).1
      | .error _ => x := by
  rcases step_build x disk shelf uri text? with ⟨text, ht, hx⟩ | ⟨err, he, hx⟩
  · rw [hx, ht]
  · rw [hx, he]

/-- The index after operations in order. -/
def run (x : Index) (steps : List Step) : Index := steps.foldl step x

/-- What each operation keeps, a run keeps. -/
theorem run_induction {P : Index → Prop} : ∀ (steps : List Step), (∀ x, ∀ s ∈ steps, P x → P (x.step s)) →
    ∀ x, P x → P (x.run steps)
  | [], _, _, h => h
  | s :: steps, hs, x, h =>
    run_induction steps (fun y t ht => hs y t (List.mem_cons_of_mem _ ht)) (x.step s) (hs x s (List.mem_cons_self ..) h)

theorem run_cons (x : Index) (s : Step) (steps : List Step) : x.run (s :: steps) = (x.step s).run steps := rfl

end LuaAtlas.Index
