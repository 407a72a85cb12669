/-
Which document a `require` argument stands for. The name a URI is registered under and the key an argument is looked
up by are cut out of their texts in two ways: the one is the file name up to its last dot, the other the last part
between dots and slashes behind a dropped `.lua`. They meet where the name has no dot. In every run an argument stands
for the URI that was registered first under its key since all was last forgotten, and keeps standing for it.
-/
import LuaAtlas.Proofs.Index.Untouched
import LuaAtlas.Proofs.Name

namespace LuaAtlas

open LuaAtlas.Text

/-! ## Endings -/

namespace Text

theorem dropEnd?_append (s ending : String) : dropEnd? ending (s ++ ending) = some s := by
  have hsuffix : ending.toList.isSuffixOf (s ++ ending).toList = true := by
    rw [List.isSuffixOf_iff_suffix, String.toList_append]
    exact List.suffix_append ..
  unfold dropEnd?
  rw [if_pos hsuffix, String.toList_append, List.length_append, Nat.add_sub_cancel, List.take_left, String.ofList_toList]

theorem dropEnd?_eq_none {ending s : String} (h : ¬ ending.toList <:+ s.toList) : dropEnd? ending s = none := by
  rw [← List.isSuffixOf_iff_suffix] at h
  unfold dropEnd?
  rw [if_neg h]

theorem mem_of_mem_beforeLast? {isSeparator : Char → Bool} {cs before : List Char} {c : Char}
    (h : beforeLast? isSeparator cs = some before) (hc : c ∈ before) : c ∈ cs := by
  unfold beforeLast? at h
  split at h
  · cases h
  · rename_i d rest heq
    cases h
    have hsub : c ∈ cs.reverse.dropWhile (!isSeparator ·) := by
      rw [heq]
      exact List.mem_cons_of_mem _ (List.mem_reverse.1 hc)
    exact List.mem_reverse.1 ((List.dropWhile_suffix _).subset hsub)

end Text

/-! ## Keys -/

/-- What parts a `require` argument. -/
def isKeySeparator (c : Char) : Bool := c = '.' || c = '/' || c = '\\'

theorem isKeySeparator_iff {c : Char} : isKeySeparator c = true ↔ c = '.' ∨ c = '/' ∨ c = '\\' := by
  simp [isKeySeparator, or_assoc]

theorem toList_moduleKey (required : String) :
    (moduleKey required).toList = lastPart isKeySeparator ((dropEnd? ".lua" required).getD required).toList :=
  String.toList_ofList

/-- A key has no separators in it. -/
theorem not_mem_moduleKey {required : String} {c : Char} (hc : isKeySeparator c = true) :
    c ∉ (moduleKey required).toList := by
  rw [toList_moduleKey]
  intro h
  rw [isSeparator_of_mem_lastPart h] at hc
  cases hc

/-- Behind a separator stands the last part, if there are no more separators. -/
theorem lastPart_stem {p m : List Char} {c : Char} (hc : isKeySeparator c = true)
    (hm : ∀ d ∈ m, isKeySeparator d = false) : lastPart isKeySeparator (p ++ c :: m) = m := by
  rw [lastPart_append_cons hc, lastPart_eq_self hm]

/-- A stem is its own key. -/
theorem moduleKey_stem {m : String} (hm : ∀ d ∈ m.toList, isKeySeparator d = false) : moduleKey m = m := by
  have hsuffix : ¬ ".lua".toList <:+ m.toList := by
    intro h
    have hdot := hm '.' (h.subset (by decide))
    cases hdot
  refine String.ext ?_
  rw [toList_moduleKey, dropEnd?_eq_none hsuffix, Option.getD_none, lastPart_eq_self hm]

/-- A stem behind a separator is the key, unless the two are the ending that is dropped. -/
theorem moduleKey_behind {p m : String} {c : Char} (hc : isKeySeparator c = true)
    (hm : ∀ d ∈ m.toList, isKeySeparator d = false) (hlua : ¬ (c = '.' ∧ m = "lua")) :
    moduleKey (p ++ c.toString ++ m) = m := by
  have hlist : (p ++ c.toString ++ m).toList = p.toList ++ c :: m.toList := by simp
  have hsuffix : ¬ ".lua".toList <:+ (p ++ c.toString ++ m).toList := by
    rintro ⟨q, hq⟩
    rw [hlist] at hq
    have hend : ".lua".toList = '.' :: "lua".toList := by decide
    rw [hend] at hq
    -- both sides have the same last part, and so the same separator in front of it
    have hpart := congrArg (lastPart isKeySeparator) hq
    rw [lastPart_stem hc hm, lastPart_stem (by decide) (by simp [isKeySeparator])] at hpart
    rw [hpart] at hq
    obtain ⟨-, hcons⟩ := List.append_inj' hq rfl
    exact hlua ⟨(List.cons.inj hcons).1.symm, String.ext hpart.symm⟩
  refine String.ext ?_
  rw [toList_moduleKey, dropEnd?_eq_none hsuffix, Option.getD_none, hlist, lastPart_stem hc hm]

/-- With the ending behind it, any stem behind a separator is the key. -/
theorem moduleKey_behind_lua {p m : String} {c : Char} (hc : isKeySeparator c = true)
    (hm : ∀ d ∈ m.toList, isKeySeparator d = false) : moduleKey (p ++ c.toString ++ m ++ ".lua") = m := by
  have hlist : (p ++ c.toString ++ m).toList = p.toList ++ c :: m.toList := by simp
  refine String.ext ?_
  rw [toList_moduleKey, dropEnd?_append, Option.getD_some, hlist, lastPart_stem hc hm]

/-! ## Names -/

theorem toList_fileName (u : Uri) :
    u.fileName.toList = lastPart (fun c => c = '/' || c = '\\') u.text.toList :=
  String.toList_ofList

theorem moduleName_subset (u : Uri) : u.moduleName.toList ⊆ u.fileName.toList := by
  intro c hc
  unfold Uri.moduleName at hc
  split at hc
  · rename_i d ds heq
    rw [String.toList_ofList] at hc
    exact mem_of_mem_beforeLast? heq hc
  · exact hc

/-- A module name without dots is its own key. -/
theorem moduleKey_moduleName {u : Uri} (h : '.' ∉ u.moduleName.toList) : moduleKey u.moduleName = u.moduleName := by
  refine moduleKey_stem fun d hd => ?_
  have hslash : (d = '/' || d = '\\') = false := by
    have hmem := moduleName_subset u hd
    rw [toList_fileName] at hmem
    exact isSeparator_of_mem_lastPart hmem
  have hdot : d ≠ '.' := by
    rintro rfl
    exact h hd
  simp only [Bool.or_eq_false_iff, decide_eq_false_iff_not] at hslash
  simp [isKeySeparator, hdot, hslash]

namespace Index

/-! ## Registrations -/

/-- The URI that an operation on `x` registers: a workspace build does so as soon as it has its text. -/
def Step.registers? (x : Index) : Step → Option Uri
  | .register uri => some uri
  | .build disk .workspace uri text? => if (x.sourceText disk uri text?).isOk then some uri else none
  | _ => none

/-- The URIs registered by a run from `x` since all was last forgotten, in order; `us` are those before the run. -/
def registrations (x : Index) (us : List Uri) : List Step → List Uri
  | [] => us
  | s :: steps => registrations (x.step s) (if s.forgets then [] else us ++ (s.registers? x).toList) steps

/-- The modules of an index are the first registrations of their names. -/
def Knows (x : Index) (us : List Uri) : Prop :=
  ∀ name, (x.modules.find? (·.1 = name)).map (·.2) = us.find? (·.moduleName = name)

theorem knows_empty (config : Config) : Knows (empty config) [] := fun _ => rfl

theorem Knows.resolve? {x : Index} {us : List Uri} (h : Knows x us) (required : String) :
    x.resolve? required = us.find? (·.moduleName = moduleKey required) := h (moduleKey required)

theorem Knows.congr {x y : Index} {us : List Uri} (h : Knows x us) (hm : y.modules = x.modules) : Knows y us := by
  unfold Knows
  rw [hm]
  exact h

/-- Registering adds one URI behind the others, which counts if its name is new. -/
theorem Knows.register {x : Index} {us : List Uri} (h : Knows x us) (uri : Uri) : Knows (x.register uri) (us ++ [uri]) := by
  intro name
  rw [List.find?_append, ← h name]
  unfold Index.register
  split
  · rename_i htaken
    cases hfind : x.modules.find? (·.1 = name) with
    | some m => rfl
    | none =>
      -- a name that is not found is not that of the URI
      have hne : uri.moduleName ≠ name := by
        rintro rfl
        obtain ⟨m, hm, hname⟩ := List.any_eq_true.1 htaken
        exact List.find?_eq_none.1 hfind m hm hname
      simp [hne]
  · rw [List.find?_append]
    cases hfind : x.modules.find? (·.1 = name) with
    | some m => rfl
    | none => by_cases hname : uri.moduleName = name <;> simp [hname]

/-- What one operation does to the modules: it forgets them, registers a URI or leaves them alone. -/
theorem step_modules (x : Index) (s : Step) : (x.step s).modules =
    if s.forgets then [] else
      match s.registers? x with
      | some uri => (x.register uri).modules
      | none => x.modules := by
  cases s with
  | register uri => rfl
  | reset => rfl
  | init config => rfl
  | build disk shelf uri text? =>
    rcases step_build x disk shelf uri text? with ⟨text, ht, hy⟩ | ⟨err, he, hy⟩
    · rw [hy]
      cases shelf with
      | workspace =>
        rw [(buildText_frame x disk uri text).modules, Step.registers?, ht]
        rfl
      | stdlib | user =>
        rw [buildText_stub x disk (by decide)]
        exact (rebuild_stub_frame (by decide) uri text).2
    · rw [hy]
      cases shelf with
      | workspace =>
        rw [Step.registers?, he]
        rfl
      | stdlib | user => rfl

theorem Knows.step {x : Index} {us : List Uri} (h : Knows x us) (s : Step) :
    Knows (x.step s) (if s.forgets then [] else us ++ (s.registers? x).toList) := by
  have hm := step_modules x s
  by_cases hf : s.forgets = true
  · rw [if_pos hf] at hm ⊢
    intro name
    rw [hm]
    rfl
  · rw [if_neg hf] at hm ⊢
    cases hr : s.registers? x with
    | none =>
      rw [hr] at hm
      simpa using h.congr hm
    | some uri =>
      rw [hr] at hm
      exact (h.register uri).congr hm

theorem Knows.run : ∀ {steps : List Step} {x : Index} {us : List Uri}, Knows x us →
    Knows (x.run steps) (registrations x us steps)
  | [], _, _, h => h
  | s :: steps, x, us, h => by
    rw [run_cons, registrations]
    exact Knows.run (h.step s)

/-- As long as nothing is forgotten, registrations only come behind those there are. -/
theorem prefix_registrations : ∀ {steps : List Step} (x : Index) (us : List Uri),
    (∀ s ∈ steps, s.forgets = false) → us <+: registrations x us steps
  | [], _, us, _ => List.prefix_refl us
  | s :: steps, x, us, h => by
    rw [registrations, h s (List.mem_cons_self ..), if_neg Bool.false_ne_true]
    exact (List.prefix_append ..).trans (prefix_registrations _ _ fun t ht => h t (List.mem_cons_of_mem _ ht))

/-- An argument that stands for a URI goes on doing so until all is forgotten. -/
theorem Knows.resolve?_run {x : Index} {us : List Uri} (h : Knows x us) {required : String} {u : Uri}
    (hu : x.resolve? required = some u) {steps : List Step} (hs : ∀ s ∈ steps, s.forgets = false) :
    (x.run steps).resolve? required = some u := by
  obtain ⟨more, hmore⟩ := prefix_registrations x us hs
  rw [h.resolve?] at hu
  rw [h.run.resolve?, ← hmore, List.find?_append, hu]
  rfl

/-- The first URI of a module name is found by that very name if and only if the name has no dot. -/
theorem Knows.resolve?_moduleName {x : Index} {us : List Uri} (h : Knows x us) {u : Uri}
    (hu : us.find? (·.moduleName = u.moduleName) = some u) :
    x.resolve? u.moduleName = some u ↔ '.' ∉ u.moduleName.toList := by
  rw [h.resolve?]
  constructor
  · intro hfind hdot
    have hname : u.moduleName = moduleKey u.moduleName := by simpa using List.find?_some hfind
    rw [hname] at hdot
    exact not_mem_moduleKey (by decide) hdot
  · intro hdot
    rw [moduleKey_moduleName hdot]
    exact hu

/-- In every run a `require` argument stands for the first URI of its key among those registered since all was last
forgotten, and until all is forgotten it goes on doing so. The key of a stem without separators is the stem itself, and
so it is behind any text and a separator, with `.lua` behind it or not, unless separator and stem together are that
ending. The first URI of a module name is found by that name if and only if the name has no dot. -/
theorem require_finds_first_registered (config : Config) (steps : List Step) :
    let x := (empty config).run steps
    let us := registrations (empty config) [] steps
    (∀ required, x.resolve? required = us.find? (·.moduleName = moduleKey required)) ∧
    (∀ required u more, x.resolve? required = some u → (∀ s ∈ more, s.forgets = false) →
      (x.run more).resolve? required = some u) ∧
    (∀ (m p : String) (c : Char), (∀ d ∈ m.toList, d ≠ '.' ∧ d ≠ '/' ∧ d ≠ '\\') → c ∈ ['.', '/', '\\'] →
      ¬ (c = '.' ∧ m = "lua") → moduleKey m = m ∧ moduleKey (p ++ c.toString ++ m) = m ∧
        moduleKey (p ++ c.toString ++ m ++ ".lua") = m) ∧
    ∀ u, us.find? (·.moduleName = u.moduleName) = some u →
      (x.resolve? u.moduleName = some u ↔ '.' ∉ u.moduleName.toList) := by
  intro x us
  have h : Knows x us := (knows_empty config).run
  refine ⟨h.resolve?, fun required u more hu hmore => h.resolve?_run hu hmore, ?_, fun u hu => h.resolve?_moduleName hu⟩
  intro m p c hm hc hlua
  have hm' : ∀ d ∈ m.toList, isKeySeparator d = false := by
    intro d hd
    simpa [isKeySeparator, and_assoc] using hm d hd
  have hc' : isKeySeparator c = true := isKeySeparator_iff.2 (by simpa using hc)
  exact ⟨moduleKey_stem hm', moduleKey_behind hc' hm' hlua, moduleKey_behind_lua hc' hm'⟩

end Index

end LuaAtlas
