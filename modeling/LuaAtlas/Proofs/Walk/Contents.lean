/-
What a document takes over from its file. The modules it requires are those of the `require` calls, its chunks are the
file and the bodies of the functions, and each of its symbols is a declared name that owns the function which the
declaration gives to it. Nothing of this depends on where in the file a call or a function stands.
-/
import LuaAtlas.Proofs.Walk.Globals
import LuaAtlas.Proofs.Walk.Landmarks
import LuaAtlas.Proofs.Walk.Publication
import Mathlib

namespace LuaAtlas

open LuaAtlas.Syntax LuaAtlas.Walk LuaAtlas.Declare

/-! ## Specifications -/

/-- The edge of a call, if the variable `require` is called with one string and nothing else. -/
def Syntax.requireEdge? : Expr × List Expr × Range → Option Edge
  | (.ident f, [.string module _], range) => if f.name = "require" then some ⟨module, range⟩ else none
  | _ => none

/-- The chunk of a function under the name that the function is bound to, or else under the line it starts on. -/
def Syntax.bodyChunk : Option String × FuncBody → Chunk
  | (name?, f) => ⟨name?.getD ("function@" ++ toString (f.range.start.line + 1)), f.range, f.body.lastReturned?⟩

/-- The symbol of a declared name. It owns the function that the name is the name of. -/
structure Symbol.IsOf (y : Symbol) (n : Declared) : Prop where
  name : y.searchName = Name.normalize n.name
  range : y.range = n.range
  isFunction : y.kind = .func → y.ownedChunk?.isSome = true
  owned : y.ownedChunk? = n.function?.map fun f => ⟨n.name, f.range, f.body.lastReturned?⟩

namespace Walk

/-! ## Returned variables -/

mutual

theorem stmtsReturn?_eq : ∀ ss : List Stmt, stmtsReturn? ss = ((stmtsInside ss).filterMap Stmt.returned?).getLast?
  | [] => by
    rw [stmtsReturn?, stmtsInside]
    rfl
  | s :: ss => by
    rw [stmtsReturn?, stmtsInside, List.filterMap_append, List.getLast?_append, stmtsReturn?_eq ss, stmtReturn?_eq s]

theorem stmtReturn?_eq : ∀ s : Stmt, stmtReturn? s = ((s :: stmtInside s).filterMap Stmt.returned?).getLast?
  | .ret values range => by
    have hreturn : stmtReturn? (.ret values range) = Stmt.returned? (.ret values range) := by
      rcases values with _ | ⟨e, _ | ⟨e', es⟩⟩
      · rfl
      · cases e <;> rfl
      · cases e <;> rfl
    rw [hreturn, show stmtInside (.ret values range) = [] from rfl]
    cases h : Stmt.returned? (.ret values range) <;> simp [h]
  | .branch clauses range => by
    rw [stmtReturn?, stmtInside, List.filterMap_cons_none rfl]
    exact clausesReturn?_eq clauses
  | .whileLoop _ body _ | .repeatLoop body _ _ | .doBlock body _ | .numericFor _ _ _ _ body _
  | .genericFor _ _ body _ => by
    rw [stmtReturn?, stmtInside, List.filterMap_cons_none rfl]
    exact blockReturn?_eq body
  | .localVars .. | .assign .. | .funcDecl .. | .call .. => rfl

theorem clausesReturn?_eq : ∀ cs : List Clause,
    clausesReturn? cs = ((clausesInside cs).filterMap Stmt.returned?).getLast?
  | [] => by
    rw [clausesReturn?, clausesInside]
    rfl
  | .mk condition? body :: cs => by
    rw [clausesReturn?, clausesInside, List.filterMap_append, List.getLast?_append, clausesReturn?_eq cs,
      blockReturn?_eq body]

theorem blockReturn?_eq : ∀ b : Block, blockReturn? b = ((blockInside b).filterMap Stmt.returned?).getLast?
  | .mk stmts range => by
    rw [blockReturn?, blockInside]
    exact stmtsReturn?_eq stmts

end

theorem functionChunk_eq (name : String) (f : FuncBody) :
    functionChunk name f = ⟨name, f.range, f.body.lastReturned?⟩ := by
  unfold functionChunk Block.lastReturned?
  rw [blockReturn?_eq]

theorem functionChunk_getD (name? : Option String) (f : FuncBody) :
    functionChunk (name?.getD (anonymousName f)) f = bodyChunk (name?, f) := functionChunk_eq _ f

/-! ## What events tell -/

theorem requires_append (es fs : List Event) : requires (es ++ fs) = requires es ++ requires fs := List.filterMap_append

theorem chunks_append (es fs : List Event) : chunks (es ++ fs) = chunks es ++ chunks fs := List.filterMap_append

theorem declarations_append (es fs : List Event) : declarations (es ++ fs) = declarations es ++ declarations fs :=
  List.filterMap_append

theorem requireEdge?_eq (callee : Expr) (args : List Expr) (range : Range) :
    requireEdge? (callee, args, range) = (requiredModule? callee args).map (⟨·, range⟩) := by
  rcases args with _ | ⟨arg, _ | ⟨arg', args⟩⟩
  · cases callee <;> rfl
  · cases arg with
    | string module _ =>
      cases callee with
      | ident f => simp [requireEdge?, requiredModule?, Expr.isNamed, apply_ite (Option.map _)]
      | _ => rfl
    | _ => cases callee <;> rfl
  · cases callee <;> cases arg <;> rfl

section

variable (binding? : Option Binding) (callee : Expr) (args : List Expr) (range : Range)

theorem requires_callFacts :
    requires (callFacts binding? callee args range) = (requireEdge? (callee, args, range)).toList := by
  unfold callFacts
  rw [requires_append, requireEdge?_eq, ← List.append_nil (Option.toList _)]
  congr 1
  · cases hm : requiredModule? callee args with
    | none => rfl
    | some m =>
      cases args with
      | nil => cases hm
      | cons arg args => rfl
  · split
    · rfl
    · split <;> rfl

/-- Besides required modules a call tells only asides. -/
theorem filterMap_callFacts {β : Type} {f : Event → Option β}
    (hrequired : ∀ edge argument, f (.required edge argument) = none)
    (haside : ∀ e : Event, e.isAside = true → f e = none) :
    (callFacts binding? callee args range).filterMap f = [] := by
  unfold callFacts
  rw [List.filterMap_append]
  apply List.append_eq_nil_iff.2
  constructor
  · split
    · simp [hrequired]
    · rfl
  · split
    · exact List.filterMap_cons_none (haside _ rfl)
    · split
      · exact List.filterMap_cons_none (haside _ rfl)
      · rfl

theorem chunks_callFacts : chunks (callFacts binding? callee args range) = [] := by
  apply filterMap_callFacts _ _ _ _ (fun _ _ => rfl)
  intro e he
  cases e with
  | opened chunk => cases he
  | _ => rfl

theorem declarations_callFacts : declarations (callFacts binding? callee args range) = [] := by
  apply filterMap_callFacts _ _ _ _ (fun _ _ => rfl)
  intro e he
  cases e with
  | declared d => cases he
  | _ => rfl

end

/-- Nothing but the name of the callee is met in what a `require` call calls. -/
theorem requires_callee {c : Context} {callee : Expr} {args : List Expr} {range : Range} {edge : Edge}
    (h : requireEdge? (callee, args, range) = some edge) : requires (exprEvents c callee) = [] := by
  unfold requireEdge? at h
  split at h
  · rename_i hcall
    cases hcall
    rw [exprEvents]
    unfold use
    split <;> rfl
  · cases h

namespace Passes

variable {ls : List Landmark} {es : List Event}

/-- A module is required by each `require` call, in order. -/
theorem requires_eq (h : Passes ls es) : requires es = (ls.filterMap Landmark.call?).filterMap requireEdge? := by
  induction h with
  | nil => rfl
  | append _ _ ih ih' => rw [requires_append, ih, ih', List.filterMap_append, List.filterMap_append]
  | @aside e he =>
    cases e with
    | required edge range => cases he
    | _ => rfl
  | stmt _ ih => exact ih
  | @call ls ms c callee args binding? range _ _ ih ih' =>
    rw [requires_append, requires_append, requires_callFacts, ih', List.cons_append,
      List.filterMap_cons_some (f := Landmark.call?) (b := (callee, args, range)) rfl, List.filterMap_append,
      List.filterMap_cons, List.filterMap_append]
    cases hedge : requireEdge? (callee, args, range) with
    | none => rw [ih, Option.toList_none, List.append_nil]
    | some edge =>
      have hcallee := requires_callee (c := c) hedge
      rw [hcallee, ← ih, hcallee]
      rfl
  | body name? f => rfl
  | declared h => rfl

/-- A chunk is opened for each body, in order. -/
theorem chunks_eq (h : Passes ls es) : chunks es = (ls.filterMap Landmark.body?).map bodyChunk := by
  induction h with
  | nil => rfl
  | append _ _ ih ih' => rw [chunks_append, ih, ih', List.filterMap_append, List.map_append]
  | @aside e he =>
    cases e with
    | opened chunk => cases he
    | _ => rfl
  | stmt _ ih => exact ih
  | call binding? range _ _ ih ih' =>
    rw [chunks_append, chunks_append, chunks_callFacts, List.append_nil, ih, ih', List.cons_append,
      List.filterMap_cons_none rfl, List.filterMap_append, List.map_append]
  | body name? f => exact congrArg ([·]) (functionChunk_getD name? f)
  | declared h => rfl

/-- A declaration is made for each declared name, in order. -/
theorem declarations_eq (h : Passes ls es) :
    List.Forall₂ Declaration.IsOf (declarations es) (ls.filterMap Landmark.declared?) := by
  induction h with
  | nil => exact .nil
  | append _ _ ih ih' =>
    rw [declarations_append, List.filterMap_append]
    exact List.rel_append ih ih'
  | @aside e he =>
    cases e with
    | declared d => cases he
    | _ => exact .nil
  | stmt _ ih => exact ih
  | call binding? range _ _ ih ih' =>
    rw [declarations_append, declarations_append, declarations_callFacts, List.append_nil, List.cons_append,
      List.filterMap_cons_none rfl, List.filterMap_append]
    exact List.rel_append ih ih'
  | body name? f => exact .nil
  | declared h => exact .cons h .nil

end Passes

end Walk

namespace Document

/-- No module and no body is lost, and none is met twice: a document requires one module for each `require` call of
its file, wherever the call stands, and has one chunk for the file and one for each function, in the order of the
walk. -/
theorem requires_and_chunks_of_file (shelf : Shelf) (uri : Uri) (state : DocumentState) (file : File) :
    let d := ofFile shelf uri state file
    d.requires = file.calls.filterMap requireEdge? ∧
      d.chunks = ⟨uri.fileName, file.range, file.body.lastReturned?⟩ :: file.functions.map bodyChunk := by
  obtain ⟨es, hes, hpasses⟩ := passes_file uri file
  constructor
  · show Declare.requires (events uri file) = _
    rw [hes]
    exact hpasses.requires_eq
  · show Declare.chunks (events uri file) = _
    have hfile : Declare.chunks (.opened (fileChunk uri file) :: es) = fileChunk uri file :: Declare.chunks es := rfl
    rw [hes, hfile, hpasses.chunks_eq]
    unfold fileChunk
    rw [blockReturn?_eq]
    rfl

section

variable (shelf : Shelf) (uri : Uri) (state : DocumentState) (file : File)

theorem declarations_of_file :
    List.Forall₂ Declaration.IsOf (declarations (events uri file)) file.declared := by
  obtain ⟨es, hes, hpasses⟩ := passes_file uri file
  rw [hes]
  exact hpasses.declarations_eq

/-- The symbols of a file, apart from what was learnt about their values. -/
theorem symbols_ofFile_plain : (ofFile shelf uri state file).symbols.map Symbol.plain =
    (effective [] (events uri file)).map (symbolOf shelf uri · |>.plain) := symbols_plain shelf uri _ _

theorem isOf_symbolOf {d : Declaration} {n : Declared} (h : d.IsOf n) : (symbolOf shelf uri d).plain.IsOf n := by
  have howned : d.ownedChunk? = n.function?.map fun f => ⟨n.name, f.range, f.body.lastReturned?⟩ := by
    rw [h.owned]
    congr 1
    exact funext (functionChunk_eq n.name)
  refine ⟨congrArg Name.normalize h.name, h.range, ?_, howned⟩
  intro hkind
  show d.ownedChunk?.isSome = true
  rw [h.owned, Option.isSome_map]
  exact h.kind hkind

/-- Every name that is declared is the name of a symbol. -/
theorem exists_symbol_of_declaration {d : Declaration} (hd : d ∈ declarations (events uri file)) :
    ∃ y ∈ (ofFile shelf uri state file).symbols, y.searchName = Name.normalize d.name := by
  have hsome : ((declarations (events uri file)).find? fun e => Name.normalize e.name = Name.normalize d.name).isSome :=
    List.find?_isSome.2 ⟨d, hd, by simp⟩
  obtain ⟨e, he⟩ := Option.isSome_iff_exists.1 hsome
  have hname : Name.normalize e.name = Name.normalize d.name := by simpa using List.find?_some he
  have hcounts : e ∈ effective [] (events uri file) := effective_of_first he
  have hmem := List.mem_map_of_mem (f := (symbolOf shelf uri · |>.plain)) hcounts
  rw [← symbols_ofFile_plain shelf uri state file] at hmem
  obtain ⟨y, hy, hplain⟩ := List.mem_map.1 hmem
  exact ⟨y, hy, (congrArg Symbol.searchName hplain).trans hname⟩

end

/-- Each symbol of a document is, in order, a declared name of the file. It owns the function that the declaration
gives to this name, with the variable that the body returns last, and every function symbol owns one. No declared name
is left without a symbol. -/
theorem symbols_own_their_functions (shelf : Shelf) (uri : Uri) (state : DocumentState) (file : File) :
    let d := ofFile shelf uri state file
    List.SublistForall₂ Symbol.IsOf d.symbols file.declared ∧
      file.declared.map (Name.normalize ·.name) ⊆ d.symbols.map (·.searchName) := by
  intro d
  have hdeclared := declarations_of_file uri file
  constructor
  · -- the declarations that count are among those of the declared names, and each makes a symbol
    have hall : List.Forall₂ (fun d n => (symbolOf shelf uri d).plain.IsOf n) (declarations (events uri file))
        file.declared := hdeclared.imp fun _ _ h => isOf_symbolOf shelf uri h
    have hcount := sublistForall₂_of_sublist (effective_sublist (events uri file) [])
      (List.sublistForall₂_iff.2 ⟨_, hall, List.Sublist.refl _⟩)
    have hplain : List.SublistForall₂ Symbol.IsOf (d.symbols.map Symbol.plain) file.declared := by
      rw [symbols_ofFile_plain, List.sublistForall₂_map_left_iff]
      exact hcount
    rw [List.sublistForall₂_map_left_iff] at hplain
    obtain ⟨ns, hns, hsub⟩ := List.sublistForall₂_iff.1 hplain
    refine List.sublistForall₂_iff.2 ⟨ns, ?_, hsub⟩
    exact hns.imp fun _ _ h => ⟨h.name, h.range, h.isFunction, h.owned⟩
  · intro name hname
    obtain ⟨n, hn, rfl⟩ := List.mem_map.1 hname
    obtain ⟨d', hd, hof⟩ : ∃ d' ∈ declarations (events uri file), d'.IsOf n := by
      obtain ⟨i, hi, rfl⟩ := List.getElem_of_mem hn
      have hi' : i < (declarations (events uri file)).length := hdeclared.length_eq ▸ hi
      exact ⟨_, List.getElem_mem hi', hdeclared.get hi' hi⟩
    obtain ⟨y, hy, hfound⟩ := exists_symbol_of_declaration shelf uri state file hd
    exact List.mem_map.2 ⟨y, hy, by rw [hfound, hof.name]⟩

end Document

end LuaAtlas
