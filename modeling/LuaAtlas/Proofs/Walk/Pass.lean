/-
A pass over a file meets the events of the file. The visit of every part of the tree meets the events of this part, so
what a pass has gathered in the end is what is read off the events: the symbols of a document, what a cursor points at,
where a name occurs.
-/
import LuaAtlas.Proofs.Walk.Gathering
import LuaAtlas.Proofs.Walk.Values

namespace LuaAtlas.Walk

open LuaAtlas.Syntax LuaAtlas.Declare Visit

/-! ## Declarations with values -/

theorem onlyNew_withValue (d : Declaration) (functionName : String) (value? : Option Expr) :
    (d.withValue functionName value?).onlyNew = d.onlyNew := by
  unfold Declaration.withValue
  dsimp only
  split <;> rfl

theorem withValue_name (d : Declaration) (functionName : String) (value? : Option Expr) :
    (d.withValue functionName value?).name = d.name :=
  congrArg Spelling.name (d.withValue_spelling functionName value?)

/-- Both visits of a value meet its events. -/
structure Visit.Value.Meets (aim : Aim) (c : Context) (v : Value) : Prop where
  keeps : v.Keeps
  plain : Walk.Meets aim c c none (exprEvents c v.value) v.plain
  bound : ∀ b : Binding,
    MeetsValue aim c ((heldFunction? v.value).map (functionChunk b.name)) (valueEvents c b v.value) (v.bound b)

section

variable {aim : Aim} {c : Context} {es : List Event}

theorem meets_entryVisit {base : Binding} {name : String} {key : Range} {value : Expr} {m : Visit (Option Nat)}
    (h : MeetsValue aim c ((heldFunction? value).map (functionChunk name)) es m) :
    Meets aim c c none (siteOf (entryDeclaration c base name key value) ::
      .declared (entryDeclaration c base name key value) :: es) (entryVisit aim base name key value m) := by
  obtain ⟨ps, hm⟩ := h.keeps
  have hkeeps : Keeps (.declared ⟨name, key, some value⟩ :: ps) (entryVisit aim base name key value m) :=
    keeps_entryVisit aim (List.mem_cons_self ..) (hm.mono (List.subset_cons_self ..))
  refine ⟨rfl, ⟨_, hkeeps⟩, fun r hr => .bind (.now (.bind ?_))⟩
  rw [hr.entryDeclaration_eq]
  have hstack : (entryDeclaration c base name key value).stack = r.now.stack := (withValue_stack ..).trans hr.stack.symm
  have hdeclared := (Since.refl hr.sound).declare aim hstack (isOf_entryDeclaration c base name key value)
    (List.mem_singleton_self _)
  refine (hdeclared.and (.declare hr.toStands (onlyNew_withValue ..))).mono ?_
  rintro i? r₁ ⟨⟨hsince, -⟩, hannounced⟩
  refine hannounced.value hr hsince ?_
  rwa [entryDeclaration, withValue_ownedChunk?]

/-! ### Places that are assigned to -/

/-- The declaration that a place makes. -/
def placeEvents (c : Context) (t : Expr) (value? : Option Expr) : List Event :=
  match t.dottedName? with
  | some name => [.declared (targetDeclaration c t name value?)]
  | none => []

/-- The events of the value of a place, if there is one. -/
def placeValueEvents (c : Context) (t : Expr) : Option Expr → List Event
  | some v =>
    match targetBinding? c t with
    | some b => valueEvents c b v
    | none => exprEvents c v
  | none => []

/-- The events of an assignment. -/
def assignEvents (c : Context) (ts vs : List Expr) : List Event :=
  alternate (List.zipWith (· ++ ·) (targetsEvents c ts) (targetDeclarations c ts vs))
    (valuesEvents c (ts.map (targetBinding? c)) vs)

theorem assignEvents_nil (c : Context) (vs : List Expr) : assignEvents c [] vs = (valuesEvents c [] vs).flatten := by
  rw [assignEvents, targetsEvents, List.zipWith_nil_left, alternate_nil_left, List.map_nil]

theorem assignEvents_cons (c : Context) (t : Expr) (ts vs : List Expr) : assignEvents c (t :: ts) vs =
    exprEvents c t ++ (placeEvents c t vs.head? ++ placeValueEvents c t vs.head? ++ assignEvents c ts vs.tail) := by
  have hplaces : targetDeclarations c (t :: ts) vs = placeEvents c t vs.head? :: targetDeclarations c ts vs.tail := rfl
  unfold assignEvents
  rw [targetsEvents, hplaces, List.zipWith_cons_cons, List.map_cons]
  cases vs with
  | nil =>
    rw [valuesEvents, List.tail_nil, valuesEvents, alternate_nil_right, alternate_nil_right, List.flatten_cons]
    simp [placeValueEvents]
  | cons v vs =>
    cases hbinding : targetBinding? c t with
    | none =>
      rw [valuesEvents, alternate]
      simp [placeValueEvents, hbinding]
    | some b =>
      rw [valuesEvents, alternate]
      simp [placeValueEvents, hbinding]

theorem meets_placeVisit {t : Expr} {value? : Option Value} (h : ∀ v ∈ value?, v.Meets aim c) :
    Meets aim c c none (placeEvents c t (value?.map (·.value)) ++ placeValueEvents c t (value?.map (·.value)))
      (placeVisit aim t value?) := by
  have hkeeps : Keeps (declaredNameIf t.dottedName? t.range (value?.map (·.value)) ++
      (value?.map fun v => Fragment.expr t.dottedName? v.value).toList) (placeVisit aim t value?) := by
    refine keeps_placeVisit aim (List.subset_append_left ..) fun v hv => ⟨(h v hv).keeps, ?_⟩
    refine List.mem_append_right _ (Option.mem_toList.2 ?_)
    rw [hv]
    rfl
  unfold placeVisit at hkeeps ⊢
  unfold placeEvents
  split at hkeeps
  · rename_i hname
    rw [hname]
    cases value? with
    | none => exact .pure
    | some v =>
      have hplain := (h v rfl).plain
      rw [Option.map_some, placeValueEvents, targetBinding?, hname]
      exact hplain
  · rename_i name hname
    rw [hname]
    refine ⟨rfl, ⟨_, hkeeps⟩, fun r hr => .bind (.now (.bind ?_))⟩
    rw [hr.targetDeclaration_eq, hr.isLocal_eq]
    have hstack : (targetDeclaration c t name (value?.map (·.value))).stack = r.now.stack :=
      (withValue_stack ..).trans hr.stack.symm
    have hdeclared := (Since.refl hr.sound).declareIf (decide (aim = .symbols) && !r.now.known.contains name) aim hstack
      (isOf_targetDeclaration c t name (value?.map (·.value))) (List.mem_singleton_self _)
    have hcondition : (decide (aim = .symbols) && !r.now.known.contains name) = (decide (aim = .symbols) &&
        !((targetDeclaration c t name (value?.map (·.value))).onlyNew &&
          r.now.known.contains (targetDeclaration c t name (value?.map (·.value))).name)) := by
      rw [targetDeclaration, onlyNew_withValue, withValue_name, Bool.true_and]
    refine (hdeclared.and (.declareIf hr.toStands hcondition)).mono ?_
    rintro i? r₁ ⟨⟨hsince, -⟩, hannounced⟩
    cases value? with
    | none =>
      refine .pure ?_
      rw [Option.map_none, placeValueEvents, List.append_nil]
      exact hannounced.gathered hr.toStands (withValue_ownedChunk? ..)
    | some v =>
      refine hannounced.value hr hsince ?_
      rw [Option.map_some, placeValueEvents, targetBinding?, hname, targetDeclaration, withValue_ownedChunk?]
      exact (h v rfl).bound ⟨name, c.isLocal name, t.range.start.line⟩

/-- Values without names. -/
theorem meets_plainValues : ∀ {vs : List Value}, (∀ v ∈ vs, v.Meets aim c) →
    Meets aim c c none (valuesEvents c [] (vs.map (·.value))).flatten (vs.forM (·.plain))
  | [], _ => .pure
  | v :: vs, h => by
    obtain ⟨hv, hvs⟩ := List.forall_mem_cons.1 h
    rw [List.map_cons, valuesEvents]
    exact hv.plain.seq (meets_plainValues hvs)

theorem meets_assignVisit : ∀ {ts : List (Expr × Visit Unit)} {vs : List Value},
    (∀ t ∈ ts, Meets aim c c none (exprEvents c t.1) t.2) → (∀ v ∈ vs, v.Meets aim c) →
    Meets aim c c none (assignEvents c (ts.map (·.1)) (vs.map (·.value))) (assignVisit aim ts vs)
  | [], vs, _, hvs => by
    rw [List.map_nil, assignEvents_nil, assignVisit]
    exact meets_plainValues hvs
  | (t, target) :: ts, vs, hts, hvs => by
    obtain ⟨ht, hts⟩ := List.forall_mem_cons.1 hts
    have hplace : Meets aim c c none _ (placeVisit aim t vs.head?) :=
      meets_placeVisit fun v hv => hvs v (List.mem_of_head? hv)
    have hrest : Meets aim c c none _ (assignVisit aim ts vs.tail) :=
      meets_assignVisit hts fun v hv => hvs v (List.mem_of_mem_tail hv)
    rw [List.map_cons, assignEvents_cons, List.head?_map, ← List.map_tail, assignVisit]
    exact .unlessDone (ht.seq (hplace.seq hrest))

/-! ### Locals -/

/-- The names of a `local` statement as bindings, with positions that are counted from `i?` if that is a position. -/
def localBindings : Option Nat → List Ident → List (Binding × Option Nat)
  | _, [] => []
  | i?, x :: xs => (⟨x.name, true, x.range.start.line⟩, i?) :: localBindings (i?.map (· + 1)) xs

/-- Where the next new symbol will stand, if the pass is for symbols. -/
def Progress.next? (aim : Aim) (s : Progress) : Option Nat := if aim = .symbols then some s.drafts.length else none

/-- A declaration that counts takes the next position. -/
theorem Announced.next {d : Declaration} {i? : Option Nat} {s s' : Progress} (h : Announced aim d es i? s s')
    (hd : d.onlyNew = false) : i? = s.next? aim ∧ s'.next? aim = (s.next? aim).map (· + 1) ∧
      (aim = .symbols → s'.declarations = s.declarations ++ [d.unowned]) := by
  have heffective : effective s.known es = [d] := by
    rw [h.counts, effective_declared, hd]
    rfl
  have hposition := h.position
  have hpending := h.pending
  rw [heffective] at hposition hpending
  unfold Progress.next?
  by_cases haim : aim = .symbols
  · have hlength := congrArg List.length (hpending haim)
    rw [length_declarations, List.length_append, length_declarations] at hlength
    rw [if_pos ⟨haim, List.cons_ne_nil _ _⟩, length_declarations] at hposition
    rw [if_pos haim, if_pos haim, hlength]
    exact ⟨hposition, rfl, hpending⟩
  · rw [if_neg fun h => haim h.1] at hposition
    rw [if_neg haim, if_neg haim]
    exact ⟨hposition, rfl, hpending⟩

theorem meets_declareLocals : ∀ (xs : List Ident) (vs : List Expr) {r : Run}, r.now.Ready c →
    Ends (declareLocals aim xs vs) r fun bs r' =>
      Met aim ((localDeclarations c xs vs).flatMap fun d => [siteOf d, .declared d]) none r.now r'.now ∧
        (aim = .symbols → r'.now.declarations =
          r.now.declarations ++ (localDeclarations c xs vs).map Declaration.unowned) ∧
        r'.now.openChunks = r.now.openChunks ∧
        (r'.now.hit? = none → r'.now.Ready c ∧ bs = localBindings (r.now.next? aim) xs)
  | [], vs, r, hr => by
    have hgathered : Gathered aim c none [] r.now.declarations r.now r.now := hr.gathered hr.locals
    exact .pure ⟨hgathered.toMet, fun _ => (List.append_nil _).symm, rfl, fun _ => ⟨hr, rfl⟩⟩
  | x :: xs, vs, r, hr => by
    refine .bind (.now (.bind ?_))
    rw [hr.localDeclaration_eq]
    have hnew : (localDeclaration c x vs.head?).onlyNew = false := onlyNew_withValue ..
    have hstack : (localDeclaration c x vs.head?).stack = r.now.stack := (withValue_stack ..).trans hr.stack.symm
    have hdeclared := (Since.refl hr.sound).declare aim hstack (isOf_localDeclaration c x vs.head?)
      (List.mem_singleton_self _)
    refine (hdeclared.and (.declare hr.toStands hnew)).mono ?_
    rintro i? r₁ ⟨⟨hsince, -⟩, hannounced⟩
    obtain ⟨rfl, hnext, hpending⟩ := hannounced.next hnew
    have hcons : localDeclarations c (x :: xs) vs =
        localDeclaration c x vs.head? :: localDeclarations c xs vs.tail := by
      cases vs <;> rfl
    rw [hcons, List.flatMap_cons, List.map_cons]
    cases hhit : r₁.now.hit? with
    | none =>
      refine .bind ((meets_declareLocals xs vs.tail (hannounced.ready hr hsince hhit)).mono ?_)
      rintro bs r₂ ⟨hmet, hdeclarations, hopen, hready⟩
      refine .pure ⟨hannounced.toMet.append hr.sound hsince.balanced.openChunks hhit hmet, fun haim => ?_,
        hopen.trans hsince.balanced.openChunks, fun hnone => ⟨(hready hnone).1, ?_⟩⟩
      · rw [hdeclarations haim, hpending haim, List.append_assoc]
        rfl
      · rw [(hready hnone).2, hnext]
        rfl
    | some a =>
      obtain ⟨p, rfl⟩ := hannounced.eq_cursor hhit
      refine .bind ((ends_declareLocals _ xs vs.tail (List.Subset.refl _) hsince.sound).mono ?_)
      rintro bs r₂ ⟨hsince₂, -, -⟩
      have hhit₂ := hsince₂.balanced.hit a hhit
      refine .pure ⟨hannounced.toMet.stop hhit hhit₂, nofun,
        hsince₂.balanced.openChunks.trans hsince.balanced.openChunks, fun hnone => ?_⟩
      rw [hhit₂] at hnone
      cases hnone

/-- A pass that is done gives no values any more. -/
theorem giveValues_done (names : List String) : ∀ (bs : List (Binding × Option Nat)) (vs : List Value) {r : Run}
    {a : Document.Hit}, r.now.hit? = some a →
    Ends (giveValues bs vs (change (.bind names))) r fun _ r' => r'.now.hit? = some a
  | bs, [], r, a, ha => by
    rw [giveValues]
    exact .change ((Balanced.bind names r.now).hit a ha)
  | [], v :: vs, r, a, ha => by
    rw [giveValues]
    exact .done ha ha
  | (b, i?) :: bs, v :: vs, r, a, ha => by
    rw [giveValues]
    exact .done ha ha

theorem unowned_localDeclarations (c : Context) (xs : List Ident) :
    (localDeclarations c xs []).map Declaration.unowned = localDeclarations c xs [] := by
  refine (List.map_congr_left fun d hd => ?_).trans (List.map_id _)
  obtain ⟨x, i, rfl⟩ := exists_of_mem_localDeclarations hd
  rfl

/-- Values without names, and then the names of the statement come into scope. -/
theorem meets_giveValues_nil (names : List String) : ∀ {vs : List Value}, (∀ v ∈ vs, v.Meets aim c) →
    Meets aim c (c.withLocals names) none (valuesEvents c [] (vs.map (·.value))).flatten
      (giveValues [] vs (change (.bind names)))
  | [], _ => by
    rw [giveValues]
    exact .bind names
  | v :: vs, hvs => by
    obtain ⟨hv, hvs⟩ := List.forall_mem_cons.1 hvs
    rw [giveValues]
    exact .unlessDone (hv.plain.seq (meets_giveValues_nil names hvs))

/-- Values that are given to new symbols. The declarations behind `before` wait for their values. -/
theorem meets_giveValues (names : List String) : ∀ (xs : List Ident) (vs : List Value) {r : Run}
    {before after : List Declaration}, r.now.Ready c → (∀ v ∈ vs, v.Meets aim c) →
    (aim = .symbols → r.now.declarations =
      before ++ ((localDeclarations c xs (vs.map (·.value))).map Declaration.unowned ++ after)) →
    Ends (giveValues (localBindings (if aim = .symbols then some before.length else none) xs) vs
        (change (.bind names))) r fun _ r' =>
      Gathered aim (c.withLocals names) none
        (valuesEvents c (xs.map fun x => some ⟨x.name, true, x.range.start.line⟩) (vs.map (·.value))).flatten
        (before ++ (localDeclarations c xs (vs.map (·.value)) ++ after)) r.now r'.now
  | xs, [], r, before, after, hr, _, hpending => by
    rw [giveValues, List.map_nil, valuesEvents]
    rw [List.map_nil, unowned_localDeclarations] at hpending
    exact ((Meets.bind names).gathers r hr).mono fun _ _ hgathered => hgathered.congr hpending
  | [], v :: vs, r, before, after, hr, hvs, hpending =>
    ((meets_giveValues_nil names hvs).gathers r hr).mono fun _ _ hgathered => hgathered.congr hpending
  | x :: xs, v :: vs, r, before, after, hr, hvs, hpending => by
    obtain ⟨hv, hvs⟩ := List.forall_mem_cons.1 hvs
    rw [localBindings, giveValues, List.map_cons, List.map_cons, valuesEvents, List.flatten_cons, localDeclarations]
    rw [List.map_cons, localDeclarations, List.map_cons] at hpending
    generalize hd : localDeclaration c x (some v.value) = d at hpending ⊢
    have howned : d.ownedChunk? = (heldFunction? v.value).map (functionChunk x.name) :=
      hd ▸ withValue_ownedChunk? (localVar c x) _ (some v.value)
    have hnext : (if aim = .symbols then some before.length else none).map (· + 1) =
        if aim = .symbols then some (before ++ [d]).length else none := by
      rw [List.length_append]
      split <;> rfl
    have hi : ∀ i ∈ if aim = .symbols then some before.length else none, i < r.now.drafts.length := by
      intro i hi
      split at hi
      · rename_i haim
        cases hi
        rw [← length_declarations, hpending haim]
        simp
      · cases hi
    refine .undone hr.undone (.bind (((hv.bound _).ownValue hr hi).mono ?_))
    rintro _ r₁ ⟨hgathered, hopen, hready⟩
    cases hhit : r₁.now.hit? with
    | none =>
      have hdeclarations (haim : aim = .symbols) : r₁.now.declarations = before ++ [d] ++
          ((localDeclarations c xs (vs.map (·.value))).map Declaration.unowned ++
            (after ++ effective r.now.known (valueEvents c ⟨x.name, true, x.range.start.line⟩ v.value))) := by
        rw [hgathered.declarations haim, if_pos haim, hpending haim, ← howned, List.cons_append, complete_unowned]
        simp
      rw [hnext]
      refine (meets_giveValues names xs vs (hready hhit) hvs hdeclarations).mono fun _ r₂ hgathered₂ => ?_
      refine .append hgathered.toMet hr.sound hopen hhit hgathered₂ fun _ => ?_
      simp
    | some a => exact (giveValues_done names _ vs hhit).mono fun _ r₂ hhit₂ => .stop hgathered.toMet hhit hhit₂

theorem meets_localsVisit (names : List Ident) {values : List Value} (hvalues : ∀ v ∈ values, v.Meets aim c) :
    Meets aim c (c.withLocals (names.map (·.name))) none
      ((localDeclarations c names (values.map (·.value))).flatMap (fun d => [siteOf d, .declared d]) ++
        (valuesEvents c (names.map fun x => some ⟨x.name, true, x.range.start.line⟩) (values.map (·.value))).flatten)
      (localsVisit aim names values) := by
  have hkeeps : Keeps (localFragments names (values.map (·.value)) ++
      valueFragments (names.map fun x => some x.name) (values.map (·.value))) (localsVisit aim names values) :=
    keeps_localsVisit aim (List.subset_append_left ..) (List.subset_append_right ..) fun v hv => (hvalues v hv).keeps
  refine ⟨rfl, ⟨_, hkeeps⟩, fun r hr => .bind ((meets_declareLocals names _ hr).mono ?_)⟩
  rintro bs r₁ ⟨hmet, hdeclarations, hopen, hready⟩
  cases hhit : r₁.now.hit? with
  | none =>
    obtain ⟨hr₁, rfl⟩ := hready hhit
    have hpending (haim : aim = .symbols) : r₁.now.declarations = r.now.declarations ++
        ((localDeclarations c names (values.map (·.value))).map Declaration.unowned ++ []) := by
      rw [hdeclarations haim, List.append_nil]
    have hcounts : effective r.now.known ((localDeclarations c names (values.map (·.value))).flatMap
        fun d => [siteOf d, .declared d]) = localDeclarations c names (values.map (·.value)) :=
      effective_flatMap _ _ (onlyNew_localDeclarations c names _)
    rw [Progress.next?, ← length_declarations]
    refine (meets_giveValues (names.map (·.name)) names values hr₁ hvalues hpending).mono fun _ r₂ hgathered => ?_
    refine .append hmet hr.sound hopen hhit hgathered fun _ => ?_
    rw [hcounts, List.append_nil]
  | some a => exact (giveValues_done _ bs values hhit).mono fun _ r₂ hhit₂ => .stop hmet hhit hhit₂

/-! ### Declared functions -/

theorem meets_declarationVisit {isLocal : Bool} {name : Expr} {f : FuncBody}
    {body : String → Option (String × Range) → Visit (Option Nat)}
    (h : MeetsValue aim c (some (functionChunk (name.dottedName?.getD (anonymousName f)) f)) es
      (body (name.dottedName?.getD (anonymousName f)) (receiver? name))) :
    Meets aim c c none
      ((name.dottedName?.map fun dotted => .declared (functionDeclaration c isLocal name dotted f)).toList ++ es)
      (declarationVisit aim isLocal name f body) := by
  obtain ⟨ps, hm⟩ := h.keeps
  have hkeeps : Keeps (declaredNameIf name.dottedName? name.range (some (.func f)) ++ ps)
      (declarationVisit aim isLocal name f body) :=
    keeps_declarationVisit aim (List.subset_append_left ..) (hm.mono (List.subset_append_right ..))
  refine ⟨rfl, ⟨_, hkeeps⟩, fun r hr => ?_⟩
  unfold declarationVisit
  split
  · rename_i hdotted
    rw [hdotted] at h ⊢
    rw [receiver?_of_unnamed hdotted] at h
    exact .bind ((h.gathers r hr).mono fun _ _ hgathered => .pure hgathered.1)
  · rename_i dotted hdotted
    rw [hdotted] at h ⊢
    refine .bind (.now (.bind ?_))
    rw [hr.functionDeclaration_eq]
    have hdeclared := (Since.refl hr.sound).declareIf (decide (aim = .symbols)) aim
      (d := functionDeclaration c isLocal name dotted f) hr.stack.symm (isOf_function ..) (List.mem_singleton_self _)
    refine (hdeclared.and (.declareIf hr.toStands (Bool.and_true _).symm)).mono ?_
    rintro i? r₁ ⟨⟨hsince, -⟩, hannounced⟩
    exact hannounced.value hr hsince h

theorem withLocals_withLocals (c : Context) (xs ys : List String) :
    (c.withLocals xs).withLocals ys = c.withLocals (ys ++ xs) := by
  unfold Context.withLocals
  rw [List.append_assoc]

end

/-! ## The visits of parts -/

section

variable {aim : Aim}

mutual

theorem meets_exprVisit (c : Context) : ∀ e : Expr, Meets aim c c none (exprEvents c e) (exprVisit aim e)
  | .ident id => by
    rw [exprEvents, exprVisit]
    exact .unlessDone (.tellUse _)
  | .member base accessor field range => by
    rw [exprEvents, exprVisit]
    exact .memberVisit _ (meets_exprVisit c base)
  | .index base key range => by
    rw [exprEvents, exprVisit]
    exact .indexVisit _ (meets_exprVisit c base) (meets_exprVisit c key)
  | .call callee args range => by
    rw [exprEvents, exprVisit]
    exact .unlessDone (.callVisit _ _ _ _ (meets_exprVisit c callee) (meets_exprsVisit c args))
  | .func f => by
    rw [exprEvents, exprVisit]
    exact .unlessDone (meets_functionVisit c (anonymousName f) none f).forget
  | .table entries range => by
    rw [exprEvents, exprVisit]
    exact .unlessDone (meets_entriesVisit c none entries)
  | .binary left right range => by
    rw [exprEvents, exprVisit]
    exact .unlessDone ((meets_exprVisit c left).seq (meets_exprVisit c right))
  | .unary operand range => by
    rw [exprEvents, exprVisit]
    exact .unlessDone (meets_exprVisit c operand)
  | .paren inner range => by
    rw [exprEvents, exprVisit]
    exact .unlessDone (meets_exprVisit c inner)
  | .string .. | .number .. | .literal _ | .vararg _ => by
    rw [exprEvents, exprVisit]
    exact .pure

theorem meets_exprsVisit (c : Context) : ∀ es : List Expr, Meets aim c c none (exprsEvents c es) (exprsVisit aim es)
  | [] => by
    rw [exprsEvents, exprsVisit]
    exact .pure
  | e :: es => by
    rw [exprsEvents, exprsVisit]
    exact (meets_exprVisit c e).seq (meets_exprsVisit c es)

theorem meets_valueVisit (c : Context) (b : Binding) : ∀ e : Expr,
    MeetsValue aim c ((heldFunction? e).map (functionChunk b.name)) (valueEvents c b e) (valueVisit aim b e)
  | .func f => by
    rw [valueEvents, valueVisit]
    exact meets_functionVisit c b.name none f
  | .table entries range => by
    rw [valueEvents, valueVisit]
    exact .noChunk (meets_entriesVisit c (some b) entries)
  | .call callee args range => by
    rw [valueEvents, valueVisit]
    exact .noChunk (.callVisit _ _ _ _ (meets_exprVisit c callee) (meets_exprsVisit c args))
  | .paren inner range => by
    rw [valueEvents, valueVisit, heldFunction?]
    exact meets_valueVisit c b inner
  | .ident id => by
    have hequated : Meets aim c c none [.equated b.line b.name id.name] (tellEquated aim b (.ident id)) :=
      .tellEquated b (.ident id)
    rw [valueEvents, valueVisit]
    exact .seq (.unlessDone (.tellUse _)) (.noChunk hequated)
  | .member base accessor field range => by
    rw [valueEvents, valueVisit]
    exact .seq (.memberVisit _ (meets_exprVisit c base)) (.noChunk (.tellEquated b _))
  | .index base key range => by
    have h := MeetsValue.seq (.indexVisit (.index base key range) (meets_exprVisit c base) (meets_exprVisit c key))
      (.noChunk (.tellEquated b (.index base key range)))
    rw [valueEvents, valueVisit]
    cases hname : (Expr.index base key range).dottedName? with
    | none =>
      rw [hname] at h
      rw [Option.map_none, Option.toList_none, List.append_nil] at h
      exact h
    | some name =>
      rw [hname, List.append_assoc] at h
      exact h
  | .binary left right range => by
    rw [valueEvents, valueVisit]
    exact .noChunk (.unlessDone ((meets_exprVisit c left).seq (meets_exprVisit c right)))
  | .unary operand range => by
    rw [valueEvents, valueVisit]
    exact .noChunk (.unlessDone (meets_exprVisit c operand))
  | .string .. | .number .. | .literal _ | .vararg _ => by
    rw [valueEvents, valueVisit]
    exact .noChunk .pure

theorem meets_valueVisits (c : Context) : ∀ vs : List Expr, ∀ v ∈ valueVisits aim vs, v.Meets aim c
  | [] => by
    rw [valueVisits]
    exact fun v hv => by cases hv
  | e :: es => by
    rw [valueVisits]
    refine List.forall_mem_cons.2 ⟨⟨?_, meets_exprVisit c e, fun b => meets_valueVisit c b e⟩, meets_valueVisits c es⟩
    exact ⟨keeps_exprVisit aim e, fun b => keepsChunk_valueVisit aim b e⟩

theorem meets_entriesVisit (c : Context) (base? : Option Binding) : ∀ es : List TableEntry,
    Meets aim c c none (entriesEvents c base? es) (entriesVisit aim base? es)
  | [] => by
    rw [entriesEvents, entriesVisit]
    exact .pure
  | e :: es => by
    rw [entriesEvents, entriesVisit]
    exact .unlessDone ((meets_tableEntryVisit c base? e).seq (meets_entriesVisit c base? es))

theorem meets_tableEntryVisit (c : Context) (base? : Option Binding) : ∀ e : TableEntry,
    Meets aim c c none (entryEvents c base? e) (tableEntryVisit aim base? e)
  | .named key value => by
    cases base? with
    | none =>
      simp only [entryEvents, tableEntryVisit, entryName?, Option.map_none]
      exact meets_exprVisit c value
    | some base =>
      simp only [entryEvents, tableEntryVisit, entryName?, Option.map_some]
      exact meets_entryVisit (meets_valueVisit c ⟨Name.field base.name key.name, base.isLocal, _⟩ value)
  | .indexed key value => by
    cases base? with
    | none =>
      simp only [entryEvents, tableEntryVisit, entryName?, Option.bind_none]
      exact (meets_exprVisit c key).seq (meets_exprVisit c value)
    | some base =>
      cases hkey : key.keySuffix? with
      | none =>
        simp only [entryEvents, tableEntryVisit, entryName?, Option.bind_some, hkey, Option.map_none]
        exact (meets_exprVisit c key).seq (meets_exprVisit c value)
      | some suffix =>
        simp only [entryEvents, tableEntryVisit, entryName?, Option.bind_some, hkey, Option.map_some]
        exact meets_entryVisit (meets_valueVisit c ⟨base.name ++ suffix, base.isLocal, _⟩ value)
  | .positional value => by
    rw [entryEvents, tableEntryVisit]
    exact meets_exprVisit c value

theorem meets_functionVisit (c : Context) (name : String) (receiver? : Option (String × Range)) : ∀ f : FuncBody,
    MeetsValue aim c (some (functionChunk name f)) (functionEvents c name receiver? f)
      (functionVisit aim name receiver? f)
  | .mk params isVararg body range => by
    have hkeeps := keepsChunk_functionVisit aim (some name) receiver? (.mk params isVararg body range)
    rw [functionVisit] at hkeeps ⊢
    have hself : Meets aim (c.enter ⟨name, range⟩) _ none _ _ := .selfVisit receiver?
    have h := hself.before ((Meets.locals params).before (meets_blockVisit _ body))
    rw [withLocals_withLocals] at h
    have hchunk := h.inScope.inChunk hkeeps
    rw [← List.append_assoc] at hchunk
    unfold functionEvents
    exact hchunk

theorem meets_blockVisit (c : Context) : ∀ b : Block,
    Meets aim c c (blockReturn? b) (blockEvents c b) (blockVisit aim b)
  | .mk stmts range => by
    rw [blockReturn?, blockEvents, blockVisit]
    obtain ⟨c', h⟩ := meets_stmtsVisit c stmts
    exact h.inScope

theorem meets_stmtsVisit (c : Context) : ∀ ss : List Stmt,
    ∃ c', Meets aim c c' (stmtsReturn? ss) (stmtsEvents c ss) (stmtsVisit aim ss)
  | [] => by
    rw [stmtsReturn?, stmtsEvents, stmtsVisit]
    exact ⟨c, .pure⟩
  | s :: ss => by
    rw [stmtsReturn?, stmtsEvents, stmtsVisit]
    obtain ⟨c', h⟩ := meets_stmtsVisit (c.withLocals (introduced s)) ss
    exact ⟨c', .unlessDone ((meets_stmtVisit c s).seq h)⟩

theorem meets_clausesVisit (c : Context) : ∀ cs : List Clause,
    Meets aim c c (clausesReturn? cs) (clausesEvents c cs) (clausesVisit aim cs)
  | [] => by
    rw [clausesReturn?, clausesEvents, clausesVisit]
    exact .pure
  | .mk (some condition) body :: cs => by
    rw [clausesReturn?, clausesEvents, clausesVisit, List.append_assoc]
    exact (meets_exprVisit c condition).before ((meets_blockVisit c body).seq (meets_clausesVisit c cs))
  | .mk none body :: cs => by
    rw [clausesReturn?, clausesEvents, clausesVisit]
    exact (meets_blockVisit c body).seq (meets_clausesVisit c cs)

theorem meets_stmtVisit (c : Context) : ∀ s : Stmt,
    Meets aim c (c.withLocals (introduced s)) (stmtReturn? s) (stmtEvents c s) (stmtVisit aim s)
  | .localVars names values range => by
    have h := meets_localsVisit names (meets_valueVisits c values)
    rw [map_valueVisits] at h
    rw [stmtEvents, stmtVisit]
    exact h
  | .assign targets values range => by
    have h := meets_assignVisit (meets_targetVisits c targets) (meets_valueVisits c values)
    rw [map_targetVisits, map_valueVisits] at h
    rw [stmtEvents, stmtVisit]
    exact h
  | .funcDecl isLocal name f range => by
    have hdeclaration (c : Context) : Meets aim c c none _
        (declarationVisit aim isLocal name f fun dotted receiver? => functionVisit aim dotted receiver? f) :=
      meets_declarationVisit (meets_functionVisit c (name.dottedName?.getD (anonymousName f)) (receiver? name) f)
    have h := (Meets.bind (c := c) (introduced (.funcDecl isLocal name f range))).seq
      ((meets_exprVisit _ name).seq (hdeclaration _))
    rw [stmtEvents, stmtVisit]
    cases hdotted : name.dottedName? with
    | none =>
      rw [hdotted] at h
      rw [receiver?_of_unnamed hdotted] at h
      exact h
    | some dotted =>
      rw [hdotted] at h
      exact h
  | .call callee args range => by
    rw [stmtEvents, stmtVisit]
    exact .callVisit _ _ _ _ (meets_exprVisit c callee) (meets_exprsVisit c args)
  | .ret values range => by
    rw [stmtEvents, stmtVisit]
    exact (Meets.returnVisit (stmtReturn? (.ret values range))).seq (meets_exprsVisit c values)
  | .branch clauses range => by
    rw [stmtEvents, stmtVisit, stmtReturn?]
    exact meets_clausesVisit c clauses
  | .whileLoop condition body range => by
    rw [stmtEvents, stmtVisit, stmtReturn?]
    exact (meets_exprVisit c condition).before (meets_blockVisit c body)
  | .repeatLoop body condition range => by
    rw [stmtEvents, stmtVisit, stmtReturn?]
    exact (meets_blockVisit c body).seq (meets_exprVisit c condition)
  | .doBlock body range => by
    rw [stmtEvents, stmtVisit, stmtReturn?]
    exact meets_blockVisit c body
  | .numericFor x start limit (some step) body range => by
    rw [stmtEvents, stmtVisit, stmtReturn?, List.append_assoc, List.append_assoc]
    exact (meets_exprVisit c start).before ((meets_exprVisit c limit).before ((meets_exprVisit c step).before
      (.inScope ((Meets.localVisit x).before (meets_blockVisit _ body)))))
  | .numericFor x start limit none body range => by
    rw [stmtEvents, stmtVisit, stmtReturn?, List.append_assoc]
    exact (meets_exprVisit c start).before ((meets_exprVisit c limit).before
      (.inScope ((Meets.localVisit x).before (meets_blockVisit _ body))))
  | .genericFor xs iterators body range => by
    rw [stmtEvents, stmtVisit, stmtReturn?, List.append_assoc]
    exact (meets_exprsVisit c iterators).before (.inScope ((Meets.locals xs).before (meets_blockVisit _ body)))

theorem meets_targetVisits (c : Context) : ∀ ts : List Expr,
    ∀ t ∈ targetVisits aim ts, Meets aim c c none (exprEvents c t.1) t.2
  | [] => by
    rw [targetVisits]
    exact fun t ht => by cases ht
  | t :: ts => by
    rw [targetVisits]
    exact List.forall_mem_cons.2 ⟨meets_exprVisit c t, meets_targetVisits c ts⟩

end

end

/-! ## Whole passes -/

/-- What a pass has gathered is what is read off the events `es` and the annotations `as` of its file. -/
structure Reads (aim : Aim) (es : List Event) (as : List Annotation) (s : Progress) : Prop where
  hit : s.hit? = es.findSome? aim.hitOf?
  uses : ∀ name, aim = .uses name → s.uses = es.filterMap (occurrence? name)
  declarations : aim = .symbols → s.declarations = effective [] es
  chunks : aim = .symbols → s.chunks = Declare.chunks es
  requires : aim = .symbols → s.requires = Declare.requires es
  annotations : aim = .symbols → s.annotations = as
  notes : aim = .symbols → s.notes = es.filter isNote

section

variable (uri : Uri) (aim : Aim) (file : File)

/-- The visit of a file begins in its chunk. -/
theorem stands_file (as : List Annotation) :
    { Progress.start.openChunk uri.fileName file.range with annotations := as }.Stands
      ⟨[(fileChunk uri file).ref], []⟩ := by
  have hsound := Progress.Sound.start.openChunk uri.fileName file.range
  exact ⟨⟨hsound.matching, hsound.owned⟩, rfl, rfl, fun _ => Iff.rfl⟩

theorem ends_pass {Q : Run → Prop} (h : Ends (inChunk uri.fileName file.range do
      annotationsVisit aim (annotations file.comments)
      blockVisit aim file.body) ⟨.start, [⟨.start, none⟩]⟩ fun _ => Q) :
    ∃ run, pass uri aim file = some run ∧ Q run := by
  obtain ⟨k?, run, hrun, hQ⟩ := h
  refine ⟨run, ?_, hQ⟩
  unfold pass
  dsimp only
  rw [hrun]
  rfl

/-- The block of a file in the chunk of the file. -/
theorem reads_block {as : List Annotation} {r : Run}
    (hr : r.now = { Progress.start.openChunk uri.fileName file.range with annotations := as }) :
    Ends (blockVisit aim file.body) r fun _ r' => Reads aim (events uri file) as r'.now.closeChunk := by
  have hstands : r.now.Stands ⟨[(fileChunk uri file).ref], []⟩ := hr ▸ stands_file uri file as
  have hevents : events uri file =
      .opened (fileChunk uri file) :: blockEvents ⟨[(fileChunk uri file).ref], []⟩ file.body := rfl
  have hopened : aim.hitOf? (.opened (fileChunk uri file)) = none := by
    cases aim <;> rfl
  have hvisit : Ends (blockVisit aim file.body) r fun _ r' =>
      Gathered aim ⟨[(fileChunk uri file).ref], []⟩ (blockReturn? file.body)
        (blockEvents ⟨[(fileChunk uri file).ref], []⟩ file.body) r.now.declarations r.now r'.now := by
    cases file.body with
    | mk stmts range =>
      obtain ⟨c', h⟩ := @meets_stmtsVisit aim ⟨[(fileChunk uri file).ref], []⟩ stmts
      rw [blockVisit, blockEvents, blockReturn?]
      exact h.ends_inScope hstands
  refine hvisit.mono fun _ r' hgathered => ?_
  rw [hr] at hgathered
  rw [hevents]
  refine ⟨?_, hgathered.uses, fun haim => ?_, fun haim => ?_, fun haim => ?_, fun haim => ?_, fun haim => ?_⟩
  · rw [List.findSome?_cons, hopened]
    exact hgathered.hit
  · exact hgathered.declarations haim
  · refine (hgathered.gathers haim).chunks.trans ?_
    cases hreturn : blockReturn? file.body with
    | none =>
      unfold fileChunk
      rw [hreturn]
      rfl
    | some name =>
      unfold fileChunk
      rw [hreturn]
      rfl
  · exact (hgathered.gathers haim).requires
  · exact (hgathered.gathers haim).annotations
  · exact (hgathered.gathers haim).notes

theorem ends_annotationsVisit (as : List Annotation) (r : Run) : Ends (annotationsVisit aim as) r fun _ r' =>
    r'.now = { r.now with annotations := if aim = .symbols then as else r.now.annotations } := by
  unfold annotationsVisit
  split
  · exact .change rfl
  · exact .pure rfl

/-- A pass comes to its end, with valid positions at every moment and each declaration inside the functions around it,
and it has gathered what is read off the events. -/
theorem pass_spec : ∃ run, pass uri aim file = some run ∧
    Reads aim (events uri file) (annotations file.comments) run.now ∧ ∀ m ∈ run.moments, m.progress.Sound ∧
      ∀ d ∈ m.declared?, DeclaredIn [.block file.body] [(fileChunk uri file).ref] d m.progress := by
  have hkeeps : Keeps [.block file.body] (do
      annotationsVisit aim (annotations file.comments)
      blockVisit aim file.body) := (keeps_annotationsVisit aim _).seq (keeps_blockVisit aim file.body)
  have hsince := hkeeps.inChunk (r := ⟨.start, [⟨.start, none⟩]⟩) uri.fileName file.range .start
  have hreads : Ends (inChunk uri.fileName file.range do
      annotationsVisit aim (annotations file.comments)
      blockVisit aim file.body) ⟨.start, [⟨.start, none⟩]⟩ fun _ r' =>
        Reads aim (events uri file) (annotations file.comments) r'.now := by
    refine .bind (.now (.bind (.change (.bind (.bind ((ends_annotationsVisit aim _ _).mono fun _ r hr => ?_))))))
    refine (reads_block uri aim file hr).mono fun _ r' hr' => .bind (.change (.pure ?_))
    exact { hr' with annotations := fun haim => (hr'.annotations haim).trans (if_pos haim) }
  refine ends_pass uri aim file ((hsince.and hreads).mono ?_)
  rintro k? run ⟨⟨hsince, -⟩, hreads⟩
  obtain ⟨ms, hms, hmoments⟩ := hsince.moments
  refine ⟨hreads, ?_⟩
  rw [hms]
  refine List.forall_mem_append.2 ⟨List.forall_mem_singleton.2 ⟨.start, fun d hd => by cases hd⟩, hmoments⟩

end

/-! ### What is read off a pass -/

/-- Changes that only notes make. -/
theorem foldl_filter_isNote {f : List Symbol → Event → List Symbol} (hf : ∀ ss e, isNote e = false → f ss e = ss)
    (es : List Event) (ss : List Symbol) : (es.filter isNote).foldl f ss = es.foldl f ss := by
  rw [List.foldl_filter]
  congr 1
  funext ss e
  split
  · rfl
  · rename_i he
    exact (hf ss e (Bool.eq_false_of_not_eq_true he)).symm

/-- A pass for symbols gathers what makes up a document. -/
theorem pass_symbols (shelf : Shelf) (uri : Uri) (file : File) : ∃ run, pass uri .symbols file = some run ∧
    run.now.symbols shelf uri = Declare.symbols shelf uri (events uri file) (annotations file.comments) ∧
    run.now.chunks = Declare.chunks (events uri file) ∧ run.now.requires = Declare.requires (events uri file) := by
  obtain ⟨run, hrun, hreads, -⟩ := pass_spec uri .symbols file
  refine ⟨run, hrun, ?_, hreads.chunks rfl, hreads.requires rfl⟩
  unfold Progress.symbols Declare.symbols tagged
  dsimp only
  rw [hreads.declarations rfl, hreads.annotations rfl, hreads.notes rfl, foldl_filter_isNote, foldl_filter_isNote,
    foldl_filter_isNote]
  all_goals
    intro ss e he
    cases e with
    | equated | metatable | called => cases he
    | _ => rfl

/-- A pass for a cursor finds what it points at. -/
theorem pass_cursor (d : Document) (p : Position) :
    (pass d.uri (.cursor p) d.source).map (·.now.hit?) = some (d.hitAt? p) := by
  obtain ⟨run, hrun, hreads, -⟩ := pass_spec d.uri (.cursor p) d.source
  rw [hrun, Option.map_some, hreads.hit]
  rfl

/-- A pass for the uses of a name finds them. -/
theorem pass_uses (d : Document) (name : String) :
    (pass d.uri (.uses name) d.source).map (·.now.uses) = some (d.occurrences name) := by
  obtain ⟨run, hrun, hreads, -⟩ := pass_spec d.uri (.uses name) d.source
  rw [hrun, Option.map_some, hreads.uses name rfl]
  rfl

/-! ## Every moment of a pass -/

/-- A visit that starts in the state `s` comes to its end, and it is balanced. -/
def BalancesAt {α : Type} (s : Progress) (m : Visit α) : Prop :=
  ∀ ms : List Moment, Ends m ⟨s, ms⟩ fun _ r' => Balanced s r'.now ∧ r'.now.Sound

/-- All visits that start in the state `s` are balanced. -/
structure AllBalanceAt (aim : Aim) (s : Progress) : Prop where
  stmt : ∀ t : Stmt, BalancesAt s (stmtVisit aim t)
  block : ∀ b : Block, BalancesAt s (blockVisit aim b)
  expr : ∀ e : Expr, BalancesAt s (exprVisit aim e)
  value : ∀ (b : Binding) (e : Expr), BalancesAt s (valueVisit aim b e)
  table : ∀ (base? : Option Binding) (es : List TableEntry), BalancesAt s (entriesVisit aim base? es)
  call : ∀ (binding? : Option Binding) (callee : Expr) (args : List Expr) (range : Range),
    BalancesAt s (callVisit aim binding? callee args range (exprVisit aim callee) (exprsVisit aim args))
  function : ∀ (name : String) (receiver? : Option (String × Range)) (f : FuncBody),
    BalancesAt s (functionVisit aim name receiver? f)

section

variable {s : Progress} {ps : List Fragment}

theorem Keeps.balancesAt {m : Visit Unit} (hm : Keeps ps m) (hs : s.Sound) : BalancesAt s m :=
  fun ms => (hm ⟨s, ms⟩ hs).mono fun _ _ h => ⟨h.balanced, h.sound⟩

theorem KeepsChunk.balancesAt {m : Visit (Option Nat)} (hm : KeepsChunk ps m) (hs : s.Sound) : BalancesAt s m :=
  fun ms => (hm ⟨s, ms⟩ hs).mono fun _ _ h => ⟨h.1.balanced, h.1.sound⟩

theorem allBalanceAt_of_sound (aim : Aim) (hs : s.Sound) : AllBalanceAt aim s where
  stmt t := (keeps_stmtVisit aim t).balancesAt hs
  block b := (keeps_blockVisit aim b).balancesAt hs
  expr e := (keeps_exprVisit aim e).balancesAt hs
  value b e := (keepsChunk_valueVisit aim b e).balancesAt hs
  table base? es := (keeps_entriesVisit aim base? es).balancesAt hs
  call binding? callee args range :=
    (keeps_callVisit aim binding? callee args range (keeps_exprVisit aim callee)
      (keeps_exprsVisit aim args)).balancesAt hs
  function name receiver? f := (keepsChunk_functionVisit aim (some name) receiver? f).balancesAt hs

end

/-- The stacks of a pass are balanced and its positions are valid. From every state that a pass is ever in, the visit of
any part comes to its end and is balanced, also when the pass is done or becomes so in the middle. The open chunks are
at every moment those of the stack, and a declaration is made in the chunk of the file and those of the functions
around the declared name. In the end the pass has gathered what is read off the events of the file. -/
theorem balanced_at_every_moment (aim : Aim) (uri : Uri) (file : File) : ∃ run, pass uri aim file = some run ∧
    (∀ m ∈ run.moments, m.progress.Sound ∧ AllBalanceAt aim m.progress ∧
      ∀ d ∈ m.declared?, ∃ fs n, Inside (.block file.body) fs (.declared n) ∧ d.IsOf n ∧
        m.progress.stack = (fileChunk uri file).ref :: fs.map bodyRef ∧ d.stack = m.progress.stack) ∧
    Reads aim (events uri file) (annotations file.comments) run.now := by
  obtain ⟨run, hrun, hreads, hmoments⟩ := pass_spec uri aim file
  refine ⟨run, hrun, fun m hm => ?_, hreads⟩
  obtain ⟨hsound, hdeclared⟩ := hmoments m hm
  refine ⟨hsound, allBalanceAt_of_sound aim hsound, fun d hd => ?_⟩
  obtain ⟨p, hp, fs, n, hinside, hspec⟩ := hdeclared d hd
  obtain rfl := List.mem_singleton.1 hp
  exact ⟨fs, n, hinside, hspec⟩

end LuaAtlas.Walk

namespace LuaAtlas.Document

open LuaAtlas.Syntax LuaAtlas.Walk

/-! ## The views of one walk -/

/-- One walk, three views. Let everything that a file assigns to or declares as a function be a variable or
a field. Then there is one list of marks, the names and the arguments of `require` calls, such that a pass for the uses
of a name finds exactly the sites with this name; a pass for a cursor finds the first mark that it stands in; the
symbols that a pass for symbols makes, one for each declaration that counts, are declared at sites in order, save the
implicit `self`; and whatever is assigned to or declared as a function under a known name has its site. -/
theorem views_of_one_walk (shelf : Shelf) (uri : Uri) (state : DocumentState) (file : File)
    (hplaces : ∀ t ∈ file.targets, t.isPlace = true) :
    let d := ofFile shelf uri state file
    let es := events uri file
    (∀ name, (pass uri (.uses name) file).map (·.now.uses) = some (d.occurrences name) ∧
      d.occurrences name = ((sites es).filter (·.name = name)).map (·.range)) ∧
    (∀ p, (pass uri (.cursor p) file).map (·.now.hit?) = some (d.hitAt? p) ∧
      d.hitAt? p = ((marks es).find? (·.hitRange.contains p)).map Mark.hit) ∧
    (pass uri .symbols file).map (·.now.symbols shelf uri) = some d.symbols ∧
    d.symbols.map Symbol.placement = (Declare.effective [] es).map Declaration.placement ∧
    (d.writtenSymbols.map Symbol.placement).Sublist ((sites es).map Site.placement) ∧
    ∀ t ∈ file.targets, ∀ name, t.dottedName? = some name →
      ∃ s ∈ sites es, s.name = name ∧ s.hitRange = t.nameRange ∧ s.range = t.range := by
  intro d es
  have hwalk : Walked file.targets es := events_walked uri file
  have hsymbols : d.symbols.map Symbol.placement = (Declare.effective [] es).map Declaration.placement :=
    Declare.symbols_placement shelf uri es (annotations file.comments)
  obtain ⟨run, hrun, hmade, -, -⟩ := pass_symbols shelf uri file
  refine ⟨fun name => ⟨pass_uses d name, filterMap_occurrence name es⟩, fun p => ⟨pass_cursor d p, findSome?_hitOf? p es⟩,
    ?_, hsymbols, ?_, fun t ht => hwalk.sited ht (hplaces t ht)⟩
  · rw [hrun, Option.map_some, hmade]
    rfl
  · have hwritten : d.writtenSymbols.map Symbol.placement =
        ((Declare.effective [] es).filter (!·.isImplicitSelf)).map Declaration.placement :=
      map_filter_zip (p := fun e : Declaration => !e.isImplicitSelf) hsymbols
    rw [hwritten]
    refine List.Sublist.trans ?_ (hwalk.spelled hplaces).shown
    exact ((Declare.effective_sublist es []).filter _).map _

/-- The file `function M:go(x) self.y = x end`. -/
def methodFile : File :=
  let span (start stop : Nat) : Range := ⟨⟨0, start⟩, ⟨0, stop⟩⟩
  let name : Expr := .member (.ident ⟨"M", span 9 10⟩) .colon ⟨"go", span 11 13⟩ (span 9 13)
  let target : Expr := .member (.ident ⟨"self", span 17 21⟩) .dot ⟨"y", span 22 23⟩ (span 17 23)
  let body : Block := .mk [.assign [target] [.ident ⟨"x", span 26 27⟩] (span 17 27)] (span 17 27)
  ⟨.mk [.funcDecl false name (.mk [⟨"x", span 14 15⟩] false body (span 0 31)) (span 0 31)] (span 0 31), [], span 0 31⟩

/-- Of the four symbols `M.go`, `self`, `x` and `self.y` the second is written nowhere. -/
theorem views_of_method :
    let d := ofFile .workspace ⟨"file:///m.lua"⟩ .complete methodFile
    (∀ t ∈ methodFile.targets, t.isPlace = true) ∧
    d.symbols.map (·.searchName) = ["M.go", "self", "x", "self.y"] ∧
    d.writtenSymbols.map (·.searchName) = ["M.go", "x", "self.y"] ∧
    (d.writtenSymbols.map Symbol.placement).Sublist
      ((sites (events ⟨"file:///m.lua"⟩ methodFile)).map Site.placement) := by
  have hplaces : ∀ t ∈ methodFile.targets, t.isPlace = true := by decide +kernel
  refine ⟨hplaces, by decide +kernel, by decide +kernel, ?_⟩
  exact (views_of_one_walk .workspace ⟨"file:///m.lua"⟩ .complete methodFile hplaces).2.2.2.2.1

end LuaAtlas.Document
