/-
What the guard against cycles costs. A place is entered once in a query, whoever enters it: the search for the
path itself, one of its other attempts, or the search for the function of a call. A search without an answer has
tried all that its places lead to, so to refuse them later is no loss: all chains of substitutions stay among such
places. A search for a function that found one has stopped halfway, and what it entered is lost for the rest of the
query.

Hence a query finds an answer where there is one, if no place is refused that the search for a function has entered
which it found, and none within such a search.
-/
import LuaAtlas.Proofs.Inference.Agenda
import LuaAtlas.Proofs.Inference.Soundness

namespace LuaAtlas.Inference

section

variable (x : Index) (purpose : Purpose)

/-- A query for the path alone finds symbols, of which `f` is the first. -/
def Resolves (p : Place) (f : Symbol) : Prop :=
  ∃ fuel fs t, resolvePath x purpose fuel p ⟨[], {}⟩ = some (f :: fs, t)

/-- No first part of the path has too many symbols. -/
def Narrow (p : Place) : Prop := ∀ first rest, p.path = Name.field first rest →
  (lookup x purpose p.uri first .exactlyEqual).length ≤ x.config.maxTagFanout

end

namespace Report

/-- A place that a search has left with nothing more to try: the search entered it, and not in the search for a
function that was found, which stops halfway. -/
def Exhausts (a : Report) (q : Place) : Prop := q ∈ a.entered ∧ ∀ g ∈ a.findings, q ∉ g.entered

/-- No search for a function that was found has been refused a place, and no place that it entered was refused. -/
def Harmless (a : Report) : Prop := ∀ g ∈ a.findings, g.refused = [] ∧ ∀ q ∈ a.refused, q ∉ g.entered

instance (a : Report) : Decidable a.Harmless := inferInstanceAs (Decidable (∀ g ∈ a.findings, _ ∧ ∀ q ∈ a.refused, _))

end Report

variable {x : Index} {purpose : Purpose}

/-- Where no symbol holds the result of a call that has to be resolved, no search for a function is made. -/
theorem Searches.findings_eq_nil (hcalls : ∀ uri name, ∀ s ∈ lookup x purpose uri name .exactlyEqual,
    deferred? x purpose s = none) {ts : List Task} {E : List Place} {a : Report} (h : Searches x purpose ts E a)
    (hts : ∀ s rest, Task.symbol s rest ∈ ts → deferred? x purpose s = none) : a.findings = [] := by
  induction h with
  | nil | found _ => rfl
  | cut _ ih =>
    refine ih fun s rest hmem => ?_
    rcases List.mem_append.1 hmem with hmem | hmem
    · obtain ⟨t, ht, heq⟩ := List.mem_map.1 hmem
      cases heq
      exact hcalls _ _ _ (kept_subset _ _ ht)
    · exact hts s rest (List.mem_cons_of_mem _ hmem)
  | points _ _ ih =>
    refine ih fun s rest hmem => ?_
    rcases List.mem_append.1 hmem with hmem | hmem
    · simp [Task.paths] at hmem
    · exact hts s rest (List.mem_cons_of_mem _ hmem)
  | @call s rest _ _ _ _ _ hd => cases hd.symm.trans (hts s rest (List.mem_cons_self ..))
  | path _ _ ih =>
    refine ih fun s rest hmem => ?_
    rcases List.mem_cons.1 hmem with heq | hmem
    · cases heq
    · exact hts s rest (List.mem_cons_of_mem _ hmem)
  | refuse _ _ ih => exact ih fun s rest hmem => hts s rest (List.mem_cons_of_mem _ hmem)
  | enter _ _ ih =>
    refine ih fun s rest hmem => ?_
    rcases List.mem_append.1 hmem with hmem | hmem
    · simp [Task.cutsOf] at hmem
    · exact hts s rest (List.mem_cons_of_mem _ hmem)

/-! ## What a search in vain leaves -/

section

variable (x : Index) (purpose : Purpose) (whole : Report)

/-- To come to a path once more is in vain: no symbol has it, and the search has left it with nothing to try. -/
def IdlePath (q : Place) : Prop := direct x purpose q = [] ∧ whole.Exhausts q

/-- For a path that goes on with `rest`, to follow the tag of the symbol once more is in vain. If it holds the result
of a call, the search has found the function and what that returns leads nowhere, or has left its name with nothing to
try. -/
structure IdleSymbol (rest : String) (s : Symbol) : Prop where
  points : ∀ q ∈ pointed x purpose s, IdlePath x purpose whole ⟨q.uri, Name.field q.path rest⟩
  calls : ∀ c, deferred? x purpose s = some c → whole.Exhausts c ∨
    ∃ g ∈ whole.findings, g.callee = c ∧ ∀ q ∈ returned g.found, IdlePath x purpose whole ⟨q.uri, Name.field q.path rest⟩

/-- To try the task once more is in vain. -/
def Task.Idle : Task → Prop
  | .cut uri first rest => ∀ s ∈ kept x purpose uri first, IdleSymbol x purpose whole rest s
  | .symbol s rest => IdleSymbol x purpose whole rest s
  | .path q => IdlePath x purpose whole q
  | .enter q => whole.Exhausts q

/-- A part of a search, with the places entered before it: what it exhausts, the whole search exhausts. -/
structure Report.HasPart (entered : List Place) (a : Report) : Prop where
  before : entered ⊆ whole.entered
  entered : a.entered ⊆ whole.entered
  refused : a.refused ⊆ whole.refused
  findings : a.findings ⊆ whole.findings
  exhausts : ∀ q, a.Exhausts q → whole.Exhausts q

end

theorem Task.idle_symbols {whole : Report} {ss : List Symbol} {rest : String} :
    (∀ t ∈ ss.map (Task.symbol · rest), t.Idle x purpose whole) ↔ ∀ s ∈ ss, IdleSymbol x purpose whole rest s :=
  List.forall_mem_map

theorem Task.idle_paths {whole : Report} {places : List Place} {rest : String} :
    (∀ t ∈ Task.paths places rest, t.Idle x purpose whole) ↔
      ∀ q ∈ places, IdlePath x purpose whole ⟨q.uri, Name.field q.path rest⟩ :=
  List.forall_mem_map

theorem Report.hasPart_self (whole : Report) : whole.HasPart [] whole :=
  ⟨List.nil_subset _, List.Subset.refl _, List.Subset.refl _, List.Subset.refl _, fun _ hq => hq⟩

/-- The parts of a search that went on after it had tried something in vain. -/
theorem Report.HasPart.andThen {whole a b : Report} {E : List Place} (h : whole.HasPart E (a.andThen b))
    (ha : a.Accounts x purpose) (hb : b.Accounts x purpose) (hfresh : ∀ q ∈ b.entered, q ∉ a.entered) :
    whole.HasPart E a ∧ whole.HasPart (a.entered ++ E) b := by
  obtain ⟨hlater, hfirst⟩ := List.append_subset.1 h.entered
  obtain ⟨hlaterRefused, hfirstRefused⟩ := List.append_subset.1 h.refused
  obtain ⟨hfirstFindings, hlaterFindings⟩ := List.append_subset.1 h.findings
  refine ⟨⟨h.before, hfirst, hfirstRefused, hfirstFindings, fun q hq => h.exhausts q ⟨?_, fun g hg => ?_⟩⟩,
    ⟨List.append_subset.2 ⟨hfirst, h.before⟩, hlater, hlaterRefused, hlaterFindings,
      fun q hq => h.exhausts q ⟨?_, fun g hg => ?_⟩⟩⟩
  · exact List.mem_append_right _ hq.1
  · rcases List.mem_append.1 hg with hg | hg
    · exact hq.2 g hg
    · exact fun hmem => hfresh q (hb.inside g hg hmem) hq.1
  · exact List.mem_append_left _ hq.1
  · rcases List.mem_append.1 hg with hg | hg
    · exact fun hmem => hfresh q hq.1 (ha.inside g hg hmem)
    · exact hq.2 g hg

/-- A search in vain leaves nothing to try: all its tasks are idle after it, and all first parts of the places that it
leaves with nothing to try. -/
theorem Searches.idle {whole a : Report} {ts : List Task} {E : List Place} (hwhole : whole.Harmless)
    (h : Searches x purpose ts E a) (hnil : a.answer = []) (hpart : whole.HasPart E a) :
    (∀ t ∈ ts, t.Idle x purpose whole) ∧
      ∀ q ∈ a.entered, whole.Exhausts q → ∀ t ∈ Task.cutsOf q, t.Idle x purpose whole := by
  induction h with
  | nil => exact ⟨List.forall_mem_nil _, List.forall_mem_nil _⟩
  | cut _ ih =>
    obtain ⟨hts, hplaces⟩ := ih hnil hpart
    obtain ⟨hsymbols, hts⟩ := List.forall_mem_append.1 hts
    exact ⟨List.forall_mem_cons.2 ⟨Task.idle_symbols.1 hsymbols, hts⟩, hplaces⟩
  | points hd _ ih =>
    obtain ⟨hts, hplaces⟩ := ih hnil hpart
    obtain ⟨hpaths, hts⟩ := List.forall_mem_append.1 hts
    refine ⟨List.forall_mem_cons.2 ⟨⟨Task.idle_paths.1 hpaths, fun c hc => ?_⟩, hts⟩, hplaces⟩
    cases hd.symm.trans hc
  | @call s rest ts E callee a b hd ha hb ih ih' =>
    obtain ⟨hcall, hlater⟩ := hpart.andThen (ha.accounts.asCall ha) hb.accounts fun q hq hmem =>
      hb.fresh q hq (List.mem_append_left _ hmem)
    obtain ⟨hts, hplaces⟩ := ih' hnil hlater
    obtain ⟨hpaths, hts⟩ := List.forall_mem_append.1 hts
    have hpoints : ∀ q ∈ pointed x purpose s, IdlePath x purpose whole ⟨q.uri, Name.field q.path rest⟩ :=
      fun q hq => absurd (mem_pointed.1 hq) (deferred?_eq_some.1 hd).not_points
    have hone : ∀ c, deferred? x purpose s = some c → c = callee := fun c hc => Option.some.inj (hc.symm.trans hd)
    by_cases hempty : a.answer = []
    · rw [Report.asCall_of_nil hempty] at hcall ⊢
      obtain ⟨hcallee, hplaces'⟩ := ih hempty hcall
      refine ⟨List.forall_mem_cons.2 ⟨⟨hpoints, fun c hc => .inl ?_⟩, hts⟩, fun q hq => ?_⟩
      · rw [hone c hc]
        exact hcallee _ (List.mem_singleton_self _)
      · exact (List.mem_append.1 hq).elim (hplaces q) (hplaces' q)
    · have hfinding : ⟨callee, a.answer, a.entered, a.refused⟩ ∈ whole.findings := by
        refine hcall.findings ?_
        rw [Report.findings_asCall hempty]
        exact List.mem_singleton_self _
      refine ⟨List.forall_mem_cons.2 ⟨⟨hpoints, fun c hc => .inr ⟨_, hfinding, (hone c hc).symm, ?_⟩⟩, hts⟩,
        fun q hq hexhausts => ?_⟩
      · exact Task.idle_paths.1 hpaths
      · exact (List.mem_append.1 hq).elim (fun hq => hplaces q hq hexhausts) fun hq =>
          absurd hq (hexhausts.2 _ hfinding)
  | found hdirect => exact absurd hnil hdirect
  | path hdirect _ ih =>
    obtain ⟨hts, hplaces⟩ := ih hnil hpart
    obtain ⟨henter, hts⟩ := List.forall_mem_cons.1 hts
    exact ⟨List.forall_mem_cons.2 ⟨⟨hdirect, henter⟩, hts⟩, hplaces⟩
  | @refuse q ts E a hmem _ ih =>
    obtain ⟨hrefused, hq⟩ := List.append_subset.1 hpart.refused
    obtain ⟨hts, hplaces⟩ := ih hnil ⟨hpart.before, hpart.entered, hrefused, hpart.findings, hpart.exhausts⟩
    refine ⟨List.forall_mem_cons.2 ⟨⟨hpart.before hmem, fun g hg => ?_⟩, hts⟩, hplaces⟩
    exact (hwhole g hg).2 q (hq (List.mem_singleton_self q))
  | @enter q ts E a hmem ha ih =>
    obtain ⟨hentered, hq⟩ := List.append_subset.1 hpart.entered
    have hself : whole.Exhausts q := hpart.exhausts q ⟨List.mem_append_right _ (List.mem_singleton_self q),
      fun g hg hg' => ha.fresh q (ha.accounts.inside g hg hg') (List.mem_cons_self ..)⟩
    obtain ⟨hts, hplaces⟩ := ih hnil ⟨List.cons_subset.2 ⟨hself.1, hpart.before⟩, hentered, hpart.refused,
      hpart.findings, fun r hr => hpart.exhausts r ⟨List.mem_append_left _ hr.1, hr.2⟩⟩
    obtain ⟨hcuts, hts⟩ := List.forall_mem_append.1 hts
    refine ⟨List.forall_mem_cons.2 ⟨hself, hts⟩, fun r hr hexhausts => ?_⟩
    rcases List.mem_append.1 hr with hr | hr
    · exact hplaces r hr hexhausts
    · rwa [List.mem_singleton.1 hr]

/-! ## Queries after a search in vain -/

/-- Of no search for a function that was found have only some places been entered: where one has, its first one has,
the name of the function. -/
def Report.Respects (whole : Report) (entered : List Place) : Prop :=
  ∀ g ∈ whole.findings, ∀ q ∈ g.entered, q ∈ entered → g.callee ∈ entered

/-- A query that begins among places with nothing left to try does not leave them and finds nothing. It may come upon
a function that was found before. Then it finds the same one, or is refused at once. -/
theorem Searches.vain_of_idle {whole b : Report} {ts : List Task} {E : List Place} (hwhole : whole.Harmless)
    (haccounts : whole.Accounts x purpose)
    (hexhausted : ∀ q, whole.Exhausts q → ∀ t ∈ Task.cutsOf q, t.Idle x purpose whole)
    (h : Searches x purpose ts E b) (hts : ∀ t ∈ ts, t.Idle x purpose whole) (hE : whole.Respects E) :
    b.answer = [] ∧ whole.Respects (b.entered ++ E) := by
  induction h with
  | nil => exact ⟨rfl, hE⟩
  | cut _ ih =>
    obtain ⟨hsymbols, hts⟩ := List.forall_mem_cons.1 hts
    exact ih (List.forall_mem_append.2 ⟨Task.idle_symbols.2 hsymbols, hts⟩) hE
  | points _ _ ih =>
    obtain ⟨hsymbol, hts⟩ := List.forall_mem_cons.1 hts
    exact ih (List.forall_mem_append.2 ⟨Task.idle_paths.2 hsymbol.points, hts⟩) hE
  | @call s rest ts E callee a b hd ha hb ih ih' =>
    obtain ⟨hsymbol, hts⟩ := List.forall_mem_cons.1 hts
    have hcall : (∀ t ∈ Task.paths (returned a.answer) rest, t.Idle x purpose whole) ∧
        whole.Respects (a.entered ++ E) := by
      have hvain : a.answer = [] → ∀ t ∈ Task.paths (returned a.answer) rest, t.Idle x purpose whole := by
        intro hnil
        rw [hnil]
        exact List.forall_mem_nil _
      rcases hsymbol.calls callee hd with hcallee | ⟨g, hg, rfl, hfound⟩
      · obtain ⟨hnil, hrespects⟩ := ih (List.forall_mem_singleton.2 hcallee) hE
        exact ⟨hvain hnil, hrespects⟩
      · by_cases hmem : g.callee ∈ E
        · cases ha with
          | refuse _ ha =>
            cases ha with
            | nil => exact ⟨hvain rfl, hE⟩
          | enter hnew => exact absurd hmem hnew
        · obtain ⟨hself, E', fs, hsearch⟩ := haccounts.search g hg
          have hreplay := hsearch.replay (hwhole g hg).1 fun q hq hq' => hmem (hE g hg q hq hq')
          cases ha.unique hreplay
          refine ⟨Task.idle_paths.2 hfound, fun g' hg' q hq hq' => ?_⟩
          rcases List.mem_append.1 hq' with hq' | hq'
          · rw [← haccounts.apart g hg g' hg' q hq' hq]
            exact List.mem_append_left _ hself
          · exact List.mem_append_right _ (hE g' hg' q hq hq')
    obtain ⟨hnil, hrespects⟩ := ih' (List.forall_mem_append.2 ⟨hcall.1, hts⟩) hcall.2
    refine ⟨hnil, ?_⟩
    rw [← List.append_assoc] at hrespects
    exact hrespects
  | found hdirect =>
    obtain ⟨hpath, -⟩ := List.forall_mem_cons.1 hts
    exact absurd hpath.1 hdirect
  | path _ _ ih =>
    obtain ⟨hpath, hts⟩ := List.forall_mem_cons.1 hts
    exact ih (List.forall_mem_cons.2 ⟨hpath.2, hts⟩) hE
  | refuse _ _ ih =>
    obtain ⟨-, hts⟩ := List.forall_mem_cons.1 hts
    exact ih hts hE
  | @enter q ts E a _ _ ih =>
    obtain ⟨hself, hts⟩ := List.forall_mem_cons.1 hts
    obtain ⟨hnil, hrespects⟩ := ih (List.forall_mem_append.2 ⟨hexhausted q hself, hts⟩) fun g hg r hr hmem => by
      rcases List.mem_cons.1 hmem with rfl | hmem
      · exact absurd hr (hself.2 g hg)
      · exact List.mem_cons_of_mem _ (hE g hg r hr hmem)
    refine ⟨hnil, ?_⟩
    rw [Report.enter, List.append_assoc]
    exact hrespects

/-! ## Chains after a search in vain -/

section

variable {whole : Report} {E : List Place} {p : Place} (hwhole : whole.Harmless)
  (h : Searches x purpose [.enter p] [] whole) (hnil : whole.answer = [])
include hwhole h hnil

/-- After a query in vain no query from a place that it left with nothing to try finds anything. -/
theorem not_resolves_of_exhausts {c : Place} (hc : whole.Exhausts c) (f : Symbol) : ¬ Resolves x purpose c f := by
  rintro ⟨fuel, fs, t, hrun⟩
  obtain ⟨a, ha, hanswer, -⟩ := tells_resolvePath fuel c _ _ _ hrun
  have hidle := (h.idle hwhole hnil whole.hasPart_self).2
  obtain ⟨hvain, -⟩ := ha.vain_of_idle hwhole h.accounts (fun q hq => hidle q hq.1 hq)
    (List.forall_mem_singleton.2 hc) fun g _ q _ hq => absurd hq List.not_mem_nil
  rw [hvain] at hanswer
  cases hanswer

/-- A substitution in a place with nothing left to try leads to another one, and no symbol has its path. -/
theorem idle_of_follows (hnarrow : ∀ q ∈ whole.entered, Narrow x purpose q) {q r : Place} (hq : whole.Exhausts q)
    (hr : Follows x purpose (Resolves x purpose) q r) : IdlePath x purpose whole r := by
  obtain @⟨uri, first, rest, s, r, hs, hleads⟩ := hr
  have hcut := (h.idle hwhole hnil whole.hasPart_self).2 _ hq.1 hq (.cut uri first rest)
    (List.mem_map.2 ⟨(first, rest), mem_cuts.2 rfl, rfl⟩)
  have hsymbol : IdleSymbol x purpose whole rest s := by
    refine hcut s ?_
    rw [kept_eq (hnarrow _ hq.1 first rest rfl)]
    exact hs
  cases hleads with
  | points hpoints => exact hsymbol.points r (mem_pointed.2 hpoints)
  | @calls c f n hdefers hresolves hname =>
    rcases hsymbol.calls c (deferred?_eq_some.2 hdefers) with hc | ⟨g, hg, rfl, hfound⟩
    · exact absurd hresolves (not_resolves_of_exhausts hwhole h hnil hc f)
    · -- the function found on the way is the one that a query of its own finds
      obtain ⟨fuel, fs, t, hrun⟩ := hresolves
      obtain ⟨a, ha, hanswer, -⟩ := tells_resolvePath fuel g.callee _ _ _ hrun
      obtain ⟨-, E', fs', hsearch⟩ := h.accounts.search g hg
      cases ha.unique (hsearch.replay (hwhole g hg).1 fun _ _ => List.not_mem_nil)
      refine hfound _ (mem_returned.2 ⟨f, fs, n, hanswer, hname, rfl⟩)

end

/-! ## Queries -/

/-- Where a chain of substitutions leads to a path that symbols have, the query finds something, if no search for a
function that it found was refused a place and none of their places was refused to it. -/
theorem guard_keeps_answers (x : Index) {fuel : Nat} {stats stats' : Stats} {path : String} {uri : Uri}
    {found : List Symbol} (h : resolve? x .definition fuel stats path uri = some (found, stats')) {report : Report}
    (hreport : Searches x .definition [.enter ⟨uri, Name.normalize path⟩] [] report)
    (hnarrow : ∀ p ∈ report.entered, Narrow x .definition p) (hguard : report.Harmless) {q : Place}
    (hq : Relation.TransGen (Follows x .definition (Resolves x .definition)) ⟨uri, Name.normalize path⟩ q)
    (hlookup : lookup x .definition q.uri q.path .exactlyEqual ≠ []) : found ≠ [] := by
  rintro rfl
  obtain ⟨t, hrun, -⟩ := resolve?_eq_some h
  obtain ⟨a, ha, hnil, -⟩ := tells_resolvePath fuel _ _ _ _ hrun
  cases ha.unique hreport
  have hstart : report.Exhausts ⟨uri, Name.normalize path⟩ :=
    (hreport.idle hguard hnil report.hasPart_self).1 _ (List.mem_singleton_self _)
  have hidle : IdlePath x .definition report q := by
    clear hlookup
    induction hq with
    | single hq => exact idle_of_follows hguard hreport hnil hnarrow hstart hq
    | tail _ hq ih => exact idle_of_follows hguard hreport hnil hnarrow ih.2 hq
  exact hlookup hidle.1

/-! ## The guard at work -/

theorem yields_lookup (x : Index) (uri : Uri) (name : String) (mode : SearchMode) :
    x.Yields name mode (lookup x .definition uri name mode) := by
  unfold lookup
  refine Index.yields_firstFound fun l hl => ?_
  rcases List.mem_pair.1 hl with rfl | rfl
  · exact x.yields_searchDocument uri name mode .all
  · exact x.yields_searchDefinition uri name mode .all

/-- In a workspace of few symbols no name has too many. -/
theorem narrow_of_few (h : x.filedSymbols.length ≤ x.config.maxTagFanout) (p : Place) : Narrow x .definition p :=
  fun first _ _ => (yields_lookup x p.uri first .exactlyEqual).length_le.trans h

/-- A substitution for a symbol whose tag leads somewhere by itself. -/
theorem follows_pointed {answers : Place → Symbol → Prop} {u : Uri} {first rest : String} {q : Place}
    (h : ∃ s ∈ lookup x purpose u first .exactlyEqual, q ∈ pointed x purpose s) :
    Follows x purpose answers ⟨u, Name.field first rest⟩ ⟨q.uri, Name.field q.path rest⟩ := by
  obtain ⟨s, hs, hq⟩ := h
  exact .swap hs (.points (mem_pointed.1 hq))

/-- A substitution for the result of a call, found by resolving the name of the function. -/
theorem follows_call {u : Uri} {first rest : String} {c q : Place} {fuel : Nat}
    (hs : ∃ s ∈ lookup x purpose u first .exactlyEqual, deferred? x purpose s = some c)
    (hcall : ((resolvePath x purpose fuel c ⟨[], {}⟩).map fun r => returned r.1) = some [q]) :
    Follows x purpose (Resolves x purpose) ⟨u, Name.field first rest⟩ ⟨q.uri, Name.field q.path rest⟩ := by
  obtain ⟨s, hs, hdefers⟩ := hs
  obtain ⟨⟨fs, t⟩, hrun, hreturned⟩ := Option.map_eq_some_iff.1 hcall
  have hmem : q ∈ returned fs := by
    rw [hreturned]
    exact List.mem_singleton_self q
  obtain ⟨f, more, n, rfl, hname, rfl⟩ := mem_returned.1 hmem
  exact .swap hs (.calls (deferred?_eq_some.1 hdefers) ⟨fuel, more, t, hrun⟩ hname)

/-- A file in which `a.b` and `c` are each the other, and `a` holds the result of `M.f`, which is `T.f`. -/
def aliasCycle : Index :=
  (Index.empty { maxTagFanout := 12 }).run [buildOf "function T.f() r.b.x=1 return r end M=T a=M.f() a.b=c c=a.b"]

set_option maxRecDepth 100000 in
/-- What the index does, evaluated once. -/
theorem aliasCycle_runs :
    (resolve? aliasCycle .definition 8 {} "a.b.x" sampleUri).isSome = true ∧
    (report? aliasCycle .definition 60 [.enter ⟨sampleUri, Name.normalize "a.b.x"⟩] []).any (fun report =>
      !report.refused.isEmpty && !report.findings.isEmpty && decide report.Harmless) = true ∧
    aliasCycle.filedSymbols.length ≤ aliasCycle.config.maxTagFanout ∧
    (∃ s ∈ lookup aliasCycle .definition sampleUri "a" .exactlyEqual,
      deferred? aliasCycle .definition s = some ⟨sampleUri, "M.f"⟩) ∧
    ((resolvePath aliasCycle .definition 3 ⟨sampleUri, "M.f"⟩ ⟨[], {}⟩).map fun r => returned r.1) =
      some [⟨sampleUri, "r"⟩] ∧
    lookup aliasCycle .definition sampleUri (Name.field "r" "b.x") .exactlyEqual ≠ [] := by
  decide +kernel

/-- The query for `a.b.x` comes back to `a.b.x` by way of `c.x`, is refused there, and finds `r.b.x` all the same, by
way of the function that it finds for `M.f`. -/
theorem guard_keeps_alias :
    ∃ found stats' report, resolve? aliasCycle .definition 8 {} "a.b.x" sampleUri = some (found, stats') ∧
      Searches aliasCycle .definition [.enter ⟨sampleUri, Name.normalize "a.b.x"⟩] [] report ∧
      report.refused ≠ [] ∧ report.findings ≠ [] ∧
      (∀ p ∈ report.entered, Narrow aliasCycle .definition p) ∧ report.Harmless ∧
      (∃ q, Relation.TransGen (Follows aliasCycle .definition (Resolves aliasCycle .definition))
          ⟨sampleUri, Name.normalize "a.b.x"⟩ q ∧
        lookup aliasCycle .definition q.uri q.path .exactlyEqual ≠ []) ∧ found ≠ [] := by
  have hpath : Name.normalize "a.b.x" = Name.field "a" "b.x" := by decide +kernel
  obtain ⟨hquery, hreport, hfew, hdefers, hcall, hfound⟩ := aliasCycle_runs
  obtain ⟨⟨found, stats'⟩, hquery⟩ := Option.isSome_iff_exists.1 hquery
  obtain ⟨report, hreport, htold⟩ := (Option.any_eq_true ..).1 hreport
  simp only [Bool.and_eq_true, Bool.not_eq_true', List.isEmpty_eq_false_iff, decide_eq_true_eq] at htold
  obtain ⟨⟨hrefused, hfindings⟩, hharmless⟩ := htold
  have hreport := searches_of_report? hreport
  have hchain : Relation.TransGen (Follows aliasCycle .definition (Resolves aliasCycle .definition))
      ⟨sampleUri, Name.normalize "a.b.x"⟩ ⟨sampleUri, Name.field "r" "b.x"⟩ := by
    rw [hpath]
    exact .single (follows_call hdefers hcall)
  have hnarrow := narrow_of_few hfew
  exact ⟨found, stats', report, hquery, hreport, hrefused, hfindings, fun p _ => hnarrow p, hharmless,
    ⟨_, hchain, hfound⟩, guard_keeps_answers aliasCycle hquery hreport (fun p _ => hnarrow p) hharmless hchain hfound⟩

/-- A file in which both `a` and `a.b` hold the result of `M.f`, which is `T.f`. -/
def twoCalls : Index :=
  (Index.empty {}).run [buildOf "function T.f() r.b.x=1 return r end M=T a=M.f() a.b=M.f()"]

set_option maxRecDepth 100000 in
/-- The query for `a.b.x` resolves `M.f` for `a.b`, in vain, and is refused to resolve it for `a`, which would have led
to `r.b.x`. -/
theorem refused_call_loses_answer :
    (∃ stats', resolve? twoCalls .definition 8 {} "a.b.x" sampleUri = some ([], stats')) ∧
    (∀ p, Narrow twoCalls .definition p) ∧
    ∃ q, Relation.TransGen (Follows twoCalls .definition (Resolves twoCalls .definition))
        ⟨sampleUri, Name.normalize "a.b.x"⟩ q ∧
      lookup twoCalls .definition q.uri q.path .exactlyEqual ≠ [] := by
  have hpath : Name.normalize "a.b.x" = Name.field "a" "b.x" := by decide +kernel
  have hfacts : (resolve? twoCalls .definition 8 {} "a.b.x" sampleUri).any (·.1.isEmpty) = true ∧
      twoCalls.filedSymbols.length ≤ twoCalls.config.maxTagFanout ∧
      (∃ s ∈ lookup twoCalls .definition sampleUri "a" .exactlyEqual,
        deferred? twoCalls .definition s = some ⟨sampleUri, "M.f"⟩) ∧
      ((resolvePath twoCalls .definition 3 ⟨sampleUri, "M.f"⟩ ⟨[], {}⟩).map fun r => returned r.1) =
        some [⟨sampleUri, "r"⟩] ∧
      lookup twoCalls .definition sampleUri (Name.field "r" "b.x") .exactlyEqual ≠ [] := by decide +kernel
  generalize twoCalls = x at hfacts ⊢
  obtain ⟨hquery, hfew, hdefers, hcall, hfound⟩ := hfacts
  obtain ⟨⟨found, stats'⟩, hquery, hempty⟩ := (Option.any_eq_true ..).1 hquery
  refine ⟨⟨stats', ?_⟩, narrow_of_few hfew, ⟨sampleUri, Name.field "r" "b.x"⟩, .single ?_, hfound⟩
  · have hnil : found = [] := List.isEmpty_iff.1 hempty
    rw [hquery, hnil]
  · rw [hpath]
    exact follows_call hdefers hcall

end LuaAtlas.Inference
