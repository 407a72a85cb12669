/-
A query as a list of things to do. The search for a path is a nest of loops in which places are entered and refused;
here it is told by rules, with all that is still to be tried in one list, and with a report of what was done: which
places were entered, which were refused, and which functions of calls were found on the way, with what the searches
for them did.

A search has one report only; every run of the loops has one that gives its answer; and a search that was refused
nowhere has the same report wherever it meets no place that was entered before.
-/
import LuaAtlas.Proofs.Inference.Chain

namespace LuaAtlas.Inference

/-! ## Reports -/

/-- A search for the function of a call that found it. -/
structure Finding where
  callee : Place
  found : List Symbol
  /-- The places that the search entered. -/
  entered : List Place
  /-- The places that it was refused. -/
  refused : List Place

/-- What a search gave and what it did. -/
structure Report where
  answer : List Symbol
  /-- The places entered, the last one first. -/
  entered : List Place := []
  /-- The places refused, the last one first. -/
  refused : List Place := []
  /-- The functions of calls that were found, but for those found within the search for another one that was. -/
  findings : List Finding := []

namespace Report

/-- The report of a search that did what `a` tells in vain and then what `b` tells. -/
def andThen (a b : Report) : Report :=
  ⟨b.answer, b.entered ++ a.entered, b.refused ++ a.refused, a.findings ++ b.findings⟩

/-- The report of a search that entered a place first. -/
def enter (q : Place) (a : Report) : Report := { a with entered := a.entered ++ [q] }

/-- The report of a search that was refused a place first. -/
def refuse (q : Place) (a : Report) : Report := { a with refused := a.refused ++ [q] }

/-- The search for the function of a call, as a part of another search. -/
def asCall (callee : Place) (a : Report) : Report :=
  { a with
    answer := []
    findings := if a.answer.isEmpty then a.findings else [⟨callee, a.answer, a.entered, a.refused⟩] }

theorem asCall_of_nil {a : Report} (h : a.answer = []) (callee : Place) : a.asCall callee = a := by
  cases a
  cases h
  rfl

theorem findings_asCall {a : Report} (h : a.answer ≠ []) (callee : Place) :
    (a.asCall callee).findings = [⟨callee, a.answer, a.entered, a.refused⟩] :=
  if_neg fun hempty => h (List.isEmpty_iff.1 hempty)

theorem nothing_andThen (a : Report) : ({ answer := [] } : Report).andThen a = a := by
  simp [andThen]

theorem enter_andThen (q : Place) (a b : Report) : (a.andThen b).enter q = (a.enter q).andThen b := by
  simp [enter, andThen]

theorem refuse_andThen (q : Place) (a b : Report) : (a.andThen b).refuse q = (a.refuse q).andThen b := by
  simp [refuse, andThen]

theorem andThen_assoc (a b c : Report) : a.andThen (b.andThen c) = (a.andThen b).andThen c := by
  simp [andThen]

end Report

/-! ## Searches as lists of tasks -/

/-- Something that a search has still to try. -/
inductive Task
  /-- The symbols of a first part of a path in a document. -/
  | cut (uri : Uri) (first rest : String)
  /-- The tag of a symbol, for a path that goes on with `rest`. -/
  | symbol (s : Symbol) (rest : String)
  /-- What a path means by itself, and failing that what it means through tags. -/
  | path (q : Place)
  /-- What a path means through tags. -/
  | enter (q : Place)

namespace Task

/-- The paths that come from putting each of several places for the first part of a path. -/
def paths (places : List Place) (rest : String) : List Task :=
  places.map fun q => .path ⟨q.uri, Name.field q.path rest⟩

/-- The first parts of the path of a place. -/
def cutsOf (q : Place) : List Task := (cuts q.path).map fun cut => .cut q.uri cut.1 cut.2

end Task

section

variable (x : Index) (purpose : Purpose)

/-- Trying the tasks in order until one gives an answer, with the places `entered` before, has the given report. -/
inductive Searches : List Task → List Place → Report → Prop
  | nil {entered : List Place} : Searches [] entered { answer := [] }
  | cut {uri : Uri} {first rest : String} {ts : List Task} {entered : List Place} {a : Report} :
      Searches ((kept x purpose uri first).map (.symbol · rest) ++ ts) entered a →
      Searches (.cut uri first rest :: ts) entered a
  | points {s : Symbol} {rest : String} {ts : List Task} {entered : List Place} {a : Report} :
      deferred? x purpose s = none → Searches (Task.paths (pointed x purpose s) rest ++ ts) entered a →
      Searches (.symbol s rest :: ts) entered a
  | call {s : Symbol} {rest : String} {ts : List Task} {entered : List Place} {callee : Place} {a b : Report} :
      deferred? x purpose s = some callee → Searches [.enter callee] entered a →
      Searches (Task.paths (returned a.answer) rest ++ ts) (a.entered ++ entered) b →
      Searches (.symbol s rest :: ts) entered ((a.asCall callee).andThen b)
  | found {q : Place} {ts : List Task} {entered : List Place} : direct x purpose q ≠ [] →
      Searches (.path q :: ts) entered { answer := direct x purpose q }
  | path {q : Place} {ts : List Task} {entered : List Place} {a : Report} : direct x purpose q = [] →
      Searches (.enter q :: ts) entered a → Searches (.path q :: ts) entered a
  | refuse {q : Place} {ts : List Task} {entered : List Place} {a : Report} : q ∈ entered →
      Searches ts entered a → Searches (.enter q :: ts) entered (a.refuse q)
  | enter {q : Place} {ts : List Task} {entered : List Place} {a : Report} : q ∉ entered →
      Searches (Task.cutsOf q ++ ts) (q :: entered) a → Searches (.enter q :: ts) entered (a.enter q)

/-- The report of a search, if `n` steps are enough for it. -/
def report? : Nat → List Task → List Place → Option Report
  | 0, _, _ => none
  | _ + 1, [], _ => some { answer := [] }
  | n + 1, .cut uri first rest :: ts, entered =>
    report? n ((kept x purpose uri first).map (.symbol · rest) ++ ts) entered
  | n + 1, .symbol s rest :: ts, entered =>
    match deferred? x purpose s with
    | none => report? n (Task.paths (pointed x purpose s) rest ++ ts) entered
    | some callee => do
      let a ← report? n [.enter callee] entered
      let b ← report? n (Task.paths (returned a.answer) rest ++ ts) (a.entered ++ entered)
      return (a.asCall callee).andThen b
  | n + 1, .path q :: ts, entered =>
    let found := direct x purpose q
    if found.isEmpty then report? n (.enter q :: ts) entered else some { answer := found }
  | n + 1, .enter q :: ts, entered =>
    if q ∈ entered then (report? n ts entered).map (·.refuse q)
    else (report? n (Task.cutsOf q ++ ts) (q :: entered)).map (·.enter q)

end

variable {x : Index} {purpose : Purpose}

theorem searches_of_report? : ∀ {n : Nat} {ts : List Task} {entered : List Place} {a : Report},
    report? x purpose n ts entered = some a → Searches x purpose ts entered a
  | 0, _, _, _, h => by cases h
  | n + 1, [], entered, a, h => by
    cases h
    exact .nil
  | n + 1, .cut uri first rest :: ts, entered, a, h => .cut (searches_of_report? h)
  | n + 1, .symbol s rest :: ts, entered, a, h => by
    rw [report?] at h
    split at h
    · rename_i hnone
      exact .points hnone (searches_of_report? h)
    · rename_i callee hcallee
      obtain ⟨call, hcall, h⟩ := Option.bind_eq_some_iff.1 h
      obtain ⟨later, hlater, h⟩ := Option.bind_eq_some_iff.1 h
      cases h
      exact .call hcallee (searches_of_report? hcall) (searches_of_report? hlater)
  | n + 1, .path q :: ts, entered, a, h => by
    rw [report?] at h
    split at h
    · rename_i hempty
      exact .path (List.isEmpty_iff.1 hempty) (searches_of_report? h)
    · rename_i hne
      cases h
      exact .found fun hnil => hne (List.isEmpty_iff.2 hnil)
  | n + 1, .enter q :: ts, entered, a, h => by
    rw [report?] at h
    split at h
    · rename_i hmem
      obtain ⟨b, hb, rfl⟩ := Option.map_eq_some_iff.1 h
      exact .refuse hmem (searches_of_report? hb)
    · rename_i hmem
      obtain ⟨b, hb, rfl⟩ := Option.map_eq_some_iff.1 h
      exact .enter hmem (searches_of_report? hb)

namespace Searches

variable {ts us : List Task} {E : List Place} {a b : Report}

/-- A search has one report only. -/
theorem unique (ha : Searches x purpose ts E a) (hb : Searches x purpose ts E b) : a = b := by
  induction ha generalizing b with
  | nil => cases hb; rfl
  | cut _ ih =>
    cases hb with
    | cut hb => exact ih hb
  | points hnone _ ih =>
    cases hb with
    | points _ hb => exact ih hb
    | call hcallee => cases hnone.symm.trans hcallee
  | call hcallee _ _ ih ih' =>
    cases hb with
    | points hnone => cases hnone.symm.trans hcallee
    | call hcallee' hb hb' =>
      cases hcallee.symm.trans hcallee'
      cases ih hb
      cases ih' hb'
      rfl
  | found hne =>
    cases hb with
    | found => rfl
    | path hnil => exact absurd hnil hne
  | path hnil _ ih =>
    cases hb with
    | found hne => exact absurd hnil hne
    | path _ hb => exact ih hb
  | refuse hmem _ ih =>
    cases hb with
    | refuse _ hb => rw [ih hb]
    | enter hmem' => exact absurd hmem hmem'
  | enter hmem _ ih =>
    cases hb with
    | refuse hmem' => exact absurd hmem' hmem
    | enter _ hb => rw [ih hb]

/-- A search that gives an answer does not come to what would have been tried after it. -/
theorem append_of_ne (h : Searches x purpose ts E a) (hne : a.answer ≠ []) : Searches x purpose (ts ++ us) E a := by
  induction h with
  | nil => exact absurd rfl hne
  | cut _ ih => exact .cut (by simpa using ih hne)
  | points hnone _ ih => exact .points hnone (by simpa using ih hne)
  | call hcallee ha _ _ ih => exact .call hcallee ha (by simpa using ih hne)
  | found hdirect => exact .found hdirect
  | path hdirect _ ih => exact .path hdirect (ih hne)
  | refuse hmem _ ih => exact .refuse hmem (ih hne)
  | enter hmem _ ih => exact .enter hmem (by simpa using ih hne)

/-- After a search in vain the next tasks are tried, with all places entered so far. -/
theorem append (h : Searches x purpose ts E a) (hnil : a.answer = [])
    (h' : Searches x purpose us (a.entered ++ E) b) : Searches x purpose (ts ++ us) E (a.andThen b) := by
  induction h with
  | nil => rwa [Report.nothing_andThen]
  | cut _ ih => exact .cut (by simpa using ih hnil h')
  | points hnone _ ih => exact .points hnone (by simpa using ih hnil h')
  | call hcallee ha _ _ ih =>
    rw [← Report.andThen_assoc]
    refine .call hcallee ha ?_
    rw [List.append_eq, ← List.append_assoc]
    refine ih hnil ?_
    rwa [← List.append_assoc]
  | found hdirect => exact absurd hnil hdirect
  | path hdirect _ ih => exact .path hdirect (ih hnil h')
  | refuse hmem _ ih =>
    rw [← Report.refuse_andThen]
    exact .refuse hmem (ih hnil h')
  | enter hmem _ ih =>
    rw [← Report.enter_andThen]
    refine .enter hmem ?_
    rw [List.append_eq, ← List.append_assoc]
    refine ih hnil ?_
    simpa [Report.enter] using h'

/-- A place is entered at most once: never again where it was entered before. -/
theorem fresh (h : Searches x purpose ts E a) : ∀ q ∈ a.entered, q ∉ E := by
  induction h with
  | nil | found _ => exact List.forall_mem_nil _
  | cut _ ih | points _ _ ih | path _ _ ih | refuse _ _ ih => exact ih
  | call _ _ _ ih ih' =>
    intro q hq
    rcases List.mem_append.1 hq with hq | hq
    · exact fun hmem => ih' q hq (List.mem_append_right _ hmem)
    · exact ih q hq
  | enter hmem _ ih =>
    intro q hq
    rcases List.mem_append.1 hq with hq | hq
    · exact fun hq' => ih q hq (List.mem_cons_of_mem _ hq')
    · rwa [List.mem_singleton.1 hq]

/-- Where a search was refused nowhere, it is the same with other places entered before, as long as it comes across
none of them. -/
theorem replay {E' : List Place} (h : Searches x purpose ts E a) (hnone : a.refused = [])
    (hapart : ∀ q ∈ a.entered, q ∉ E') : Searches x purpose ts E' a := by
  induction h generalizing E' with
  | nil => exact .nil
  | cut _ ih => exact .cut (ih hnone hapart)
  | points hd _ ih => exact .points hd (ih hnone hapart)
  | call hd _ hb ih ih' =>
    obtain ⟨hlater, hcall⟩ := List.append_eq_nil_iff.1 hnone
    refine .call hd (ih hcall fun q hq => hapart q (List.mem_append_right _ hq)) (ih' hlater fun q hq hmem => ?_)
    rcases List.mem_append.1 hmem with hmem | hmem
    · exact hb.fresh q hq (List.mem_append_left _ hmem)
    · exact hapart q (List.mem_append_left _ hq) hmem
  | found hdirect => exact .found hdirect
  | path hdirect _ ih => exact .path hdirect (ih hnone hapart)
  | refuse _ _ => exact absurd hnone (by simp [Report.refuse])
  | enter _ ha ih =>
    refine .enter (hapart _ (by simp [Report.enter])) (ih hnone fun q hq hmem => ?_)
    rcases List.mem_cons.1 hmem with rfl | hmem
    · exact ha.fresh q hq (List.mem_cons_self ..)
    · exact hapart q (List.mem_append_left _ hq) hmem

/-- A search that finds something has entered its place. -/
theorem mem_entered_of_ne {q : Place} (h : Searches x purpose [.enter q] E a) (hne : a.answer ≠ []) :
    q ∈ a.entered := by
  cases h with
  | refuse _ ha =>
    cases ha with
    | nil => exact absurd rfl hne
  | enter _ _ => simp [Report.enter]

end Searches

/-! ## Where answers come from -/

/-- What a task asks for leads to a place: a path to itself too, the others by one substitution at least. -/
def Task.Reaches (x : Index) (purpose : Purpose) (q : Place) : Task → Prop
  | .cut uri first rest => Chain x purpose ⟨uri, Name.field first rest⟩ q
  | .symbol s rest => ∃ m, Leads x purpose (Answers x purpose) s m ∧
      (⟨m.uri, Name.field m.path rest⟩ = q ∨ Chain x purpose ⟨m.uri, Name.field m.path rest⟩ q)
  | .path p => p = q ∨ Chain x purpose p q
  | .enter p => Chain x purpose p q

theorem Task.reaches_cut {uri : Uri} {first rest : String} {s : Symbol} {q : Place}
    (hs : s ∈ lookup x purpose uri first .exactlyEqual) (h : (Task.symbol s rest).Reaches x purpose q) :
    Chain x purpose ⟨uri, Name.field first rest⟩ q := by
  obtain ⟨m, hm, rfl | hchain⟩ := h
  · exact Follows.chain (.swap hs hm)
  · exact .trans (Follows.chain (.swap hs hm)) hchain

/-- An answer is the meaning of a path that one of the tasks leads to. -/
theorem Searches.sound {ts : List Task} {E : List Place} {a : Report} (h : Searches x purpose ts E a)
    (hne : a.answer ≠ []) : ∃ t ∈ ts, ∃ q, t.Reaches x purpose q ∧ a.answer = direct x purpose q := by
  induction h with
  | nil => exact absurd rfl hne
  | cut _ ih =>
    obtain ⟨t, ht, q, hq, hanswer⟩ := ih hne
    rcases List.mem_append.1 ht with ht | ht
    · obtain ⟨s, hs, rfl⟩ := List.mem_map.1 ht
      exact ⟨_, List.mem_cons_self .., q, Task.reaches_cut (kept_subset _ _ hs) hq, hanswer⟩
    · exact ⟨t, List.mem_cons_of_mem _ ht, q, hq, hanswer⟩
  | points _ _ ih =>
    obtain ⟨t, ht, q, hq, hanswer⟩ := ih hne
    rcases List.mem_append.1 ht with ht | ht
    · obtain ⟨m, hm, rfl⟩ := List.mem_map.1 ht
      exact ⟨_, List.mem_cons_self .., q, ⟨m, .points (mem_pointed.1 hm), hq⟩, hanswer⟩
    · exact ⟨t, List.mem_cons_of_mem _ ht, q, hq, hanswer⟩
  | call hd _ _ ih ih' =>
    obtain ⟨t, ht, q, hq, hanswer⟩ := ih' hne
    rcases List.mem_append.1 ht with ht | ht
    · obtain ⟨m, hm, rfl⟩ := List.mem_map.1 ht
      obtain ⟨f, fs, n, hfound, hn, rfl⟩ := mem_returned.1 hm
      obtain ⟨t, ht, r, hr, hfunction⟩ := ih (by simp [hfound])
      cases List.mem_singleton.1 ht
      have hanswers : Answers x purpose _ f := ⟨r, fs, hr, hfunction.symm.trans hfound⟩
      exact ⟨_, List.mem_cons_self .., q, ⟨_, .calls (deferred?_eq_some.1 hd) hanswers hn, hq⟩, hanswer⟩
    · exact ⟨t, List.mem_cons_of_mem _ ht, q, hq, hanswer⟩
  | @found p ts _ _ => exact ⟨.path p, List.mem_cons_self .., p, .inl rfl, rfl⟩
  | path _ _ ih =>
    obtain ⟨t, ht, q, hq, hanswer⟩ := ih hne
    rcases List.mem_cons.1 ht with rfl | ht
    · exact ⟨_, List.mem_cons_self .., q, .inr hq, hanswer⟩
    · exact ⟨t, List.mem_cons_of_mem _ ht, q, hq, hanswer⟩
  | refuse _ _ ih =>
    obtain ⟨t, ht, q, hq, hanswer⟩ := ih hne
    exact ⟨t, List.mem_cons_of_mem _ ht, q, hq, hanswer⟩
  | enter _ _ ih =>
    obtain ⟨t, ht, q, hq, hanswer⟩ := ih hne
    rcases List.mem_append.1 ht with ht | ht
    · obtain ⟨cut, hcut, rfl⟩ := List.mem_map.1 ht
      refine ⟨_, List.mem_cons_self .., q, ?_, hanswer⟩
      rw [Task.Reaches, ← mem_cuts.1 hcut] at hq
      exact hq
    · exact ⟨t, List.mem_cons_of_mem _ ht, q, hq, hanswer⟩

/-! ## What was found on the way -/

/-- What is told of a finding is told of a search for its function, which gave an answer. -/
def Finding.IsSearch (x : Index) (purpose : Purpose) (g : Finding) : Prop :=
  g.callee ∈ g.entered ∧
    ∃ E fs, Searches x purpose [.enter g.callee] E ⟨g.found, g.entered, g.refused, fs⟩

/-- The findings of a report are searches for functions, each with places of its own among those entered. -/
structure Report.Accounts (x : Index) (purpose : Purpose) (a : Report) : Prop where
  search : ∀ g ∈ a.findings, g.IsSearch x purpose
  inside : ∀ g ∈ a.findings, g.entered ⊆ a.entered
  apart : ∀ g ∈ a.findings, ∀ g' ∈ a.findings, ∀ q ∈ g.entered, q ∈ g'.entered → g = g'

theorem Report.Accounts.andThen {a b : Report} (ha : a.Accounts x purpose) (hb : b.Accounts x purpose)
    (hfresh : ∀ q ∈ b.entered, q ∉ a.entered) : (a.andThen b).Accounts x purpose := by
  constructor
  · intro g hg
    exact (List.mem_append.1 hg).elim (ha.search g) (hb.search g)
  · intro g hg q hq
    rcases List.mem_append.1 hg with hg | hg
    · exact List.mem_append_right _ (ha.inside g hg hq)
    · exact List.mem_append_left _ (hb.inside g hg hq)
  · intro g hg g' hg' q hq hq'
    rcases List.mem_append.1 hg with hg | hg <;> rcases List.mem_append.1 hg' with hg' | hg'
    · exact ha.apart g hg g' hg' q hq hq'
    · exact absurd (ha.inside g hg hq) (hfresh q (hb.inside g' hg' hq'))
    · exact absurd (ha.inside g' hg' hq') (hfresh q (hb.inside g hg hq))
    · exact hb.apart g hg g' hg' q hq hq'

theorem Report.Accounts.asCall {a : Report} {E : List Place} {callee : Place} (ha : a.Accounts x purpose)
    (h : Searches x purpose [.enter callee] E a) : (a.asCall callee).Accounts x purpose := by
  by_cases hnil : a.answer = []
  · rwa [Report.asCall_of_nil hnil]
  · constructor <;> rw [Report.findings_asCall hnil]
    · exact List.forall_mem_singleton.2 ⟨h.mem_entered_of_ne hnil, E, a.findings, h⟩
    · exact List.forall_mem_singleton.2 (List.Subset.refl _)
    · intro g hg g' hg' _ _ _
      rw [List.mem_singleton.1 hg, List.mem_singleton.1 hg']

theorem Searches.accounts {ts : List Task} {E : List Place} {a : Report} (h : Searches x purpose ts E a) :
    a.Accounts x purpose := by
  induction h with
  | nil | found _ => exact ⟨List.forall_mem_nil _, List.forall_mem_nil _, List.forall_mem_nil _⟩
  | cut _ ih | points _ _ ih | path _ _ ih => exact ih
  | call _ ha hb ih ih' =>
    exact (ih.asCall ha).andThen ih' fun q hq hmem => hb.fresh q hq (List.mem_append_left _ hmem)
  | refuse _ _ ih => exact ⟨ih.search, ih.inside, ih.apart⟩
  | enter _ _ ih =>
    exact ⟨ih.search, fun g hg => List.Subset.trans (ih.inside g hg) (List.subset_append_left ..), ih.apart⟩

/-! ## Runs of the loops -/

/-- The tasks do what a program does: whenever that ends, the search has a report with its answer and its places. -/
def Tells (x : Index) (purpose : Purpose) (ts : List Task) (m : Follow (List Symbol)) : Prop :=
  ∀ t r t', m t = some (r, t') →
    ∃ a, Searches x purpose ts t.entered a ∧ a.answer = r ∧ t'.entered = a.entered ++ t.entered

theorem tells_firstAnswer {α : Type} {f : α → Follow (List Symbol)} {task : α → Task} : ∀ {as : List α},
    (∀ a ∈ as, Tells x purpose [task a] (f a)) → Tells x purpose (as.map task) (firstAnswer f as)
  | [], _, t, r, t', h => by
    cases h
    exact ⟨_, .nil, rfl, rfl⟩
  | a :: as, hf, t, r, t', h => by
    rw [firstAnswer] at h
    obtain ⟨found, u, ha, h⟩ := bind_eq_some h
    obtain ⟨first, hfirst, hanswer, hentered⟩ := hf a (List.mem_cons_self ..) t found u ha
    rw [List.map_cons]
    cases found with
    | nil =>
      obtain ⟨later, hlater, rfl, hentered'⟩ :=
        tells_firstAnswer (fun b hb => hf b (List.mem_cons_of_mem _ hb)) u r t' h
      rw [hentered] at hlater
      refine ⟨_, hfirst.append hanswer hlater, rfl, ?_⟩
      rw [hentered', hentered, Report.andThen, List.append_assoc]
    | cons s ss =>
      cases h
      refine ⟨first, hfirst.append_of_ne ?_, hanswer, hentered⟩
      rw [hanswer]
      exact List.cons_ne_nil _ _

section

variable {resolve : Place → Follow (List Symbol)} (hres : ∀ q, Tells x purpose [.enter q] (resolve q))
include hres

theorem tells_merged (q : Place) : Tells x purpose [.path q] (merged x purpose resolve q) := by
  intro t r t' h
  unfold merged at h
  split at h
  · rename_i hempty
    obtain ⟨a, ha, hanswer⟩ := hres q t r t' h
    exact ⟨a, .path (List.isEmpty_iff.1 hempty) ha, hanswer⟩
  · rename_i hne
    cases h
    exact ⟨_, .found fun hnil => hne (List.isEmpty_iff.2 hnil), rfl, rfl⟩

theorem tells_followSymbol (rest : String) (s : Symbol) :
    Tells x purpose [.symbol s rest] (followSymbol x purpose resolve rest s) := by
  intro t r t' h
  obtain ⟨places, u, hsub, hloop⟩ := bind_eq_some h
  obtain ⟨later, hlater, hanswer, hentered⟩ :=
    tells_firstAnswer (fun q _ => tells_merged hres ⟨q.uri, Name.field q.path rest⟩) u r t' hloop
  cases hd : deferred? x purpose s with
  | none =>
    rw [substitutes_points hd] at hsub
    cases hsub
    exact ⟨later, .points hd (by simpa [Task.paths] using hlater), hanswer, hentered⟩
  | some c =>
    rw [substitutes_defers (deferred?_eq_some.1 hd)] at hsub
    obtain ⟨fs, w, hresolve, hpure⟩ := bind_eq_some hsub
    cases hpure
    obtain ⟨call, hcall, rfl, hentered'⟩ := hres c t fs u hresolve
    rw [hentered'] at hlater
    refine ⟨_, .call hd hcall (by simpa [Task.paths] using hlater), hanswer, ?_⟩
    rw [hentered, hentered', Report.andThen, Report.asCall, List.append_assoc]

theorem tells_followCut (uri : Uri) (cut : String × String) :
    Tells x purpose [.cut uri cut.1 cut.2] (followCut x purpose resolve uri cut) := by
  intro t r t' h
  obtain ⟨ss, u, hcand, hloop⟩ := bind_eq_some h
  rw [candidates_eq] at hcand
  injection hcand with hcand
  injection hcand with hkept htrail
  subst hkept
  have hentered : u.entered = t.entered := by
    rw [← htrail]
    split <;> rfl
  obtain ⟨a, ha, hanswer⟩ := tells_firstAnswer (fun s _ => tells_followSymbol hres cut.2 s) u r t' hloop
  rw [hentered] at ha hanswer
  exact ⟨a, .cut (by simpa using ha), hanswer⟩

end

theorem tells_resolvePath : ∀ (fuel : Nat) (p : Place), Tells x purpose [.enter p] (resolvePath x purpose fuel p)
  | 0, p, t, r, t', h => by cases h
  | fuel + 1, p, t, r, t', h => by
    rw [resolvePath_succ] at h
    split at h
    · rename_i hmem
      cases h
      exact ⟨_, .refuse hmem .nil, rfl, rfl⟩
    · rename_i hmem
      obtain ⟨a, ha, hanswer, hentered⟩ :=
        tells_firstAnswer (fun cut _ => tells_followCut (tells_resolvePath fuel) p.uri cut) (t.enter p) r t' h
      refine ⟨_, .enter hmem (by rw [List.append_nil]; exact ha), hanswer, ?_⟩
      rw [hentered, Report.enter, List.append_assoc]
      rfl

end LuaAtlas.Inference
