/-
When queries end. A place is entered once, so a query that meets finitely many places ends, and it meets finitely
many unless its paths grow without bound. They can: a variable that is said to be a member of itself makes every
path through it longer, no place ever comes again, and there the query has no end.
-/
import LuaAtlas.Proofs.Inference.Fuel
import LuaAtlas.Proofs.Inference.Guard
import LuaAtlas.Proofs.Inference.Reach

namespace LuaAtlas.Inference

variable {x : Index} {purpose : Purpose}

/-! ## Searches that end -/

/-- From a trail that is `fit`, `m` ends with a value that `gives` allows, and the trail after it is fit. -/
def Halts {α : Type} (fit : Trail → Prop) (gives : α → Prop) (m : Follow α) : Prop :=
  ∀ t, fit t → ∃ a u, m t = some (a, u) ∧ fit u ∧ gives a

section

variable {fit : Trail → Prop}

theorem Halts.mono {α : Type} {gives gives' : α → Prop} {m : Follow α} (h : Halts fit gives m)
    (hgives : ∀ a, gives a → gives' a) : Halts fit gives' m := by
  intro t ht
  obtain ⟨a, u, hm, hu, ha⟩ := h t ht
  exact ⟨a, u, hm, hu, hgives a ha⟩

theorem Halts.pure {α : Type} {gives : α → Prop} {a : α} (ha : gives a) : Halts fit gives (pure a) :=
  fun t ht => ⟨a, t, rfl, ht, ha⟩

theorem Halts.bind {α β : Type} {gives : α → Prop} {gives' : β → Prop} {m : Follow α} {f : α → Follow β}
    (hm : Halts fit gives m) (hf : ∀ a, gives a → Halts fit gives' (f a)) : Halts fit gives' (m >>= f) := by
  intro t ht
  obtain ⟨a, u, ha, hu, hgives⟩ := hm t ht
  rw [bind_of_some ha]
  exact hf a hgives u hu

theorem Halts.firstAnswer {α : Type} {f : α → Follow (List Symbol)} : ∀ {as : List α},
    (∀ a ∈ as, Halts fit (fun _ => True) (f a)) → Halts fit (fun _ => True) (firstAnswer f as)
  | [], _ => .pure trivial
  | a :: as, hf => by
    refine .bind (hf a (List.mem_cons_self ..)) fun found _ => ?_
    cases found with
    | nil => exact Halts.firstAnswer fun b hb => hf b (List.mem_cons_of_mem a hb)
    | cons s ss => exact .pure trivial

variable {resolve : Place → Follow (List Symbol)}

theorem Halts.merged {q : Place} (hres : Halts fit (fun _ => True) (resolve q)) :
    Halts fit (fun _ => True) (merged x purpose resolve q) := by
  unfold Inference.merged
  dsimp only
  split
  · exact hres
  · exact .pure trivial

/-- The places that are substituted for a symbol are those its tag leads to. -/
theorem Halts.substitutes {s : Symbol} (hres : ∀ c, Defers x purpose s c →
      Halts fit (fun fs => ∀ f more, fs = f :: more → Answers x purpose c f) (resolve c)) :
    Halts fit (fun places => ∀ q ∈ places, Leads x purpose (Answers x purpose) s q) (substitutes x purpose resolve s) := by
  cases hd : deferred? x purpose s with
  | none =>
    rw [substitutes_points hd]
    exact .pure fun q hq => .points (mem_pointed.1 hq)
  | some c =>
    have hc := deferred?_eq_some.1 hd
    rw [substitutes_defers hc]
    refine .bind (hres c hc) fun fs hfs => .pure fun q hq => ?_
    obtain ⟨f, more, n, rfl, hn, rfl⟩ := mem_returned.1 hq
    exact .calls hc (hfs f more rfl) hn

/-- A search ends in one place if it ends in all that it may go on to. -/
theorem Halts.entry {p : Place} (htruncate : ∀ t, fit t → fit t.truncate)
    (hres : ∀ q, Enters x purpose p q →
      Halts fit (fun fs => ∀ f more, fs = f :: more → Answers x purpose q f) (resolve q)) :
    Halts fit (fun _ => True) (Inference.firstAnswer (followCut x purpose resolve p.uri) (cuts p.path)) := by
  obtain ⟨uri, path⟩ := p
  refine .firstAnswer fun ⟨first, rest⟩ hcut => ?_
  obtain rfl := mem_cuts.1 hcut
  have hcandidates : Halts fit (· ⊆ lookup x purpose uri first .exactlyEqual) (candidates x purpose uri first) := by
    intro t ht
    refine ⟨_, _, candidates_eq uri first t, ?_, kept_subset uri first⟩
    split
    · exact htruncate t ht
    · exact ht
  refine .bind hcandidates fun ss hss => .firstAnswer fun s hs => ?_
  have hlookup := hss hs
  refine .bind (.substitutes fun c hc => hres c (.inr (.call hlookup hc))) fun places hplaces => ?_
  refine .firstAnswer fun q hq => .merged ?_
  exact (hres _ (.inl (.swap hlookup (hplaces q hq)))).mono fun _ _ => trivial

end

/-! ## Finitely many places -/

/-- How many of the places are not entered yet. -/
def remaining (places : Finset Place) (t : Trail) : Nat := (places.filter (· ∉ t.entered)).card

theorem remaining_enter {places : Finset Place} {p : Place} (hp : p ∈ places) {t : Trail} (hnew : p ∉ t.entered) :
    remaining places (t.enter p) < remaining places t := by
  have hsub : places.filter (· ∉ (t.enter p).entered) ⊆ places.filter (· ∉ t.entered) := by
    intro q hq
    obtain ⟨hq, hnot⟩ := Finset.mem_filter.1 hq
    exact Finset.mem_filter.2 ⟨hq, fun hmem => hnot (List.mem_cons_of_mem p hmem)⟩
  refine Finset.card_lt_card ((Finset.ssubset_iff_of_subset hsub).2 ⟨p, ?_, fun hmem => ?_⟩)
  · exact Finset.mem_filter.2 ⟨hp, hnew⟩
  · exact (Finset.mem_filter.1 hmem).2 (List.mem_cons_self ..)

/-- A search ends with as much fuel as there are places left, and one unit. -/
theorem halts_resolvePath {places : Finset Place} : ∀ (fuel : Nat) {p : Place},
    (∀ q, Relation.ReflTransGen (Enters x purpose) p q → q ∈ places) →
    Halts (remaining places · < fuel) (fun _ => True) (resolvePath x purpose fuel p)
  | 0, _, _ => fun t ht => absurd ht (Nat.not_lt_zero _)
  | fuel + 1, p, hplaces => by
    have hbelow : ∀ q, Enters x purpose p q → Halts (remaining places · < fuel)
        (fun fs => ∀ f more, fs = f :: more → Answers x purpose q f) (resolvePath x purpose fuel q) := by
      intro q hq t ht
      obtain ⟨fs, u, hres, hu, -⟩ := halts_resolvePath fuel (fun r hr => hplaces r (.head hq hr)) t ht
      refine ⟨fs, u, hres, hu, ?_⟩
      rintro f more rfl
      exact answers_of_resolvePath hres
    intro t ht
    rw [resolvePath_succ]
    split
    · exact ⟨[], t.refuse, rfl, ht, trivial⟩
    · rename_i hnew
      have hless := remaining_enter (hplaces p .refl) hnew
      obtain ⟨r, u, hrun, hu, -⟩ := Halts.entry (fun t ht => ht) hbelow (t.enter p) (by omega)
      exact ⟨r, u, hrun, by omega, trivial⟩

/-- A query that meets finitely many places ends, and more fuel changes nothing. -/
theorem ends_of_finite {path : String} {uri : Uri}
    (h : {p | Relation.ReflTransGen (Enters x purpose) ⟨uri, Name.normalize path⟩ p}.Finite) (stats : Stats) :
    ∃ fuel answer, ∀ fuel', fuel ≤ fuel' → resolve? x purpose fuel' stats path uri = some answer := by
  obtain ⟨places, hplaces⟩ := h.exists_finset_coe
  have hmem : ∀ q, Relation.ReflTransGen (Enters x purpose) ⟨uri, Name.normalize path⟩ q → q ∈ places := by
    intro q hq
    exact Finset.mem_coe.1 (hplaces ▸ hq)
  let start : Trail := ⟨[], { stats with queries := stats.queries + 1 }⟩
  obtain ⟨r, t, hrun, -, -⟩ := halts_resolvePath (remaining places start + 1) hmem start (Nat.lt_succ_self _)
  refine ⟨remaining places start + 1,
    (r, if r.isEmpty then t.stats else { t.stats with resolved := t.stats.resolved + 1 }), fun fuel' hle => ?_⟩
  unfold resolve?
  show (resolvePath x purpose fuel' _ start >>= _) = _
  rw [extends_resolvePath hle _ start _ hrun]
  rfl

/-! ## Tags that lengthen nothing -/

/-- No tag leads to a name with more dots than its symbol has. -/
def Steady (x : Index) (purpose : Purpose) : Prop := ∀ uri name, ∀ s ∈ lookup x purpose uri name .exactlyEqual, ∀ q,
  Leads x purpose (Answers x purpose) s q → Name.dots (Name.normalize q.path) ≤ Name.dots s.searchName

theorem Follows.dots_le (h : Steady x purpose) {p q : Place} (hq : Follows x purpose (Answers x purpose) p q) :
    Name.dots (Name.normalize q.path) ≤ Name.dots (Name.normalize p.path) := by
  obtain @⟨u, first, rest, s, m, hs, hleads⟩ := hq
  have hle := h u first s hs m hleads
  rw [(finds_of_lookup hs).searchName_eq] at hle
  rw [Name.normalize_field, Name.normalize_field, Name.dots_field, Name.dots_field]
  omega

/-- Where tags lengthen nothing, no path of a query grows beyond the longest name in the index and the path itself. -/
theorem bounded_of_steady (h : Steady x purpose) (start : Place) :
    ∃ bound, ∀ p, Relation.ReflTransGen (Enters x purpose) start p → Name.dots p.path ≤ bound := by
  obtain ⟨bound, hbound⟩ := ((finite_sources x start).image fun m => Name.dots (Name.normalize m.path)).bddAbove
  have hsource : ∀ m, m = start ∨ Mentioned x m → Name.dots (Name.normalize m.path) ≤ bound :=
    fun m hm => hbound ⟨m, hm, rfl⟩
  refine ⟨bound, fun p hp => (Name.dots_le_normalize p.path).trans ?_⟩
  induction hp with
  | refl => exact hsource start (.inl rfl)
  | tail _ hstep ih =>
    rcases hstep with hfollows | @⟨u, first, rest, s, c, hs, hdefers⟩
    · exact (hfollows.dots_le h).trans ih
    · have hknown : Known x s := .of_finds (finds_of_lookup hs)
      obtain ⟨-, hcallee, -⟩ := hdefers
      exact hsource _ (.inr (mentioned_callee hknown hcallee))

/-! ## Queries -/

/-- A query ends unless its paths grow without bound. -/
theorem query_ends_of_bounded (config : Config) (steps : List Index.Step) (purpose : Purpose) (stats : Stats)
    (path : String) (uri : Uri) {bound : Nat}
    (h : ∀ p, Relation.ReflTransGen (Enters ((Index.empty config).run steps) purpose) ⟨uri, Name.normalize path⟩ p →
      Name.dots p.path ≤ bound) :
    ∃ fuel answer, ∀ fuel', fuel ≤ fuel' →
      resolve? ((Index.empty config).run steps) purpose fuel' stats path uri = some answer :=
  ends_of_finite (finite_of_bounded h) stats

/-- A file in which `a` and `b` are each the other. -/
def aliasPair : Index := (Index.empty {}).run [buildOf "a=b b=a"]

set_option maxRecDepth 100000 in
theorem aliasPair_steady : Steady aliasPair .definition := by
  have hfacts : ∀ s ∈ aliasPair.filedSymbols, s.tagReason? ≠ some .callReturn ∧
      ∀ q ∈ pointed aliasPair .definition s, Name.dots (Name.normalize q.path) ≤ Name.dots s.searchName := by
    decide +kernel
  intro uri name s hs q hq
  obtain ⟨hcall, hpointed⟩ := hfacts s ((yields_lookup aliasPair uri name .exactlyEqual).subset hs)
  cases hq with
  | points hp => exact hpointed q (mem_pointed.2 hp)
  | calls hd _ _ =>
    obtain ⟨hreason, -, -⟩ := hd
    exact absurd hreason hcall

/-- The query for `a.x` goes round between `a.x` and `b.x`, and ends. -/
theorem query_ends_alias : ∃ bound,
    (∀ p, Relation.ReflTransGen (Enters aliasPair .definition) ⟨sampleUri, Name.normalize "a.x"⟩ p →
      Name.dots p.path ≤ bound) ∧
    ∃ fuel answer, ∀ fuel', fuel ≤ fuel' → resolve? aliasPair .definition fuel' {} "a.x" sampleUri = some answer := by
  obtain ⟨bound, hbound⟩ := bounded_of_steady aliasPair_steady
    ⟨sampleUri, Name.normalize "a.x"⟩
  exact ⟨bound, hbound, query_ends_of_bounded {} [buildOf "a=b b=a"] .definition {} "a.x" sampleUri hbound⟩

/-! ## Paths that grow -/

/-- An endless chain of different places, none of which means anything: a query from its start has no end. A search
that ended would have entered all of them. -/
theorem endless {places : Nat → Place} (hdistinct : Function.Injective places)
    (hstep : ∀ n, Follows x purpose (Resolves x purpose) (places n) (places (n + 1)))
    (hnarrow : ∀ p, Narrow x purpose p)
    (hcalls : ∀ uri name, ∀ s ∈ lookup x purpose uri name .exactlyEqual, deferred? x purpose s = none)
    (hsilent : ∀ q, Relation.TransGen (Follows x purpose (Answers x purpose)) (places 0) q → direct x purpose q = [])
    (fuel : Nat) (stats : Stats) : resolvePath x purpose fuel (places 0) ⟨[], stats⟩ = none := by
  cases hrun : resolvePath x purpose fuel (places 0) ⟨[], stats⟩ with
  | none => rfl
  | some result =>
    obtain ⟨found, t⟩ := result
    exfalso
    cases found with
    | cons s ss =>
      obtain ⟨q, hq, hfound⟩ := resolvePath_sound hrun (List.cons_ne_nil _ _)
      exact List.cons_ne_nil _ _ (hfound.trans (hsilent q hq.transGen))
    | nil =>
      obtain ⟨a, ha, hnil, -⟩ := tells_resolvePath fuel _ _ _ _ hrun
      have hfindings : a.findings = [] := ha.findings_eq_nil hcalls fun s rest hmem => by
        cases List.mem_singleton.1 hmem
      have hharmless : a.Harmless := fun g hg => absurd hg (hfindings ▸ List.not_mem_nil)
      have hexhausts : ∀ n, a.Exhausts (places n) := by
        intro n
        induction n with
        | zero => exact (ha.idle hharmless hnil a.hasPart_self).1 _ (List.mem_singleton_self _)
        | succ n ih => exact (idle_of_follows hharmless ha hnil (fun q _ => hnarrow q) ih (hstep n)).2
      exact Set.infinite_of_injective_forall_mem (s := {p | p ∈ a.entered}) hdistinct (fun n => (hexhausts n).1)
        (List.finite_toSet a.entered)

/-- A file in which `c` is a member of itself. -/
def selfMember : Index := (Index.empty {}).run [buildOf "local c = c.d"]

/-- The paths that the query for `c.x` meets there, behind `c`: each has one `d` more. -/
def grown : Nat → String
  | 0 => "x"
  | n + 1 => Name.field "d" (grown n)

theorem dots_grown (n : Nat) : Name.dots (grown n) = n := by
  induction n with
  | zero => rfl
  | succ n ih =>
    have hd : Name.dots "d" = 0 := rfl
    rw [grown, Name.dots_field, ih, hd]
    omega

theorem field_grown (n : Nat) : Name.field "c.d" (grown n) = Name.field "c" (grown (n + 1)) := by
  refine String.ext ?_
  rw [grown, Name.toList_field, Name.toList_field, Name.toList_field]
  rfl

set_option maxRecDepth 100000 in
/-- No fuel is enough for the query for `c.x` where `c` is `c.d`. -/
theorem self_member_endless :
    ¬ ∃ fuel answer, resolve? selfMember .definition fuel {} "c.x" sampleUri = some answer := by
  have hpath : Name.normalize "c.x" = Name.field "c" (grown 0) := by decide +kernel
  have hfacts : selfMember.filedSymbols.length ≤ selfMember.config.maxTagFanout ∧
      (∀ s ∈ selfMember.filedSymbols, s.tagReason? ≠ some .callReturn ∧ Name.dots s.searchName = 0) ∧
      ∃ s ∈ lookup selfMember .definition sampleUri "c" .exactlyEqual,
        ⟨sampleUri, "c.d"⟩ ∈ pointed selfMember .definition s := by decide +kernel
  generalize selfMember = x at hfacts ⊢
  obtain ⟨hfew, hsymbols, hpointed⟩ := hfacts
  have hdistinct : Function.Injective fun n => (⟨sampleUri, Name.field "c" (grown n)⟩ : Place) := by
    intro m n h
    have hdots := congrArg (fun p : Place => Name.dots p.path) h
    simp only [Name.dots_field, dots_grown] at hdots
    omega
  have hstep : ∀ n, Follows x .definition (Resolves x .definition) ⟨sampleUri, Name.field "c" (grown n)⟩
      ⟨sampleUri, Name.field "c" (grown (n + 1))⟩ := by
    intro n
    rw [← field_grown]
    exact follows_pointed hpointed
  have hsilent : ∀ q, Relation.TransGen (Follows x .definition (Answers x .definition))
      ⟨sampleUri, Name.field "c" (grown 0)⟩ q → direct x .definition q = [] := by
    intro q hq
    obtain ⟨base, rest, hq, -⟩ := endsIn_of_transGen hq
    refine List.eq_nil_iff_forall_not_mem.2 fun s hs => ?_
    have hlookup : s ∈ lookup x .definition q.uri q.path .exactlyEqual := hs
    have hdots := (hsymbols s ((yields_lookup x q.uri q.path .exactlyEqual).subset hlookup)).2
    rw [(finds_of_lookup hlookup).searchName_eq, hq, Name.normalize_field, Name.dots_field] at hdots
    omega
  have hcalls : ∀ uri name, ∀ s ∈ lookup x .definition uri name .exactlyEqual, deferred? x .definition s = none := by
    refine fun uri name s hs => Option.eq_none_iff_forall_ne_some.2 fun c hc => ?_
    obtain ⟨hreason, -, -⟩ := deferred?_eq_some.1 hc
    exact (hsymbols s ((yields_lookup x uri name .exactlyEqual).subset hs)).1 hreason
  rintro ⟨fuel, ⟨found, stats⟩, hrun⟩
  obtain ⟨t, hrun, -⟩ := resolve?_eq_some hrun
  rw [hpath] at hrun
  have hnone := endless hdistinct hstep (narrow_of_few hfew) hcalls hsilent fuel { ({} : Stats) with queries := 1 }
  cases hnone.symm.trans hrun

end LuaAtlas.Inference
