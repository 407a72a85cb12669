/-
Chains of tags. Where the tag of a symbol leads is said here without a search: `Points` for a tag that names
its place, `Defers` for the result of a call whose function has to be resolved first. A step swaps the first
part of a path for the place its tag leads to, and a chain is one step or more. The parts of the search are
told in these terms.
-/
import LuaAtlas.Proofs.Index.Search
import Mathlib.Logic.Relation

namespace LuaAtlas.Inference

/-! ## Where tags lead -/

section

variable (x : Index) (purpose : Purpose)

/-- The tag of a symbol leads to a place, with no path to resolve before. -/
inductive Points (s : Symbol) : Place → Prop
  /-- A type or an assigned name, where symbols have it. -/
  | type {tag : Tag} {t : Symbol} : s.tag? = some tag → tag.reason = .userTag ∨ tag.reason = .equal →
      t ∈ lookupBeside x purpose s tag.typeName → Points s ⟨t.uri, t.searchName⟩
  /-- A type or an assigned name that no symbol has. -/
  | typeName {tag : Tag} : s.tag? = some tag → tag.reason = .userTag ∨ tag.reason = .equal →
      lookupBeside x purpose s tag.typeName = [] → Points s ⟨s.uri, tag.typeName⟩
  /-- The field `__index` of a metatable. -/
  | metatable {tag : Tag} : s.tag? = some tag → tag.reason = .metaTable →
      Points s ⟨s.uri, tag.typeName ++ ".__index"⟩
  /-- What the field `__index` of a metatable is tagged with. -/
  | metatableTag {tag tag' : Tag} {t : Symbol} : s.tag? = some tag → tag.reason = .metaTable →
      t ∈ lookupBeside x purpose s (tag.typeName ++ ".__index") → t.tag? = some tag' →
      Points s ⟨t.uri, tag'.typeName⟩
  /-- The variable that a required file returns. -/
  | required {m name : String} {uri : Uri} {d : Document} : s.tagReason? = some .requireReturn →
      s.requiredModule? = some m → x.resolve? m = some uri → x.document? uri = some d → d.returnName? = some name →
      Points s ⟨uri, name⟩
  /-- The variable that a called function returns, where a symbol has the function's name. -/
  | called {callee name : String} {f : Symbol} {fs : List Symbol} : s.tagReason? = some .callReturn →
      s.callReturnOf? = some callee → lookupBeside x purpose s callee = f :: fs → f.returnName? = some name →
      Points s ⟨f.uri, name⟩

/-- A symbol holds the result of a call, and no symbol has the name of the function: it has to be resolved. -/
inductive Defers (s : Symbol) : Place → Prop
  | call {callee : String} : s.tagReason? = some .callReturn → s.callReturnOf? = some callee →
      lookupBeside x purpose s callee = [] → Defers s ⟨s.uri, callee⟩

/-- The tag of a symbol leads to a place, where `answers` says which function a deferred call means. -/
inductive Leads (answers : Place → Symbol → Prop) (s : Symbol) : Place → Prop
  | points {q : Place} : Points x purpose s q → Leads answers s q
  | calls {c : Place} {f : Symbol} {n : String} : Defers x purpose s c → answers c f → f.returnName? = some n →
      Leads answers s ⟨f.uri, n⟩

/-- One substitution: a path that starts with the name of a symbol goes on from where its tag leads. -/
inductive Follows (answers : Place → Symbol → Prop) : Place → Place → Prop
  | swap {u : Uri} {first rest : String} {s : Symbol} {q : Place} : s ∈ lookup x purpose u first .exactlyEqual →
      Leads x purpose answers s q → Follows answers ⟨u, Name.field first rest⟩ ⟨q.uri, Name.field q.path rest⟩

/-- For a first part of the path, a symbol holds the result of a call whose function has to be resolved. -/
inductive Calls : Place → Place → Prop
  | call {u : Uri} {first rest : String} {s : Symbol} {c : Place} : s ∈ lookup x purpose u first .exactlyEqual →
      Defers x purpose s c → Calls ⟨u, Name.field first rest⟩ c

/-- A chain of substitutions, at least one. A deferred call means the first function that a chain from its
name leads to. -/
inductive Chain : Place → Place → Prop
  | points {u : Uri} {first rest : String} {s : Symbol} {q : Place} : s ∈ lookup x purpose u first .exactlyEqual →
      Points x purpose s q → Chain ⟨u, Name.field first rest⟩ ⟨q.uri, Name.field q.path rest⟩
  | calls {u : Uri} {first rest n : String} {s f : Symbol} {fs : List Symbol} {c q : Place} :
      s ∈ lookup x purpose u first .exactlyEqual → Defers x purpose s c → Chain c q → direct x purpose q = f :: fs →
      f.returnName? = some n → Chain ⟨u, Name.field first rest⟩ ⟨f.uri, Name.field n rest⟩
  | trans {p q r : Place} : Chain p q → Chain q r → Chain p r

/-- A chain from the path leads to a path whose first symbol is `f`. -/
def Answers (p : Place) (f : Symbol) : Prop := ∃ q fs, Chain x purpose p q ∧ direct x purpose q = f :: fs

end

variable {x : Index} {purpose : Purpose}

theorem Leads.mono {answers answers' : Place → Symbol → Prop} (h : ∀ c f, answers c f → answers' c f) {s : Symbol}
    {q : Place} : Leads x purpose answers s q → Leads x purpose answers' s q
  | .points hp => .points hp
  | .calls hd ha hn => .calls hd (h _ _ ha) hn

theorem Follows.mono {answers answers' : Place → Symbol → Prop} (h : ∀ c f, answers c f → answers' c f) {p q : Place} :
    Follows x purpose answers p q → Follows x purpose answers' p q
  | .swap hs hq => .swap hs (hq.mono h)

theorem Follows.chain {p q : Place} : Follows x purpose (Answers x purpose) p q → Chain x purpose p q
  | .swap hs (.points hp) => .points hs hp
  | .swap hs (.calls hd ⟨_, _, hc, ha⟩ hn) => .calls hs hd hc ha hn

theorem Chain.transGen {p q : Place} (h : Chain x purpose p q) :
    Relation.TransGen (Follows x purpose (Answers x purpose)) p q := by
  induction h with
  | points hs hp => exact .single (.swap hs (.points hp))
  | calls hs hd hc ha hn _ => exact .single (.swap hs (.calls hd ⟨_, _, hc, ha⟩ hn))
  | trans _ _ ih ih' => exact ih.trans ih'

/-! ## Programs that follow tags -/

theorem bind_eq_some {α β : Type} {m : Follow α} {f : α → Follow β} {t t' : Trail} {b : β}
    (h : (m >>= f) t = some (b, t')) : ∃ a u, m t = some (a, u) ∧ f a u = some (b, t') := by
  obtain ⟨⟨a, u⟩, hm, hf⟩ := Option.bind_eq_some_iff.1 h
  exact ⟨a, u, hm, hf⟩

theorem bind_of_some {α β : Type} {m : Follow α} {f : α → Follow β} {t u : Trail} {a : α} (h : m t = some (a, u)) :
    (m >>= f) t = f a u := by
  show (m t).bind _ = _
  rw [h]
  rfl

namespace Trail

/-- The trail after a place is refused. -/
def refuse (t : Trail) : Trail := { t with stats.cycleRefusals := t.stats.cycleRefusals + 1 }

/-- The trail after a place is entered. -/
def enter (t : Trail) (p : Place) : Trail := { t with entered := p :: t.entered }

/-- The trail after only the first of too many candidates is kept. -/
def truncate (t : Trail) : Trail := { t with stats.fanoutTruncations := t.stats.fanoutTruncations + 1 }

end Trail

theorem resolvePath_succ (fuel : Nat) (p : Place) (t : Trail) : resolvePath x purpose (fuel + 1) p t =
    if p ∈ t.entered then some ([], t.refuse)
    else firstAnswer (followCut x purpose (resolvePath x purpose fuel) p.uri) (cuts p.path) (t.enter p) := by
  have hcontains : (t.entered.contains p = true) = (p ∈ t.entered) := propext List.contains_iff_mem
  rw [resolvePath]
  by_cases hp : p ∈ t.entered
  · rw [if_pos hp]
    show (if t.entered.contains p = true then _ else _ : Follow (List Symbol)) t = _
    rw [if_pos (hcontains ▸ hp)]
    rfl
  · rw [if_neg hp]
    show (if t.entered.contains p = true then _ else _ : Follow (List Symbol)) t = _
    rw [if_neg (hcontains ▸ hp)]
    rfl

/-! ## One symbol -/

theorem tagReason?_of_tag {s : Symbol} {tag : Tag} (h : s.tag? = some tag) : s.tagReason? = some tag.reason := by
  unfold Symbol.tagReason?
  rw [h]

/-- A tag that is none of a value's own is written on the symbol. -/
theorem exists_tag {s : Symbol} {reason : TagReason} (h : s.tagReason? = some reason) (hr : reason ≠ .requireReturn)
    (hc : reason ≠ .callReturn) : ∃ tag, s.tag? = some tag ∧ tag.reason = reason := by
  unfold Symbol.tagReason? at h
  split at h
  · rename_i tag ht
    exact ⟨tag, ht, Option.some.inj h⟩
  · split at h
    · exact absurd (Option.some.inj h).symm hr
    · split at h
      · exact absurd (Option.some.inj h).symm hc
      · cases h

theorem mem_returned {fs : List Symbol} {q : Place} :
    q ∈ returned fs ↔ ∃ f more n, fs = f :: more ∧ f.returnName? = some n ∧ q = ⟨f.uri, n⟩ := by
  unfold returned
  cases fs with
  | nil => simp
  | cons f more =>
    cases hn : f.returnName? with
    | none => simp [hn]
    | some n => simp [hn]

theorem deferred?_eq_some {s : Symbol} {c : Place} : deferred? x purpose s = some c ↔ Defers x purpose s c := by
  constructor
  · intro h
    unfold deferred? at h
    split at h
    · rename_i callee hr hc
      split at h
      · rename_i hl
        cases h
        exact .call hr hc (List.isEmpty_iff.1 hl)
      · cases h
    · cases h
  · rintro ⟨hr, hc, hl⟩
    unfold deferred?
    rw [hr, hc]
    exact if_pos (List.isEmpty_iff.2 hl)

theorem mem_pointed_type {s : Symbol} {tag : Tag} (ht : s.tag? = some tag)
    (hr : tag.reason = .userTag ∨ tag.reason = .equal) {q : Place} : q ∈ pointed x purpose s ↔
      (∃ t ∈ lookupBeside x purpose s tag.typeName, q = ⟨t.uri, t.searchName⟩) ∨
        lookupBeside x purpose s tag.typeName = [] ∧ q = ⟨s.uri, tag.typeName⟩ := by
  have hreason := tagReason?_of_tag ht
  unfold pointed
  rcases hr with hr | hr <;> rw [hr] at hreason <;> simp only [hreason, ht] <;>
    cases lookupBeside x purpose s tag.typeName <;> simp [eq_comm]

theorem mem_pointed_metatable {s : Symbol} {tag : Tag} (ht : s.tag? = some tag) (hr : tag.reason = .metaTable)
    {q : Place} : q ∈ pointed x purpose s ↔ q = ⟨s.uri, tag.typeName ++ ".__index"⟩ ∨
      ∃ t ∈ lookupBeside x purpose s (tag.typeName ++ ".__index"), ∃ tag', t.tag? = some tag' ∧
        q = ⟨t.uri, tag'.typeName⟩ := by
  have hreason := tagReason?_of_tag ht
  rw [hr] at hreason
  unfold pointed
  simp only [hreason, ht, List.mem_cons, List.mem_filterMap, Option.map_eq_some_iff, @eq_comm _ q]

/-- The places that a tag leads to by itself are those listed for it. -/
theorem mem_pointed {s : Symbol} {q : Place} : q ∈ pointed x purpose s ↔ Points x purpose s q := by
  constructor
  · intro h
    have htype : ∀ tag, s.tag? = some tag → tag.reason = .userTag ∨ tag.reason = .equal → Points x purpose s q := by
      intro tag ht hr
      rcases (mem_pointed_type ht hr).1 h with ⟨t, hl, rfl⟩ | ⟨hl, rfl⟩
      · exact .type ht hr hl
      · exact .typeName ht hr hl
    cases hreason : s.tagReason? with
    | none =>
      rw [pointed, hreason] at h
      cases h
    | some reason =>
      cases reason with
      | userTag =>
        obtain ⟨tag, ht, hr⟩ := exists_tag hreason (by decide) (by decide)
        exact htype tag ht (.inl hr)
      | equal =>
        obtain ⟨tag, ht, hr⟩ := exists_tag hreason (by decide) (by decide)
        exact htype tag ht (.inr hr)
      | metaTable =>
        obtain ⟨tag, ht, hr⟩ := exists_tag hreason (by decide) (by decide)
        rcases (mem_pointed_metatable ht hr).1 h with rfl | ⟨t, hl, tag', ht', rfl⟩
        · exact .metatable ht hr
        · exact .metatableTag ht hr hl ht'
      | requireReturn =>
        rw [pointed, hreason] at h
        simp only [Option.mem_toList, Option.bind_eq_bind, Option.bind_eq_some_iff, Option.pure_def,
          Option.some.injEq] at h
        obtain ⟨m, hm, uri, hu, d, hd, name, hn, rfl⟩ := h
        exact .required hreason hm hu hd hn
      | callReturn =>
        rw [pointed, hreason] at h
        dsimp only at h
        split at h
        · rename_i callee hc
          obtain ⟨f, fs, n, hl, hn, rfl⟩ := mem_returned.1 h
          exact .called hreason hc hl hn
        · cases h
  · intro h
    cases h with
    | type ht hr hl => exact (mem_pointed_type ht hr).2 (.inl ⟨_, hl, rfl⟩)
    | typeName ht hr hl => exact (mem_pointed_type ht hr).2 (.inr ⟨hl, rfl⟩)
    | metatable ht hr => exact (mem_pointed_metatable ht hr).2 (.inl rfl)
    | metatableTag ht hr hl ht' => exact (mem_pointed_metatable ht hr).2 (.inr ⟨_, hl, _, ht', rfl⟩)
    | required hr hm hu hd hn =>
      unfold pointed
      simp [hr, hm, hu, hd, hn]
    | called hr hc hl hn =>
      unfold pointed
      simp only [hr, hc, hl]
      exact mem_returned.2 ⟨_, _, _, rfl, hn, rfl⟩

/-- What has to be resolved first does not lead anywhere by itself. -/
theorem Defers.not_points {s : Symbol} {c q : Place} (h : Defers x purpose s c) : ¬ Points x purpose s q := by
  obtain ⟨hr, hc, hl⟩ := h
  rw [← mem_pointed, pointed, hr, hc]
  dsimp only
  rw [hl]
  exact List.not_mem_nil

theorem substitutes_defers {s : Symbol} {c : Place} (h : Defers x purpose s c)
    (resolve : Place → Follow (List Symbol)) :
    substitutes x purpose resolve s = (do let fs ← resolve c; return returned fs) := by
  unfold substitutes
  rw [deferred?_eq_some.2 h]

theorem substitutes_points {s : Symbol} (h : deferred? x purpose s = none) (resolve : Place → Follow (List Symbol)) :
    substitutes x purpose resolve s = pure (pointed x purpose s) := by
  unfold substitutes
  rw [h]

/-! ## Candidates -/

/-- The symbols that are followed for a name: only the first when there are too many. -/
def kept (x : Index) (purpose : Purpose) (uri : Uri) (name : String) : List Symbol :=
  if x.config.maxTagFanout < (lookup x purpose uri name .exactlyEqual).length then
    (lookup x purpose uri name .exactlyEqual).take 1
  else lookup x purpose uri name .exactlyEqual

theorem kept_subset (uri : Uri) (name : String) : kept x purpose uri name ⊆ lookup x purpose uri name .exactlyEqual := by
  unfold kept
  split
  · exact List.take_subset ..
  · exact List.Subset.refl _

theorem kept_eq {uri : Uri} {name : String}
    (h : (lookup x purpose uri name .exactlyEqual).length ≤ x.config.maxTagFanout) :
    kept x purpose uri name = lookup x purpose uri name .exactlyEqual :=
  if_neg (not_lt.2 h)

theorem candidates_eq (uri : Uri) (name : String) (t : Trail) : candidates x purpose uri name t =
    some (kept x purpose uri name,
      if x.config.maxTagFanout < (lookup x purpose uri name .exactlyEqual).length then t.truncate else t) := by
  unfold candidates kept
  split <;> rfl

end LuaAtlas.Inference
