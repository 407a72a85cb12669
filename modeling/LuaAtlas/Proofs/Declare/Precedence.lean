/-
Which tag a symbol gets. Assigned names, metatables and annotations each mean one symbol, found by its line or its
name, and are written into the symbols one after the other. What a symbol has in the end can be told without running
this: an annotation counts more than a metatable, that more than the tag a symbol is declared with, and that more than
an assigned name; of several annotations or metatables the last counts, of several assigned names the first. So nothing
hangs on how the three kinds stand among each other.
-/
import LuaAtlas.Proofs.Walk.Contents
import Mathlib

namespace LuaAtlas.Declare

open LuaAtlas.Syntax LuaAtlas.Walk

/-! ## First and last -/

section

variable {α β : Type}

/-- The `i`-th element is the first that satisfies `p`. -/
@[mk_iff]
structure IsFirst (p : α → Bool) (as : List α) (i : Nat) : Prop where
  holds : as[i]?.any p = true
  before : ∀ a ∈ as.take i, p a = false

/-- The `i`-th element is the last that satisfies `p`. -/
@[mk_iff]
structure IsLast (p : α → Bool) (as : List α) (i : Nat) : Prop where
  holds : as[i]?.any p = true
  behind : ∀ a ∈ as.drop (i + 1), p a = false

instance (p : α → Bool) (as : List α) (i : Nat) : Decidable (IsFirst p as i) := decidable_of_iff' _ (isFirst_iff p as i)

instance (p : α → Bool) (as : List α) (i : Nat) : Decidable (IsLast p as i) := decidable_of_iff' _ (isLast_iff p as i)

variable {p : α → Bool} {as : List α} {i : Nat}

/-- Only what `p` sees of the elements matters. -/
theorem isFirst_map {g : α → β} {q : β → Bool} : IsFirst q (as.map g) i ↔ IsFirst (fun a => q (g a)) as i := by
  simp [isFirst_iff, ← List.map_take, Option.any_map]

theorem isLast_map {g : α → β} {q : β → Bool} : IsLast q (as.map g) i ↔ IsLast (fun a => q (g a)) as i := by
  simp [isLast_iff, ← List.map_drop, Option.any_map]

theorem IsFirst.exists_getElem? (h : IsFirst p as i) : ∃ a, as[i]? = some a ∧ p a = true := by
  simpa [Option.any_eq_true] using h.holds

theorem IsLast.exists_getElem? (h : IsLast p as i) : ∃ a, as[i]? = some a ∧ p a = true := by
  simpa [Option.any_eq_true] using h.holds

theorem isFirst_zero {a : α} : IsFirst p (a :: as) 0 ↔ p a = true := by
  constructor
  · intro h
    simpa using h.holds
  · intro h
    exact ⟨by simpa using h, by simp⟩

theorem isFirst_succ {a : α} : IsFirst p (a :: as) (i + 1) ↔ p a = false ∧ IsFirst p as i := by
  constructor
  · rintro ⟨hholds, hbefore⟩
    simp only [List.take_succ_cons, List.forall_mem_cons] at hbefore
    exact ⟨hbefore.1, by simpa using hholds, hbefore.2⟩
  · rintro ⟨ha, hholds, hbefore⟩
    refine ⟨by simpa using hholds, ?_⟩
    simp only [List.take_succ_cons, List.forall_mem_cons]
    exact ⟨ha, hbefore⟩

/-- The last of a list is the first from behind. -/
theorem isLast_iff_reverse (hi : i < as.length) : IsLast p as i ↔ IsFirst p as.reverse (as.length - 1 - i) := by
  have hget : as.reverse[as.length - 1 - i]? = as[i]? := by
    rw [List.getElem?_reverse (by omega)]
    congr 1
    omega
  have htake : as.reverse.take (as.length - 1 - i) = (as.drop (i + 1)).reverse := by
    rw [List.take_reverse]
    congr 2
    omega
  constructor
  · rintro ⟨hholds, hbehind⟩
    exact ⟨by rw [hget, hholds], fun a ha => hbehind a (List.mem_reverse.1 (htake ▸ ha))⟩
  · rintro ⟨hholds, hbefore⟩
    exact ⟨by rw [← hget, hholds], fun a ha => hbefore a (htake ▸ List.mem_reverse.2 ha)⟩

theorem getElem?_changeFirst (f : α → α) : ∀ (as : List α) (i : Nat),
    (changeFirst p f as)[i]? = if IsFirst p as i then as[i]?.map f else as[i]?
  | [], i => by simp [changeFirst]
  | a :: as, 0 => by
    rw [changeFirst]
    by_cases ha : p a = true
    · simp [isFirst_zero, ha]
    · simp [isFirst_zero, ha]
  | a :: as, i + 1 => by
    rw [changeFirst]
    by_cases ha : p a = true
    · simp [isFirst_succ, ha]
    · simp [isFirst_succ, ha, getElem?_changeFirst f as i]

theorem getElem?_changeLast (f : α → α) (as : List α) (i : Nat) :
    (changeLast p f as)[i]? = if IsLast p as i then as[i]?.map f else as[i]? := by
  have hlength : (changeFirst p f as.reverse).length = as.length := by
    have h := congrArg List.length (map_changeFirst (p := p) (f := f) (g := fun _ => ()) (fun _ => rfl) as.reverse)
    simpa using h
  unfold changeLast
  by_cases hi : i < as.length
  · rw [List.getElem?_reverse (by omega), hlength, getElem?_changeFirst, List.getElem?_reverse (by omega)]
    simp only [isLast_iff_reverse hi]
    rw [show as.length - 1 - (as.length - 1 - i) = i by omega]
  · rw [List.getElem?_eq_none (by simpa [hlength] using hi), List.getElem?_eq_none (by omega)]
    simp

end

/-! ## Writing one record after the other -/

section

variable {σ ρ β : Type} {step : σ → ρ → σ} (ok : σ → Prop) (read : σ → Option β) (write : ρ → Option β)

/-- Where each record overwrites, the last one is read. -/
theorem foldl_last (hok : ∀ s r, ok s → ok (step s r))
    (hstep : ∀ s r, ok s → read (step s r) = (write r).or (read s)) :
    ∀ (rs : List ρ) (s : σ), ok s → read (rs.foldl step s) = ((rs.filterMap write).getLast?).or (read s)
  | [], s, _ => rfl
  | r :: rs, s, hs => by
    rw [List.foldl_cons, foldl_last hok hstep rs _ (hok s r hs), hstep s r hs]
    cases hw : write r with
    | none => simp [hw]
    | some b => cases hlast : (rs.filterMap write).getLast? <;> simp [hw, hlast, List.getLast?_cons]

/-- Where a record is written only if nothing was there, the first one is read. -/
theorem foldl_first (hok : ∀ s r, ok s → ok (step s r))
    (hstep : ∀ s r, ok s → read (step s r) = (read s).or (write r)) :
    ∀ (rs : List ρ) (s : σ), ok s → read (rs.foldl step s) = (read s).or (rs.filterMap write).head?
  | [], s, _ => by simp
  | r :: rs, s, hs => by
    rw [List.foldl_cons, foldl_first hok hstep rs _ (hok s r hs), hstep s r hs, Option.or_assoc]
    cases hw : write r <;> simp [hw]

end

/-! ## What a record says of a symbol -/

/-- The name that an event says the `i`-th of the symbols is assigned. The first symbol of the name on the line is
meant, and none is linked to its own name. -/
def assignedName? (ss : List Symbol) (i : Nat) : Event → Option String
  | .equated line name source => if IsFirst (isAt line name) ss i ∧ source ≠ name then some source else none
  | _ => none

/-- Whether the `i`-th symbol is meant by `object` on `line`: the last one of the name that starts on the line or above,
or else the first of the name. -/
def isMeant (line : Nat) (object : String) (ss : List Symbol) (i : Nat) : Bool :=
  let above (s : Symbol) : Bool := s.searchName = object && s.startLine ≤ line
  if ss.any above then IsLast above ss i else IsFirst (·.searchName = object) ss i

/-- The metatable that an event says the `i`-th of the symbols gets. -/
def metatableOf? (ss : List Symbol) (i : Nat) : Event → Option String
  | .metatable line object metatable => if isMeant line object ss i then some metatable else none
  | _ => none

/-- The type that an annotation gives to the `i`-th of the symbols: the first one on the line below is meant. -/
def annotatedType? (ss : List Symbol) (i : Nat) (a : Annotation) : Option String :=
  if IsFirst (·.startLine = a.line + 1) ss i then some a.typeName else none

/-- The tag of the `i`-th symbol. -/
def tagAt (i : Nat) (ss : List Symbol) : Option Tag := ss[i]?.bind (·.tag?)

/-- Lists of symbols that differ at most in what was learnt about values. -/
def Alike (ss ts : List Symbol) : Prop := ss.map Symbol.plain = ts.map Symbol.plain

variable {ss ts : List Symbol} {i : Nat}

theorem Alike.isFirst_iff (h : Alike ss ts) {p : Symbol → Bool} (hp : ∀ s, p s.plain = p s) :
    IsFirst p ss i ↔ IsFirst p ts i := by
  have hmap : ∀ us : List Symbol, IsFirst p (us.map Symbol.plain) i ↔ IsFirst p us i := by
    intro us
    rw [isFirst_map]
    simp only [hp]
  rw [← hmap ss, h, hmap ts]

theorem Alike.isLast_iff (h : Alike ss ts) {p : Symbol → Bool} (hp : ∀ s, p s.plain = p s) :
    IsLast p ss i ↔ IsLast p ts i := by
  have hmap : ∀ us : List Symbol, IsLast p (us.map Symbol.plain) i ↔ IsLast p us i := by
    intro us
    rw [isLast_map]
    simp only [hp]
  rw [← hmap ss, h, hmap ts]

theorem Alike.any_eq (h : Alike ss ts) {p : Symbol → Bool} (hp : ∀ s, p s.plain = p s) : ss.any p = ts.any p := by
  have hmap : ∀ us : List Symbol, (us.map Symbol.plain).any p = us.any p := by
    intro us
    rw [List.any_map]
    congr 1
    exact funext hp
  rw [← hmap ss, h, hmap ts]

/-- Records mean the same symbols whatever was learnt before. -/
theorem Alike.assignedName? (h : Alike ss ts) : assignedName? ss i = assignedName? ts i := by
  funext e
  cases e with
  | equated line name source => simp only [Declare.assignedName?, h.isFirst_iff (p := isAt line name) fun _ => rfl]
  | _ => rfl

theorem Alike.isMeant (h : Alike ss ts) (line : Nat) (object : String) :
    isMeant line object ss i = isMeant line object ts i := by
  unfold Declare.isMeant
  simp only [h.any_eq (p := fun s => decide (s.searchName = object) && decide (s.startLine ≤ line)) fun _ => rfl,
    h.isLast_iff (p := fun s => decide (s.searchName = object) && decide (s.startLine ≤ line)) fun _ => rfl,
    h.isFirst_iff (p := fun s => decide (s.searchName = object)) fun _ => rfl]

theorem Alike.metatableOf? (h : Alike ss ts) : metatableOf? ss i = metatableOf? ts i := by
  funext e
  cases e with
  | metatable line object metatable => simp only [Declare.metatableOf?, h.isMeant line object]
  | _ => rfl

theorem Alike.annotatedType? (h : Alike ss ts) : annotatedType? ss i = annotatedType? ts i := by
  funext a
  simp only [Declare.annotatedType?, h.isFirst_iff (p := fun s => decide (s.startLine = a.line + 1)) fun _ => rfl]

/-! ## The three kinds, one after the other -/

theorem tagAt_applyEqual (ss : List Symbol) (e : Event) (i : Nat) :
    tagAt i (applyEqual ss e) = (tagAt i ss).or ((assignedName? ss i e).map (⟨.equal, ·⟩)) := by
  cases e with
  | equated line name source =>
    unfold applyEqual tagAt assignedName?
    rw [getElem?_changeFirst]
    by_cases hfirst : IsFirst (isAt line name) ss i
    · obtain ⟨s, hs, hat⟩ := hfirst.exists_getElem?
      have hname : s.searchName = name := by
        unfold isAt at hat
        simpa using (Bool.and_eq_true_iff.1 hat).2
      rw [if_pos hfirst, hs]
      by_cases hsource : source = name
      · simp [linkEqual, hname, hsource]
      · cases htag : s.tag? <;> simp [linkEqual, hname, hfirst, hsource, Ne.symm hsource, htag]
    · simp [hfirst]
  | _ => simp [applyEqual, assignedName?]

/-- Where no annotation was written yet, a metatable overwrites. -/
theorem tagAt_applyMetatable {ss : List Symbol} {i : Nat} (hfree : ∀ t, tagAt i ss = some t → t.reason ≠ .userTag)
    (e : Event) : tagAt i (applyMetatable ss e) = ((metatableOf? ss i e).map (⟨.metaTable, ·⟩)).or (tagAt i ss) := by
  cases e with
  | metatable line object metatable =>
    have hlink : ∀ s, ss[i]? = some s → (linkMetatable metatable s).tag? = some ⟨.metaTable, metatable⟩ := by
      intro s hs
      unfold linkMetatable
      cases htag : s.tag? with
      | none => simp
      | some t => simp [hfree t (by simp [tagAt, hs, htag])]
    unfold applyMetatable metatableOf? isMeant tagAt
    dsimp only
    split
    · rw [getElem?_changeLast]
      split
      · rename_i hlast
        obtain ⟨s, hs, -⟩ := hlast.exists_getElem?
        simp [hlast, hs, hlink s hs]
      · rename_i hlast
        simp [hlast]
    · rw [getElem?_changeFirst]
      split
      · rename_i hfirst
        obtain ⟨s, hs, -⟩ := hfirst.exists_getElem?
        simp [hfirst, hs, hlink s hs]
      · rename_i hfirst
        simp [hfirst]
  | _ => simp [applyMetatable, metatableOf?]

theorem tagAt_annotated (ss : List Symbol) (a : Annotation) (i : Nat) :
    tagAt i ( applyAnnotation ss a) = ((annotatedType? ss i a).map (⟨.userTag, ·⟩)).or (tagAt i ss) := by
  unfold applyAnnotation tagAt annotatedType?
  rw [getElem?_changeFirst]
  split
  · rename_i hfirst
    obtain ⟨s, hs, -⟩ := hfirst.exists_getElem?
    simp [hs]
  · simp

theorem tagAt_foldl_applyEqual (es : List Event) (ss : List Symbol) (i : Nat) :
    tagAt i (es.foldl applyEqual ss) =
      (tagAt i ss).or ((es.filterMap (assignedName? ss i)).head?.map (⟨.equal, ·⟩)) := by
  have h := foldl_first (fun us => Alike us ss) (tagAt i) (fun e => (assignedName? ss i e).map (Tag.mk .equal))
    (fun us e hus => (map_applyEqual (fun _ _ => rfl) us e).trans hus)
    (fun us e hus => by rw [tagAt_applyEqual, hus.assignedName?]) es ss rfl
  rw [h, ← List.map_filterMap, List.head?_map]

theorem tagAt_foldl_applyMetatable {ss : List Symbol} {i : Nat}
    (hfree : ∀ t, tagAt i ss = some t → t.reason ≠ .userTag) (es : List Event) :
    tagAt i (es.foldl applyMetatable ss) =
      ((es.filterMap (metatableOf? ss i)).getLast?.map (⟨.metaTable, ·⟩)).or (tagAt i ss) := by
  have hstep : ∀ us e, (Alike us ss ∧ ∀ t, tagAt i us = some t → t.reason ≠ .userTag) →
      tagAt i (applyMetatable us e) = ((metatableOf? ss i e).map (Tag.mk .metaTable)).or (tagAt i us) := by
    rintro us e ⟨hus, hfree⟩
    rw [tagAt_applyMetatable hfree, hus.metatableOf?]
  have h := foldl_last (fun us => Alike us ss ∧ ∀ t, tagAt i us = some t → t.reason ≠ .userTag) (tagAt i)
    (fun e => (metatableOf? ss i e).map (Tag.mk .metaTable))
    (fun us e hus => ⟨(map_applyMetatable (fun _ _ => rfl) us e).trans hus.1, fun t ht => by
      rw [hstep us e hus] at ht
      cases hmeta : metatableOf? ss i e with
      | none => exact hus.2 t (by simpa [hmeta] using ht)
      | some m =>
        obtain rfl : Tag.mk .metaTable m = t := by simpa [hmeta] using ht
        simp⟩) hstep es ss ⟨rfl, hfree⟩
  rw [h, ← List.map_filterMap, List.getLast?_map]

theorem tagAt_foldl_annotated (as : List Annotation) (ss : List Symbol) (i : Nat) :
    tagAt i (as.foldl applyAnnotation ss) =
      ((as.filterMap (annotatedType? ss i)).getLast?.map (⟨.userTag, ·⟩)).or (tagAt i ss) := by
  have h := foldl_last (fun us => Alike us ss) (tagAt i) (fun a => (annotatedType? ss i a).map (Tag.mk .userTag))
    (fun us a hus => (map_annotated (fun _ _ => rfl) us a).trans hus)
    (fun us a hus => by rw [tagAt_annotated, hus.annotatedType?]) as ss rfl
  rw [h, ← List.map_filterMap, List.getLast?_map]

/-! ## What counts -/

def isEquated : Event → Bool
  | .equated .. => true
  | _ => false

def isMetatable : Event → Bool
  | .metatable .. => true
  | _ => false

theorem foldl_applyEqual_filter (es : List Event) (ss : List Symbol) :
    (es.filter isEquated).foldl applyEqual ss = es.foldl applyEqual ss := by
  rw [List.foldl_filter]
  congr 1
  funext us e
  cases e <;> rfl

theorem foldl_applyMetatable_filter (es : List Event) (ss : List Symbol) :
    (es.filter isMetatable).foldl applyMetatable ss = es.foldl applyMetatable ss := by
  rw [List.foldl_filter]
  congr 1
  funext us e
  cases e <;> rfl

/-- Assigned names might as well all be told before the first metatable. -/
theorem tagged_filter_append (es : List Event) (as : List Annotation) (ss : List Symbol) :
    tagged (es.filter isEquated ++ es.filter isMetatable) as ss = tagged es as ss := by
  have hdisjoint : ∀ e : Event, (isEquated e && isMetatable e) = false := by
    intro e
    cases e <;> rfl
  have hequal : (es.filter isEquated ++ es.filter isMetatable).filter isEquated = es.filter isEquated := by
    simp [List.filter_filter, hdisjoint]
  have hmetatable : (es.filter isEquated ++ es.filter isMetatable).filter isMetatable = es.filter isMetatable := by
    simp [List.filter_filter, Bool.and_comm (isMetatable _), hdisjoint]
  unfold tagged
  dsimp only
  rw [← foldl_applyEqual_filter, ← foldl_applyMetatable_filter, hequal, hmetatable, foldl_applyEqual_filter,
    foldl_applyMetatable_filter]

/-- An annotation beats a metatable, that beats the tag a symbol is declared with, and that beats an assigned name. -/
theorem tagAt_tagged {ss : List Symbol} {i : Nat} (hequal : ∀ t, tagAt i ss = some t → t.reason = .equal)
    (es : List Event) (as : List Annotation) : tagAt i (tagged es as ss) =
      (((as.filterMap (annotatedType? ss i)).getLast?.map (⟨.userTag, ·⟩)).or
        ((es.filterMap (metatableOf? ss i)).getLast?.map (⟨.metaTable, ·⟩))).or
        ((tagAt i ss).or ((es.filterMap (assignedName? ss i)).head?.map (⟨.equal, ·⟩))) := by
  have hlinked : Alike (es.foldl applyEqual ss) ss := map_foldl (map_applyEqual fun _ _ => rfl) es ss
  have hwritten : Alike (es.foldl applyMetatable (es.foldl applyEqual ss)) ss :=
    (map_foldl (map_applyMetatable fun _ _ => rfl) es _).trans hlinked
  have hfree : ∀ t, tagAt i (es.foldl applyEqual ss) = some t → t.reason ≠ .userTag := by
    intro t ht
    rw [tagAt_foldl_applyEqual] at ht
    rcases Option.or_eq_some_iff.1 ht with ht | ⟨-, ht⟩
    · rw [hequal t ht]
      decide
    · obtain ⟨source, -, rfl⟩ := Option.map_eq_some_iff.1 ht
      simp
  unfold tagged
  dsimp only
  rw [tagAt_foldl_annotated, hwritten.annotatedType?, tagAt_foldl_applyMetatable hfree, hlinked.metatableOf?,
    tagAt_foldl_applyEqual, Option.or_assoc]

/-- Only the implicit `self` of a method is declared with a tag. -/
theorem tag_of_declaration {uri : Uri} {file : File} {d : Declaration} (hd : d ∈ declarations (events uri file))
    {t : Tag} (ht : d.tag? = some t) : d.isImplicitSelf = true ∧ t.reason = .equal := by
  have hself : d.isImplicitSelf = true := by
    obtain ⟨i, hi, rfl⟩ := List.getElem_of_mem hd
    have hdeclared := Document.declarations_of_file uri file
    have hof := hdeclared.get hi (hdeclared.length_eq ▸ hi)
    exact hof.tag (by simpa using Option.isSome_of_eq_some ht)
  refine ⟨hself, ?_⟩
  unfold Declaration.isImplicitSelf at hself
  rw [ht, Option.any_some, decide_eq_true_eq] at hself
  have htag := congrArg Declaration.tag? hself
  rw [ht] at htag
  exact congrArg Tag.reason (Option.some.inj htag)

/-- Which tag each symbol of a file gets from assigned names, metatables and annotations. The last annotation that means
the symbol counts; without one the last metatable; without that the tag of the implicit `self`; without that the first
name assigned to it. Nothing else about the symbols changes, and it does not matter how assigned names and metatables
are mixed. -/
theorem tag_precedence (shelf : Shelf) (uri : Uri) (file : File) (es : List Event) (as : List Annotation) :
    let declared := effective [] (events uri file)
    let drafts := declared.map (symbolOf shelf uri)
    (tagged es as drafts).map Symbol.plain = drafts.map Symbol.plain ∧
    (∀ i, tagAt i (tagged es as drafts) =
      (((as.filterMap (annotatedType? drafts i)).getLast?.map (⟨.userTag, ·⟩)).or
        ((es.filterMap (metatableOf? drafts i)).getLast?.map (⟨.metaTable, ·⟩))).or
        (((declared[i]?.filter (·.isImplicitSelf)).bind (·.tag?)).or
          ((es.filterMap (assignedName? drafts i)).head?.map (⟨.equal, ·⟩)))) ∧
    tagged es as drafts = tagged (es.filter isEquated ++ es.filter isMetatable) as drafts := by
  intro declared drafts
  have hinitial : ∀ i, tagAt i drafts = (declared[i]?.filter (·.isImplicitSelf)).bind (·.tag?) := by
    intro i
    unfold tagAt
    rw [List.getElem?_map]
    cases hd : declared[i]? with
    | none => rfl
    | some d =>
      have hmem : d ∈ declarations (events uri file) := (effective_sublist _ _).subset (List.mem_of_getElem? hd)
      cases ht : d.tag? with
      | none => cases hself : d.isImplicitSelf <;> simp [symbolOf, Option.filter, ht, hself]
      | some t => simp [symbolOf, Option.filter, ht, (tag_of_declaration hmem ht).1]
  have hequal : ∀ i t, tagAt i drafts = some t → t.reason = .equal := by
    intro i t ht
    rw [hinitial] at ht
    obtain ⟨d, hd, ht⟩ := Option.bind_eq_some_iff.1 ht
    have hmem : d ∈ declared := List.mem_of_getElem? (Option.filter_eq_some_iff.1 hd).1
    exact (tag_of_declaration ((effective_sublist _ _).subset hmem) ht).2
  refine ⟨?_, fun i => ?_, (tagged_filter_append es as drafts).symm⟩
  · exact map_tagged (fun _ _ => rfl) es as drafts
  · rw [tagAt_tagged (hequal i), hinitial]

end LuaAtlas.Declare
