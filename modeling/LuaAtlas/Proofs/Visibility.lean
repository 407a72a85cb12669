/-
The local that is picked for a use is the closest of those that the use can see: no other candidate stands in a
deeper chunk, or further down in the same chunk, and of those on one line it is declared first. Chunks and lines are
all that counts; the blocks inside a chunk do not.

The choice is a filter, a greatest depth and a least distance; it comes down to the first candidate in the list that
is the best among all of them.
-/
import LuaAtlas.Visibility
import Mathlib.Data.List.TakeWhile

namespace LuaAtlas

/-! ## The first of the least -/

theorem eq_nil_of_firstLeast? {α : Type} {key : α → Nat} : ∀ {as : List α}, firstLeast? key as = none → as = []
  | [], _ => rfl
  | a :: as, h => by
    rw [firstLeast?] at h
    split at h
    · split at h <;> cases h
    · cases h

theorem firstLeast?_eq_some_iff {α : Type} {key : α → Nat} {a : α} : ∀ {as : List α}, firstLeast? key as = some a ↔
    ∃ before after, as = before ++ a :: after ∧ (∀ b ∈ before, key a < key b) ∧ ∀ b ∈ after, key a ≤ key b
  | [] => by simp [firstLeast?]
  | c :: cs => by
    rw [firstLeast?]
    constructor
    · intro h
      cases hcs : firstLeast? key cs with
      | none =>
        rw [hcs] at h
        cases h
        exact ⟨[], [], by rw [eq_nil_of_firstLeast? hcs]; rfl, by simp, by simp⟩
      | some d =>
        rw [hcs] at h
        dsimp only at h
        obtain ⟨before, after, rfl, hbefore, hafter⟩ := firstLeast?_eq_some_iff.1 hcs
        split at h <;> cases h
        · rename_i hle
          refine ⟨[], before ++ d :: after, rfl, by simp, fun b hb => hle.trans ?_⟩
          simp only [List.mem_append, List.mem_cons] at hb
          rcases hb with hb | rfl | hb
          · exact (hbefore b hb).le
          · exact Nat.le_refl _
          · exact hafter b hb
        · rename_i hle
          refine ⟨c :: before, after, rfl, fun b hb => ?_, hafter⟩
          rcases List.mem_cons.1 hb with rfl | hb
          · omega
          · exact hbefore b hb
    · rintro ⟨before, after, heq, hbefore, hafter⟩
      cases before with
      | nil =>
        obtain ⟨rfl, rfl⟩ := List.cons.inj heq
        cases hcs : firstLeast? key cs with
        | none => rfl
        | some d =>
          obtain ⟨_, _, rfl, -⟩ := firstLeast?_eq_some_iff.1 hcs
          simp [hafter d (by simp)]
      | cons b before =>
        obtain ⟨rfl, hcs⟩ := List.cons.inj heq
        have hlt : ¬ key c ≤ key a := Nat.not_le.2 (hbefore c (List.mem_cons_self ..))
        rw [firstLeast?_eq_some_iff.2 ⟨before, after, hcs, fun e he => hbefore e (List.mem_cons_of_mem _ he), hafter⟩]
        simp [hlt]

theorem firstLeast?_eq_find? {α : Type} (key : α → Nat) (as : List α) :
    firstLeast? key as = as.find? fun a => ∀ b ∈ as, key a ≤ key b := by
  cases h : firstLeast? key as with
  | none => rw [eq_nil_of_firstLeast? h]; rfl
  | some a =>
    obtain ⟨before, after, rfl, hbefore, hafter⟩ := firstLeast?_eq_some_iff.1 h
    refine (List.find?_eq_some_iff_append.2 ⟨?_, before, after, rfl, fun b hb => ?_⟩).symm
    · simp only [List.mem_append, List.mem_cons, decide_eq_true_eq]
      rintro b (hb | rfl | hb)
      · exact (hbefore b hb).le
      · exact Nat.le_refl _
      · exact hafter b hb
    · have ha : ∃ c ∈ before ++ a :: after, key c < key b := ⟨a, by simp, hbefore b hb⟩
      simpa using ha

/-- Keys that are written down first lead to the same choice. -/
theorem firstLeast?_map_pair {α : Type} (key : α → Nat) : ∀ as : List α,
    firstLeast? (·.1) (as.map fun a => (key a, a)) = (firstLeast? key as).map fun a => (key a, a)
  | [] => rfl
  | a :: as => by
    rw [List.map_cons, firstLeast?, firstLeast?, firstLeast?_map_pair key as]
    cases firstLeast? key as with
    | none => rfl
    | some b =>
      dsimp only [Option.map_some]
      split <;> rfl

/-- The greatest number of a list is at least each of its members and the first guess, and one of them. -/
theorem foldl_max_greatest : ∀ (l : List Nat) (m : Nat),
    m ≤ l.foldl max m ∧ (∀ k ∈ l, k ≤ l.foldl max m) ∧ (l.foldl max m = m ∨ l.foldl max m ∈ l)
  | [], m => ⟨Nat.le_refl m, by simp, .inl rfl⟩
  | k :: l, m => by
    obtain ⟨hfirst, hle, hmem⟩ := foldl_max_greatest l (max m k)
    rw [List.foldl_cons]
    refine ⟨(Nat.le_max_left ..).trans hfirst, fun j hj => ?_, ?_⟩
    · rcases List.mem_cons.1 hj with rfl | hj
      · exact (Nat.le_max_right ..).trans hfirst
      · exact hle j hj
    · rcases hmem with h | h
      · rw [h]
        rcases Nat.le_total m k with hk | hk
        · rw [max_eq_right hk]
          exact .inr (List.mem_cons_self ..)
        · rw [max_eq_left hk]
          exact .inl rfl
      · exact .inr (List.mem_cons_of_mem _ h)

theorem mem_takeWhile_of_filter {α : Type} [DecidableEq α] {p : α → Bool} {a b : α} (ha : p a = true) :
    ∀ {as : List α}, b ∈ (as.filter p).takeWhile (· ≠ a) → b ∈ as.takeWhile (· ≠ a)
  | [], h => h
  | c :: cs, h => by
    by_cases hc : c = a
    · subst hc
      rw [List.filter_cons_of_pos ha, List.takeWhile_cons_of_neg (by simp)] at h
      cases h
    · rw [List.takeWhile_cons_of_pos (by simpa using hc)]
      cases hp : p c with
      | true =>
        rw [List.filter_cons_of_pos hp, List.takeWhile_cons_of_pos (by simpa using hc)] at h
        rcases List.mem_cons.1 h with rfl | h
        · exact List.mem_cons_self ..
        · exact List.mem_cons_of_mem _ (mem_takeWhile_of_filter ha h)
      | false =>
        rw [List.filter_cons_of_neg (by simp [hp])] at h
        exact List.mem_cons_of_mem _ (mem_takeWhile_of_filter ha h)

namespace Symbol

/-! ## The best local -/

/-- Whether a symbol is a local that a use on `line` inside `stack` can see. -/
def isSeen (stack : List ChunkRef) (line : Nat) (s : Symbol) : Bool := s.isLocal && s.isVisibleFrom stack line

theorem isSeen_iff {stack : List ChunkRef} {line : Nat} {s : Symbol} :
    s.isSeen stack line = true ↔ s.isLocal = true ∧ s.isVisibleFrom stack line = true := by
  simp [isSeen]

theorem startLine_le_of_isSeen {stack : List ChunkRef} {line : Nat} {s : Symbol} (h : s.isSeen stack line = true) :
    s.startLine ≤ line := by
  simp only [isSeen, isVisibleFrom, Bool.and_eq_true, decide_eq_true_eq] at h
  exact h.2.1

/-- How far above a line a symbol stands, if it does not stand below. -/
def above? (line : Nat) (s : Symbol) : Option Nat := if s.startLine ≤ line then some (line - s.startLine) else none

/-- `s` is one of the deepest locals that a use can see, and none of these stands on a lower line. -/
structure IsBest (ss : List Symbol) (stack : List ChunkRef) (line : Nat) (s : Symbol) : Prop where
  seen : s.isSeen stack line = true
  deepest : ∀ r ∈ ss, r.isSeen stack line = true → r.containers.length ≤ s.containers.length
  lowest : ∀ r ∈ ss, r.isSeen stack line = true → r.containers.length = s.containers.length → r.startLine ≤ s.startLine

instance (ss : List Symbol) (stack : List ChunkRef) (line : Nat) (s : Symbol) : Decidable (s.IsBest ss stack line) :=
  decidable_of_iff (s.isSeen stack line = true ∧
      (∀ r ∈ ss, r.isSeen stack line = true → r.containers.length ≤ s.containers.length) ∧
      ∀ r ∈ ss, r.isSeen stack line = true → r.containers.length = s.containers.length → r.startLine ≤ s.startLine)
    ⟨fun h => ⟨h.1, h.2.1, h.2.2⟩, fun h => ⟨h.seen, h.deepest, h.lowest⟩⟩

/-! ## The closest local -/

/-- Whether a symbol stands in a deeper chunk than another, or as deep and further down. -/
def isCloser (r s : Symbol) : Bool :=
  s.containers.length < r.containers.length || s.containers.length = r.containers.length && s.startLine < r.startLine

theorem isCloser_iff {r s : Symbol} : r.isCloser s = true ↔ s.containers.length < r.containers.length ∨
    s.containers.length = r.containers.length ∧ s.startLine < r.startLine := by
  simp [isCloser]

/-- Whether a use on `line` inside `stack` could take `r` for the local `s`. -/
def isRival (stack : List ChunkRef) (line : Nat) (s r : Symbol) : Bool :=
  r.isLocal && r.searchName = s.searchName && r.isVisibleFrom stack line

/-- No symbol that could be taken for `s` is closer, and none that stands before it is as close. -/
structure IsFirstClosest (ss : List Symbol) (stack : List ChunkRef) (line : Nat) (s : Symbol) : Prop where
  closest : ∀ r ∈ ss, isRival stack line s r = true → r.isCloser s = false
  first : ∀ r ∈ ss.takeWhile (· ≠ s), isRival stack line s r = true → s.isCloser r = true

instance (ss : List Symbol) (stack : List ChunkRef) (line : Nat) (s : Symbol) :
    Decidable (s.IsFirstClosest ss stack line) :=
  decidable_of_iff ((∀ r ∈ ss, isRival stack line s r = true → r.isCloser s = false) ∧
      ∀ r ∈ ss.takeWhile (· ≠ s), isRival stack line s r = true → s.isCloser r = true)
    ⟨fun h => ⟨h.1, h.2⟩, fun h => ⟨h.closest, h.first⟩⟩

theorem IsFirstClosest.filter {ss : List Symbol} {stack : List ChunkRef} {line : Nat} {s : Symbol}
    (h : s.IsFirstClosest ss stack line) {p : Symbol → Bool} (hs : p s = true) :
    s.IsFirstClosest (ss.filter p) stack line :=
  ⟨fun r hr => h.closest r (List.mem_filter.1 hr).1, fun r hr => h.first r (mem_takeWhile_of_filter hs hr)⟩

end Symbol

open LuaAtlas.Symbol

/-! ## The choice -/

/-- The locals that a choice compares by their lines: the deepest of those that the use can see. -/
def deepestSeen (ss : List Symbol) (stack : List ChunkRef) (line : Nat) : List Symbol :=
  let seen := ss.filter (·.isSeen stack line)
  seen.filter fun s => s.containers.length = (seen.map (·.containers.length)).foldl max 0

/-- The choice of `pickLocal?` with distances that are only there if they do not fall below zero; none if one of
those that are compared is missing. -/
def pickMeasured? (ss : List Symbol) (stack : List ChunkRef) (line : Nat) : Option (Option Symbol) :=
  ((deepestSeen ss stack line).mapM fun s : Symbol => (s.above? line).map fun n => (n, s)).map fun measured =>
    (firstLeast? (·.1) measured).map (·.2)

theorem pickLocal?_eq (ss : List Symbol) (stack : List ChunkRef) (line : Nat) :
    pickLocal? ss stack line = firstLeast? (line - ·.startLine) (deepestSeen ss stack line) := rfl

theorem mem_deepestSeen {ss : List Symbol} {stack : List ChunkRef} {line : Nat} {s : Symbol} :
    s ∈ deepestSeen ss stack line ↔ s ∈ ss ∧ s.isSeen stack line = true ∧
      ∀ r ∈ ss, r.isSeen stack line = true → r.containers.length ≤ s.containers.length := by
  obtain ⟨-, hle, hmem⟩ := foldl_max_greatest ((ss.filter (·.isSeen stack line)).map (·.containers.length)) 0
  simp only [List.mem_map, List.mem_filter, forall_exists_index, and_imp] at hle hmem
  simp only [deepestSeen, List.mem_filter, decide_eq_true_eq, and_assoc]
  refine and_congr_right fun hs => and_congr_right fun hseen => ⟨fun hdepth r hr hr' => ?_, fun h => ?_⟩
  · have := hle _ r hr hr' rfl
    omega
  · have := hle _ s hs hseen rfl
    rcases hmem with hzero | ⟨r, ⟨hr, hr'⟩, hdepth⟩
    · omega
    · have := h r hr hr'
      omega

/-- Among the candidates, the best ones are those of the compared locals that stand on the lowest line. -/
theorem isBest_iff {ss : List Symbol} {stack : List ChunkRef} {line : Nat} {s : Symbol} (hs : s ∈ ss) :
    s.IsBest ss stack line ↔
      s ∈ deepestSeen ss stack line ∧ ∀ r ∈ deepestSeen ss stack line, r.startLine ≤ s.startLine := by
  constructor
  · intro h
    refine ⟨mem_deepestSeen.2 ⟨hs, h.seen, h.deepest⟩, fun r hr => ?_⟩
    obtain ⟨hr, hr', hdepth⟩ := mem_deepestSeen.1 hr
    exact h.lowest r hr hr' (Nat.le_antisymm (h.deepest r hr hr') (hdepth s hs h.seen))
  · rintro ⟨hself, hlow⟩
    obtain ⟨-, hseen, hdeep⟩ := mem_deepestSeen.1 hself
    refine ⟨hseen, hdeep, fun r hr hr' hdepth => hlow r (mem_deepestSeen.2 ⟨hr, hr', fun q hq hq' => ?_⟩)⟩
    have := hdeep q hq hq'
    omega

theorem exists_mem_deepestSeen {ss : List Symbol} {stack : List ChunkRef} {line : Nat} {r : Symbol} (hr : r ∈ ss)
    (hseen : r.isSeen stack line = true) : ∃ s, s ∈ deepestSeen ss stack line := by
  obtain ⟨-, hle, hmem⟩ := foldl_max_greatest ((ss.filter (·.isSeen stack line)).map (·.containers.length)) 0
  simp only [List.mem_map, List.mem_filter, forall_exists_index, and_imp] at hle hmem
  simp only [deepestSeen, List.mem_filter, decide_eq_true_eq]
  rcases hmem with hzero | ⟨s, hs, hdepth⟩
  · have := hle _ r hr hseen rfl
    exact ⟨r, ⟨hr, hseen⟩, by omega⟩
  · exact ⟨s, hs, hdepth⟩

theorem pickLocal?_eq_none_iff {ss : List Symbol} {stack : List ChunkRef} {line : Nat} :
    pickLocal? ss stack line = none ↔ ∀ s ∈ ss, s.isSeen stack line = false := by
  constructor
  · intro h s hs
    rw [← Bool.not_eq_true]
    intro hseen
    obtain ⟨t, ht⟩ := exists_mem_deepestSeen hs hseen
    rw [pickLocal?_eq] at h
    rw [eq_nil_of_firstLeast? h] at ht
    cases ht
  · intro h
    have hnil : ss.filter (·.isSeen stack line) = [] := List.filter_eq_nil_iff.2 fun s hs => by simp [h s hs]
    rw [pickLocal?_eq, deepestSeen, hnil]
    rfl

/-- The best candidate that stands first is picked. -/
theorem pickLocal?_eq_find? (ss : List Symbol) (stack : List ChunkRef) (line : Nat) :
    pickLocal? ss stack line = ss.find? fun s => s.IsBest ss stack line := by
  have hbest : ∀ s ∈ deepestSeen ss stack line,
      (∀ r ∈ deepestSeen ss stack line, line - s.startLine ≤ line - r.startLine) ↔ s.IsBest ss stack line := by
    intro s hs
    obtain ⟨hs', hseen, -⟩ := mem_deepestSeen.1 hs
    have hline := startLine_le_of_isSeen hseen
    rw [isBest_iff hs', and_iff_right hs]
    refine forall₂_congr fun r hr => ?_
    have := startLine_le_of_isSeen (mem_deepestSeen.1 hr).2.1
    omega
  have hfilter : (deepestSeen ss stack line).filter (fun s => s.IsBest ss stack line) =
      ss.filter fun s => s.IsBest ss stack line := by
    have hsub : ∀ s ∈ ss, s.IsBest ss stack line → s ∈ deepestSeen ss stack line := fun s hs h => ((isBest_iff hs).1 h).1
    unfold deepestSeen at hsub ⊢
    simp only [List.mem_filter, List.filter_filter] at hsub ⊢
    refine List.filter_congr fun s hs => ?_
    by_cases h : s.IsBest ss stack line
    · simp [h, hsub s hs h]
    · simp [h]
  calc pickLocal? ss stack line
      = (deepestSeen ss stack line).find? (fun s => decide (∀ r ∈ deepestSeen ss stack line,
          line - s.startLine ≤ line - r.startLine)) := by rw [pickLocal?_eq, firstLeast?_eq_find?]
    _ = ((deepestSeen ss stack line).filter fun s => s.IsBest ss stack line).head? := by
        rw [← List.head?_filter]
        exact congrArg _ (List.filter_congr fun s hs => decide_eq_decide.2 (hbest s hs))
    _ = ss.find? fun s => s.IsBest ss stack line := by rw [hfilter, List.head?_filter]

/-- A local that is picked is one that the use can see, and none of those is closer. -/
theorem closest_of_pickLocal? {ss : List Symbol} {stack : List ChunkRef} {line : Nat} {s : Symbol}
    (h : pickLocal? ss stack line = some s) : s ∈ ss ∧ s.isLocal = true ∧ s.isVisibleFrom stack line = true ∧
      ∀ r ∈ ss, r.isLocal = true → r.isVisibleFrom stack line = true → r.isCloser s = false := by
  rw [pickLocal?_eq_find?] at h
  have hbest : s.IsBest ss stack line := by simpa using List.find?_some h
  obtain ⟨hlocal, hvisible⟩ := isSeen_iff.1 hbest.seen
  refine ⟨List.mem_of_find?_eq_some h, hlocal, hvisible, fun r hr hrlocal hrvisible => ?_⟩
  have hr' := isSeen_iff.2 ⟨hrlocal, hrvisible⟩
  rw [← Bool.not_eq_true, isCloser_iff]
  rintro (hdeeper | ⟨hsame, hlower⟩)
  · have := hbest.deepest r hr hr'
    omega
  · have := hbest.lowest r hr hr' hsame.symm
    omega

/-- A local is picked as soon as the use can see one. -/
theorem exists_pickLocal? {ss : List Symbol} {stack : List ChunkRef} {line : Nat} {r : Symbol} (hr : r ∈ ss)
    (hlocal : r.isLocal = true) (hvisible : r.isVisibleFrom stack line = true) :
    ∃ s, pickLocal? ss stack line = some s := by
  refine Option.ne_none_iff_exists'.1 fun hnone => ?_
  have hseen := isSeen_iff.2 ⟨hlocal, hvisible⟩
  rw [pickLocal?_eq_none_iff.1 hnone r hr] at hseen
  cases hseen

/-- The first of the closest locals is picked, if all candidates have its name. -/
theorem pickLocal?_eq_some {ss : List Symbol} {stack : List ChunkRef} {line : Nat} {s : Symbol} (hs : s ∈ ss)
    (hrival : isRival stack line s s = true) (hnames : ∀ r ∈ ss, r.searchName = s.searchName)
    (h : s.IsFirstClosest ss stack line) : pickLocal? ss stack line = some s := by
  have hself : s.isSeen stack line = true := by simpa [isRival, isSeen] using hrival
  have hseen : ∀ {r}, r ∈ ss → r.isSeen stack line = true → isRival stack line s r = true := by
    intro r hr hr'
    simpa [isRival, isSeen, hnames r hr] using hr'
  have hcloser : ∀ r ∈ ss, r.isSeen stack line = true → ¬ r.isCloser s = true := by
    intro r hr hr'
    rw [h.closest r hr (hseen hr hr')]
    exact Bool.false_ne_true
  have hbest : s.IsBest ss stack line := by
    refine ⟨hself, fun r hr hr' => ?_, fun r hr hr' hdepth => ?_⟩
    · have := mt isCloser_iff.2 (hcloser r hr hr')
      omega
    · have := mt isCloser_iff.2 (hcloser r hr hr')
      omega
  obtain ⟨before, after, heq, hnot⟩ := List.eq_append_cons_of_mem hs
  have hbefore : ∀ r ∈ before, r ∈ ss.takeWhile (· ≠ s) := by
    intro r hr
    have hne : ∀ q ∈ before, decide (q ≠ s) = true := by
      intro q hq
      have : q ≠ s := by
        rintro rfl
        exact hnot hq
      simpa using this
    rw [heq, List.takeWhile_append_of_pos hne]
    exact List.mem_append_left _ hr
  rw [pickLocal?_eq_find?]
  refine List.find?_eq_some_iff_append.2 ⟨by simpa using hbest, before, after, heq, fun r hr => ?_⟩
  suffices hworse : ¬ r.IsBest ss stack line by simpa using hworse
  intro hrbest
  have hr' : r ∈ ss := List.takeWhile_subset _ (hbefore r hr)
  have := isCloser_iff.1 (h.first r (hbefore r hr) (hseen hr' hrbest.seen))
  have := hrbest.deepest s hs hself
  have := hrbest.lowest s hs hself
  omega

theorem mapM_above? {line : Nat} : ∀ {ss : List Symbol}, (∀ s ∈ ss, s.startLine ≤ line) →
    (ss.mapM fun s : Symbol => (s.above? line).map fun n => (n, s)) = some (ss.map fun s => (line - s.startLine, s))
  | [], _ => rfl
  | s :: ss, h => by
    rw [List.mapM_cons, mapM_above? fun r hr => h r (List.mem_cons_of_mem _ hr), above?,
      if_pos (h s (List.mem_cons_self ..))]
    rfl

/-- No distance that is compared falls below zero. -/
theorem pickMeasured?_eq (ss : List Symbol) (stack : List ChunkRef) (line : Nat) :
    pickMeasured? ss stack line = some (pickLocal? ss stack line) := by
  have habove : ∀ s ∈ deepestSeen ss stack line, s.startLine ≤ line := fun s hs =>
    startLine_le_of_isSeen (mem_deepestSeen.1 hs).2.1
  rw [pickMeasured?, mapM_above? habove, Option.map_some, firstLeast?_map_pair, pickLocal?_eq, Option.map_map]
  exact congrArg some (congrFun Option.map_id _)

/-- Candidates that the use cannot see, and such as are no locals, do not count. -/
theorem pickLocal?_congr {ss rs : List Symbol} {stack : List ChunkRef} {line : Nat}
    (h : rs.filter (·.isSeen stack line) = ss.filter (·.isSeen stack line)) :
    pickLocal? rs stack line = pickLocal? ss stack line := by
  rw [pickLocal?_eq, pickLocal?_eq, deepestSeen, deepestSeen, h]

/-- A local is picked unless the use can see none of the candidates. It is the first in the list among the deepest
locals on the lowest line; the distances by which they are compared never fall below zero; and candidates that are
no locals or cannot be seen make no difference. -/
theorem picks_first_best (ss : List Symbol) (stack : List ChunkRef) (line : Nat) :
    (pickLocal? ss stack line = none ↔ ∀ s ∈ ss, ¬ (s.isLocal = true ∧ s.isVisibleFrom stack line = true)) ∧
    pickLocal? ss stack line = ss.find? (fun s => s.IsBest ss stack line) ∧
    pickMeasured? ss stack line = some (pickLocal? ss stack line) ∧
    ∀ rs, rs.filter (·.isSeen stack line) = ss.filter (·.isSeen stack line) →
      pickLocal? rs stack line = pickLocal? ss stack line := by
  refine ⟨?_, pickLocal?_eq_find? ss stack line, pickMeasured?_eq ss stack line, fun rs h => pickLocal?_congr h⟩
  rw [pickLocal?_eq_none_iff]
  refine forall₂_congr fun s _ => ?_
  rw [← isSeen_iff, Bool.not_eq_true]

end LuaAtlas
