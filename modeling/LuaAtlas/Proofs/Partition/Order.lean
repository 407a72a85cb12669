/-
The order in which searches answer. A prefix tree is kept so that its branches increase from left to right:
its values are those that were put in, sorted by name, and values of one name stay in the order in which they
came. A partition therefore gives the same symbols through its dictionary, its list and its tree, and filtering
symbols before they are filed or after they were found comes to the same list.
-/
import LuaAtlas.Document
import LuaAtlas.Proofs.Partition
import Mathlib.Data.String.Basic
import Mathlib.Data.List.Sort

namespace LuaAtlas.TrieNode

variable {α : Type}

/-! ## Lists sorted by name -/

section Sorted

variable (name : α → String)

/-- The values by name, those of one name in their old order. -/
def sorted (as : List α) : List α := as.mergeSort fun a b => name a ≤ name b

theorem sorted_perm (as : List α) : (sorted name as).Perm as := List.mergeSort_perm as _

theorem decide_le_trans (a b c : α) (hab : decide (name a ≤ name b) = true) (hbc : decide (name b ≤ name c) = true) :
    decide (name a ≤ name c) = true := by
  rw [decide_eq_true_eq] at hab hbc ⊢
  exact le_trans hab hbc

theorem decide_le_total (a b : α) : (decide (name a ≤ name b) || decide (name b ≤ name a)) = true := by
  rw [Bool.or_eq_true, decide_eq_true_eq, decide_eq_true_eq]
  exact le_total _ _

theorem pairwise_sorted (as : List α) : (sorted name as).Pairwise fun a b => name a ≤ name b :=
  (List.pairwise_mergeSort (decide_le_trans name) (decide_le_total name) as).imp of_decide_eq_true

/-- Sorting does not move values of one name against each other. -/
theorem filter_sorted (n : String) (as : List α) :
    (sorted name as).filter (name · = n) = as.filter (name · = n) := by
  have hkept : (as.filter (name · = n)).Sublist (sorted name as) := by
    refine List.sublist_mergeSort (decide_le_trans name) (decide_le_total name) ?_ List.filter_sublist
    refine List.pairwise_of_forall_mem_list fun a ha b hb => ?_
    rw [List.mem_filter, decide_eq_true_eq] at ha hb
    rw [decide_eq_true_eq, ha.2, hb.2]
  have hsub := hkept.filter (name · = n)
  rw [List.filter_filter] at hsub
  simp only [Bool.and_self] at hsub
  exact (hsub.eq_of_length ((sorted_perm name as).filter _).length_eq.symm).symm

variable {name}

/-- A list that is sorted by name is determined by the values of each name. -/
theorem eq_of_filter_eq : ∀ {as bs : List α}, as.Pairwise (fun a b => name a ≤ name b) →
    bs.Pairwise (fun a b => name a ≤ name b) → (∀ n, as.filter (name · = n) = bs.filter (name · = n)) → as = bs
  | [], [], _, _, _ => rfl
  | [], b :: bs, _, _, h => by
    have hb := h (name b)
    simp at hb
  | a :: as, [], _, _, h => by
    have ha := h (name a)
    simp at ha
  | a :: as, b :: bs, has, hbs, h => by
    have hmem : ∀ c, c ∈ a :: as ↔ c ∈ b :: bs := by
      intro c
      have hc := congrArg (c ∈ ·) (h (name c))
      simpa using hc
    have hname : name a = name b := by
      apply le_antisymm
      · rcases List.mem_cons.1 ((hmem b).2 (List.mem_cons_self ..)) with rfl | hb
        · exact le_refl _
        · exact (List.pairwise_cons.1 has).1 b hb
      · rcases List.mem_cons.1 ((hmem a).1 (List.mem_cons_self ..)) with rfl | ha
        · exact le_refl _
        · exact (List.pairwise_cons.1 hbs).1 a ha
    have hhead := h (name a)
    rw [List.filter_cons_of_pos (by simp), List.filter_cons_of_pos (by simp [hname])] at hhead
    obtain rfl : a = b := (List.cons.inj hhead).1
    refine congrArg (a :: ·) (eq_of_filter_eq (List.pairwise_cons.1 has).2 (List.pairwise_cons.1 hbs).2 fun n => ?_)
    have hn := h n
    rw [List.filter_cons, List.filter_cons] at hn
    split at hn
    · exact (List.cons.inj hn).2
    · exact hn

theorem eq_sorted {as bs : List α} (has : as.Pairwise (fun a b => name a ≤ name b))
    (h : ∀ n, as.filter (name · = n) = bs.filter (name · = n)) : as = sorted name bs :=
  eq_of_filter_eq has (pairwise_sorted name bs) fun n => by rw [h, filter_sorted]

/-- Sorting first and filtering first come to the same. -/
theorem sorted_filter (q : α → Bool) (as : List α) : (sorted name as).filter q = sorted name (as.filter q) := by
  refine eq_sorted ((pairwise_sorted name as).sublist List.filter_sublist) fun n => ?_
  rw [List.filter_comm, filter_sorted, List.filter_comm]

end Sorted

/-! ## Grown trees -/

/-- A tree that hangs at `path`: the values here have that name, and the branches increase. -/
inductive Grown (name : α → String) : List Char → TrieNode α → Prop
  | node {path : List Char} {here : List α} {branches : List (Char × TrieNode α)}
      (hhere : ∀ a ∈ here, (name a).toList = path) (hsorted : branches.Pairwise (·.1 < ·.1))
      (hbranches : ∀ c t, (c, t) ∈ branches → Grown name (path ++ [c]) t) : Grown name path (.node here branches)

variable {name : α → String}

theorem exists_of_mem_branchesToList {a : α} : ∀ {branches : List (Char × TrieNode α)}, a ∈ branchesToList branches →
    ∃ c t, (c, t) ∈ branches ∧ a ∈ t.toList
  | (c, t) :: branches, h => by
    rw [branchesToList_cons, List.mem_append] at h
    rcases h with h | h
    · exact ⟨c, t, List.mem_cons_self .., h⟩
    · obtain ⟨d, u, hmem, ha⟩ := exists_of_mem_branchesToList h
      exact ⟨d, u, List.mem_cons_of_mem _ hmem, ha⟩
  | [], h => by simp at h

theorem Grown.begins {path : List Char} {t : TrieNode α} (h : Grown name path t) :
    ∀ a ∈ t.toList, path <+: (name a).toList := by
  induction h with
  | node hhere _ _ ih =>
    intro a ha
    rw [toList_node, List.mem_append] at ha
    rcases ha with ha | ha
    · simp [hhere a ha]
    · obtain ⟨c, t, hmem, ha⟩ := exists_of_mem_branchesToList ha
      exact (List.prefix_append _ _).trans (ih c t hmem a ha)

theorem grown_empty (path : List Char) : Grown name path empty :=
  .node (by simp) List.Pairwise.nil (by simp)

theorem mem_changeBranch_iff {c : Char} {f : TrieNode α → TrieNode α} {d : Char} {u : TrieNode α} :
    ∀ {branches : List (Char × TrieNode α)}, (d, u) ∈ changeBranch c f branches →
      (d, u) ∈ branches ∨ (d = c ∧ ∃ t, (t = empty ∨ (c, t) ∈ branches) ∧ u = f t)
  | [], h => by
    simp only [changeBranch, List.mem_singleton, Prod.mk.injEq] at h
    exact .inr ⟨h.1, empty, .inl rfl, h.2⟩
  | (e, t) :: rest, h => by
    unfold changeBranch at h
    split at h
    · rename_i hce
      subst hce
      rcases List.mem_cons.1 h with h | h
      · cases h
        exact .inr ⟨rfl, t, .inr (List.mem_cons_self ..), rfl⟩
      · exact .inl (List.mem_cons_of_mem _ h)
    · split at h
      · rcases List.mem_cons.1 h with h | h
        · cases h
          exact .inr ⟨rfl, empty, .inl rfl, rfl⟩
        · exact .inl h
      · rcases List.mem_cons.1 h with h | h
        · cases h
          exact .inl (List.mem_cons_self ..)
        · rcases mem_changeBranch_iff h with h | ⟨rfl, v, hv, rfl⟩
          · exact .inl (List.mem_cons_of_mem _ h)
          · exact .inr ⟨rfl, v, hv.imp id (List.mem_cons_of_mem _), rfl⟩

theorem pairwise_changeBranch (c : Char) (f : TrieNode α → TrieNode α) : ∀ {branches : List (Char × TrieNode α)},
    branches.Pairwise (·.1 < ·.1) → (changeBranch c f branches).Pairwise (·.1 < ·.1)
  | [], _ => List.pairwise_singleton _ _
  | (d, t) :: rest, h => by
    obtain ⟨hd, hrest⟩ := List.pairwise_cons.1 h
    unfold changeBranch
    split
    · exact List.pairwise_cons.2 ⟨hd, hrest⟩
    · rename_i hne
      split
      · rename_i hlt
        refine List.pairwise_cons.2 ⟨fun e he => ?_, h⟩
        rcases List.mem_cons.1 he with rfl | he
        · exact hlt
        · exact lt_trans hlt (hd e he)
      · rename_i hlt
        refine List.pairwise_cons.2 ⟨fun e he => ?_, pairwise_changeBranch c f hrest⟩
        rcases mem_changeBranch_iff he with he | ⟨hec, -⟩
        · exact hd e he
        · exact hec ▸ lt_of_le_of_ne (not_lt.1 hlt) (Ne.symm hne)

theorem Grown.insert {a : α} : ∀ {cs path : List Char} {t : TrieNode α}, Grown name path t →
    path ++ cs = (name a).toList → Grown name path (t.insert a cs)
  | [], path, _, .node hhere hsorted hbranches, ha => by
    refine .node (fun b hb => ?_) hsorted hbranches
    rw [List.mem_append, List.mem_singleton] at hb
    rcases hb with hb | rfl
    · exact hhere b hb
    · rw [← ha, List.append_nil]
  | c :: cs, path, _, .node hhere hsorted hbranches, ha => by
    refine .node hhere (pairwise_changeBranch c _ hsorted) fun d u hu => ?_
    rcases mem_changeBranch_iff hu with hu | ⟨rfl, t, ht, rfl⟩
    · exact hbranches d u hu
    · have ht : Grown name (path ++ [d]) t := by
        rcases ht with rfl | ht
        · exact grown_empty _
        · exact hbranches d t ht
      exact ht.insert (by rw [List.append_assoc, List.singleton_append, ha])

/-! ## The order of the values -/

theorem lt_of_branches {path : List Char} {c d : Char} {s t : String} (hcd : c < d)
    (hs : path ++ [c] <+: s.toList) (ht : path ++ [d] <+: t.toList) : s < t := by
  obtain ⟨u, hu⟩ := hs
  obtain ⟨v, hv⟩ := ht
  rw [String.lt_iff_toList_lt, ← hu, ← hv]
  simp only [List.append_assoc, List.singleton_append]
  exact List.append_left_lt (List.Lex.rel hcd)

theorem pairwise_branchesToList {R : α → α → Prop} : ∀ {branches : List (Char × TrieNode α)},
    (∀ c t, (c, t) ∈ branches → t.toList.Pairwise R) →
    branches.Pairwise (fun b d => ∀ a ∈ b.2.toList, ∀ e ∈ d.2.toList, R a e) → (branchesToList branches).Pairwise R
  | [], _, _ => by simp
  | (c, t) :: rest, h, hacross => by
    obtain ⟨hfirst, hacross⟩ := List.pairwise_cons.1 hacross
    rw [branchesToList_cons, List.pairwise_append]
    refine ⟨h c t (List.mem_cons_self ..), pairwise_branchesToList (fun d u hu => h d u (List.mem_cons_of_mem _ hu))
      hacross, fun a ha b hb => ?_⟩
    obtain ⟨d, u, hu, hb⟩ := exists_of_mem_branchesToList hb
    exact hfirst (d, u) hu a ha b hb

/-- The values stand by name. -/
theorem Grown.pairwise {path : List Char} {t : TrieNode α} (h : Grown name path t) :
    t.toList.Pairwise fun a b => name a ≤ name b := by
  induction h with
  | @node path here branches hhere hsorted hbranches ih =>
    rw [toList_node, List.pairwise_append]
    refine ⟨?_, ?_, ?_⟩
    · refine List.pairwise_of_forall_mem_list fun a ha b hb => le_of_eq ?_
      rw [← String.toList_inj, hhere a ha, hhere b hb]
    · refine pairwise_branchesToList ih (hsorted.imp_of_mem fun {b d} hb hd hlt a ha e he => ?_)
      exact le_of_lt (lt_of_branches hlt ((hbranches _ _ hb).begins a ha) ((hbranches _ _ hd).begins e he))
    · intro a ha b hb
      obtain ⟨c, t, ht, hb⟩ := exists_of_mem_branchesToList hb
      have hprefix : (name a).toList <+: (name b).toList := by
        rw [hhere a ha]
        exact (List.prefix_append _ _).trans ((hbranches c t ht).begins b hb)
      rw [← not_lt, String.lt_iff_toList_lt]
      exact hprefix.le

/-! ## The values of some names -/

theorem filter_branchesToList_eq_nil {q : α → Bool} {branches : List (Char × TrieNode α)}
    (h : ∀ c t, (c, t) ∈ branches → t.toList.filter q = []) : (branchesToList branches).filter q = [] := by
  rw [List.filter_eq_nil_iff]
  intro a ha
  obtain ⟨c, t, ht, ha⟩ := exists_of_mem_branchesToList ha
  exact List.filter_eq_nil_iff.1 (h c t ht) a ha

theorem append_filter_branchesToList {q : α → Bool} {new : List α} : ∀ {branches : List (Char × TrieNode α)},
    (∀ c t, (c, t) ∈ branches → new ++ t.toList.filter q = t.toList.filter q ++ new) →
    new ++ (branchesToList branches).filter q = (branchesToList branches).filter q ++ new
  | [], _ => by simp
  | (c, t) :: rest, h => by
    rw [branchesToList_cons, List.filter_append, ← List.append_assoc, h c t (List.mem_cons_self ..), List.append_assoc,
      append_filter_branchesToList fun d u hu => h d u (List.mem_cons_of_mem _ hu), List.append_assoc]

/-- What a change of one branch adds comes last among all values that are wanted if it may as well stand before
those of the other branches. -/
theorem filter_changeBranch {c : Char} {f : TrieNode α → TrieNode α} {q : α → Bool} {new : List α}
    (hempty : (f empty).toList.filter q = new) : ∀ {branches : List (Char × TrieNode α)},
    (∀ t, (c, t) ∈ branches → (f t).toList.filter q = t.toList.filter q ++ new) →
    (∀ d t, (d, t) ∈ branches → d ≠ c → new ++ t.toList.filter q = t.toList.filter q ++ new) →
    branches.Pairwise (·.1 < ·.1) →
    (branchesToList (changeBranch c f branches)).filter q = (branchesToList branches).filter q ++ new
  | [], _, _, _ => by simpa [changeBranch] using hempty
  | (d, t) :: rest, hf, hother, hsorted => by
    obtain ⟨hd, hsorted⟩ := List.pairwise_cons.1 hsorted
    have hrest : c ≤ d → new ++ (branchesToList rest).filter q = (branchesToList rest).filter q ++ new := by
      intro hcd
      refine append_filter_branchesToList fun e u hu => hother e u (List.mem_cons_of_mem _ hu) ?_
      exact ne_of_gt (lt_of_le_of_lt hcd (hd _ hu))
    unfold changeBranch
    split
    · rename_i hcd
      subst hcd
      rw [branchesToList_cons, branchesToList_cons, List.filter_append, List.filter_append,
        hf t (List.mem_cons_self ..), List.append_assoc, hrest (le_refl _), List.append_assoc]
    · rename_i hne
      split
      · rename_i hlt
        rw [branchesToList_cons, List.filter_append, hempty, branchesToList_cons, List.filter_append,
          ← List.append_assoc, hother d t (List.mem_cons_self ..) (Ne.symm hne), List.append_assoc,
          hrest (le_of_lt hlt), List.append_assoc]
      · have ih := filter_changeBranch hempty (fun u hu => hf u (List.mem_cons_of_mem _ hu))
          (fun e u hu => hother e u (List.mem_cons_of_mem _ hu)) hsorted
        rw [branchesToList_cons, branchesToList_cons, List.filter_append, List.filter_append, ih, List.append_assoc]

theorem eq_of_prefix_branch {path rest : List Char} {c d : Char} (h : path ++ [d] <+: path ++ c :: rest) : d = c := by
  rw [List.prefix_append_right_inj, List.cons_prefix_cons] at h
  exact h.1

/-- A value that is added comes last among those of its name. -/
theorem Grown.filter_insert {a : α} (n : String) : ∀ {cs path : List Char} {t : TrieNode α}, Grown name path t →
    path ++ cs = (name a).toList → (t.insert a cs).toList.filter (name · = n) =
      t.toList.filter (name · = n) ++ [a].filter (name · = n)
  | [], path, _, @Grown.node _ _ _ here branches hhere hsorted hbranches, ha => by
    have hlonger : name a = n → (branchesToList branches).filter (name · = n) = [] := by
      rintro rfl
      refine filter_branchesToList_eq_nil fun c t ht => List.filter_eq_nil_iff.2 fun b hb hname => ?_
      have hprefix := (hbranches c t ht).begins b hb
      rw [of_decide_eq_true hname, ← ha, List.append_nil] at hprefix
      simpa using hprefix.length_le
    rw [TrieNode.insert, toList_node, toList_node]
    by_cases hn : name a = n
    · simp [hlonger hn, hn]
    · simp [hn]
  | c :: cs, path, _, @Grown.node _ _ _ here branches hhere hsorted hbranches, ha => by
    have hpath : (path ++ [c]) ++ cs = (name a).toList := by simpa using ha
    have hother : ∀ d t, (d, t) ∈ branches → d ≠ c → name a = n → t.toList.filter (name · = n) = [] := by
      rintro d t ht hne rfl
      refine List.filter_eq_nil_iff.2 fun b hb hname => hne ?_
      have hprefix := (hbranches d t ht).begins b hb
      rw [of_decide_eq_true hname, ← ha] at hprefix
      exact eq_of_prefix_branch hprefix
    rw [TrieNode.insert, toList_node, toList_node, List.filter_append, List.filter_append, List.append_assoc]
    refine congrArg _ (filter_changeBranch ?_ (fun t ht => (hbranches c t ht).filter_insert n hpath) ?_ hsorted)
    · simpa using (grown_empty (path ++ [c])).filter_insert n hpath
    · intro d t ht hne
      by_cases hn : name a = n
      · simp [hother d t ht hne hn]
      · simp [hn]

/-- Values that stand in the branch of one character only. -/
theorem filter_branchesToList_of_find? {c : Char} {q : α → Bool} : ∀ {branches : List (Char × TrieNode α)},
    (∀ d t, (d, t) ∈ branches → d ≠ c → t.toList.filter q = []) → branches.Pairwise (·.1 < ·.1) →
    (branchesToList branches).filter q = ((branches.find? (·.1 = c)).map fun b => b.2.toList.filter q).getD []
  | [], _, _ => by simp
  | (d, t) :: rest, hother, hsorted => by
    obtain ⟨hd, hsorted⟩ := List.pairwise_cons.1 hsorted
    rw [branchesToList_cons, List.filter_append]
    by_cases hdc : d = c
    · subst hdc
      rw [List.find?_cons_of_pos (by simp), filter_branchesToList_eq_nil fun e u hu => ?_]
      · simp
      · exact hother e u (List.mem_cons_of_mem _ hu) (ne_of_gt (hd _ hu))
    · rw [List.find?_cons_of_neg (by simpa using hdc), hother d t (List.mem_cons_self ..) hdc, List.nil_append]
      exact filter_branchesToList_of_find? (fun e u hu => hother e u (List.mem_cons_of_mem _ hu)) hsorted

/-- What stands below some characters are the values whose names go on with them. -/
theorem Grown.filter_begins : ∀ {cs path : List Char} {t : TrieNode α}, Grown name path t →
    t.toList.filter (fun a => path ++ cs <+: (name a).toList) = ((t.descend? cs).map toList).getD []
  | [], path, t, h => by
    rw [descend?, Option.map_some, Option.getD_some, List.filter_eq_self]
    intro a ha
    rw [decide_eq_true_eq, List.append_nil]
    exact h.begins a ha
  | c :: cs, path, _, @Grown.node _ _ _ here branches hhere hsorted hbranches => by
    have hshort : here.filter (fun a => path ++ c :: cs <+: (name a).toList) = [] := by
      refine List.filter_eq_nil_iff.2 fun a ha hprefix => ?_
      rw [decide_eq_true_eq, hhere a ha] at hprefix
      simpa using hprefix.length_le
    have hother : ∀ d t, (d, t) ∈ branches → d ≠ c →
        t.toList.filter (fun a => path ++ c :: cs <+: (name a).toList) = [] := by
      intro d t ht hne
      refine List.filter_eq_nil_iff.2 fun a ha hprefix => hne ?_
      have hlonger := List.prefix_of_prefix_length_le ((hbranches d t ht).begins a ha) (of_decide_eq_true hprefix)
        (by simp)
      exact eq_of_prefix_branch hlonger
    rw [toList_node, List.filter_append, hshort, List.nil_append, descend?,
      filter_branchesToList_of_find? hother hsorted]
    cases hfind : branches.find? (·.1 = c) with
    | none => rfl
    | some b =>
      obtain ⟨d, t⟩ := b
      obtain rfl : d = c := by simpa using List.find?_some hfind
      have ih : t.toList.filter (fun a => (path ++ [d]) ++ cs <+: (name a).toList) =
          ((t.descend? cs).map toList).getD [] :=
        (hbranches d t (List.mem_of_find?_eq_some hfind)).filter_begins
      simpa using ih

/-! ## The tree of a list -/

theorem grown_foldl : ∀ (as : List α) {t : TrieNode α}, Grown name [] t →
    Grown name [] (as.foldl (fun t a => t.insert a (name a).toList) t)
  | [], _, h => h
  | a :: as, _, h => grown_foldl as (h.insert (a := a) (List.nil_append _))

theorem filter_foldl_insert (n : String) : ∀ (as : List α) {t : TrieNode α}, Grown name [] t →
    (as.foldl (fun t a => t.insert a (name a).toList) t).toList.filter (name · = n) =
      t.toList.filter (name · = n) ++ as.filter (name · = n)
  | [], t, _ => by simp
  | a :: as, t, h => by
    rw [List.foldl_cons, filter_foldl_insert n as (h.insert (List.nil_append _)), h.filter_insert n (List.nil_append _),
      List.append_assoc, ← List.filter_append, List.singleton_append]

end LuaAtlas.TrieNode

namespace LuaAtlas.Trie

variable {α : Type} {name : α → String}

/-- The tree lists what was put into it by name. -/
theorem toList_ofList (as : List α) : (ofList name as).root.toList = TrieNode.sorted name as := by
  have hempty := (TrieNode.grown_empty [] : TrieNode.Grown name [] .empty)
  rw [root_ofList]
  refine TrieNode.eq_sorted (TrieNode.grown_foldl as hempty).pairwise fun n => ?_
  have hfilter := TrieNode.filter_foldl_insert n as hempty
  rwa [TrieNode.toList_empty, List.filter_nil, List.nil_append] at hfilter

/-- What a text begins is listed by name. -/
theorem startingWith_ofList (as : List α) (start : String) : (ofList name as).startingWith start =
    TrieNode.sorted name (as.filter fun a => start.toList <+: (name a).toList) := by
  have hgrown : TrieNode.Grown name [] (ofList name as).root := by
    rw [root_ofList]
    exact TrieNode.grown_foldl as (TrieNode.grown_empty [])
  have hprefix : (ofList name as).root.toList.filter (fun a => [] ++ start.toList <+: (name a).toList) = _ :=
    hgrown.filter_begins
  simp only [List.nil_append] at hprefix
  rw [← TrieNode.sorted_filter, ← toList_ofList]
  refine Eq.trans ?_ hprefix.symm
  unfold startingWith
  cases (ofList name as).root.descend? start.toList <;> rfl

end LuaAtlas.Trie

namespace LuaAtlas.Partition

/-! ## Partitions -/

theorem search_prefixMatch (symbols : List Symbol) (query : String) : (ofList symbols).search query .prefixMatch =
    TrieNode.sorted (·.searchName) (symbols.filter fun s => query.toList <+: s.searchName.toList) :=
  Trie.startingWith_ofList symbols query

/-- A search by the beginning of names finds all symbols whose names begin so. -/
theorem mem_search_prefixMatch_iff {p : Partition} {query : String} {s : Symbol} :
    s ∈ p.search query .prefixMatch ↔ s ∈ p.symbols ∧ query.toList <+: s.searchName.toList := by
  rw [p.eq_ofList, search_prefixMatch, (TrieNode.sorted_perm _ _).mem_iff]
  simp [ofList]

theorem search_fuzzyMatching (query : String) : ∃ q : Symbol → Bool,
    ∀ symbols, (ofList symbols).search query .fuzzyMatching = symbols.filter q := by
  cases h : Pattern.ofQuery? query with
  | none => exact ⟨fun _ => false, fun symbols => by simp [search, h]⟩
  | some pattern => exact ⟨fun s => pattern.matches s.searchName, fun symbols => by simp [search, h, ofList]⟩

/-- Filtering the symbols first and filtering the answer come to the same. -/
theorem search_filter (symbols : List Symbol) (q : Symbol → Bool) (query : String) : ∀ mode : SearchMode,
    (ofList (symbols.filter q)).search query mode = ((ofList symbols).search query mode).filter q
  | .exactlyEqual => by
    rw [search_exactlyEqual, search_exactlyEqual]
    exact List.filter_comm ..
  | .prefixMatch => by
    rw [search_prefixMatch, search_prefixMatch, TrieNode.sorted_filter, List.filter_comm]
  | .fuzzyMatching => by
    obtain ⟨r, hr⟩ := search_fuzzyMatching query
    rw [hr, hr, List.filter_comm]

theorem contains_iff (symbols : List Symbol) (name : String) :
    (ofList symbols).contains name = true ↔ name ∈ symbols.map (·.searchName) :=
  Dictionary.isSome_lookup_ofList name symbols

/-- The list, the dictionary and the tree hold the same symbols. Whole names and patterns keep the order of
declaration, beginnings of names go by name and then by declaration; and a search among the globals or the
locals of a document is a search among all of its symbols, filtered. -/
theorem search_agree : (∀ (symbols : List Symbol) (query : String),
      let p := ofList symbols
      p.search query .exactlyEqual = symbols.filter (·.searchName = query) ∧
      p.search query .prefixMatch = (symbols.filter fun s => query.toList <+: s.searchName.toList).mergeSort
        (fun s t => s.searchName ≤ t.searchName) ∧
      (p.search query .fuzzyMatching).Sublist symbols ∧
      p.symbols = symbols ∧ p.trie.size = symbols.length ∧
      (p.trie.startingWith "").map (·.searchName) = (symbols.map (·.searchName)).mergeSort (· ≤ ·) ∧
      (p.contains query = true ↔ query ∈ symbols.map (·.searchName))) ∧
    ∀ (shelf : Shelf) (uri : Uri) (outcome : Syntax.Outcome) (query : String) (mode : SearchMode),
      let d := Document.build shelf uri outcome
      d.search query mode .globals = (d.search query mode .all).filter (!·.isLocal) ∧
      d.search query mode .locals = (d.search query mode .all).filter (·.isLocal) := by
  refine ⟨fun symbols query => ⟨?_, search_prefixMatch symbols query, ?_, rfl, ?_, ?_, contains_iff symbols query⟩, ?_⟩
  · exact search_exactlyEqual _ query
  · obtain ⟨q, hq⟩ := search_fuzzyMatching query
    rw [hq]
    exact List.filter_sublist
  · exact Trie.size_ofList _ symbols
  · show ((Trie.ofList _ symbols).startingWith "").map _ = _
    rw [Trie.startingWith_ofList, List.filter_eq_self.2 (by simp)]
    exact List.map_mergeSort fun _ _ _ _ => rfl
  · intro shelf uri outcome query mode
    cases outcome <;> exact ⟨search_filter _ _ _ mode, search_filter _ _ _ mode⟩

end LuaAtlas.Partition
