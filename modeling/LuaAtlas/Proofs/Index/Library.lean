/-
Laws of libraries: what `insert` and `change` do to look-up by URI, the order of the documents that
both keep, and that an ordered library is determined by look-up alone. All that is said about
documents elsewhere is said through `find?`; the order is only needed to come back to the list.
-/
import LuaAtlas.Index.Library
import Mathlib.Data.String.Basic
import Mathlib.Data.List.Forall2

namespace LuaAtlas.Library

/-! ## Look-up -/

theorem find?_place (d : Document) (u : Uri) : ∀ ds : List Document,
    (place d ds).find? (·.uri = u) = if d.uri = u then some d else ds.find? (·.uri = u)
  | [] => by by_cases h : d.uri = u <;> simp [place, h]
  | e :: es => by
    unfold place
    split
    · rename_i h
      by_cases hu : d.uri = u
      · simp [hu]
      · have he : e.uri ≠ u := h ▸ hu
        simp [hu, he]
    · rename_i h
      split
      · by_cases hu : d.uri = u <;> simp [hu]
      · by_cases he : e.uri = u
        · have hd : d.uri ≠ u := fun hd => h (hd.trans he.symm)
          simp [he, hd]
        · rw [List.find?_cons_of_neg (by simpa using he), List.find?_cons_of_neg (by simpa using he)]
          exact find?_place d u es

/-- An added document is found under its URI; all others are found as before. -/
theorem find?_insert (l : Library) (d : Document) (u : Uri) :
    (l.insert d).find? u = if d.uri = u then some d else l.find? u :=
  find?_place d u l.documents

theorem find?_uri {l : Library} {u : Uri} {d : Document} (h : l.find? u = some d) : d.uri = u := by
  simpa using List.find?_some h

theorem contains_iff {l : Library} {u : Uri} : l.contains u = true ↔ ∃ d, l.find? u = some d := by
  unfold contains; exact Option.isSome_iff_exists

/-- A change that keeps URIs changes what is found under the one URI. -/
theorem find?_change (l : Library) (u : Uri) {f : Document → Document} (hf : ∀ d, (f d).uri = d.uri) (v : Uri) :
    (l.change u f).find? v = (l.find? v).map fun d => if v = u then f d else d := by
  have hmap : ((fun e : Document => decide (e.uri = v)) ∘ fun d => if d.uri = u then f d else d) =
      fun e : Document => decide (e.uri = v) := by
    funext e
    by_cases he : e.uri = u <;> simp [he, hf]
  unfold change find?
  rw [List.find?_map, hmap]
  cases h : l.documents.find? (·.uri = v) with
  | none => rfl
  | some d =>
    have hd : d.uri = v := find?_uri h
    simp [hd]

/-! ## Order -/

/-- The documents stand in increasing order of their URIs, so that no two share one. -/
def Ordered (l : Library) : Prop := l.documents.Pairwise fun a b => a.uri.text < b.uri.text

theorem ordered_empty : empty.Ordered := List.Pairwise.nil

theorem mem_place {d a : Document} : ∀ {ds : List Document}, a ∈ place d ds → a = d ∨ a ∈ ds
  | [], h => by simpa [place] using h
  | e :: es, h => by
    unfold place at h
    split at h
    · rcases List.mem_cons.1 h with h | h
      · exact .inl h
      · exact .inr (List.mem_cons_of_mem _ h)
    · split at h
      · exact List.mem_cons.1 h
      · rcases List.mem_cons.1 h with rfl | h
        · exact .inr (List.mem_cons_self ..)
        · exact (mem_place h).imp id (List.mem_cons_of_mem _)

theorem pairwise_place (d : Document) : ∀ {ds : List Document},
    ds.Pairwise (fun a b => a.uri.text < b.uri.text) → (place d ds).Pairwise fun a b => a.uri.text < b.uri.text
  | [], _ => by simp [place]
  | e :: es, h => by
    obtain ⟨he, hes⟩ := List.pairwise_cons.1 h
    unfold place
    split
    · rename_i hd
      exact List.pairwise_cons.2 ⟨fun b hb => hd ▸ he b hb, hes⟩
    · rename_i hd
      split
      · rename_i hlt
        refine List.pairwise_cons.2 ⟨fun b hb => ?_, h⟩
        rcases List.mem_cons.1 hb with rfl | hb
        · exact hlt
        · exact lt_trans hlt (he b hb)
      · rename_i hlt
        have hne : e.uri.text ≠ d.uri.text := fun heq => hd (congrArg Uri.mk heq.symm)
        have hed : e.uri.text < d.uri.text := lt_of_le_of_ne (not_lt.1 hlt) hne
        refine List.pairwise_cons.2 ⟨fun b hb => ?_, pairwise_place d hes⟩
        rcases mem_place hb with rfl | hb
        · exact hed
        · exact he b hb

theorem Ordered.insert {l : Library} (h : l.Ordered) (d : Document) : (l.insert d).Ordered := pairwise_place d h

theorem Ordered.change {l : Library} (h : l.Ordered) (u : Uri) {f : Document → Document}
    (hf : ∀ d, (f d).uri = d.uri) : (l.change u f).Ordered := by
  have huri : ∀ d : Document, (if d.uri = u then f d else d).uri = d.uri := by
    intro d; split
    · exact hf d
    · rfl
  unfold Ordered at h ⊢
  unfold Library.change
  rw [List.pairwise_map]
  simpa only [huri] using h

theorem Ordered.uri_nodup {l : Library} (h : l.Ordered) : (l.documents.map (·.uri)).Nodup := by
  rw [List.nodup_iff_pairwise_ne, List.pairwise_map]
  exact h.imp fun hlt heq => hlt.ne (congrArg Uri.text heq)

theorem place_perm {d : Document} : ∀ {ds : List Document}, ds.find? (·.uri = d.uri) = none →
    (place d ds).Perm (d :: ds)
  | [], _ => .refl _
  | e :: es, h => by
    have hne : e.uri ≠ d.uri := by simpa using List.find?_eq_none.1 h e (List.mem_cons_self ..)
    rw [List.find?_cons_of_neg (by simpa using hne)] at h
    unfold place
    rw [if_neg hne.symm]
    split
    · exact .refl _
    · exact ((place_perm h).cons e).trans (.swap d e es)

/-- In an ordered library every document is found under its own URI. -/
theorem Ordered.find?_mem {l : Library} (h : l.Ordered) {d : Document} (hd : d ∈ l.documents) :
    l.find? d.uri = some d := by
  obtain ⟨ds⟩ := l
  unfold Ordered at h
  unfold find?
  dsimp only at h hd ⊢
  induction ds with
  | nil => cases hd
  | cons e es ih =>
    obtain ⟨he, hes⟩ := List.pairwise_cons.1 h
    rcases List.mem_cons.1 hd with rfl | hd
    · simp
    · have hne : e.uri ≠ d.uri := fun heq => lt_irrefl _ (heq ▸ he d hd)
      rw [List.find?_cons_of_neg (by simpa using hne)]
      exact ih hes hd

theorem find?_eq_none_of_lt {u : Uri} {ds : List Document} (h : ∀ d ∈ ds, u.text < d.uri.text) :
    ds.find? (·.uri = u) = none := by
  rw [List.find?_eq_none]
  intro d hd heq
  have hu : d.uri = u := by simpa using heq
  exact lt_irrefl _ (hu ▸ h d hd)

/-- Two ordered lists of documents that look up related documents are related one by one. -/
theorem forall₂_of_find? {R : Document → Document → Prop} : ∀ {as bs : List Document},
    as.Pairwise (fun a b => a.uri.text < b.uri.text) → bs.Pairwise (fun a b => a.uri.text < b.uri.text) →
    (∀ u, Option.Rel R (as.find? (·.uri = u)) (bs.find? (·.uri = u))) → List.Forall₂ R as bs
  | [], [], _, _, _ => .nil
  | [], b :: bs, _, _, h => by have := h b.uri; simp at this
  | a :: as, [], _, _, h => by have := h a.uri; simp at this
  | a :: as, b :: bs, ha, hb, h => by
    obtain ⟨ha1, ha2⟩ := List.pairwise_cons.1 ha
    obtain ⟨hb1, hb2⟩ := List.pairwise_cons.1 hb
    -- the smaller of two different heads would be found on one side only
    have huri : a.uri = b.uri := by
      rcases lt_trichotomy a.uri.text b.uri.text with hlt | heq | hlt
      · have hnone : (b :: bs).find? (·.uri = a.uri) = none := find?_eq_none_of_lt fun d hd => by
          rcases List.mem_cons.1 hd with rfl | hd
          · exact hlt
          · exact lt_trans hlt (hb1 d hd)
        have := h a.uri
        rw [hnone] at this
        simp at this
      · exact congrArg Uri.mk heq
      · have hnone : (a :: as).find? (·.uri = b.uri) = none := find?_eq_none_of_lt fun d hd => by
          rcases List.mem_cons.1 hd with rfl | hd
          · exact hlt
          · exact lt_trans hlt (ha1 d hd)
        have := h b.uri
        rw [hnone] at this
        simp at this
    refine .cons (by simpa [huri] using h b.uri) (forall₂_of_find? ha2 hb2 fun u => ?_)
    by_cases hu : a.uri = u
    · subst hu
      rw [find?_eq_none_of_lt ha1, huri, find?_eq_none_of_lt hb1]
      exact .none
    · have hu' : b.uri ≠ u := huri ▸ hu
      simpa [hu, hu'] using h u

/-- An ordered library is determined by what is found in it. -/
theorem Ordered.ext {l l' : Library} (h : l.Ordered) (h' : l'.Ordered) (hfind : ∀ u, l.find? u = l'.find? u) :
    l = l' := by
  have hall : List.Forall₂ Eq l.documents l'.documents := forall₂_of_find? h h' fun u => by
    show Option.Rel Eq (l.find? u) (l'.find? u)
    rw [hfind u]
    cases l'.find? u with
    | none => exact .none
    | some d => exact .some rfl
  obtain ⟨ds⟩ := l
  rw [List.forall₂_eq_eq_eq] at hall
  exact congrArg Library.mk hall

/-- A document that is already there is added in vain. -/
theorem Ordered.insert_of_find? {l : Library} (h : l.Ordered) {d : Document} (hd : l.find? d.uri = some d) :
    l.insert d = l := by
  refine (h.insert d).ext h fun u => ?_
  rw [find?_insert]
  split
  · rename_i hu
    rw [← hu, hd]
  · rfl

end LuaAtlas.Library
