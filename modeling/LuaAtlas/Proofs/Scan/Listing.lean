/-
The files of a scan are listed once each: places on a disk are told apart by their names, names by the slashes between
them, and what is left out or put in order doubles nothing.
-/
import LuaAtlas.Scan
import Mathlib.Data.List.Nodup

namespace LuaAtlas

/-! ## Paths -/

/-- What a file system can hold: no two files at one place, and names without slashes. -/
structure Disk.WellFormed (d : Disk) : Prop where
  nodup : (d.files.map (·.1)).Nodup
  names : ∀ f ∈ d.files, ∀ name ∈ f.1, name ≠ [] ∧ Location.slash ∉ name

namespace Location

/-- Names that can stand between slashes. -/
def Plain (names : List OsText) : Prop := names ≠ [] ∧ ∀ name ∈ names, name ≠ [] ∧ slash ∉ name

/-- Names are read off the path that they make. -/
theorem Plain.splitOn {names : List OsText} (h : Plain names) : (between names).splitOn slash = names :=
  List.splitOn_intercalate slash (fun name hname => (h.2 name hname).2) h.1

theorem Plain.between_inj {as bs : List OsText} (ha : Plain as) (hb : Plain bs) (h : between as = between bs) :
    as = bs := by
  rw [← ha.splitOn, ← hb.splitOn, h]

/-- A path made of names does not begin with a slash. -/
theorem Plain.isAbsolute {names : List OsText} (h : Plain names) : isAbsolute (between names) = false := by
  unfold Location.isAbsolute
  rw [decide_eq_false_iff_not]
  intro hslash
  have hsplit := h.splitOn
  cases hbetween : between names with
  | nil => rw [hbetween] at hslash; cases hslash
  | cons b rest =>
    rw [hbetween, List.head?_cons, Option.some.injEq] at hslash
    -- what comes before a slash at the beginning is empty, and no name is
    rw [hbetween, hslash, List.splitOn_eq_splitOnP, List.splitOnP_cons_eq_if_modifyHead, if_pos (by simp)] at hsplit
    exact (h.2 [] (hsplit ▸ List.mem_cons_self ..)).1 rfl

theorem Plain.join_inj {path : OsText} {as bs : List OsText} (ha : Plain as) (hb : Plain bs)
    (h : join path (between as) = join path (between bs)) : as = bs := by
  refine ha.between_inj hb ?_
  unfold join at h
  rw [ha.isAbsolute, hb.isAbsolute, Bool.or_false] at h
  split at h
  · exact h
  · split at h
    · exact List.append_cancel_left h
    · exact (List.cons.inj (List.append_cancel_left h)).2

end Location

namespace Scan

open Location

/-! ## The files of a scan -/

theorem drop_inj {root l l' : Location} (hl : root.isPrefixOf l) (hl' : root.isPrefixOf l')
    (h : l.drop root.length = l'.drop root.length) : l = l' := by
  rw [← List.prefix_iff_eq_append.1 (List.isPrefixOf_iff_prefix.1 hl), h,
    List.prefix_iff_eq_append.1 (List.isPrefixOf_iff_prefix.1 hl')]

theorem filesBelow_nodup {disk : Disk} (h : disk.WellFormed) (config : Config) (root : Location) :
    (filesBelow disk config root).Nodup := by
  have hbelow : ((disk.files.map (·.1)).filterMap fun l =>
      if root.isPrefixOf l then some (l.drop root.length) else none).Nodup := by
    refine h.nodup.filterMap fun l l' names hl hl' => ?_
    rw [Option.mem_def, Option.ite_none_right_eq_some] at hl hl'
    exact drop_inj hl.1 hl'.1 ((Option.some.inj hl.2).trans (Option.some.inj hl'.2).symm)
  rw [List.filterMap_map] at hbelow
  unfold filesBelow
  rw [List.nodup_mergeSort]
  exact hbelow.filter _

theorem plain_of_mem_filesBelow {disk : Disk} (h : disk.WellFormed) {config : Config} {root : Location}
    {names : List OsText} (hn : names ∈ filesBelow disk config root) : Plain names := by
  unfold filesBelow at hn
  rw [List.mem_mergeSort, List.mem_filter, List.mem_filterMap, Bool.and_eq_true] at hn
  obtain ⟨⟨f, hf, hdrop⟩, -, haccepted⟩ := hn
  rw [Option.ite_none_right_eq_some] at hdrop
  obtain ⟨-, hdrop⟩ := hdrop
  refine ⟨fun hnil => ?_, fun name hname => h.names f hf name ?_⟩
  · rw [hnil] at haccepted
    cases haccepted
  · rw [← Option.some.inj hdrop] at hname
    exact List.mem_of_mem_drop hname

/-- No file is listed twice. -/
theorem listFiles_nodup {disk : Disk} (h : disk.WellFormed) (config : Config) (path : OsText) :
    (listFiles disk config path).Nodup := by
  unfold listFiles
  split
  · refine List.Nodup.map_on (fun as ha bs hb heq => ?_) (filesBelow_nodup h config _)
    exact (plain_of_mem_filesBelow h ha).join_inj (plain_of_mem_filesBelow h hb) heq
  · split
    · exact List.nodup_singleton path
    · exact List.nodup_nil
  · exact List.nodup_nil

theorem filesFor_nodup {disk : Disk} (h : disk.WellFormed) (config : Config) (path : OsText) (shelf : Shelf) :
    (filesFor disk config path shelf).Nodup := by
  have hstubs : ∀ directory?, (listStubs disk config directory?).Nodup := fun directory? => by
    unfold listStubs
    split
    · split
      · exact listFiles_nodup h config _
      · exact List.nodup_nil
    · exact List.nodup_nil
  cases shelf with
  | workspace => exact listFiles_nodup h config path
  | stdlib | user => exact hstubs _

end Scan

end LuaAtlas
