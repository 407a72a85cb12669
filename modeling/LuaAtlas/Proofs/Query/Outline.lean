/-
What an outline lists. A symbol is listed once if the chain of symbols that it hangs under comes to an end, and not at
all if it does not. Bodies are told apart by their name and the line on which they start, and the last owner counts: a
function that is declared again on its own line, inside itself, comes to hang under what it contains, and all of them
are lost. As long as no two bodies share name and line, every symbol hangs under an earlier one and none is lost.
-/
import LuaAtlas.Proofs.Partition
import LuaAtlas.Proofs.Walk.Bodies
import LuaAtlas.Query.Outline
import Mathlib.Data.List.Induction
import Mathlib.Data.List.Nodup
import Mathlib.Data.List.Perm.Basic
import Mathlib.Data.List.Perm.Subperm

namespace LuaAtlas.Query

open LuaAtlas.Walk LuaAtlas.Syntax

/-! ## Chains of parents -/

section Chains

variable {up : Nat → Option Nat}

/-- `is` leads from `i` upwards, to something that hangs under nothing. -/
inductive Lineage (up : Nat → Option Nat) : Nat → List Nat → Prop
  | root {i : Nat} : up i = none → Lineage up i [i]
  | under {i j : Nat} {is : List Nat} : up i = some j → Lineage up j is → Lineage up i (i :: is)

namespace Lineage

theorem unique {i : Nat} {is js : List Nat} (h : Lineage up i is) (h' : Lineage up i js) : is = js := by
  induction h generalizing js with
  | root hi =>
    cases h' with
    | root => rfl
    | under hj => cases hi.symm.trans hj
  | under hi _ ih =>
    cases h' with
    | root hj => cases hj.symm.trans hi
    | under hj h' =>
      cases Option.some.inj (hi.symm.trans hj)
      rw [ih h']

theorem head {i j : Nat} {is : List Nat} (h : Lineage up i (j :: is)) : i = j := by
  cases h <;> rfl

/-- What follows in a lineage is the lineage of its own first. -/
theorem suffix {i j : Nat} : ∀ {s is : List Nat}, Lineage up i (s ++ j :: is) → Lineage up j (j :: is)
  | [], is, h => by
    cases h.head
    exact h
  | k :: s, is, h => by
    rw [List.cons_append] at h
    generalize hrest : s ++ j :: is = rest at h
    cases h with
    | root => simp at hrest
    | under _ h =>
      subst hrest
      exact suffix h

theorem nodup {i : Nat} {is : List Nat} (h : Lineage up i is) : is.Nodup := by
  induction h with
  | root => exact List.nodup_singleton _
  | @under i j is hi h ih =>
    refine List.nodup_cons.2 ⟨fun hmem => ?_, ih⟩
    -- a second `i` would have a lineage of its own, shorter than the one it has
    obtain ⟨s, t, rfl⟩ := List.append_of_mem hmem
    have hlength := congrArg List.length ((suffix h).unique (.under hi h))
    simp at hlength
    omega

/-- What hangs directly under the first of a chain, or under nothing if the chain is empty. -/
theorem up_eq {i : Nat} {is : List Nat} {p : Option Nat} (h : Lineage up i (i :: is))
    (hp : ∀ q, p = some q → Lineage up q is) (hnone : p = none → is = []) : up i = p := by
  cases h with
  | root hi =>
    cases p with
    | none => exact hi
    | some q => cases hp q rfl
  | under hi h =>
    cases p with
    | none =>
      cases hnone rfl
      cases h
    | some q =>
      cases hp q rfl with
      | root => rw [hi, h.head]
      | under => rw [hi, h.head]

theorem exists_of_lt (h : ∀ i j, up i = some j → j < i) (i : Nat) : ∃ is, Lineage up i is := by
  induction i using Nat.strongRecOn with
  | ind i ih =>
    cases hi : up i with
    | none => exact ⟨_, .root hi⟩
    | some j =>
      obtain ⟨is, his⟩ := ih j (h i j hi)
      exact ⟨_, .under hi his⟩

end Lineage

/-! ## Listing below a parent -/

/-- What an outline of `n` symbols lists below `parent`, as positions in reading order; `fuel` bounds the depth. -/
def listed (n : Nat) (up : Nat → Option Nat) : Nat → Option Nat → List Nat
  | 0, _ => []
  | fuel + 1, parent => (List.range n).flatMap fun i => if up i = parent then i :: listed n up fuel (some i) else []

/-- The chain from `parent` upwards; under nothing it is empty. -/
def Above (up : Nat → Option Nat) (parent : Option Nat) (is : List Nat) : Prop :=
  (∀ q, parent = some q → Lineage up q is) ∧ (parent = none → is = [])

theorem Above.child {i : Nat} {parent : Option Nat} {is : List Nat} (h : Above up parent is) (hi : up i = parent) :
    Lineage up i (i :: is) := by
  cases parent with
  | none =>
    rw [h.2 rfl]
    exact .root hi
  | some q => exact .under hi (h.1 q rfl)

theorem Above.of_lineage {i : Nat} {is : List Nat} (h : Lineage up i is) : Above up (some i) is :=
  ⟨fun q hq => Option.some.inj hq ▸ h, fun hnone => by cases hnone⟩

/-- Listed below a parent is what the parent is found above, no further than the depth goes. -/
theorem mem_listed {n fuel : Nat} {parent : Option Nat} {is : List Nat} (h : Above up parent is) {i : Nat} :
    i ∈ listed n up fuel parent ↔
      ∃ s, s ≠ [] ∧ s.length ≤ fuel ∧ Lineage up i (s ++ is) ∧ ∀ j ∈ s, j < n := by
  induction fuel generalizing parent is with
  | zero =>
    rw [listed]
    refine ⟨fun hi => (List.not_mem_nil hi).elim, ?_⟩
    rintro ⟨s, hs, hlength, -⟩
    exact absurd (List.eq_nil_of_length_eq_zero (Nat.le_zero.1 hlength)) hs
  | succ fuel ih =>
    rw [listed, List.mem_flatMap]
    constructor
    · rintro ⟨a, ha, hi⟩
      rw [List.mem_range] at ha
      split at hi
      · rename_i hup
        have hchild := h.child hup
        rcases List.mem_cons.1 hi with rfl | hi
        · exact ⟨[i], by simp, by simp, hchild, by simpa using ha⟩
        · obtain ⟨s, -, hlength, hline, hbound⟩ := (ih (.of_lineage hchild)).1 hi
          refine ⟨s ++ [a], by simp, by simpa using hlength, by simpa using hline, fun j hj => ?_⟩
          rcases List.mem_append.1 hj with hj | hj
          · exact hbound j hj
          · cases List.mem_singleton.1 hj
            exact ha
      · cases hi
    · rintro ⟨s, hs, hlength, hline, hbound⟩
      obtain ⟨t, a, rfl⟩ := (List.eq_nil_or_concat s).resolve_left hs
      rw [List.concat_eq_append] at *
      rw [List.append_assoc, List.singleton_append] at hline
      have ha := hline.suffix
      refine ⟨a, List.mem_range.2 (hbound a (by simp)), ?_⟩
      rw [if_pos (ha.up_eq h.1 h.2)]
      cases t with
      | nil => exact List.mem_cons.2 (.inl hline.head)
      | cons b t =>
        refine List.mem_cons_of_mem _ ((ih (.of_lineage ha)).2 ⟨b :: t, by simp, ?_, hline, fun j hj => ?_⟩)
        · simpa using hlength
        · exact hbound j (List.mem_append_left _ hj)

/-- Nothing is listed twice. -/
theorem nodup_listed {n fuel : Nat} {parent : Option Nat} {is : List Nat} (h : Above up parent is) :
    (listed n up fuel parent).Nodup := by
  induction fuel generalizing parent is with
  | zero => exact List.nodup_nil
  | succ fuel ih =>
    rw [listed, List.nodup_flatMap]
    -- whatever is listed for a child has the child in its lineage, right before that of the parent
    have hlineage : ∀ {a i : Nat}, i ∈ (if up a = parent then a :: listed n up fuel (some a) else []) →
        ∃ s, Lineage up i (s ++ a :: is) := by
      intro a i hi
      split at hi
      · rename_i hup
        have hchild := h.child hup
        rcases List.mem_cons.1 hi with rfl | hi
        · exact ⟨[], hchild⟩
        · obtain ⟨s, -, -, hline, -⟩ := (mem_listed (.of_lineage hchild)).1 hi
          exact ⟨s, hline⟩
      · cases hi
    constructor
    · intro a _
      split
      · rename_i hup
        have hchild := h.child hup
        refine List.nodup_cons.2 ⟨fun hmem => ?_, ih (.of_lineage hchild)⟩
        obtain ⟨s, hs, -, hline, -⟩ := (mem_listed (.of_lineage hchild)).1 hmem
        exact hs (List.append_left_eq_self.1 (hline.unique hchild))
      · exact List.nodup_nil
    · refine List.Nodup.pairwise_of_forall_ne List.nodup_range fun a _ b _ hab => ?_
      intro i hia hib
      obtain ⟨s, hs⟩ := hlineage hia
      obtain ⟨t, ht⟩ := hlineage hib
      exact hab (List.cons.inj (List.append_inj_right' (hs.unique ht) (by simp))).1

/-- The depth allowed is never the reason why something is left out. -/
theorem mem_listed_top {n : Nat} (hup : ∀ i j, up i = some j → j < n) {i : Nat} :
    i ∈ listed n up (n + 1) none ↔ i < n ∧ ∃ is, Lineage up i is := by
  have htop : Above up none [] := ⟨fun q hq => (nomatch hq), fun _ => rfl⟩
  rw [mem_listed htop]
  constructor
  · rintro ⟨s, hs, -, hline, hbound⟩
    rw [List.append_nil] at hline
    refine ⟨?_, s, hline⟩
    cases hline <;> exact hbound i (List.mem_cons_self ..)
  · rintro ⟨hi, is, hline⟩
    have hbound : ∀ j ∈ is, j < n := by
      induction hline with
      | root => exact fun j hj => List.mem_singleton.1 hj ▸ hi
      | under hj _ ih =>
        exact List.forall_mem_cons.2 ⟨hi, ih (hup _ _ hj)⟩
    have hlength : is.length ≤ n := by
      have hsub : is ⊆ List.range n := fun j hj => List.mem_range.2 (hbound j hj)
      simpa using (hline.nodup.subperm hsub).length_le
    refine ⟨is, ?_, by omega, by rwa [List.append_nil], hbound⟩
    rintro rfl
    cases hline

end Chains

/-! ## From nodes to positions -/

/-- What an outline shows of a symbol. -/
structure OutlineEntry where
  name : String
  detail : String
  kind : SymbolKind
  range : Range
deriving DecidableEq, Repr

mutual

/-- What a node shows, in reading order: the symbol itself and what hangs under it. -/
def OutlineNode.entries : OutlineNode → List OutlineEntry
  | .mk name detail kind range children => ⟨name, detail, kind, range⟩ :: forestEntries children

/-- What the nodes of a forest show, in reading order. -/
def forestEntries : List OutlineNode → List OutlineEntry
  | [] => []
  | node :: nodes => node.entries ++ forestEntries nodes

end

theorem forestEntries_append : ∀ nodes nodes' : List OutlineNode,
    forestEntries (nodes ++ nodes') = forestEntries nodes ++ forestEntries nodes'
  | [], nodes' => by rw [forestEntries, List.nil_append, List.nil_append]
  | node :: nodes, nodes' => by
    rw [List.cons_append, forestEntries, forestEntries, forestEntries_append nodes nodes', List.append_assoc]

theorem forestEntries_flatMap {α : Type} (f : α → List OutlineNode) : ∀ as : List α,
    forestEntries (as.flatMap f) = as.flatMap fun a => forestEntries (f a)
  | [] => by rw [List.flatMap_nil, List.flatMap_nil, forestEntries]
  | a :: as => by rw [List.flatMap_cons, List.flatMap_cons, forestEntries_append, forestEntries_flatMap f as]

/-- The entry of the `i`-th symbol: a member of a table that is known there goes by its own name only. -/
def entryOf (symbols : List Symbol) (i : Nat) (s : Symbol) : OutlineEntry :=
  ⟨if (memberBase? symbols i).isSome then s.memberName else s.searchName, s.displayName, s.kind, s.range⟩

/-- Nodes show the entries of the positions that are listed. -/
theorem forestEntries_outlineNodes (d : Document) (fuel : Nat) (parent : Option Nat) :
    forestEntries (outlineNodes d.symbols ((List.range d.symbols.length).map (parent? d d.symbols))
      ((List.range d.symbols.length).map fun i => (memberBase? d.symbols i).isSome) fuel parent) =
    (listed d.symbols.length (parent? d d.symbols) fuel parent).filterMap fun i =>
      d.symbols[i]?.map (entryOf d.symbols i) := by
  induction fuel generalizing parent with
  | zero => rw [outlineNodes, listed, forestEntries, List.filterMap_nil]
  | succ fuel ih =>
    rw [outlineNodes, listed, forestEntries_flatMap, List.filterMap_flatMap]
    refine List.flatMap_congr fun i hi => ?_
    rw [List.mem_range] at hi
    have hparent : ((List.range d.symbols.length).map (parent? d d.symbols))[i]? = some (parent? d d.symbols i) := by
      simp [hi]
    have hmember : (((List.range d.symbols.length).map fun i => (memberBase? d.symbols i).isSome)[i]?).getD false =
        (memberBase? d.symbols i).isSome := by simp [hi]
    rw [List.getElem?_eq_getElem hi, hparent, hmember]
    by_cases h : parent? d d.symbols i = parent
    · rw [if_pos h]
      simp only [h, if_true]
      rw [forestEntries, forestEntries, OutlineNode.entries, ih, List.append_nil, List.filterMap_cons,
        List.getElem?_eq_getElem hi]
      rfl
    · have hs : some (parent? d d.symbols i) ≠ some parent := fun hs => h (Option.some.inj hs)
      simp only [if_neg h, if_neg hs]
      rw [forestEntries, List.filterMap_nil]

theorem filterMap_range_eq_mapIdx {α β : Type} (f : Nat → α → β) (as : List α) :
    ((List.range as.length).filterMap fun i => as[i]?.map (f i)) = as.mapIdx f := by
  induction as using List.reverseRecOn with
  | nil => rfl
  | append_singleton as a ih =>
    rw [List.length_append, List.length_singleton, List.range_succ, List.filterMap_append, List.mapIdx_append, ← ih]
    congr 1
    · refine List.filterMap_congr fun i hi => ?_
      rw [List.getElem?_append_left (List.mem_range.1 hi)]
    · simp

/-! ## Parents -/

theorem lastIndexBelow?_eq_some {α : Type} {p : α → Bool} {as : List α} {n j : Nat}
    (h : lastIndexBelow? p as n = some j) : j < n ∧ ∃ a, as[j]? = some a ∧ p a = true := by
  unfold lastIndexBelow? at h
  have hj := List.mem_of_find?_eq_some h
  rw [List.mem_reverse, List.mem_range] at hj
  have hfound := List.find?_some h
  obtain ⟨a, ha, hp⟩ := (Option.any_eq_true ..).1 hfound
  exact ⟨hj, a, ha, hp⟩

/-- A symbol can only be a member of an earlier one. -/
theorem memberBase?_lt {symbols : List Symbol} {i j : Nat} (h : memberBase? symbols i = some j) : j < i := by
  obtain ⟨s, -, h⟩ := Option.bind_eq_some_iff.1 h
  obtain ⟨base, -, h⟩ := Option.bind_eq_some_iff.1 h
  exact (lastIndexBelow?_eq_some h).1

/-- What hangs under the owner of the body around it. -/
theorem bodyOwner?_eq_some {d : Document} {symbols : List Symbol} {i j : Nat} (h : bodyOwner? d symbols i = some j) :
    ∃ s r o k, symbols[i]? = some s ∧ s.containers.getLast? = some r ∧ some r.name ≠ d.fileChunk?.map (·.name) ∧
      symbols[j]? = some o ∧ o.ownedChunk? = some k ∧ k.ref.label = r.label ∧ j ≠ i := by
  obtain ⟨s, hs, h⟩ := Option.bind_eq_some_iff.1 h
  obtain ⟨r, hr, h⟩ := Option.bind_eq_some_iff.1 h
  split at h
  · cases h
  · rename_i hfile
    obtain ⟨hj, hne⟩ := Option.filter_eq_some_iff.1 h
    obtain ⟨-, o, ho, howned⟩ := lastIndexBelow?_eq_some hj
    obtain ⟨k, hk, hlabel⟩ := (Option.any_eq_true ..).1 howned
    obtain ⟨hname, hline⟩ := Bool.and_eq_true_iff.1 hlabel
    refine ⟨s, r, o, k, hs, hr, hfile, ho, hk, ?_, by simpa using hne⟩
    exact Prod.ext (of_decide_eq_true hname) (of_decide_eq_true hline)

theorem parent?_lt_length {d : Document} {i j : Nat} (h : parent? d d.symbols i = some j) : j < d.symbols.length := by
  rcases Option.or_eq_some_iff.1 h with h | ⟨-, h⟩
  · have hi : i < d.symbols.length := by
      obtain ⟨s, hs, -⟩ := Option.bind_eq_some_iff.1 h
      exact (List.getElem?_eq_some_iff.1 hs).1
    exact Nat.lt_trans (memberBase?_lt h) hi
  · obtain ⟨_, _, o, _, _, _, _, ho, -⟩ := bodyOwner?_eq_some h
    exact (List.getElem?_eq_some_iff.1 ho).1

/-! ## Outlines of files -/

/-- The chunks of a document can be told apart by name and first line. -/
def HasDistinctChunks (d : Document) : Prop := (d.chunks.map (·.ref.label)).Nodup

instance (d : Document) : Decidable (HasDistinctChunks d) := by
  unfold HasDistinctChunks
  infer_instance

/-- The symbols of a file lie in the chunks, and own those, that their declarations do. -/
theorem exists_declaration {shelf : Shelf} {uri : Uri} {state : DocumentState} {file : File} {i : Nat} {s : Symbol}
    (h : (Document.ofFile shelf uri state file).symbols[i]? = some s) :
    ∃ e, (Declare.effective [] (events uri file))[i]? = some e ∧ s.containers = e.stack ∧
      s.ownedChunk? = e.ownedChunk? := by
  have hsymbols : (Document.ofFile shelf uri state file).symbols =
      Declare.symbols shelf uri (events uri file) (annotations file.comments) := rfl
  have hplain := congrArg (·[i]?) (Declare.symbols_plain shelf uri (events uri file) (annotations file.comments))
  rw [← hsymbols] at hplain
  simp only [List.getElem?_map, h, Option.map_some] at hplain
  obtain ⟨e, he, hs⟩ := Option.map_eq_some_iff.1 hplain.symm
  exact ⟨e, he, (congrArg Symbol.containers hs).symm, (congrArg Symbol.ownedChunk? hs).symm⟩

/-- The chunk of the file is known by the name of the file. -/
theorem fileChunk?_name (shelf : Shelf) (uri : Uri) (state : DocumentState) (file : File) :
    (Document.ofFile shelf uri state file).fileChunk?.map (·.name) = some uri.fileName := by
  have hmem : fileChunk uri file ∈ (Document.ofFile shelf uri state file).chunks.reverse :=
    List.mem_reverse.2 (List.mem_cons_self ..)
  have hfound : ((Document.ofFile shelf uri state file).chunk? uri.fileName).isSome :=
    List.find?_isSome.2 ⟨_, hmem, decide_eq_true rfl⟩
  obtain ⟨k, hk⟩ := Option.isSome_iff_exists.1 hfound
  have hname := List.find?_some hk
  unfold Document.fileChunk?
  rw [show (Document.ofFile shelf uri state file).uri = uri from rfl, hk, Option.map_some]
  exact congrArg some (of_decide_eq_true hname)

/-- As long as chunks can be told apart, everything hangs under something earlier. -/
theorem parent?_lt {shelf : Shelf} {uri : Uri} {state : DocumentState} {file : File}
    (hd : HasDistinctChunks (Document.ofFile shelf uri state file)) {i j : Nat}
    (h : parent? (Document.ofFile shelf uri state file) (Document.ofFile shelf uri state file).symbols i = some j) :
    j < i := by
  rcases Option.or_eq_some_iff.1 h with h | ⟨-, h⟩
  · exact memberBase?_lt h
  · obtain ⟨s, r, o, k, hs, hr, hfile, ho, hk, hlabel, hne⟩ := bodyOwner?_eq_some h
    obtain ⟨e, he, hstack, -⟩ := exists_declaration hs
    obtain ⟨f, hf, -, howned⟩ := exists_declaration ho
    by_contra hle
    have hij : i < j := by omega
    -- an owner behind would own a body that opens behind everything declared in it
    have hpairwise := (inOrder_events uri file).pairwise hd
    have heffective := hpairwise.sublist (Declare.effective_sublist (events uri file) [])
    obtain ⟨hi, rfl⟩ := List.getElem?_eq_some_iff.1 he
    obtain ⟨hj, rfl⟩ := List.getElem?_eq_some_iff.1 hf
    refine List.pairwise_iff_getElem.1 heffective i j hi hj hij r k ?_ ?_ ?_ hlabel.symm
    · rw [← hstack]
      exact hr
    · rw [← howned]
      exact hk
    · rw [fileChunk?_name] at hfile
      rintro hr
      cases hr
      exact hfile rfl

/-- The outline of every file lists, once each and with their own names, details, kinds and ranges, the symbols whose
chain of parents comes to an end. If the chunks of the file can be told apart by name and first line, every symbol
hangs under an earlier one, if under any, and the outline lists all symbols. -/
theorem outline_of_distinct_chunks (shelf : Shelf) (uri : Uri) (state : DocumentState) (file : File) :
    let d := Document.ofFile shelf uri state file
    (∃ order : List Nat, order.Nodup ∧
        (∀ i, i ∈ order ↔ i < d.symbols.length ∧ ∃ is, Lineage (parent? d d.symbols) i is) ∧
        forestEntries (documentOutline d) = order.filterMap fun i => d.symbols[i]?.map (entryOf d.symbols i)) ∧
      (HasDistinctChunks d → (∀ i j, parent? d d.symbols i = some j → j < i) ∧
        (forestEntries (documentOutline d)).Perm (d.symbols.mapIdx (entryOf d.symbols))) := by
  intro d
  have htop : Above (parent? d d.symbols) none [] := ⟨fun q hq => (nomatch hq), fun _ => rfl⟩
  have hentries : forestEntries (documentOutline d) =
      (listed d.symbols.length (parent? d d.symbols) (d.symbols.length + 1) none).filterMap fun i =>
        d.symbols[i]?.map (entryOf d.symbols i) := forestEntries_outlineNodes d _ none
  have hbound : ∀ i j, parent? d d.symbols i = some j → j < d.symbols.length := fun _ _ h => parent?_lt_length h
  refine ⟨⟨_, nodup_listed htop, fun i => mem_listed_top hbound, hentries⟩, fun hd => ?_⟩
  have hlt : ∀ i j, parent? d d.symbols i = some j → j < i := fun i j h => parent?_lt hd h
  refine ⟨hlt, ?_⟩
  have hperm : (listed d.symbols.length (parent? d d.symbols) (d.symbols.length + 1) none).Perm
      (List.range d.symbols.length) := by
    refine (List.perm_ext_iff_of_nodup (nodup_listed htop) List.nodup_range).2 fun i => ?_
    rw [mem_listed_top hbound, List.mem_range]
    exact ⟨And.left, fun hi => ⟨hi, Lineage.exists_of_lt hlt i⟩⟩
  rw [hentries, ← filterMap_range_eq_mapIdx]
  exact hperm.filterMap _

/-- A table with a function that has a parameter and a local. -/
def memberFile : File := (parse "local M = {}\nfunction M.run(n)\n  local t = n\nend\n").file

theorem outline_of_member :
    let d := Document.ofFile .workspace ⟨"file:///a/m.lua"⟩ .complete memberFile
    HasDistinctChunks d ∧ (forestEntries (documentOutline d)).Perm (d.symbols.mapIdx (entryOf d.symbols)) := by
  intro d
  have hd : HasDistinctChunks (Document.ofFile .workspace ⟨"file:///a/m.lua"⟩ .complete memberFile) := by
    decide +kernel
  exact ⟨hd, ((outline_of_distinct_chunks .workspace ⟨"file:///a/m.lua"⟩ .complete memberFile).2 hd).2⟩

/-- Two functions inside two others of the same names, all on one line. -/
def nestedFile : File :=
  (parse "local function a() local function b() local function a() local function b() end end end end").file

/-- The functions inside are lost: the outer `b` is taken to lie in the inner `a`, which lies in it. -/
theorem nested_functions_lost :
    let d := Document.ofFile .workspace ⟨"file:///a/m.lua"⟩ .complete nestedFile
    d.symbols.map (·.searchName) = ["a", "b", "a", "b"] ∧ (forestEntries (documentOutline d)).map (·.name) = ["a"] := by
  decide +kernel

end LuaAtlas.Query
