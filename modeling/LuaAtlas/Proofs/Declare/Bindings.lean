/-
Where bindings land. What a value tells about the name that it is bound to is kept as a line and a name, and is written
into the first symbol of this name on this line. So the symbol of a local takes what its value tells as long as no
symbol of its name stands before it on the line; of the modules and calls that are bound to the name there the last
counts, of the assigned names the first. Any other symbol of the name on the line takes nothing.
-/
import LuaAtlas.Proofs.Declare.Precedence
import LuaAtlas.Proofs.Walk.Values
import Mathlib

namespace LuaAtlas

open LuaAtlas.Syntax LuaAtlas.Walk LuaAtlas.Declare

namespace Declare

section

variable (line : Nat) (name : String)

/-- What an event tells of a call whose result is bound to `name` on `line`: what `ask` makes of the callee and of the
module that the call requires. -/
def boundResult? (ask : String → Option String → Option String) : Event → Option String
  | .called l n f module? => if l = line ∧ n = name then ask f module? else none
  | _ => none

/-- Asks for the required module. -/
def askModule (_ : String) (module? : Option String) : Option String := module?

/-- Asks for the callee of a call that requires no module. -/
def askCallee (f : String) (module? : Option String) : Option String := if module?.isSome then none else some f

/-- The other name that an event assigns to `name` on `line`. -/
def boundSource? : Event → Option String
  | .equated l n s => if l = line ∧ n = name ∧ s ≠ name then some s else none
  | _ => none

/-- The symbol `y` takes what the value `v` tells when it is bound to `name` on `line`, where all there is to tell are
the events `es`. A tag in `over?` hides the assigned name. -/
structure TakesFrom (es : List Event) (over? : Option Tag) (v : Expr) (y : Symbol) : Prop where
  module : ∀ m, v.inner.requiredModule? = some m → ∃ front back,
    es = front ++ .called line name "require" (some m) :: back ∧
      y.requiredModule? = ((back.filterMap (boundResult? line name askModule)).getLast?).or (some m)
  callee : ∀ f, v.inner.calledName? = some f → ∃ front back, es = front ++ .called line name f none :: back ∧
    y.callReturnOf? = ((back.filterMap (boundResult? line name askCallee)).getLast?).or (some f)
  source : ∀ s, v.dottedName? = some s → s ≠ name → ∃ front back, es = front ++ .equated line name s :: back ∧
    y.tag? = over?.or ((((front.filterMap (boundSource? line name)).head?).or (some s)).map (⟨.equal, ·⟩))

end

/-- The tag of the `k`-th of the symbols that hides an assigned name. -/
def overriding? (es : List Event) (as : List Annotation) (ss : List Symbol) (k : Nat) : Option Tag :=
  ((as.filterMap (annotatedType? ss k)).getLast?.map (⟨.userTag, ·⟩)).or
    ((es.filterMap (metatableOf? ss k)).getLast?.map (⟨.metaTable, ·⟩))

/-- The `k`-th of the symbols, `y`, is that of the local `x`, which is given the value `v`. -/
structure IsLocalOf (es : List Event) (as : List Annotation) (ss : List Symbol) (x : Ident) (v : Expr) (k : Nat)
    (y : Symbol) : Prop where
  found : ss[k]? = some y
  name : y.searchName = Name.normalize x.name
  range : y.range = x.range
  isLocal : y.isLocal = true
  first : IsFirst (isAt x.range.start.line x.name) ss k →
    TakesFrom x.range.start.line x.name es (overriding? es as ss k) v y
  behind : ¬ IsFirst (isAt x.range.start.line y.searchName) ss k →
    y.requiredModule? = none ∧ y.callReturnOf? = none ∧ ∀ t, y.tag? = some t → t.reason ≠ .equal

/-! ## Where records land -/

section

variable {ss ts : List Symbol} {k line : Nat} {name : String}

theorem Alike.isFirst_isAt_iff (h : Alike ss ts) :
    IsFirst (isAt line name) ss k ↔ IsFirst (isAt line name) ts k := h.isFirst_iff fun _ => rfl

theorem isAt_iff {s : Symbol} : isAt line name s = true ↔ s.startLine = line ∧ s.searchName = name := by
  simp [isAt]

/-- A symbol that is the first of its name on its line is the first of no other name and on no other line. -/
theorem isFirst_isAt_unique (h : IsFirst (isAt line name) ss k) {l : Nat} {n : String} :
    IsFirst (isAt l n) ss k ↔ l = line ∧ n = name := by
  constructor
  · intro h'
    obtain ⟨s, hs, hat⟩ := h.exists_getElem?
    obtain ⟨s', hs', hat'⟩ := h'.exists_getElem?
    obtain rfl : s = s' := Option.some.inj (hs.symm.trans hs')
    rw [isAt_iff] at hat hat'
    exact ⟨hat'.1.symm.trans hat.1, hat'.2.symm.trans hat.2⟩
  · rintro ⟨rfl, rfl⟩
    exact h

/-- A symbol that is not the first of its name on its line is not found by any record. -/
theorem not_isFirst_isAt {y : Symbol} (hy : ss[k]? = some y) (h : ¬ IsFirst (isAt y.startLine y.searchName) ss k)
    (l : Nat) (n : String) : ¬ IsFirst (isAt l n) ss k := by
  intro hfirst
  obtain ⟨s, hs, hat⟩ := hfirst.exists_getElem?
  obtain rfl : y = s := Option.some.inj (hy.symm.trans hs)
  obtain ⟨rfl, rfl⟩ := isAt_iff.1 hat
  exact h hfirst

theorem assignedName?_of_isFirst (h : IsFirst (isAt line name) ss k) :
    assignedName? ss k = boundSource? line name := by
  funext e
  cases e with
  | equated l n s =>
    simp only [assignedName?, boundSource?, isFirst_isAt_unique h]
    by_cases hat : l = line ∧ n = name
    · obtain ⟨rfl, rfl⟩ := hat
      simp
    · simp [hat]
      tauto
  | _ => rfl

/-! ## Modules and callees -/

/-- Calls write into `read` what is asked of them. -/
structure Reads (read : Symbol → Option String) (ask : String → Option String → Option String) : Prop where
  module : ∀ s f m, read { s with requiredModule? := some m } = (ask f (some m)).or (read s)
  callee : ∀ s f, read { s with callReturnOf? := some f } = (ask f none).or (read s)
  tag : ∀ s tag?, read { s with tag? := tag? } = read s

theorem reads_requiredModule? : Reads (·.requiredModule?) askModule := ⟨fun _ _ _ => rfl, fun _ _ => rfl, fun _ _ => rfl⟩

theorem reads_callReturnOf? : Reads (·.callReturnOf?) askCallee := ⟨fun _ _ _ => rfl, fun _ _ => rfl, fun _ _ => rfl⟩

variable {read : Symbol → Option String} {ask : String → Option String → Option String}

theorem bind_applyCall (hread : Reads read ask) (h : IsFirst (isAt line name) ss k) (e : Event) :
    (applyCall ss e)[k]?.bind read = (boundResult? line name ask e).or (ss[k]?.bind read) := by
  cases e with
  | called l n f module? =>
    obtain ⟨s, hs, -⟩ := h.exists_getElem?
    unfold applyCall boundResult?
    rw [getElem?_changeFirst]
    simp only [isFirst_isAt_unique h]
    split
    · cases module? with
      | some m => simp [hs, hread.module s f m]
      | none => simp [hs, hread.callee s f]
    · rfl
  | _ => rfl

theorem isFirst_isAt_applyCall (ss : List Symbol) (e : Event) (h : IsFirst (isAt line name) ss k) :
    IsFirst (isAt line name) (applyCall ss e) k := (Alike.isFirst_isAt_iff (applyCall_plain ss e)).2 h

/-- Of all calls whose result is bound to the name on the line, the last one counts. -/
theorem bind_foldl_applyCall (hread : Reads read ask) (h : IsFirst (isAt line name) ss k) (es : List Event) :
    (es.foldl applyCall ss)[k]?.bind read =
      ((es.filterMap (boundResult? line name ask)).getLast?).or (ss[k]?.bind read) :=
  foldl_last (fun us => IsFirst (isAt line name) us k) (fun us => us[k]?.bind read) (boundResult? line name ask)
    isFirst_isAt_applyCall (fun _ e hus => bind_applyCall hread hus e) es ss h

/-- Where no record lands, calls write nothing. -/
theorem getElem?_foldl_applyCall : ∀ (es : List Event) {ss : List Symbol},
    (∀ l n, ¬ IsFirst (isAt l n) ss k) → (es.foldl applyCall ss)[k]? = ss[k]?
  | [], _, _ => rfl
  | e :: es, ss, h => by
    have hstep : (applyCall ss e)[k]? = ss[k]? := by
      cases e with
      | called l n f required? =>
        unfold applyCall
        rw [getElem?_changeFirst, if_neg (h l n)]
      | _ => rfl
    rw [List.foldl_cons, getElem?_foldl_applyCall es, hstep]
    intro l n hfirst
    apply h l n
    exact (Alike.isFirst_isAt_iff (applyCall_plain ss e)).1 hfirst

end

theorem bind_eq_of_map_eq {α β : Type} {g : α → Option β} {as bs : List α} (h : as.map g = bs.map g) (k : Nat) :
    as[k]?.bind g = bs[k]?.bind g := by
  have hk := congrArg (·[k]?) h
  simp only [List.getElem?_map] at hk
  cases ha : as[k]? <;> cases hb : bs[k]? <;> simp_all

/-- Calls change no tag. -/
theorem tagAt_foldl_applyCall (es : List Event) (ss : List Symbol) (k : Nat) :
    tagAt k (es.foldl applyCall ss) = tagAt k ss := by
  refine bind_eq_of_map_eq (map_foldl (fun us e => ?_) es ss) k
  cases e with
  | called l n f required? =>
    refine map_changeFirst (fun s => ?_) us
    cases required? <;> rfl
  | _ => rfl

/-! ## What the symbol of a declaration takes -/

section

variable (shelf : Shelf) (uri : Uri) (es : List Event) (as : List Annotation) {k : Nat} {d : Declaration}

theorem alike_symbols : Alike (symbols shelf uri es as) ((effective [] es).map (symbolOf shelf uri)) := by
  unfold Alike
  rw [symbols_plain, List.map_map]
  rfl

/-- Writing calls does not change which symbols are meant. -/
theorem alike_tagged :
    Alike (symbols shelf uri es as) (tagged es as ((effective [] es).map (symbolOf shelf uri))) :=
  map_foldl applyCall_plain es _

variable (hd : (effective [] es)[k]? = some d)

include hd

theorem exists_symbol_at :
    ∃ y, (symbols shelf uri es as)[k]? = some y ∧ y.plain = (symbolOf shelf uri d).plain := by
  have hplain := congrArg (·[k]?) (symbols_plain shelf uri es as)
  simp only [List.getElem?_map, hd, Option.map_some] at hplain
  exact Option.map_eq_some_iff.1 hplain

/-- Before any call is written into the symbols, no symbol holds the result of one. -/
theorem bind_tagged_of_fresh {read : Symbol → Option String} {ask : String → Option String → Option String}
    (hread : Reads read ask) (hfresh : read (symbolOf shelf uri d) = none) :
    (tagged es as ((effective [] es).map (symbolOf shelf uri)))[k]?.bind read = none := by
  rw [bind_eq_of_map_eq (map_tagged hread.tag es as _) k, List.getElem?_map, hd]
  exact hfresh

variable {shelf uri es as} {y : Symbol} (hy : (symbols shelf uri es as)[k]? = some y)

include hy

/-- The first symbol of a name on a line holds what the last call there tells. -/
theorem read_of_first {read : Symbol → Option String} {ask : String → Option String → Option String}
    (hread : Reads read ask) (hfresh : read (symbolOf shelf uri d) = none) {line : Nat} {name : String}
    (hfirst : IsFirst (isAt line name) (symbols shelf uri es as) k) :
    read y = (es.filterMap (boundResult? line name ask)).getLast? := by
  have hlaw := bind_foldl_applyCall hread ((alike_tagged shelf uri es as).isFirst_isAt_iff.1 hfirst) es
  rw [bind_tagged_of_fresh shelf uri es as hd hread hfresh, Option.or_none] at hlaw
  rw [← hlaw]
  show _ = (symbols shelf uri es as)[k]?.bind _
  rw [hy, Option.bind_some]

/-- The tag of a symbol that is declared without one. -/
theorem tag?_of_untagged (htag : d.tag? = none) : y.tag? = (overriding? es as (symbols shelf uri es as) k).or
    ((es.filterMap (assignedName? (symbols shelf uri es as) k)).head?.map (⟨.equal, ·⟩)) := by
  have halike := alike_symbols shelf uri es as
  have hinitial : tagAt k ((effective [] es).map (symbolOf shelf uri)) = none := by
    unfold tagAt
    rw [List.getElem?_map, hd]
    exact htag
  have hy' : y.tag? = tagAt k (symbols shelf uri es as) := by
    unfold tagAt
    rw [hy, Option.bind_some]
  have hequal : ∀ t, tagAt k ((effective [] es).map (symbolOf shelf uri)) = some t → t.reason = .equal := by
    rw [hinitial]
    exact nofun
  rw [hy', show tagAt k (symbols shelf uri es as) = _ from tagAt_foldl_applyCall es _ k, tagAt_tagged hequal, hinitial,
    Option.none_or, overriding?, halike.annotatedType?, halike.metatableOf?, halike.assignedName?]

omit hd hy in
theorem reason_of_overriding {ss : List Symbol} {t : Tag} (ht : overriding? es as ss k = some t) :
    t.reason ≠ .equal := by
  unfold overriding? at ht
  rcases Option.or_eq_some_iff.1 ht with ht | ⟨-, ht⟩
  · obtain ⟨typeName, -, rfl⟩ := Option.map_eq_some_iff.1 ht
    simp
  · obtain ⟨metatable, -, rfl⟩ := Option.map_eq_some_iff.1 ht
    simp

/-- A symbol behind another one of its name on its line takes nothing. -/
theorem nothing_behind_first (htag : d.tag? = none)
    (hbehind : ¬ IsFirst (isAt y.startLine y.searchName) (symbols shelf uri es as) k) :
    y.requiredModule? = none ∧ y.callReturnOf? = none ∧ ∀ t, y.tag? = some t → t.reason ≠ .equal := by
  have hnot := not_isFirst_isAt hy hbehind
  have hsame : some y = (tagged es as ((effective [] es).map (symbolOf shelf uri)))[k]? := by
    rw [← hy]
    apply getElem?_foldl_applyCall es
    intro l n hfirst
    apply hnot l n
    exact (alike_tagged shelf uri es as).isFirst_isAt_iff.2 hfirst
  have hmodule := bind_tagged_of_fresh shelf uri es as hd reads_requiredModule? rfl
  have hcallee := bind_tagged_of_fresh shelf uri es as hd reads_callReturnOf? rfl
  rw [← hsame] at hmodule hcallee
  refine ⟨hmodule, hcallee, fun t ht => ?_⟩
  have hassigned : es.filterMap (assignedName? (symbols shelf uri es as) k) = [] := by
    apply List.filterMap_eq_nil_iff.2
    intro e _
    cases e with
    | equated l n s => simp [assignedName?, hnot l n]
    | _ => rfl
  rw [tag?_of_untagged hd hy htag, hassigned, List.head?_nil, Option.map_none, Option.or_none] at ht
  exact reason_of_overriding ht

end

section

variable {α β : Type} {f : α → Option β} {a : α} {b : β}

theorem getLast?_filterMap_split (h : f a = some b) (front back : List α) :
    ((front ++ a :: back).filterMap f).getLast? = ((back.filterMap f).getLast?).or (some b) := by
  rw [List.filterMap_append, List.filterMap_cons_some h, List.getLast?_append, List.getLast?_cons, Option.or_some]
  rfl

theorem head?_filterMap_split (h : f a = some b) (front back : List α) :
    ((front ++ a :: back).filterMap f).head? = ((front.filterMap f).head?).or (some b) := by
  rw [List.filterMap_append, List.filterMap_cons_some h, List.head?_append, List.head?_cons]

end

end Declare

namespace Document

variable (shelf : Shelf) (uri : Uri) (state : DocumentState)

/-- Each local of a file that is given a value has a symbol, at the place where it is written. This symbol takes what
its value tells if no symbol of the name stands before it on its line, and takes nothing otherwise. -/
theorem local_takes_from_value {file : File} {names : List Ident} {values : List Expr} {range : Range}
    (hs : .localVars names values range ∈ file.statements) {i : Nat} {x : Ident} {v : Expr} (hx : names[i]? = some x)
    (hv : values[i]? = some v) :
    ∃ k y, IsLocalOf (events uri file) (annotations file.comments) (ofFile shelf uri state file).symbols x v k y := by
  obtain ⟨c, before, after, hes⟩ := stmt_met uri hs
  have hd : (effective [] (events uri file))[(effective [] before).length + i]? =
      some (localDeclaration c x (some v)) := by
    rw [hes, getElem?_effective_localVars c before after names values range hx, hv]
  have htag := tag?_localDeclaration c x (some v)
  have hdeclares := declares_localDeclaration c x (some v)
  have hmet : ∀ {e}, e ∈ valueEvents c ⟨x.name, true, x.range.start.line⟩ v →
      ∃ front back, events uri file = front ++ e :: back := by
    intro e he
    apply List.append_of_mem
    rw [hes]
    exact List.mem_append_left _ (List.mem_append_right _ (valueEvents_subset_localVars c range hx hv he))
  have hsymbols : (ofFile shelf uri state file).symbols =
      Declare.symbols shelf uri (events uri file) (annotations file.comments) := rfl
  obtain ⟨y, hy, hplain⟩ := exists_symbol_at shelf uri (events uri file) (annotations file.comments) hd
  have hrange : y.range = x.range := (congrArg Symbol.range hplain).trans hdeclares.range
  have hline : y.startLine = x.range.start.line := congrArg (·.start.line) hrange
  rw [hsymbols]
  refine ⟨_, y, hy, ?_, hrange, ?_,
    fun hfirst => ⟨fun m hm => ?_, fun f hf => ?_, fun s hs hother => ?_⟩, fun hbehind => ?_⟩
  · exact (congrArg Symbol.searchName hplain).trans (congrArg Name.normalize hdeclares.called)
  · exact (congrArg Symbol.isLocal hplain).trans hdeclares.isLocal
  · obtain ⟨front, back, hsplit⟩ := hmet (called_of_requiredModule? hm)
    refine ⟨front, back, hsplit, ?_⟩
    rw [read_of_first hd hy reads_requiredModule? rfl hfirst, hsplit]
    exact getLast?_filterMap_split (by simp [boundResult?, askModule]) front back
  · obtain ⟨front, back, hsplit⟩ := hmet (called_of_calledName? hf)
    refine ⟨front, back, hsplit, ?_⟩
    rw [read_of_first hd hy reads_callReturnOf? rfl hfirst, hsplit]
    exact getLast?_filterMap_split (by simp [boundResult?, askCallee]) front back
  · obtain ⟨front, back, hsplit⟩ := hmet (equated_of_dottedName? hs)
    have hsource : boundSource? x.range.start.line x.name (.equated x.range.start.line x.name s) = some s := by
      simp [boundSource?, hother]
    refine ⟨front, back, hsplit, ?_⟩
    rw [tag?_of_untagged hd hy htag, assignedName?_of_isFirst hfirst, ← head?_filterMap_split hsource front back,
      ← hsplit]
  · rw [← hline] at hbehind
    exact nothing_behind_first hd hy htag hbehind

/-- The name `x` at a column of the first line. -/
def xAt (column : Nat) : Ident := ⟨"x", ⟨⟨0, column⟩, ⟨0, column + 1⟩⟩⟩

/-- A call `require("m")` at a column of the first line, where the name of the module is one letter. -/
def requireAt (column : Nat) (m : String) : Expr :=
  .call (.ident ⟨"require", ⟨⟨0, column⟩, ⟨0, column + 7⟩⟩⟩) [.string m ⟨⟨0, column + 8⟩, ⟨0, column + 11⟩⟩]
    ⟨⟨0, column⟩, ⟨0, column + 12⟩⟩

/-- The file `local x = require("a")`. -/
def requiringFile : File where
  body := .mk [.localVars [xAt 6] [requireAt 10 "a"] ⟨⟨0, 0⟩, ⟨0, 22⟩⟩] ⟨⟨0, 0⟩, ⟨1, 0⟩⟩
  comments := []
  range := ⟨⟨0, 0⟩, ⟨1, 0⟩⟩

/-- The only local of a file takes the module that it is given. -/
theorem only_local_takes_module :
    .localVars [xAt 6] [requireAt 10 "a"] ⟨⟨0, 0⟩, ⟨0, 22⟩⟩ ∈ requiringFile.statements ∧
      [xAt 6][0]? = some (xAt 6) ∧ [requireAt 10 "a"][0]? = some (requireAt 10 "a") ∧
      ∃ y ∈ (ofFile .workspace ⟨"file:///m.lua"⟩ .complete requiringFile).symbols,
        y.range = (xAt 6).range ∧ y.requiredModule? = some "a" := by
  have hs : .localVars [xAt 6] [requireAt 10 "a"] ⟨⟨0, 0⟩, ⟨0, 22⟩⟩ ∈ requiringFile.statements :=
    List.mem_of_getElem? (i := 0) rfl
  refine ⟨hs, rfl, rfl, ?_⟩
  obtain ⟨k, y, hy⟩ := local_takes_from_value .workspace ⟨"file:///m.lua"⟩ .complete hs (i := 0) rfl rfl
  have hsymbols : (ofFile .workspace ⟨"file:///m.lua"⟩ .complete requiringFile).symbols.map (isAt 0 "x") = [true] := by
    decide +kernel
  have hevents : (events ⟨"file:///m.lua"⟩ requiringFile).filterMap (boundResult? 0 "x" askModule) = ["a"] := by
    decide +kernel
  -- the file is not to be walked again
  generalize (ofFile .workspace ⟨"file:///m.lua"⟩ .complete requiringFile).symbols = ss at hy hsymbols ⊢
  generalize events ⟨"file:///m.lua"⟩ requiringFile = es at hy hevents
  obtain ⟨s, rfl, hat⟩ := List.map_eq_singleton_iff.1 hsymbols
  obtain ⟨hk, rfl⟩ := List.getElem?_eq_some_iff.1 hy.found
  obtain rfl : k = 0 := by simpa using hk
  have hfirst : IsFirst (isAt 0 "x") [s] 0 := ⟨hat, List.forall_mem_nil _⟩
  obtain ⟨front, back, rfl, hmodule⟩ := (hy.first hfirst).module "a" rfl
  have hcalled : boundResult? 0 "x" askModule (.called (xAt 6).range.start.line (xAt 6).name "require" (some "a")) =
      some "a" := rfl
  -- the call is the only event that binds a module, so no later one does
  rw [List.filterMap_append, List.filterMap_cons_some hcalled, List.append_eq_singleton_iff] at hevents
  have hback : back.filterMap (boundResult? 0 "x" askModule) = [] := by
    obtain ⟨-, hback⟩ | ⟨-, hback⟩ := hevents
    · exact (List.cons.inj hback).2
    · cases hback
  exact ⟨s, List.mem_singleton_self s, hy.range, hmodule.trans (by simp only [xAt, hback]; rfl)⟩

/-- Two locals of one name on one line: the first takes the module that is bound to the second, and the second takes
none. -/
theorem second_local_loses_module :
    let o := parse "local x = require(\"a\") local x = require(\"b\")\n"
    o.isDegraded = false ∧
      o.file.declared.map (fun n => (n.name, n.range.start, n.value?.bind Expr.requiredModule?)) =
        [("x", ⟨0, 6⟩, some "a"), ("x", ⟨0, 29⟩, some "b")] ∧
      (build .workspace ⟨"file:///m.lua"⟩ o).symbols.map (fun y => (y.searchName, y.range.start, y.requiredModule?)) =
        [("x", ⟨0, 6⟩, some "b"), ("x", ⟨0, 29⟩, none)] := by
  decide +kernel

end Document

end LuaAtlas
