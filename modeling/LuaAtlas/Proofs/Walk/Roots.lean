/-
Names and the variables that they start from. A name is flattened to a text when a chain is read and taken apart again
when it is asked whether the variable in front is a local. Both agree: the first part of the text is the variable of the
chain, and it stays that variable in all the names that a table gives to its fields and to the fields of tables in it,
whatever characters the keys have.
-/
import LuaAtlas.Proofs.Walk.Locality
import LuaAtlas.Proofs.Walk.Views

namespace LuaAtlas

open LuaAtlas.Syntax LuaAtlas.Walk

/-! ## Fields of fields -/

/-- The value of a table entry. -/
def Syntax.TableEntry.value : TableEntry → Expr
  | .named _ value | .indexed _ value | .positional value => value

/-- Where the key of a table entry is written, or the entry itself if it has none. -/
def Syntax.TableEntry.keyRange : TableEntry → Range
  | .named key _ => key.range
  | .indexed key _ => key.range
  | .positional value => value.range

namespace Walk

/-- What the value of a named entry is bound to in a table that is bound to `b`. -/
def fieldBinding (b : Binding) (name : String) (entry : TableEntry) : Binding :=
  ⟨name, b.isLocal, entry.keyRange.start.line⟩

/-- A value bound to `b` gives the name to a field: it is a table, in parentheses or not, and the name is that of an
entry, or of a field of the table that an entry holds. -/
inductive NamesField : Binding → Expr → String → Prop
  | entry {b : Binding} {entries : List TableEntry} {range : Range} {entry : TableEntry} {name : String} :
      entry ∈ entries → entryName? (some b) entry = some name → NamesField b (.table entries range) name
  | nested {b : Binding} {entries : List TableEntry} {range : Range} {entry : TableEntry} {name field : String} :
      entry ∈ entries → entryName? (some b) entry = some name →
      NamesField (fieldBinding b name entry) entry.value field → NamesField b (.table entries range) field
  | paren {b : Binding} {inner : Expr} {range : Range} {name : String} :
      NamesField b inner name → NamesField b (.paren inner range) name

theorem entryName?_eq_append {b : Binding} {entry : TableEntry} {name : String}
    (h : entryName? (some b) entry = some name) : ∃ rest, name = b.name ++ rest ∧ Name.Continues rest := by
  cases entry with
  | named key value =>
    cases h
    exact ⟨"." ++ key.name, by simp [Name.field, String.append_assoc], Name.continues_dot _⟩
  | indexed key value =>
    obtain ⟨suffix, hsuffix, rfl⟩ := Option.map_eq_some_iff.1 h
    exact ⟨suffix, rfl, Expr.continues_keySuffix? hsuffix⟩
  | positional value => cases h

/-- The name of a field goes on from the name that the value is bound to. -/
theorem NamesField.eq_append {b : Binding} {v : Expr} {name : String} (h : NamesField b v name) :
    ∃ rest, name = b.name ++ rest ∧ Name.Continues rest := by
  induction h with
  | entry _ hname => exact entryName?_eq_append hname
  | nested _ hname _ ih =>
    obtain ⟨rest, rfl, hrest⟩ := entryName?_eq_append hname
    obtain ⟨more, rfl, hmore⟩ := ih
    exact ⟨rest ++ more, String.append_assoc, hrest.append hmore⟩
  | paren _ ih => exact ih

/-! ## The walk declares the fields -/

/-- Events of a named entry: it is declared, and its value is met under its name. -/
theorem entryEvents_eq {c : Context} {b : Binding} {entry : TableEntry} {name : String}
    (h : entryName? (some b) entry = some name) : entryEvents c (some b) entry =
      siteOf (entryDeclaration c b name entry.keyRange entry.value) ::
        .declared (entryDeclaration c b name entry.keyRange entry.value) ::
        valueEvents c (fieldBinding b name entry) entry.value := by
  cases entry with
  | named key value =>
    unfold entryEvents
    rw [h]
    rfl
  | indexed key value =>
    unfold entryEvents
    rw [h]
    rfl
  | positional value => cases h

theorem entryEvents_subset {c : Context} {base? : Option Binding} {entry : TableEntry} : ∀ {entries : List TableEntry},
    entry ∈ entries → entryEvents c base? entry ⊆ entriesEvents c base? entries
  | e :: es, h => by
    rw [entriesEvents]
    rcases List.mem_cons.1 h with rfl | h
    · exact List.subset_append_left _ _
    · exact List.subset_append_of_subset_right _ (entryEvents_subset h)

/-- A named field is declared, and it is as local as what the value is bound to. -/
theorem NamesField.declared {b : Binding} {v : Expr} {name : String} (h : NamesField b v name) (c : Context) :
    ∃ d, .declared d ∈ valueEvents c b v ∧ d.name = name ∧ d.isLocal = b.isLocal := by
  induction h with
  | @entry b entries range entry name hentry hname =>
    rw [valueEvents]
    refine ⟨entryDeclaration c b name entry.keyRange entry.value, entryEvents_subset hentry ?_, ?_, ?_⟩
    · rw [entryEvents_eq hname]
      exact List.mem_cons_of_mem _ (List.mem_cons_self ..)
    · exact congrArg Spelling.name (Declaration.withValue_spelling ..)
    · exact (entryDeclaration_keeps c b name entry.keyRange entry.value).2
  | nested hentry hname _ ih =>
    obtain ⟨d, hd, hspec⟩ := ih
    rw [valueEvents]
    refine ⟨d, entryEvents_subset hentry ?_, hspec⟩
    rw [entryEvents_eq hname]
    exact List.mem_cons_of_mem _ (List.mem_cons_of_mem _ hd)
  | paren _ ih =>
    rw [valueEvents]
    exact ih

/-! ## Roots -/

/-- The first part of a chain's name is the variable that the chain starts from, and the first part of all the names
that a table bound to this name gives to fields. So to ask a walk whether a name is local is to ask for this variable,
and the fields are declared as local as the name that they start from. -/
theorem root_is_variable {e : Expr} {name : String} (hplain : ∀ x ∈ exprIdents e, Name.IsPlain x.name)
    (hname : e.dottedName? = some name) :
    ∃ x, e.root? = some x ∧ Name.root name = x.name ∧ (∀ c : Context, c.isLocal name = c.locals.contains x.name) ∧
      ∀ (b : Binding) (v : Expr) (field : String), b.name = name → NamesField b v field →
        Name.root field = x.name ∧ ∀ c : Context, c.isLocal field = c.locals.contains x.name ∧
          ∃ d, .declared d ∈ valueEvents c b v ∧ d.name = field ∧ d.isLocal = b.isLocal := by
  obtain ⟨x, rest, hx, rfl, hrest⟩ := Expr.dottedName?_eq_append hname
  have hfirst : Name.IsPlain x.name := hplain x (mem_exprIdents_of_root? hx)
  have hroot : Name.root (x.name ++ rest) = x.name := Name.root_append hfirst hrest
  have hlocal : ∀ {n : String}, Name.root n = x.name → ∀ c : Context, c.isLocal n = c.locals.contains x.name := by
    intro n hn c
    rw [Context.isLocal, hn]
  refine ⟨x, hx, hroot, hlocal hroot, fun b v field hb hfield => ?_⟩
  obtain ⟨more, rfl, hmore⟩ := hfield.eq_append
  have hfieldRoot : Name.root (b.name ++ more) = x.name := by
    rw [hb, String.append_assoc]
    exact Name.root_append hfirst (hrest.append hmore)
  exact ⟨hfieldRoot, fun c => ⟨hlocal hfieldRoot c, hfield.declared c⟩⟩

/-- The chain `(a["x.[y"]:m)[3]`. -/
def keyedChain : Expr :=
  let method := .member (.index (.ident ⟨"a", .origin⟩) (.string "x.[y" .origin) .origin) .colon ⟨"m", .origin⟩ .origin
  .index (.paren method .origin) (.number "3" .origin) .origin

/-- The table `{ ["k:["] = ({ z = nil }) }`. -/
def keyedTable : Expr :=
  .table [.indexed (.string "k:[" .origin)
    (.paren (.table [.named ⟨"z", .origin⟩ (.literal .origin)] .origin) .origin)] .origin

/-- Keys with dots, brackets and colons in them do not hide the variable, not even from a field of a field. -/
theorem variable_of_keyed_chain : (∀ x ∈ exprIdents keyedChain, Name.IsPlain x.name) ∧
    keyedChain.dottedName? = some "a.x.[y.m[3]" ∧ ∃ x, keyedChain.root? = some x ∧
      Name.root "a.x.[y.m[3].k:[.z" = x.name ∧ x.name = "a" := by
  have hplain : ∀ x ∈ exprIdents keyedChain, Name.IsPlain x.name := by
    have hidents : exprIdents keyedChain = [⟨"a", .origin⟩, ⟨"m", .origin⟩] := rfl
    simp [hidents, Name.IsPlain, Name.endsRoot]
  have hname : keyedChain.dottedName? = some "a.x.[y.m[3]" := by decide
  obtain ⟨x, hx, -, -, hfields⟩ := root_is_variable hplain hname
  have hinner : NamesField ⟨"a.x.[y.m[3].k:[", false, 0⟩
      (.paren (.table [.named ⟨"z", .origin⟩ (.literal .origin)] .origin) .origin) "a.x.[y.m[3].k:[.z" :=
    .paren (.entry (List.mem_singleton_self _) (by decide))
  have hnested : NamesField ⟨"a.x.[y.m[3]", false, 0⟩ keyedTable "a.x.[y.m[3].k:[.z" :=
    .nested (List.mem_singleton_self _) (by decide) hinner
  refine ⟨hplain, hname, x, hx, (hfields _ _ _ rfl hnested).1, ?_⟩
  cases hx
  rfl

end Walk

end LuaAtlas
