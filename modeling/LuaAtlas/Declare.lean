/-
From the events of a walk to symbols. Declarations become symbols in order. Then what was learnt
about their values is written into them: assigned names first, metatables over those, annotations
over both, and last of all whose result a symbol holds.
-/
import LuaAtlas.Annotation
import LuaAtlas.Walk

namespace LuaAtlas.Declare

open LuaAtlas.Walk

/-! ## Symbols -/

/-- The symbol of a declaration in the document `uri`. -/
def symbolOf (shelf : Shelf) (uri : Uri) (d : Declaration) : Symbol where
  displayName := d.displayName
  searchName := Name.normalize d.name
  memberName := Name.lastPart (Name.normalize d.name)
  kind := d.kind
  shelf := shelf
  uri := uri
  range := d.range
  isLocal := d.isLocal
  containerName := (d.stack.getLast?.map (·.name)).getD ""
  containers := d.stack
  params := d.params
  tag? := d.tag?
  requiredModule? := none
  callReturnOf? := none
  ownedChunk? := d.ownedChunk?

/-- The declarations that count, where `known` are the search names declared before. -/
def effective (known : List String) : List Event → List Declaration
  | [] => []
  | .declared d :: es =>
    if d.onlyNew && known.contains d.name then effective known es
    else d :: effective (Name.normalize d.name :: known) es
  | _ :: es => effective known es

/-! ## Tags -/

/-- Changes the first element that satisfies `p`. -/
def changeFirst (p : α → Bool) (f : α → α) : List α → List α
  | [] => []
  | a :: as => if p a then f a :: as else a :: changeFirst p f as

/-- Changes the last element that satisfies `p`. -/
def changeLast (p : α → Bool) (f : α → α) (as : List α) : List α :=
  (changeFirst p f as.reverse).reverse

/-- Whether a symbol is declared under `name` on `line`. -/
def isAt (line : Nat) (name : String) (s : Symbol) : Bool := s.startLine = line && s.searchName = name

/-- Links a symbol without a tag to the name it was assigned, unless that is its own. -/
def linkEqual (source : String) (s : Symbol) : Symbol :=
  if s.tag? = none && s.searchName ≠ source then { s with tag? := some ⟨.equal, source⟩ } else s

/-- Links a symbol to its metatable, unless an annotation says otherwise. -/
def linkMetatable (metatable : String) (s : Symbol) : Symbol :=
  if s.tag?.any (·.reason = .userTag) then s else { s with tag? := some ⟨.metaTable, metatable⟩ }

/-- Writes the assigned names into the symbols. -/
def applyEqual (ss : List Symbol) : Event → List Symbol
  | .equated line name source => changeFirst (isAt line name) (linkEqual source) ss
  | _ => ss

/-- Writes the metatables into the symbols: the last declaration at or above the call is meant, or
else the first of that name. -/
def applyMetatable (ss : List Symbol) : Event → List Symbol
  | .metatable line object metatable =>
    let above (s : Symbol) : Bool := s.searchName = object && s.startLine ≤ line
    if ss.any above then changeLast above (linkMetatable metatable) ss
    else changeFirst (·.searchName = object) (linkMetatable metatable) ss
  | _ => ss

/-- Writes an annotation into the first symbol that starts on the line below it. -/
def applyAnnotation (ss : List Symbol) (a : Annotation) : List Symbol :=
  changeFirst (·.startLine = a.line + 1) (fun s => { s with tag? := some ⟨.userTag, a.typeName⟩ }) ss

/-- Writes into the symbols which call's result they hold. -/
def applyCall (ss : List Symbol) : Event → List Symbol
  | .called line name callee required? =>
    changeFirst (isAt line name)
      (fun s => match required? with
        | some m => { s with requiredModule? := some m }
        | none => { s with callReturnOf? := some callee }) ss
  | _ => ss

/-- Writes assigned names, metatables and annotations into the symbols, in this order. -/
def tagged (es : List Event) (as : List Annotation) (ss : List Symbol) : List Symbol :=
  let ss := es.foldl applyEqual ss
  let ss := es.foldl applyMetatable ss
  as.foldl applyAnnotation ss

/-- The symbols that a file with the given events and annotations declares. -/
def symbols (shelf : Shelf) (uri : Uri) (es : List Event) (as : List Annotation) : List Symbol :=
  es.foldl applyCall (tagged es as ((effective [] es).map (symbolOf shelf uri)))

/-! ## Chunks and required modules -/

/-- The chunks in the order in which they open. -/
def chunks (es : List Event) : List Chunk :=
  es.filterMap fun
    | .opened c => some c
    | _ => none

/-- The `require` calls in the order in which they are met. -/
def requires (es : List Event) : List Edge :=
  es.filterMap fun
    | .required e _ => some e
    | _ => none

end LuaAtlas.Declare
