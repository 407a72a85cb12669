/-
Going to a definition, and finding where a definition is used. The name under the cursor is looked for
along the require tree, then through tags. A use of a local goes to the local it sees; any other use
never goes to a local of the same file that is spelled the same.
-/
import LuaAtlas.Inference
import LuaAtlas.Visibility

namespace LuaAtlas.Query

open LuaAtlas.Inference

/-- Where a definition is. -/
inductive Target
  | symbol (s : Symbol)
  | module (uri : Uri)
deriving DecidableEq, Repr

/-- A name as it is used. -/
structure Use where
  uri : Uri
  name : String
  isLocal : Bool
  stack : List ChunkRef
  line : Nat

/-- Whether a symbol is a local of the document `uri`. -/
def isLocalOf (uri : Uri) (s : Symbol) : Bool := s.isLocal && s.uri = uri

/-- Whether a use may go to a symbol when no local is picked for it. -/
def Use.reaches (u : Use) (s : Symbol) : Bool :=
  !isLocalOf u.uri s ||
    ((u.isLocal || s.searchName ≠ u.name) && s.isVisibleFrom u.stack u.line)

/-- The definition that a use goes to, of those found. -/
def Use.pick? (u : Use) (found : List Symbol) : Option Symbol :=
  let seen? := if u.isLocal then pickLocal? (found.filter (isLocalOf u.uri)) u.stack u.line else none
  let reachable := found.filter u.reaches
  seen?.or ((reachable.find? (!·.isLocal)).or reachable.head?)

/-- What is found for the name of a use. -/
def Use.found (x : Index) (u : Use) : List Symbol :=
  let found := x.searchDefinition u.uri u.name .exactlyEqual (if u.isLocal then .all else .globals)
  if found.isEmpty && Name.isDotted u.name then resolve x .definition u.name u.uri else found

/-- The definition of what the cursor is on. -/
def definition? (x : Index) (uri : Uri) (p : Position) : Option Target := do
  let d ← x.document? uri
  match ← d.hitAt? p with
  | .required module _ => (x.resolve? module).map .module
  | .name name range isLocal stack =>
    let u : Use := ⟨uri, name, isLocal, stack, range.start.line⟩
    (u.pick? (u.found x)).map .symbol

/-- A stretch of a document. -/
structure Spot where
  uri : Uri
  range : Range
deriving DecidableEq, Repr

/-- Everywhere that the name of a symbol is written in the document that declares it. -/
def referencesOf (x : Index) (s : Symbol) : List Spot :=
  match x.document? s.uri with
  | some d => (d.occurrences s.searchName).map (⟨d.uri, ·⟩)
  | none => []

/-- Everywhere that the definition of what the cursor is on is used. -/
def references (x : Index) (uri : Uri) (p : Position) : List Spot :=
  match definition? x uri p with
  | some (.symbol s) => referencesOf x s
  | _ => []

end LuaAtlas.Query
