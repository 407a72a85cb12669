/-
The index of a workspace: its documents, the stubs for completion, and the modules that `require`
can find. Building a document replaces it as a whole, loads the files it requires that are not known
yet, and keeps the reverse edges in step.
-/
import LuaAtlas.Config
import LuaAtlas.Disk
import LuaAtlas.Index.Library
import LuaAtlas.Text.Quoted

namespace LuaAtlas

open LuaAtlas.Syntax

/-- An index. -/
structure Index where
  config : Config
  workspace : Library
  stdlib : Library
  user : Library
  /-- The URI that each module name stands for, in the order of registration. -/
  modules : List (String × Uri)

/-- Why a document cannot be built. -/
inductive BuildError
  | notAFileUri (uri : Uri)
  | unreadable (path : String) (cause : ReadFailure)
deriving DecidableEq, Repr

/-- The wording of an error. -/
def BuildError.message : BuildError → String
  | .notAFileUri uri => "Not a file URI: " ++ uri.text
  | .unreadable path cause => "Failed to read " ++ Text.quotedText path ++ ": " ++ cause.message

namespace Index

/-- The index without documents. -/
def empty (config : Config) : Index := ⟨config, .empty, .empty, .empty, []⟩

/-- Forgets all documents and modules. -/
def reset (x : Index) : Index := empty x.config

/-! ## Modules and documents -/

/-- Lets `require` find a URI by its module name; the first URI of a name keeps it. -/
def register (x : Index) (uri : Uri) : Index :=
  if x.modules.any (·.1 = uri.moduleName) then x
  else { x with modules := x.modules ++ [(uri.moduleName, uri)] }

/-- The URI that a `require` argument stands for. -/
def resolve? (x : Index) (required : String) : Option Uri :=
  (x.modules.find? (·.1 = moduleKey required)).map (·.2)

/-- The documents of a part of the index. -/
def library (x : Index) : Shelf → Library
  | .workspace => x.workspace
  | .stdlib => x.stdlib
  | .user => x.user

/-- Exchanges the documents of a part of the index. -/
def withLibrary (x : Index) (l : Library) : Shelf → Index
  | .workspace => { x with workspace := l }
  | .stdlib => { x with stdlib := l }
  | .user => { x with user := l }

/-- The document of a URI in the workspace. -/
def document? (x : Index) (uri : Uri) : Option Document := x.workspace.find? uri

/-- Changes the workspace document of a URI. -/
def changeDocument (x : Index) (uri : Uri) (f : Document → Document) : Index :=
  { x with workspace := x.workspace.change uri f }

/-- The URIs that a document requires, in the order of its calls. -/
def targets (x : Index) (d : Document) : List Uri :=
  d.requires.filterMap fun e => x.resolve? e.targetModule

/-! ## Building -/

/-- Replaces the document of `uri` by that of a source text. A text with syntax errors does not
replace a complete document. Documents that are required no more lose their reverse edge. -/
def rebuild (x : Index) (shelf : Shelf) (uri : Uri) (text : String) : Index × DocumentState :=
  let outcome := parse text
  let previous? := (x.library shelf).find? uri
  if outcome.isDegraded && previous?.any (·.state = .complete) then (x, .complete)
  else
    let fresh := Document.build shelf uri outcome
    let d := { fresh with referencedBy := (previous?.map (·.referencedBy)).getD [] }
    let y := x.withLibrary ((x.library shelf).insert d) shelf
    let before := (previous?.map x.targets).getD []
    let stale := before.filter fun t => !(x.targets d).contains t
    let z := if shelf = .workspace then
        stale.foldl (fun z t => z.changeDocument t (·.dropReference uri)) y
      else y
    (z, d.state)

/-- Loads a required document from disk, if it can be read. -/
def load? (x : Index) (disk : Disk) (uri : Uri) : Option Index := do
  let path ← uri.path?
  let text ← (disk.readSource path x.config.maxFileSize).toOption
  return (x.rebuild .workspace uri text).1

/-- Makes sure that a required document exists, and notes that `uri` requires it. The second part
tells whether it was loaded. -/
def linkTarget (disk : Disk) (uri : Uri) (x : Index) (target : Uri) : Index × List Uri :=
  let (y, loaded) :=
    if x.workspace.contains target then (x, [])
    else match x.load? disk target with
      | some y => (y, [target])
      | none => ({ x with workspace := x.workspace.insert (.placeholder target) }, [])
  (y.changeDocument target (·.addReference uri), loaded)

/-- Links all that the document of `uri` requires, and gives the documents that were loaded. -/
def linkRequires (disk : Disk) (x : Index) (uri : Uri) : Index × List Uri :=
  match x.document? uri with
  | none => (x, [])
  | some d =>
    (x.targets d).foldl
      (fun (y, loaded) t =>
        let (z, more) := linkTarget disk uri y t
        (z, loaded ++ more))
      (x, [])

/-- Links the documents of `pending`, the last first, and those loaded on the way. The first argument
bounds the number of documents to link. -/
def linkPending (disk : Disk) : Nat → List Uri → Index → Index
  | 0, _, x => x
  | n + 1, pending, x =>
    match pending.getLast? with
    | none => x
    | some uri =>
      let (y, loaded) := linkRequires disk x uri
      linkPending disk n (pending.dropLast ++ loaded) y

/-- The documents that `linkPending` loads. -/
def loadedPending (disk : Disk) : Nat → List Uri → Index → List Uri
  | 0, _, _ => []
  | n + 1, pending, x =>
    match pending.getLast? with
    | none => []
    | some uri =>
      let (y, loaded) := linkRequires disk x uri
      loaded ++ loadedPending disk n (pending.dropLast ++ loaded) y

/-- Links what the document of `uri` requires, directly or not. Only registered modules are ever
loaded, each at most once, which bounds the work. -/
def link (disk : Disk) (x : Index) (uri : Uri) : Index :=
  linkPending disk (x.modules.length + 1) [uri] x

/-- The text to build a document from: the given one, or that of its file. -/
def sourceText (x : Index) (disk : Disk) (uri : Uri) : Option String → Except BuildError String
  | some text => .ok text
  | none =>
    match uri.path? with
    | none => .error (.notAFileUri uri)
    | some path =>
      match disk.readSource path x.config.maxFileSize with
      | .ok text => .ok text
      | .error cause => .error (.unreadable path cause)

/-- Builds or rebuilds a document from a text. In the workspace its module can be required from then on,
and what it requires itself is loaded. -/
def buildText (x : Index) (disk : Disk) (shelf : Shelf) (uri : Uri) (text : String) : Index × DocumentState :=
  if shelf = .workspace then
    let (y, state) := (x.register uri).rebuild shelf uri text
    (link disk y uri, state)
  else x.rebuild shelf uri text

/-- The text of the file of a URI, if it can be read. -/
def diskText? (x : Index) (disk : Disk) (uri : Uri) : Option String :=
  uri.path?.bind fun path => (disk.readSource path x.config.maxFileSize).toOption

/-- The texts that building a document parses: the given one and, in the workspace, those of the documents
that are loaded. -/
def parsedTexts (x : Index) (disk : Disk) (shelf : Shelf) (uri : Uri) (text : String) : List String :=
  if shelf = .workspace then
    let y := ((x.register uri).rebuild shelf uri text).1
    text :: (loadedPending disk (y.modules.length + 1) [uri] y).filterMap (x.diskText? disk)
  else [text]

/-- Builds or rebuilds a document from a text, or from its file if no text is given. The first part is the index
that is left, after an error too. -/
def build (x : Index) (disk : Disk) (shelf : Shelf) (uri : Uri) (text? : Option String) :
    Index × Except BuildError DocumentState :=
  match x.sourceText disk uri text? with
  | .ok text =>
    let (y, state) := x.buildText disk shelf uri text
    (y, .ok state)
  | .error err => (x, .error err)

/-! ## The require tree -/

/-- Visits a document, then those it requires, the last first, then those that require it, the last
first, each with what follows from it. At most `depth` documents are visited one below the other, and
none twice. The second part holds the URIs seen so far. -/
def walkFrom (x : Index) : Nat → Uri → List Uri → List Document × List Uri
  | 0, _, seen => ([], seen)
  | depth + 1, uri, seen =>
    if seen.contains uri then ([], seen)
    else
      match x.document? uri with
      | none => ([], uri :: seen)
      | some d =>
        ((x.targets d).reverse ++ d.referencedBy.reverse).foldl
          (fun (visits, seen) next =>
            let (more, seen) := walkFrom x depth next seen
            (visits ++ more, seen))
          ([d], uri :: seen)

/-- The documents around `uri` in the order in which they are searched, each with the scope that
counts: all of its own symbols, and of other documents the globals. -/
def walk (x : Index) (uri : Uri) : List (Document × SearchScope) :=
  match (x.walkFrom (x.config.maxRequireDepth + 1) uri []).1 with
  | [] => []
  | d :: ds => (d, .all) :: ds.map (·, .globals)

/-- Hands the documents of a walk to `f` as they are met, the first one with `scope`. What `f` does may end
the walk. -/
def visitFrom {m : Type → Type} [Monad m] (x : Index) (f : Document → SearchScope → m Unit) :
    Nat → SearchScope → Uri → StateT (List Uri) m Unit
  | 0, _, _ => pure ()
  | depth + 1, scope, uri => do
    if (← get).contains uri then return
    modify (uri :: ·)
    if let some d := x.document? uri then
      f d scope
      (x.targets d).reverse.forM (visitFrom x f depth .globals)
      d.referencedBy.reverse.forM (visitFrom x f depth .globals)

/-- Hands the documents around `uri` to `f`, in the order of `walk`, until `f` ends it. -/
def visit {m : Type → Type} [Monad m] (x : Index) (uri : Uri) (f : Document → SearchScope → m Unit) : m Unit :=
  (x.visitFrom f (x.config.maxRequireDepth + 1) .all uri).run' []

/-! ## Searching -/

/-- What a query finds in one document. -/
def searchDocument (x : Index) (uri : Uri) (query : String) (mode : SearchMode) (scope : SearchScope) :
    List Symbol :=
  ((x.document? uri).map (·.search query mode scope)).getD []

/-- What a query finds among the globals of the workspace. -/
def searchGlobals (x : Index) (query : String) (mode : SearchMode) : List Symbol :=
  x.workspace.search query mode .globals

/-- What a query finds in the stubs, locals included. -/
def searchStubs (x : Index) (query : String) (mode : SearchMode) : List Symbol :=
  x.stdlib.search query mode .all ++ x.user.search query mode .all

/-- What a query finds in the workspace, locals included. -/
def searchWorkspace (x : Index) (query : String) (mode : SearchMode) : List Symbol :=
  x.workspace.search query mode .all

/-- The first list that is not empty. -/
def firstFound : List (List α) → List α
  | [] => []
  | as :: rest => if as.isEmpty then firstFound rest else as

/-- Definition search: the first document around `uri` that answers, itself searched in the scope
`origin`; failing that the globals of the workspace. -/
def searchDefinition (x : Index) (uri : Uri) (query : String) (mode : SearchMode) (origin : SearchScope) :
    List Symbol :=
  let around := (x.walk uri).map fun (d, scope) =>
    d.search query mode (if d.uri = uri then origin else scope)
  firstFound (around ++ [x.searchGlobals query mode])

/-- Completion search: all that is found around `uri`; failing that the globals of the workspace, and
failing that the stubs. -/
def searchCompletion (x : Index) (uri : Uri) (query : String) (mode : SearchMode) : List Symbol :=
  let around := (x.walk uri).flatMap fun (d, scope) => d.search query mode scope
  firstFound [around, x.searchGlobals query mode, x.searchStubs query mode]

end Index

end LuaAtlas
