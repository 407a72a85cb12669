/-
Scanning a workspace: every file is read and built into the index, and the outcome of each is counted.
All modules are registered before the first file is built, so that `require` finds each file of the
scan whatever the order. A text on which the program ends leaves no outcome.
-/
import LuaAtlas.Index
import LuaAtlas.Scan.Files

namespace LuaAtlas.Scan

/-- What became of a file, by its path as it is shown. -/
inductive FileResult
  | success (path : String) (symbols requires : Nat) (isDegraded : Bool)
  /-- Passed over on purpose. -/
  | skipped (path : String) (cause : ReadFailure) (size? : Option Nat)
  | failed (path : String) (cause : ReadFailure)
deriving DecidableEq, Repr

namespace FileResult

/-- The path of the file. -/
def path : FileResult → String
  | .success path _ _ _ => path
  | .skipped path _ _ => path
  | .failed path _ => path

/-- The URI of the file. -/
def uri (r : FileResult) : Uri := ⟨Uri.scheme ++ r.path⟩

/-- Whether the file is in the index. -/
def isSuccess : FileResult → Bool
  | .success .. => true
  | _ => false

/-- Whether the file was passed over. -/
def isSkipped : FileResult → Bool
  | .skipped .. => true
  | _ => false

/-- Whether the file could not be read. -/
def isFailed : FileResult → Bool
  | .failed .. => true
  | _ => false

/-- Whether the file is in the index and has syntax errors. -/
def isDegraded : FileResult → Bool
  | .success _ _ _ degraded => degraded
  | _ => false

/-- The number of symbols of a file in the index. -/
def symbols : FileResult → Nat
  | .success _ n _ _ => n
  | _ => 0

/-- The number of `require` calls of a file in the index. -/
def requires : FileResult → Nat
  | .success _ _ n _ => n
  | _ => 0

end FileResult

/-! ## Statistics -/

/-- The numbers of documents and symbols of a part of the index. -/
structure Counts where
  documents : Nat := 0
  symbols : Nat := 0
deriving DecidableEq, Repr, Inhabited

/-- The numbers of a library. -/
def Counts.ofLibrary (l : Library) : Counts := ⟨l.size, l.symbolCount⟩

/-- The numbers of a scan. -/
structure Statistics where
  /-- The path that was scanned. -/
  root : String
  processed : Nat := 0
  skipped : Nat := 0
  failed : Nat := 0
  degraded : Nat := 0
  requireEdges : Nat := 0
  workspace : Counts := {}
  stdlib : Counts := {}
  user : Counts := {}
deriving DecidableEq, Repr, Inhabited

namespace Statistics

/-- The numbers of a part of the index. -/
def counts (s : Statistics) : Shelf → Counts
  | .workspace => s.workspace
  | .stdlib => s.stdlib
  | .user => s.user

/-- Counts one more file. -/
def record (s : Statistics) : FileResult → Statistics
  | .success _ _ requires isDegraded =>
    { s with
      processed := s.processed + 1
      requireEdges := s.requireEdges + requires
      degraded := if isDegraded then s.degraded + 1 else s.degraded }
  | .skipped .. => { s with skipped := s.skipped + 1 }
  | .failed .. => { s with failed := s.failed + 1 }

/-- Takes the numbers of an index. -/
def count (s : Statistics) (x : Index) : Statistics :=
  { s with workspace := .ofLibrary x.workspace, stdlib := .ofLibrary x.stdlib, user := .ofLibrary x.user }

/-- The number of files. -/
def total (s : Statistics) : Nat := s.processed + s.skipped + s.failed

/-- The part of the files that are in the index; zero if there are no files. -/
def successRate (s : Statistics) : Rat := s.processed / s.total

end Statistics

/-! ## Scanning -/

/-- Reads a file and builds its document. -/
def indexFile (disk : Disk) (shelf : Shelf) (x : Index) (path : OsText) : Index × FileResult :=
  match disk.readSource path x.config.maxFileSize with
  | .error cause =>
    (x, if cause.isSkip then .skipped path.shown cause (disk.size? path) else .failed path.shown cause)
  | .ok text =>
    let uri := Uri.ofPath path
    let (y, _) := x.buildText disk shelf uri text
    match (y.library shelf).find? uri with
    | some d => (y, .success path.shown d.symbols.length d.requires.length (d.state = .degraded))
    | none => (y, .success path.shown 0 0 false)

/-- The texts that are parsed for a file. -/
def parsedFor (disk : Disk) (shelf : Shelf) (x : Index) (path : OsText) : List String :=
  match disk.readSource path x.config.maxFileSize with
  | .error _ => []
  | .ok text => x.parsedTexts disk shelf (.ofPath path) text

/-- Reads files one after the other, unless the program ends at the text of one. -/
def indexEach? (disk : Disk) (shelf : Shelf) : Index → List OsText → Option (Index × List FileResult)
  | x, [] => some (x, [])
  | x, path :: paths =>
    if (parsedFor disk shelf x path).any Syntax.isFatal then none
    else do
      let (y, result) := indexFile disk shelf x path
      let (z, results) ← indexEach? disk shelf y paths
      return (z, result :: results)

/-- Lets `require` find the files at the given paths. -/
def registerAll (x : Index) (paths : List OsText) : Index :=
  paths.foldl (fun x path => x.register (.ofPath path)) x

/-- Puts the files at the given paths into a part of the index. -/
def indexFiles? (disk : Disk) (shelf : Shelf) (x : Index) (paths : List OsText) :
    Option (Index × List FileResult) :=
  indexEach? disk shelf (if shelf = .workspace then registerAll x paths else x) paths

/-- The stubs of a directory; a directory that is not there has none. -/
def listStubs (disk : Disk) (config : Config) (directory? : Option OsText) : List OsText :=
  match directory? with
  | some directory => if disk.isDirectory directory then listFiles disk config directory else []
  | none => []

/-- The files that a scan of a path takes into a part of the index. -/
def filesFor (disk : Disk) (config : Config) (path : OsText) : Shelf → List OsText
  | .workspace => listFiles disk config path
  | .stdlib => listStubs disk config config.stdlibDir?
  | .user => listStubs disk config config.userDir?

/-- The outcome of a scan: the index, and what became of the files of each part of it. -/
structure Outcome where
  /-- The path that was scanned, as it is shown. -/
  root : String
  index : Index
  results : Shelf → List FileResult

namespace Outcome

/-- What became of all files. -/
def allResults (o : Outcome) : List FileResult := o.results .workspace ++ o.results .stdlib ++ o.results .user

/-- The statistics of a scan. -/
def statistics (o : Outcome) : Statistics :=
  (o.allResults.foldl Statistics.record { root := o.root }).count o.index

end Outcome

/-- Scans a path into the workspace, then the configured directories of stubs. There is no outcome if the
program ends at the text of a file. -/
def scan? (disk : Disk) (x : Index) (path : OsText) : Option Outcome := do
  let (y, workspace) ← indexFiles? disk .workspace x (filesFor disk x.config path .workspace)
  let (z, stdlib) ← indexFiles? disk .stdlib y (filesFor disk x.config path .stdlib)
  let (w, user) ← indexFiles? disk .user z (filesFor disk x.config path .user)
  return ⟨path.shown, w, fun | .workspace => workspace | .stdlib => stdlib | .user => user⟩

end LuaAtlas.Scan
