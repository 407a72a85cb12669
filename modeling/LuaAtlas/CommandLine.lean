/-
The program as a function: the arguments and the disk give what is printed, the exit code, and the file
that is to be saved. Every command scans its workspace first.
-/
import LuaAtlas.CommandLine.Command
import LuaAtlas.Config.File
import LuaAtlas.Report

namespace LuaAtlas.CommandLine

open LuaAtlas.Query LuaAtlas.Scan LuaAtlas.Text

/-- Why a command fails. -/
inductive Failure
  | workspaceNotFound (path : String)
  | configuration
  /-- The program has ended at the text of a file. -/
  | aborted
  | fileNotFound (path : String)
  /-- Comments are completed by their line. -/
  | lineNeeded
deriving DecidableEq, Repr

/-- The wording of a failure. -/
def Failure.message : Failure → String
  | .workspaceNotFound path => "Workspace not found: " ++ path
  | .configuration => "Failed to load configuration"
  | .aborted => "A string was cut inside a character"
  | .fileNotFound path => "File not found: " ++ path
  | .lineNeeded => "Comment completion needs --line"

/-- A workspace that has been scanned. -/
structure Workspace where
  root : OsText
  outcome : Scan.Outcome

/-- Scans the workspace of a command with its settings. -/
def Workspace.load (disk : Disk) (c : Command) : Except Failure Workspace :=
  match disk.lookup c.workspace with
  | .error _ => .error (.workspaceNotFound c.workspace)
  | .ok (root, _) =>
    match Config.load disk c.config? with
    | .error _ => .error .configuration
    | .ok config =>
      match scan? disk (.empty config) (Location.path root) with
      | some outcome => .ok ⟨Location.path root, outcome⟩
      | none => .error .aborted

/-- The URI of a file given by its path, which may be relative to the workspace. -/
def Workspace.uri (w : Workspace) (disk : Disk) (file : String) : Except Failure Uri :=
  let path := Location.join w.root file
  match disk.lookup path with
  | .error _ => .error (.fileNotFound path.shown)
  | .ok (l, _) => .ok (.ofPath (Location.path l))

/-- A text without the blanks around it. -/
def trimmed (s : String) : String :=
  String.ofList ((s.toList.dropWhile isBlank).reverse.dropWhile isBlank).reverse

/-- An answer, and the file that it is to be saved to. -/
structure Answer where
  json : Json
  saveTo? : Option String := none

/-- The answer to a query. -/
def answer (disk : Disk) (w : Workspace) (q : Query) : Except Failure Answer := do
  let x := w.outcome.index
  match q with
  | .index none => return { json := Report.summary w.outcome.statistics }
  | .index (some file?) => return { json := Report.statistics w.outcome.statistics, saveTo? := file? }
  | .search file name mode scope =>
    return { json := .list Report.symbol (x.searchDocument (← w.uri disk file) name mode scope) }
  | .symbols query mode => return { json := .list Report.symbol (x.searchWorkspace query mode) }
  | .definition file p => return { json := .option Report.target (definition? x (← w.uri disk file) p) }
  | .references file p => return { json := .list Report.spot (references x (← w.uri disk file) p) }
  | .complete file input line? =>
    let uri ← w.uri disk file
    if trimmed input = "---" then
      match line? with
      | some line => return { json := .list Report.item (completeComment x uri line) }
      | none => throw .lineNeeded
    else return { json := .list Report.item (complete x uri input) }
  | .resolve file path =>
    return { json := .list Report.symbol (Inference.resolve x .definition path (← w.uri disk file)) }
  | .outline file => return { json := .array (Report.outlineNodes (outline x (← w.uri disk file))) }

/-- What running the program gives. -/
inductive Response
  | printed (text : String)
  /-- An answer as text, and the file that it is to be saved to. -/
  | answered (text : String) (saveTo? : Option String)
  | failed (e : Failure)
  | misused (e : ArgumentError)
deriving DecidableEq, Repr

/-- The exit code: that of the signal if the program has ended by itself. -/
def Response.exitCode : Response → Nat
  | .printed _ | .answered _ _ => 0
  | .failed .aborted => 134
  | .failed _ => 1
  | .misused _ => 2

/-- How the program is called. -/
def usage : String :=
  "Usage: luascope <index|search|symbols|definition|references|complete|resolve|outline> [OPTIONS]"

/-- Runs the program. -/
def respond (disk : Disk) (args : List String) : Response :=
  match Request.ofArguments args with
  | .error e => .misused e
  | .ok .version => .printed ("luascope " ++ Report.version)
  | .ok .help => .printed usage
  | .ok (.run c) =>
    match Workspace.load disk c >>= fun w => answer disk w c.query with
    | .error e => .failed e
    | .ok a => .answered a.json.pretty a.saveTo?

end LuaAtlas.CommandLine
