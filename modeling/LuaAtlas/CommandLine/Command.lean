/-
The commands of the program and their options.
-/
import LuaAtlas.CommandLine.Option
import LuaAtlas.Search
import LuaAtlas.Text.CharSet
import LuaAtlas.Text.Digit
import LuaAtlas.Text.Position

namespace LuaAtlas.CommandLine

open LuaAtlas.Text

/-- What is asked of a workspace. -/
inductive Query
  /-- The numbers of the scan: the main ones, or all of them, which may also be saved to a file. -/
  | index (stats? : Option (Option String))
  | search (file name : String) (mode : SearchMode) (scope : SearchScope)
  | symbols (query : String) (mode : SearchMode)
  | definition (file : String) (position : Position)
  | references (file : String) (position : Position)
  | complete (file input : String) (line? : Option Nat)
  | resolve (file path : String)
  | outline (file : String)
deriving Repr

/-- A command. -/
structure Command where
  workspace : String
  config? : Option String
  query : Query
deriving Repr

/-- What the arguments ask for. -/
inductive Request
  | version
  | help
  | run (c : Command)
deriving Repr

/-! ## Values -/

/-- The number of a line or column, which takes 32 bits. -/
def lineNumber? (s : String) : Option Nat :=
  let (isNegative, digits) := match s.toList with
    | '-' :: cs => (true, cs)
    | '+' :: cs => (false, cs)
    | cs => (false, cs)
  let n := digits.foldl (fun n c => 10 * n + CharSet.hexDigit c) 0
  if digits.isEmpty || !digits.all isAsciiDigit || (isNegative && n ≠ 0) || 0x100000000 ≤ n then none else some n

/-- An option whose value is a path, which is never empty. -/
def pathOption (name : String) : OptionSpec := { name, accepts := (!·.isEmpty) }

/-- An option whose value is a number. -/
def numberOption (name : String) : OptionSpec := { name, accepts := (lineNumber? · |>.isSome) }

/-- The option for a search mode. -/
def modeOption : OptionSpec := { name := "mode", accepts := (SearchMode.ofName? · |>.isSome) }

/-- The option for a search scope. -/
def scopeOption : OptionSpec := { name := "scope", accepts := (SearchScope.ofName? · |>.isSome) }

/-! ## Options -/

/-- The options that every command has. -/
def commonOptions : List OptionSpec := [
  { pathOption "workspace" with letter? := some 'w' },
  pathOption "config",
  { name := "verbose", letter? := some 'v', takes := .nothing },
  pathOption "log-file"]

/-- The options for a place in a file. -/
def cursorOptions : List OptionSpec := [pathOption "file", numberOption "line", numberOption "column"]

/-- The options of each command beside the common ones. -/
def ownOptions? : String → Option (List OptionSpec)
  | "index" => some [{ pathOption "stats" with takes := .attached }]
  | "search" => some [pathOption "file", { name := "name" }, modeOption, scopeOption]
  | "symbols" => some [{ name := "query" }, modeOption]
  | "definition" => some cursorOptions
  | "references" => some cursorOptions
  | "complete" => some [pathOption "file", { name := "input", takes := .anyValue }, numberOption "line"]
  | "resolve" => some [pathOption "file", { name := "path" }]
  | "outline" => some [pathOption "file"]
  | _ => none

/-! ## Commands -/

/-- The value of a given option. -/
def value? (gs : List Given) (name : String) : Option String := (gs.find? (·.name = name)).bind (·.value?)

/-- The value of an option that must be given. -/
def needed (gs : List Given) (name : String) : Except ArgumentError String :=
  match value? gs name with
  | some v => .ok v
  | none => .error (.missingOption name)

/-- The number of an option that must be given. -/
def neededNumber (gs : List Given) (name : String) : Except ArgumentError Nat := do
  match lineNumber? (← needed gs name) with
  | some n => .ok n
  | none => .error (.invalidValue name)

/-- The place that the cursor options stand for. -/
def cursor (gs : List Given) : Except ArgumentError (String × Position) := do
  let file ← needed gs "file"
  let line ← neededNumber gs "line"
  return (file, ⟨line, ← neededNumber gs "column"⟩)

/-- The search mode of the options. -/
def modeOf (gs : List Given) (fallback : SearchMode) : SearchMode :=
  ((value? gs "mode").bind SearchMode.ofName?).getD fallback

/-- The search scope of the options. -/
def scopeOf (gs : List Given) : SearchScope := ((value? gs "scope").bind SearchScope.ofName?).getD .all

/-- The query of a command with the given options. -/
def queryOf (command : String) (gs : List Given) : Except ArgumentError Query := do
  match command with
  | "index" => return .index ((gs.find? (·.name = "stats")).map (·.value?))
  | "search" => return .search (← needed gs "file") (← needed gs "name") (modeOf gs .prefixMatch) (scopeOf gs)
  | "symbols" => return .symbols (← needed gs "query") (modeOf gs .fuzzyMatching)
  | "definition" =>
    let (file, p) ← cursor gs
    return .definition file p
  | "references" =>
    let (file, p) ← cursor gs
    return .references file p
  | "complete" =>
    return .complete (← needed gs "file") (← needed gs "input") ((value? gs "line").bind lineNumber?)
  | "resolve" => return .resolve (← needed gs "file") (← needed gs "path")
  | "outline" => return .outline (← needed gs "file")
  | _ => throw (.unknownCommand command)

/-- What a command with its arguments asks for. -/
def requestOf (command : String) (args : List String) : Except ArgumentError Request := do
  match ownOptions? command with
  | none => throw (.unknownCommand command)
  | some own =>
    match ← understand (commonOptions ++ own) args with
    | none => return .help
    | some gs =>
      return .run ⟨(value? gs "workspace").getD ".", value? gs "config", ← queryOf command gs⟩

/-- What `help` asks for: the name of a command may follow. -/
def helpRequest : List String → Except ArgumentError Request
  | [] => .ok .help
  | [command] =>
    if (ownOptions? command).isSome || command = "help" then .ok .help else .error (.unknownCommand command)
  | _ :: word :: _ => .error (.unknownCommand word)

/-- What the arguments of the program ask for. -/
def Request.ofArguments : List String → Except ArgumentError Request
  | [] => .error .noCommand
  | arg :: args =>
    if arg = "help" then helpRequest args
    else if arg = "--version" then .ok .version
    else if arg = "--help" then .ok .help
    else match arg.toList with
      | '-' :: c :: _ =>
        if c = 'V' then .ok .version
        else if c = 'h' then .ok .help
        else .error (.unknownOption arg)
      | _ => requestOf arg args

end LuaAtlas.CommandLine
