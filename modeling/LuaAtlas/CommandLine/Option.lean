/-
Options on a command line: long names behind two dashes, single letters behind one, and values either
attached with an equals sign or as the next argument.
-/
import LuaAtlas.Text.Segment

namespace LuaAtlas.CommandLine

open LuaAtlas.Text

/-- What follows the name of an option. -/
inductive Takes
  | nothing
  /-- A value, which opens with a dash only if it is attached. -/
  | value
  /-- A value that may open with a dash. -/
  | anyValue
  /-- A value, attached or none. -/
  | attached
deriving DecidableEq, Repr

/-- An option of a command. -/
structure OptionSpec where
  name : String
  letter? : Option Char := none
  takes : Takes := .value
  /-- Whether a value is acceptable. -/
  accepts : String → Bool := fun _ => true

/-- An option as it is given. -/
structure Given where
  name : String
  value? : Option String
deriving DecidableEq, Repr

/-- Why arguments cannot be understood. -/
inductive ArgumentError
  | noCommand
  | unknownCommand (word : String)
  | unknownOption (word : String)
  | unexpectedWord (word : String)
  | missingValue (option : String)
  | unneededValue (option : String)
  | invalidValue (option : String)
  | repeated (option : String)
  | missingOption (option : String)
deriving DecidableEq, Repr

/-- The wording of an error. -/
def ArgumentError.message : ArgumentError → String
  | .noCommand => "a command is needed"
  | .unknownCommand word => "unrecognized command '" ++ word ++ "'"
  | .unknownOption word => "unexpected argument '" ++ word ++ "'"
  | .unexpectedWord word => "unexpected argument '" ++ word ++ "'"
  | .missingValue option => "a value is needed for '--" ++ option ++ "'"
  | .unneededValue option => "no value is allowed for '--" ++ option ++ "'"
  | .invalidValue option => "invalid value for '--" ++ option ++ "'"
  | .repeated option => "the argument '--" ++ option ++ "' cannot be used multiple times"
  | .missingOption option => "the option '--" ++ option ++ "' is required"

/-- How the reading of arguments ends. -/
inductive Ending
  | complete
  /-- At a request for help. -/
  | help
  | fault (e : ArgumentError)
deriving DecidableEq, Repr

/-- Options up to the point where the reading ended. -/
structure Reading where
  given : List Given
  ending : Ending
deriving DecidableEq, Repr

namespace Reading

/-- Puts options in front. -/
def prepend (gs : List Given) (r : Reading) : Reading := { r with given := gs ++ r.given }

/-- A reading that ends at a fault. -/
def failed (e : ArgumentError) : Reading := ⟨[], .fault e⟩

end Reading

/-! ## Single arguments -/

/-- What an argument says by itself. -/
inductive Step
  /-- Some options, and how it goes on. -/
  | options (gs : List Given)
  /-- Some options, the last of which takes the next argument as its value. -/
  | wants (gs : List Given) (o : OptionSpec)
  | stop (gs : List Given) (e : Ending)

/-- Puts an option in front. -/
def Step.prepend (g : Given) : Step → Step
  | .options gs => .options (g :: gs)
  | .wants gs o => .wants (g :: gs) o
  | .stop gs e => .stop (g :: gs) e

/-- What a long name says, with the value that is attached to it. -/
def longStep (specs : List OptionSpec) (name : String) (value? : Option String) : Step :=
  match specs.find? (·.name = name) with
  | some o =>
    match o.takes, value? with
    | .nothing, some _ => .stop [] (.fault (.unneededValue name))
    | .nothing, none => .options [⟨name, none⟩]
    | .attached, _ => .options [⟨name, value?⟩]
    | _, some v => .options [⟨name, some v⟩]
    | _, none => .wants [] o
  | none =>
    if name = "help" then
      if value?.isSome then .stop [] (.fault (.unneededValue name)) else .stop [] .help
    else .stop [] (.fault (.unknownOption ("--" ++ name)))

/-- What letters behind one dash say: what follows the letter of an option with a value is its value. -/
def letterStep (specs : List OptionSpec) : List Char → Step
  | [] => .options []
  | c :: cs =>
    match specs.find? (·.letter? = some c) with
    | some o =>
      if o.takes = .nothing then (letterStep specs cs).prepend ⟨o.name, none⟩
      else match cs with
        | [] => .wants [] o
        | '=' :: v => .options [⟨o.name, some (String.ofList v)⟩]
        | v => .options [⟨o.name, some (String.ofList v)⟩]
    | none => if c = 'h' then .stop [] .help else .stop [] (.fault (.unknownOption ("-" ++ String.singleton c)))

/-- What an argument says. -/
def argumentStep (specs : List OptionSpec) (arg : String) : Step :=
  match arg.toList with
  | '-' :: '-' :: cs =>
    let name := String.ofList (cs.takeWhile (· ≠ '='))
    match cs.dropWhile (· ≠ '=') with
    | _ :: v => longStep specs name (some (String.ofList v))
    | [] => longStep specs name none
  | '-' :: c :: cs => letterStep specs (c :: cs)
  | _ => .stop [] (.fault (.unexpectedWord arg))

/-- Whether an argument can be the value of the option before it. -/
def isValueFor (o : OptionSpec) (arg : String) : Bool :=
  o.takes = .anyValue || !arg.startsWith "-" || arg = "-"

/-! ## All arguments -/

/-- Reads the arguments of a command. Two dashes alone end the options, and no other arguments may
follow. -/
def readOptions (specs : List OptionSpec) : List String → Reading
  | [] => ⟨[], .complete⟩
  | arg :: rest =>
    if arg = "--" then
      match rest with
      | [] => ⟨[], .complete⟩
      | word :: _ => .failed (.unexpectedWord word)
    else match argumentStep specs arg with
      | .options gs => (readOptions specs rest).prepend gs
      | .stop gs e => ⟨gs, e⟩
      | .wants gs o =>
        match rest with
        | v :: rest =>
          if isValueFor o v then (readOptions specs rest).prepend (gs ++ [⟨o.name, some v⟩])
          else ⟨gs, .fault (.missingValue o.name)⟩
        | [] => ⟨gs, .fault (.missingValue o.name)⟩

/-- The first fault of given options: a value that is not acceptable, or an option given twice. -/
def faultOf? (specs : List OptionSpec) : List Given → List Given → Option ArgumentError
  | _, [] => none
  | before, g :: gs =>
    if before.any (·.name = g.name) then some (.repeated g.name)
    else if g.value?.any fun v => specs.any fun o => o.name = g.name && !o.accepts v then
      some (.invalidValue g.name)
    else faultOf? specs (g :: before) gs

/-- The given options of a command, none if help is asked for. What is asked for counts only if all
before it is understood. -/
def understand (specs : List OptionSpec) (args : List String) : Except ArgumentError (Option (List Given)) :=
  let r := readOptions specs args
  match faultOf? specs [] r.given, r.ending with
  | some e, _ => .error e
  | none, .fault e => .error e
  | none, .help => .ok none
  | none, .complete => .ok (some r.given)

end LuaAtlas.CommandLine
