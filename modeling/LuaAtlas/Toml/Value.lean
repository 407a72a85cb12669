/-
The values of a TOML document, and how its lines add to a table. What may still be added to a table
depends on how it came to be: a table in braces is closed, one opened by a header cannot be opened or
extended by dotted keys again, and one that dotted keys made takes only more dotted keys.
-/

namespace LuaAtlas.Toml

/-- How a table came to be. -/
inductive Origin
  /-- Written in braces. -/
  | inline
  /-- On the way to the table of a header. -/
  | implied
  /-- On the way to the value of a dotted key. -/
  | dotted
  /-- By its own header. -/
  | headed
deriving DecidableEq, Repr, Inhabited

/-- A value. The digits of fractions and of dates do not matter here, only what they are. -/
inductive Value
  | text (s : String)
  | integer (n : Int)
  | fraction
  | bool (b : Bool)
  | moment
  | array (items : List Value)
  | table (origin : Origin) (entries : List (String × Value))
  /-- The tables of headers in double brackets; the last one is open. -/
  | tables (elements : List (List (String × Value)))
deriving Repr, Inhabited

/-- Keys with their values, in the order of the document. -/
abbrev Entries := List (String × Value)

namespace Entries

/-- The value of a key. -/
def find? (es : Entries) (key : String) : Option Value := (List.find? (·.1 = key) es).map (·.2)

/-- Gives a key a value, in the place of its old one if it had one. -/
def set (es : Entries) (key : String) (v : Value) : Entries :=
  if es.any (·.1 = key) then es.map fun e => if e.1 = key then (key, v) else e else es ++ [(key, v)]

end Entries

/-! ## Entering tables -/

/-- Changes the table that a key stands for. A key without a value gets a table of the given origin,
and `mayEnter` says which tables can be changed. Of the tables of double brackets the last one is
meant. -/
def enter (fresh : Origin) (mayEnter : Origin → Bool) (key : String)
    (change : Origin → Entries → Option Entries) (es : Entries) : Option Entries :=
  match es.find? key with
  | none => (change fresh []).map fun inner => es.set key (.table fresh inner)
  | some (.table origin inner) =>
    if mayEnter origin then (change origin inner).map fun inner => es.set key (.table origin inner) else none
  | some (.tables elements) =>
    match elements.getLast? with
    | some inner => (change .headed inner).map fun inner => es.set key (.tables (elements.dropLast ++ [inner]))
    | none => none
  | some _ => none

/-- Changes the table that a header's keys lead to. -/
def changeAt (change : Entries → Option Entries) : List String → Entries → Option Entries
  | [], es => change es
  | key :: keys, es => enter .implied (· ≠ .inline) key (fun _ inner => changeAt change keys inner) es

/-! ## Lines -/

/-- Adds the value of a dotted key to a table of the given origin; every part of the key is new or was
made by dotted keys, but those on the way may also be implied by a header. -/
def put (v : Value) : Origin → List String → Entries → Option Entries
  | _, [], _ => none
  | origin, [key], es => if origin = .dotted && (es.find? key).isNone then some (es.set key v) else none
  | _, key :: keys, es =>
    enter .dotted (fun o => o = .implied || o = .dotted) key (fun origin inner => put v origin keys inner) es

/-- Adds the line `keys = v` to a table. -/
def addValue (keys : List String) (v : Value) (es : Entries) : Option Entries := put v .dotted keys es

/-- Opens the table of a header: a new one, or one that was only implied so far. -/
def openTable (key : String) (es : Entries) : Option Entries :=
  match es.find? key with
  | none => some (es.set key (.table .headed []))
  | some (.table .implied inner) => some (es.set key (.table .headed inner))
  | some _ => none

/-- Opens one more table of a header in double brackets. -/
def openElement (key : String) (es : Entries) : Option Entries :=
  match es.find? key with
  | none => some (es.set key (.tables [[]]))
  | some (.tables elements) => some (es.set key (.tables (elements ++ [[]])))
  | some _ => none

/-- A line of a document that says something. -/
inductive Line
  | entry (keys : List String) (v : Value)
  | header (path : List String) (key : String)
  | elementHeader (path : List String) (key : String)
deriving Repr, Inhabited

/-- The table of the lines that follow the header of `current`. -/
def tableOf : List String → Entries → List Line → Option Entries
  | _, es, [] => some es
  | current, es, .entry keys v :: lines => do
    tableOf current (← changeAt (addValue keys v) current es) lines
  | _, es, .header path key :: lines => do
    tableOf (path ++ [key]) (← changeAt (openTable key) path es) lines
  | _, es, .elementHeader path key :: lines => do
    tableOf (path ++ [key]) (← changeAt (openElement key) path es) lines

/-- The table in braces with the given entries. -/
def inlineTable (pairs : List (List String × Value)) : Option Value :=
  (pairs.foldlM (fun es (keys, v) => addValue keys v es) []).map (.table .inline)

end LuaAtlas.Toml
