/-
Following tags. A path such as `a.b.c` that no symbol has may still be known: where a shorter path
names a symbol with a tag, the path goes on from what the tag points at. Of a symbol tagged with a
type the members of that type are meant, of one with a metatable those of the metatable's `__index`,
of a required module those of the variable it returns, and of a call's result those of the variable
that the function returns.

A document and a path are entered at most once in a query. A path can grow from step to step, so this
alone does not bound a query; following takes fuel, one unit for each step, and a query that runs out
of it has no answer at all, which is not the same as an empty one.
-/
import LuaAtlas.Index

namespace LuaAtlas.Inference

/-- What the answer is for. -/
inductive Purpose
  /-- Whole names, in the order of definition search. -/
  | definition
  /-- Beginnings of names, in the order of completion search. -/
  | completion
deriving DecidableEq, Repr, Inhabited

/-- How queries went. -/
structure Stats where
  queries : Nat := 0
  resolved : Nat := 0
  /-- How often a path was not entered again. -/
  cycleRefusals : Nat := 0
  /-- How often only the first of too many candidates was followed. -/
  fanoutTruncations : Nat := 0
deriving DecidableEq, Repr, Inhabited

/-- The part of the queries that had an answer; zero if there were none. -/
def Stats.rate (s : Stats) : Rat := s.resolved / s.queries

/-- A path in a document. -/
structure Place where
  uri : Uri
  path : String
deriving DecidableEq, Repr, Inhabited

/-- The places entered and the counters so far. -/
structure Trail where
  entered : List Place
  stats : Stats

/-- A step of following tags; none when the fuel is used up. -/
abbrev Follow (α : Type) := StateT Trail Option α

/-- The first answer that is not empty. -/
def firstAnswer (f : α → Follow (List Symbol)) : List α → Follow (List Symbol)
  | [] => return []
  | a :: as => do
    let found ← f a
    if found.isEmpty then firstAnswer f as else return found

/-- The ways to cut characters at a dot, the longest first part first. -/
def cutChars : List Char → List (List Char × List Char)
  | [] => []
  | c :: cs =>
    (cutChars cs).map (fun (first, rest) => (c :: first, rest)) ++ if c = '.' then [([], cs)] else []

/-- The ways to cut a path at a dot, the longest first part first. -/
def cuts (path : String) : List (String × String) :=
  (cutChars path.toList).map fun (first, rest) => (String.ofList first, String.ofList rest)

/-! ## Looking up -/

/-- The search beyond one document that suits the purpose. -/
def searchAround (x : Index) (purpose : Purpose) (uri : Uri) (name : String) (mode : SearchMode) :
    List Symbol :=
  match purpose with
  | .definition => x.searchDefinition uri name mode .all
  | .completion => x.searchCompletion uri name mode

/-- What a name means in a document: its own symbols first. -/
def lookup (x : Index) (purpose : Purpose) (uri : Uri) (name : String) (mode : SearchMode) : List Symbol :=
  Index.firstFound [x.searchDocument uri name mode .all, searchAround x purpose uri name mode]

/-- What a name means for the value of a symbol, which is never that symbol itself. -/
def lookupBeside (x : Index) (purpose : Purpose) (s : Symbol) (name : String) : List Symbol :=
  Index.firstFound [(x.searchDocument s.uri name .exactlyEqual .all).filter (· ≠ s),
    (searchAround x purpose s.uri name .exactlyEqual).filter (· ≠ s)]

/-- What a path means by itself, before any tag is followed. Completion offers the siblings of the last
part, not their members. -/
def direct (x : Index) (purpose : Purpose) (p : Place) : List Symbol :=
  match purpose with
  | .definition => lookup x purpose p.uri p.path .exactlyEqual
  | .completion => (lookup x purpose p.uri p.path .prefixMatch).filter fun s =>
      Name.dots s.searchName = Name.dots p.path

/-! ## Following -/

/-- The variable that the first of several functions returns. -/
def returned (functions : List Symbol) : List Place :=
  Option.toList do
    let f ← functions.head?
    return ⟨f.uri, ← f.returnName?⟩

/-- Where the tag of a symbol leads by itself, the most specific place first. -/
def pointed (x : Index) (purpose : Purpose) (s : Symbol) : List Place :=
  match s.tagReason? with
  | some .userTag | some .equal =>
    match s.tag? with
    | some tag =>
      match lookupBeside x purpose s tag.typeName with
      | [] => [⟨s.uri, tag.typeName⟩]
      | types => types.map fun t => ⟨t.uri, t.searchName⟩
    | none => []
  | some .metaTable =>
    match s.tag? with
    | some tag =>
      let index := tag.typeName ++ ".__index"
      let linked := (lookupBeside x purpose s index).filterMap fun t =>
        t.tag?.map fun tag => (⟨t.uri, tag.typeName⟩ : Place)
      ⟨s.uri, index⟩ :: linked
    | none => []
  | some .requireReturn =>
    Option.toList do
      let uri ← x.resolve? (← s.requiredModule?)
      let d ← x.document? uri
      return ⟨uri, ← d.returnName?⟩
  | some .callReturn =>
    match s.callReturnOf? with
    | some callee => returned (lookupBeside x purpose s callee)
    | none => []
  | none => []

/-- The function whose result a symbol holds, where no symbol has its name. -/
def deferred? (x : Index) (purpose : Purpose) (s : Symbol) : Option Place :=
  match s.tagReason?, s.callReturnOf? with
  | some .callReturn, some callee =>
    if (lookupBeside x purpose s callee).isEmpty then some ⟨s.uri, callee⟩ else none
  | _, _ => none

/-- Where the tag of a symbol leads. A call whose function is not found by name is followed by
`resolve`. -/
def substitutes (x : Index) (purpose : Purpose) (resolve : Place → Follow (List Symbol)) (s : Symbol) :
    Follow (List Place) := do
  match deferred? x purpose s with
  | some callee => return returned (← resolve callee)
  | none => return pointed x purpose s

/-- What a path means after a tag has been followed; a path without a symbol of its own is followed
further by `resolve`. -/
def merged (x : Index) (purpose : Purpose) (resolve : Place → Follow (List Symbol)) (p : Place) :
    Follow (List Symbol) := do
  let found := direct x purpose p
  if found.isEmpty then resolve p else return found

/-- The candidates to follow for a name: only the first when there are too many. -/
def candidates (x : Index) (purpose : Purpose) (uri : Uri) (name : String) : Follow (List Symbol) := do
  let found := lookup x purpose uri name .exactlyEqual
  if x.config.maxTagFanout < found.length then
    modify fun t => { t with stats.fanoutTruncations := t.stats.fanoutTruncations + 1 }
    return found.take 1
  return found

/-- What a path means when the tag of a symbol for its first part is followed; `rest` is its other part. -/
def followSymbol (x : Index) (purpose : Purpose) (resolve : Place → Follow (List Symbol)) (rest : String)
    (s : Symbol) : Follow (List Symbol) := do
  let places ← substitutes x purpose resolve s
  firstAnswer (fun q => merged x purpose resolve ⟨q.uri, Name.field q.path rest⟩) places

/-- What a path means through the symbols that its first part has in the document `uri`. -/
def followCut (x : Index) (purpose : Purpose) (resolve : Place → Follow (List Symbol)) (uri : Uri)
    (cut : String × String) : Follow (List Symbol) := do
  firstAnswer (followSymbol x purpose resolve cut.2) (← candidates x purpose uri cut.1)

/-- What a path means through the tags of its shorter parts. -/
def resolvePath (x : Index) (purpose : Purpose) : Nat → Place → Follow (List Symbol)
  | 0, _ => fun _ => none
  | fuel + 1, p => do
    if (← get).entered.contains p then
      modify fun t => { t with stats.cycleRefusals := t.stats.cycleRefusals + 1 }
      return []
    modify fun t => { t with entered := p :: t.entered }
    firstAnswer (followCut x purpose (resolvePath x purpose fuel) p.uri) (cuts p.path)

/-- What a path means in a document through tags, and the counters after the query; none when the fuel
does not suffice. -/
def resolve? (x : Index) (purpose : Purpose) (fuel : Nat) (stats : Stats) (path : String) (uri : Uri) :
    Option (List Symbol × Stats) := do
  let stats := { stats with queries := stats.queries + 1 }
  let (found, trail) ← (resolvePath x purpose fuel ⟨uri, Name.normalize path⟩).run ⟨[], stats⟩
  let stats := trail.stats
  return (found, if found.isEmpty then stats else { stats with resolved := stats.resolved + 1 })

/-- How many steps a query may follow tags: only a query without end takes so many. -/
def maxSteps : Nat := 1 <<< 40

/-- What a path means in a document through tags. -/
def resolve (x : Index) (purpose : Purpose) (path : String) (uri : Uri) : List Symbol :=
  ((resolve? x purpose maxSteps {} path uri).map (·.1)).getD []

/-- What each of several paths means in a document through tags, with the counters of all queries. -/
def resolveAll (x : Index) (purpose : Purpose) (uri : Uri) : Stats → List String → List (List Symbol) × Stats
  | stats, [] => ([], stats)
  | stats, path :: paths =>
    let (found, stats) := (resolve? x purpose maxSteps stats path uri).getD
      ([], { stats with queries := stats.queries + 1 })
    let (more, stats) := resolveAll x purpose uri stats paths
    (found :: more, stats)

end LuaAtlas.Inference
