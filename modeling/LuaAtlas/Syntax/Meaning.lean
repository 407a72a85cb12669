/-
What nodes mean: the expressions, statements and blocks that a text without faults stands for. The
meaning of a node is put together from the meanings of its parts, which are told apart by the role
they play. What a node cannot give a meaning to is left out as a whole, so no statement is half
built.

Some texts have no meaning at all: a string whose delimiters are not equally long may be cut within a
character, and the program ends there. Whether it comes to that is told apart from the meaning.
-/
import LuaAtlas.Syntax.Node
import LuaAtlas.Syntax.Tree

namespace LuaAtlas.Syntax

/-- What a node stands for. -/
inductive Meaning
  /-- Nothing that is kept: keywords, signs, comments, labels and jumps. -/
  | nothing
  | expr (e : Expr)
  /-- The members of a list. -/
  | exprs (es : List Expr)
  | params (ids : List Ident) (isVararg : Bool)
  | entry (e : TableEntry)
  | assignment (targets values : List Expr) (range : Range)
  | block (b : Block)
  | clause (c : Clause)
  /-- The head of a loop over numbers. -/
  | numeric (var : Ident) (start limit : Expr) (step : Option Expr)
  /-- The head of a loop over what iterators give. -/
  | generic (vars : List Ident) (iterators : List Expr)
  | stmt (s : Stmt)

instance : Inhabited Meaning := ⟨.nothing⟩

/-- A visible part of a node. -/
structure Part where
  role? : Option Role
  /-- Whether the part says more than its spelling. -/
  isNamed : Bool
  meaning : Meaning
  /-- Whether the program ends while it puts the meaning together. -/
  isFatal : Bool

namespace Meaning

def expr? : Meaning → Option Expr
  | .expr e => some e
  | _ => none

def ident? : Meaning → Option Ident
  | .expr (.ident id) => some id
  | _ => none

def exprs? : Meaning → Option (List Expr)
  | .exprs es => some es
  | _ => none

def block? : Meaning → Option Block
  | .block b => some b
  | _ => none

/-- The statement that something stands for; a call is one when it stands alone, an assignment when
it has a target. -/
def stmt? : Meaning → Option Stmt
  | .stmt s => some s
  | .expr (.call callee args r) => some (.call callee args r)
  | .assignment targets values r => if targets.isEmpty then none else some (.assign targets values r)
  | _ => none

/-- The meaning of an expression that may be missing. -/
def ofExpr : Option Expr → Meaning
  | some e => .expr e
  | none => .nothing

/-- The meaning of a statement that may be missing. -/
def ofStmt : Option Stmt → Meaning
  | some s => .stmt s
  | none => .nothing

/-- The characters behind the first `n` bytes, if none of them is cut. -/
def dropBytes? : Nat → List Char → Option (List Char)
  | 0, cs => some cs
  | _, [] => some []
  | n + 1, c :: cs => if n + 1 < c.utf8Size then none else dropBytes? (n + 1 - c.utf8Size) cs

/-- The text between the delimiters of a string: quotes, or long brackets, each of as many bytes as
the opening one has. There is none if the last of these bytes cut a character. -/
def unquote? (raw : String) : Option String :=
  match raw.toList with
  | '[' :: rest =>
    let width := (rest.takeWhile (· = '=')).length + 2
    if raw.utf8ByteSize < 2 * width then some ""
    else (dropBytes? width (rest.drop (width - 1)).reverse).map fun cs => String.ofList cs.reverse
  | cs => some (String.ofList (cs.drop 1).dropLast)

/-- The value of a string, as far as there is one. -/
def unquote (raw : String) : String := (unquote? raw).getD ""

/-- The meaning of a token. -/
def ofToken (t : Token) : Meaning :=
  let range := t.start.rangeTo t.stop
  match t.terminal? with
  | some .name => .expr (.ident ⟨t.start.textTo t.stop, range⟩)
  | some .number => .expr (.number (t.start.textTo t.stop) range)
  | some .nilWord | some .trueWord | some .falseWord => .expr (.literal range)
  | some .ellipsis => .expr (.vararg range)
  | _ => .nothing

end Meaning

/-! ## From parts to wholes -/

namespace Part

/-- The expression that plays the given role. -/
def expr? (ps : List Part) (r : Role) : Option Expr :=
  (ps.find? (·.role? = some r)).bind (·.meaning.expr?)

/-- The expressions among the parts. -/
def exprs (ps : List Part) : List Expr := ps.filterMap (·.meaning.expr?)

/-- The names among the parts. -/
def idents (ps : List Part) : List Ident := ps.filterMap (·.meaning.ident?)

/-- The block among the parts; without one, an empty block over `range`. -/
def body (ps : List Part) (range : Range) : Block :=
  (ps.findSome? (·.meaning.block?)).getD (.mk [] range)

/-- The function whose parameters and body are among the parts. -/
def function (ps : List Part) (range : Range) : FuncBody :=
  let (ids, isVararg) := (ps.findSome? fun p => match p.meaning with
    | .params ids isVararg => some (ids, isVararg)
    | _ => none).getD ([], false)
  .mk ids isVararg (body ps range) range

/-- The field that `accessor` selects. -/
def member? (ps : List Part) (role : Role) (accessor : Accessor) (range : Range) : Option Expr := do
  let base ← expr? ps .table
  let field ← (ps.find? (·.role? = some role)).bind (·.meaning.ident?)
  return .member base accessor field range

/-- The variables that are declared, with or without values. -/
def locals? (ps : List Part) (range : Range) : Option Stmt :=
  ps.findSome? fun p => match p.meaning with
    | .assignment targets values _ => some (.localVars (names targets) values range)
    | .exprs es => some (.localVars (names es) [] range)
    | _ => none
where
  /-- The names among expressions. -/
  names (es : List Expr) : List Ident := es.filterMap (Meaning.ident? ∘ .expr)

/-- The entry of a table: with a key in brackets, with a name or without either. -/
def entryOf? (ps : List Part) : Option TableEntry := do
  let value ← expr? ps .value
  match ps.find? (·.role? = some .name), ps.head?.bind (·.role?) with
  | none, _ => return .positional value
  | some key, none => return .indexed (← key.meaning.expr?) value
  | some key, some _ => return .named (← key.meaning.ident?) value

/-- The branches of an `if`: its own and those behind it. -/
def branches (ps : List Part) (range : Range) : List Clause :=
  .mk (expr? ps .condition) (body ps range) :: ps.filterMap fun p => match p.meaning with
    | .clause c => some c
    | _ => none

/-- The loop whose head and body are among the parts. -/
def loop? (ps : List Part) (range : Range) : Option Stmt :=
  ps.findSome? fun p => match p.meaning with
    | .numeric var start limit step => some (.numericFor var start limit step (body ps range) range)
    | .generic vars iterators => some (.genericFor vars iterators (body ps range) range)
    | _ => none

/-- The head of a loop over numbers. -/
def numeric? (ps : List Part) : Option Meaning := do
  let var ← (ps.find? (·.role? = some .name)).bind (·.meaning.ident?)
  return .numeric var (← expr? ps .start) (← expr? ps .limit) (expr? ps .step)

/-- Whether the part plays the given role. -/
def plays (r : Role) (p : Part) : Bool := p.role? = some r

/-- Whether the program ends while it takes expressions in turn, each the first part that is wanted. One
that is missing or has no meaning is the last. -/
def endsInTurn (ps : List Part) : List (Part → Bool) → Bool
  | [] => false
  | isWanted :: rest =>
    match ps.find? isWanted with
    | some p => p.isFatal || (p.meaning.expr?.isSome && endsInTurn ps rest)
    | none => false

/-- Whether the program ends while it puts together what a rule makes of its parts. Parts that it does
not come to, since one before them has no meaning, do not matter. -/
def ends (made : Nonterminal) (ps : List Part) (start stop : Place) : Bool :=
  match made with
  | .chunk | .block | .targets | .values | .names | .localNames | .expressions | .arguments
  | .localAssignment | .localDecl | .functionExpr | .parameters | .returnStat | .doStat | .repeatStat
  | .ifStat | .elseifClause | .elseClause | .forStat | .genericClause | .table => ps.any (·.isFatal)
  | .assignment =>
    match ps.filter (·.meaning.exprs?.isSome) with
    | targets :: values =>
      targets.isFatal || (targets.meaning.exprs?.any (!·.isEmpty) && values.any (·.isFatal))
    | [] => false
  | .functionDecl | .localFunction => endsInTurn ps [plays .name, (·.meaning.block?.isSome)]
  | .whileStat => endsInTurn ps [plays .condition, (·.meaning.block?.isSome)]
  | .numericClause =>
    ps.any (fun p => p.plays .name && p.meaning.ident?.isSome) &&
      endsInTurn ps [plays .start, plays .limit, plays .step]
  | .dotIndex | .functionField =>
    ps.any (fun p => p.plays .field && p.meaning.ident?.isSome) && endsInTurn ps [plays .table]
  | .methodIndex | .functionMethod =>
    ps.any (fun p => p.plays .method && p.meaning.ident?.isSome) && endsInTurn ps [plays .table]
  | .bracketIndex => endsInTurn ps [plays .table, plays .field]
  | .call => endsInTurn ps [plays .name, (·.meaning.exprs?.isSome)]
  | .binary => endsInTurn ps [plays .left, plays .right]
  | .unary => endsInTurn ps [plays .operand]
  | .parenthesized => endsInTurn ps [(·.isNamed)]
  | .entry => endsInTurn ps [plays .value, plays .name]
  | .string => (Meaning.unquote? (start.textTo stop)).isNone
  | _ => false

/-- The meaning of what a rule makes of its parts, from `start` to `stop`. -/
def combine (made : Nonterminal) (ps : List Part) (start stop : Place) : Meaning :=
  let range := start.rangeTo stop
  match made with
  | .chunk | .block => .block (.mk (ps.filterMap (·.meaning.stmt?)) range)
  | .targets | .values | .names | .localNames | .expressions | .arguments => .exprs (exprs ps)
  | .assignment | .localAssignment =>
    match ps.filterMap (·.meaning.exprs?) with
    | [targets, values] => .assignment targets values range
    | _ => .nothing
  | .localDecl => .ofStmt (locals? ps range)
  | .functionDecl | .localFunction =>
    .ofStmt ((expr? ps .name).map (.funcDecl (made = .localFunction) · (function ps range) range))
  | .functionExpr => .expr (.func (function ps range))
  | .parameters => .params (idents ps) ((exprs ps).any fun e => match e with
    | .vararg _ => true
    | _ => false)
  | .returnStat => .stmt (.ret ((ps.findSome? (·.meaning.exprs?)).getD []) range)
  | .doStat => .stmt (.doBlock (body ps range) range)
  | .whileStat => .ofStmt ((expr? ps .condition).map (.whileLoop · (body ps range) range))
  | .repeatStat => .ofStmt ((expr? ps .condition).map (.repeatLoop (body ps range) · range))
  | .ifStat => .stmt (.branch (branches ps range) range)
  | .elseifClause => .clause (.mk (expr? ps .condition) (body ps range))
  | .elseClause => .clause (.mk none (body ps range))
  | .forStat => .ofStmt (loop? ps range)
  | .numericClause => (numeric? ps).getD .nothing
  | .genericClause =>
    match ps.filterMap (·.meaning.exprs?) with
    | [vars, iterators] => .generic (locals?.names vars) iterators
    | _ => .nothing
  | .dotIndex | .functionField => .ofExpr (member? ps .field .dot range)
  | .methodIndex | .functionMethod => .ofExpr (member? ps .method .colon range)
  | .bracketIndex => .ofExpr do return .index (← expr? ps .table) (← expr? ps .field) range
  | .call => .ofExpr ((expr? ps .name).map (.call · ((ps.findSome? (·.meaning.exprs?)).getD []) range))
  | .binary => .ofExpr do return .binary (← expr? ps .left) (← expr? ps .right) range
  | .unary => .ofExpr ((expr? ps .operand).map (.unary · range))
  | .parenthesized =>
    .ofExpr (((ps.find? (·.isNamed)).bind (·.meaning.expr?)).map (.paren · range))
  | .table => .expr (.table (ps.filterMap fun p => match p.meaning with
    | .entry e => some e
    | _ => none) range)
  | .entry => ((entryOf? ps).map .entry).getD .nothing
  | .string => .expr (.string (Meaning.unquote (start.textTo stop)) range)
  | _ => .nothing

end Part

namespace Node

mutual

/-- The parts that a node in the given role adds to those in `rest`: itself when it is visible, or
else its own parts in the same role. -/
def addParts (role? : Option Role) (rest : List Part) : Node → List Part
  | leaf t _ => if t.terminal?.all (·.isVisible) then
      ⟨role?, t.terminal?.all (·.isNamed), .ofToken t, false⟩ :: rest
    else rest
  | tree (.rule n) cs _ d =>
    let rule := Rule.get n
    if rule.makes.isVisible then
      let ps := addAllParts none rule.roles [] cs
      ⟨role?, true, Part.combine rule.makes ps d.start d.stop, Part.ends rule.makes ps d.start d.stop⟩ :: rest
    else addAllParts role? rule.roles rest cs
  | tree _ cs _ _ => addAllParts role? [] rest cs

/-- The parts that the children of a rule add to those in `rest`. A child without a role has that of
the node around it, an extra child has none. -/
def addAllParts (around? : Option Role) : List (Option Role) → List Part → List Node → List Part
  | _, rest, [] => rest
  | roles, rest, n :: ns =>
    if n.isExtra then addParts none (addAllParts around? roles rest ns) n
    else addParts (roles.head?.join <|> around?) (addAllParts around? roles.tail rest ns) n

end

/-- What a node stands for. -/
def meaning (n : Node) : Meaning := ((n.addParts none []).head?.map (·.meaning)).getD .nothing

/-- Whether the program ends while it puts together what a node stands for. -/
def isFatal (n : Node) : Bool := (n.addParts none []).any (·.isFatal)

end Node

end LuaAtlas.Syntax
