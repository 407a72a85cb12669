/-
The rules of the grammar as far as reading needs them: what a rule makes, and the role that each of
its parts plays in it. Behind each group of rules stands what they read.
-/
import LuaAtlas.Syntax.Terminal

namespace LuaAtlas.Syntax

/-- What the rules of the grammar make. -/
inductive Nonterminal
  | chunk | block | statement | returnStat | emptyStat | assignment | targets | values | labelStat
  | gotoStat | doStat | whileStat | repeatStat | ifStat | elseifClause | elseClause | forStat
  | genericClause | numericClause | declaration | functionDecl | localFunction | functionName
  | functionPath | functionField | functionMethod | localDecl | localAssignment | names | localNames
  | attribute | expressions | expression | string | quotedString | doubleContent | singleContent
  | longString | functionExpr | functionBody | parameters | parameterList | primary | var
  | bracketIndex | dotIndex | call | methodIndex | arguments | parenthesized | table | entries
  | separator | entry | binary | unary | comment | statements | moreTargets | moreValues
  | elseifClauses | moreNames | moreLocalNames | moreExpressions | moreEntries
deriving DecidableEq, Repr, Inhabited

/-- The role of a part in its rule. -/
inductive Role
  | name | value | body | condition | consequence | clause | start | limit | step | table | field
  | method | arguments | parameters | left | right | operand
  /-- The text between two quotes. -/
  | text
deriving DecidableEq, Repr, Inhabited

/-- A rule: what it makes and the roles of its parts in order. -/
structure Rule where
  makes : Nonterminal
  roles : List (Option Role)
deriving DecidableEq, Repr, Inhabited

/-- Whether what a rule makes is a node of the tree in its own right. The parts of anything else
belong to the node around it. -/
def Nonterminal.isVisible : Nonterminal → Bool
  | statement | declaration | functionName | functionPath | expression | quotedString | doubleContent
  | singleContent | longString | functionBody | parameterList | primary | var | entries
  | separator | statements | moreTargets | moreValues | elseifClauses | moreNames | moreLocalNames
  | moreExpressions | moreEntries => false
  | _ => true

namespace Rule

/-- The rules. -/
def all : Array Rule := #[
  -- chunk: [directive] {statement} [return]
  ⟨.chunk, [none, none, none]⟩,
  ⟨.chunk, [none, none]⟩,
  ⟨.chunk, [none]⟩,
  ⟨.chunk, []⟩,
  -- block: {statement} [return]
  ⟨.block, [none, none]⟩,
  ⟨.block, [none]⟩,
  -- statement: any statement
  ⟨.statement, [none]⟩,
  -- returnStat: 'return' [expressions] [';']
  ⟨.returnStat, [none, none, none]⟩,
  ⟨.returnStat, [none, none]⟩,
  ⟨.returnStat, [none]⟩,
  -- emptyStat: ';'
  ⟨.emptyStat, [none]⟩,
  -- assignment: targets '=' values
  ⟨.assignment, [none, none, none]⟩,
  -- targets: var {',' var}
  ⟨.targets, [some .name, none]⟩,
  ⟨.targets, [some .name]⟩,
  -- values: expression {',' expression}
  ⟨.values, [some .value, none]⟩,
  ⟨.values, [some .value]⟩,
  -- labelStat: '::' name '::'
  ⟨.labelStat, [none, none, none]⟩,
  -- gotoStat: 'goto' name
  ⟨.gotoStat, [none, none]⟩,
  -- doStat: 'do' [block] 'end'
  ⟨.doStat, [none, some .body, none]⟩,
  ⟨.doStat, [none, none]⟩,
  -- whileStat: 'while' expression 'do' [block] 'end'
  ⟨.whileStat, [none, some .condition, none, some .body, none]⟩,
  ⟨.whileStat, [none, some .condition, none, none]⟩,
  -- repeatStat: 'repeat' [block] 'until' expression
  ⟨.repeatStat, [none, some .body, none, some .condition]⟩,
  ⟨.repeatStat, [none, none, some .condition]⟩,
  -- ifStat: 'if' expression 'then' [block] {elseif} [else] 'end'
  ⟨.ifStat, [none, some .condition, none, some .consequence, none, none, none]⟩,
  ⟨.ifStat, [none, some .condition, none, some .consequence, none, none]⟩,
  ⟨.ifStat, [none, some .condition, none, some .consequence, none]⟩,
  ⟨.ifStat, [none, some .condition, none, none, none, none]⟩,
  ⟨.ifStat, [none, some .condition, none, none, none]⟩,
  ⟨.ifStat, [none, some .condition, none, none]⟩,
  -- elseifClause: 'elseif' expression 'then' [block]
  ⟨.elseifClause, [none, some .condition, none, some .consequence]⟩,
  ⟨.elseifClause, [none, some .condition, none]⟩,
  -- elseClause: 'else' [block]
  ⟨.elseClause, [none, some .body]⟩,
  ⟨.elseClause, [none]⟩,
  -- forStat: 'for' clause 'do' [block] 'end'
  ⟨.forStat, [none, some .clause, none, some .body, none]⟩,
  ⟨.forStat, [none, some .clause, none, none]⟩,
  -- genericClause: names 'in' expressions
  ⟨.genericClause, [none, none, none]⟩,
  -- numericClause: name '=' expression ',' expression [',' expression]
  ⟨.numericClause, [some .name, none, some .start, none, some .limit, none, some .step]⟩,
  ⟨.numericClause, [some .name, none, some .start, none, some .limit]⟩,
  -- declaration: a function or local variables
  ⟨.declaration, [none]⟩,
  -- functionDecl: 'function' name body
  ⟨.functionDecl, [none, some .name, none]⟩,
  -- localFunction: 'local' 'function' name body
  ⟨.localFunction, [none, none, some .name, none]⟩,
  -- functionName: a path or a method
  ⟨.functionName, [none]⟩,
  -- functionPath: a name or a field
  ⟨.functionPath, [none]⟩,
  -- functionField: path '.' name
  ⟨.functionField, [some .table, none, some .field]⟩,
  -- functionMethod: path ':' name
  ⟨.functionMethod, [some .table, none, some .method]⟩,
  -- localDecl: 'local' names, with values or without
  ⟨.localDecl, [none, none]⟩,
  -- localAssignment: names '=' values
  ⟨.localAssignment, [none, none, none]⟩,
  -- names: name {',' name}
  ⟨.names, [some .name, none]⟩,
  ⟨.names, [some .name]⟩,
  -- localNames: name [attribute] {',' name [attribute]}
  ⟨.localNames, [some .name, none, none]⟩,
  ⟨.localNames, [some .name, none]⟩,
  ⟨.localNames, [some .name]⟩,
  -- attribute: '<' name '>'
  ⟨.attribute, [none, none, none]⟩,
  -- expressions: expression {',' expression}
  ⟨.expressions, [none, none]⟩,
  ⟨.expressions, [none]⟩,
  -- expression: any expression
  ⟨.expression, [none]⟩,
  -- string: a quoted or a long string
  ⟨.string, [none]⟩,
  -- quotedString: a quote, text, the same quote
  ⟨.quotedString, [none, some .text, none]⟩,
  ⟨.quotedString, [none, none]⟩,
  -- doubleContent: text and escapes
  ⟨.doubleContent, [none, none]⟩,
  ⟨.doubleContent, [none]⟩,
  -- singleContent: text and escapes
  ⟨.singleContent, [none, none]⟩,
  ⟨.singleContent, [none]⟩,
  -- longString: a long bracket, text, a long bracket
  ⟨.longString, [none, none, none]⟩,
  -- functionExpr: 'function' body
  ⟨.functionExpr, [none, none]⟩,
  -- functionBody: parameters [block] 'end'
  ⟨.functionBody, [some .parameters, some .body, none]⟩,
  ⟨.functionBody, [some .parameters, none]⟩,
  -- parameters: '(' [list] ')'
  ⟨.parameters, [none, none, none]⟩,
  ⟨.parameters, [none, none]⟩,
  -- parameterList: names, '...' or both
  ⟨.parameterList, [some .name, none, none, none]⟩,
  ⟨.parameterList, [some .name, none]⟩,
  ⟨.parameterList, [some .name, none, none]⟩,
  ⟨.parameterList, [some .name]⟩,
  ⟨.parameterList, [none]⟩,
  -- primary: what can be indexed or called
  ⟨.primary, [none]⟩,
  -- var: a name or an index
  ⟨.var, [none]⟩,
  -- bracketIndex: primary '[' expression ']'
  ⟨.bracketIndex, [some .table, none, some .field, none]⟩,
  -- dotIndex: primary '.' name
  ⟨.dotIndex, [some .table, none, some .field]⟩,
  -- call: primary or method, arguments
  ⟨.call, [some .name, some .arguments]⟩,
  -- methodIndex: primary ':' name
  ⟨.methodIndex, [some .table, none, some .method]⟩,
  -- arguments: '(' [expressions] ')', a table or a string
  ⟨.arguments, [none, none, none, none]⟩,
  ⟨.arguments, [none, none, none]⟩,
  ⟨.arguments, [none, none]⟩,
  ⟨.arguments, [none]⟩,
  -- parenthesized: '(' expression ')'
  ⟨.parenthesized, [none, none, none]⟩,
  -- table: '{' [entries] '}'
  ⟨.table, [none, none, none]⟩,
  ⟨.table, [none, none]⟩,
  -- entries: entry {separator entry} [separator]
  ⟨.entries, [none, none, none]⟩,
  ⟨.entries, [none, none]⟩,
  ⟨.entries, [none]⟩,
  -- separator: ',' or ';'
  ⟨.separator, [none]⟩,
  -- entry: '[' expression ']' '=' expression, name '=' expression or expression
  ⟨.entry, [none, some .name, none, none, some .value]⟩,
  ⟨.entry, [some .name, none, some .value]⟩,
  ⟨.entry, [some .value]⟩,
  -- binary: expression operator expression
  ⟨.binary, [some .left, none, some .right]⟩,
  -- unary: operator expression
  ⟨.unary, [none, some .operand]⟩,
  -- comment: dashes and the rest of the line, or between long brackets
  ⟨.comment, [none, none]⟩,
  ⟨.comment, [none, none, none]⟩,
  -- statements: one statement, or two runs of them
  ⟨.statements, [none, none]⟩,
  ⟨.statements, [none]⟩,
  -- the rest of a list: two runs of it, or one more member
  ⟨.moreTargets, [none, none]⟩,
  ⟨.moreTargets, [none, some .name]⟩,
  ⟨.moreValues, [none, none]⟩,
  ⟨.moreValues, [none, some .value]⟩,
  ⟨.elseifClauses, [none, none]⟩,
  ⟨.elseifClauses, [none]⟩,
  ⟨.moreNames, [none, none]⟩,
  ⟨.moreNames, [none, some .name]⟩,
  ⟨.moreLocalNames, [none, none]⟩,
  ⟨.moreLocalNames, [none, some .name, none]⟩,
  ⟨.moreLocalNames, [none, some .name]⟩,
  ⟨.moreExpressions, [none, none]⟩,
  ⟨.moreEntries, [none, none]⟩]

/-- The rule with the given number. -/
def get (n : Nat) : Rule := all[n]?.getD default

/-- The number of parts. -/
def size (r : Rule) : Nat := r.roles.length

end Rule

end LuaAtlas.Syntax
