/-
From source text to syntax tree. A text that follows the grammar gives all of its statements, any
other those that can be recovered from it. Every text gives a tree, but for those few on which the
program ends.
-/
import LuaAtlas.Syntax.Chain
import LuaAtlas.Syntax.Meaning
import LuaAtlas.Syntax.Reader

namespace LuaAtlas.Syntax

/-- What became of a source text. -/
inductive Outcome
  /-- The text follows the grammar. -/
  | complete (file : File)
  /-- The text has syntax errors; the tree holds what could be recovered. -/
  | degraded (file : File)

namespace Outcome

def file : Outcome → File
  | complete f | degraded f => f

def isDegraded : Outcome → Bool
  | complete _ => false
  | degraded _ => true

end Outcome

/-! ## Comments -/

namespace Node

/-- Whether a node is a comment. -/
def isComment : Head → Bool
  | .rule n => (Rule.get n).makes = .comment
  | _ => false

mutual

/-- The comments of a tree, before those in `rest`. -/
def addComments (rest : List Comment) : Node → List Comment
  | leaf .. => rest
  | tree h cs _ d =>
    if isComment h then ⟨d.start.textTo d.stop, d.start.rangeTo d.stop⟩ :: rest
    else addAllComments rest cs

/-- The comments of several trees, before those in `rest`. -/
def addAllComments (rest : List Comment) : List Node → List Comment
  | [] => rest
  | n :: ns => addComments (addAllComments rest ns) n

end

/-- The comments of a tree in reading order. -/
def comments (n : Node) : List Comment := n.addComments []

/-! ## Recovery -/

/-- Whether what a rule makes is kept from a text with errors. -/
def isRecoverable : Nonterminal → Bool
  | .localDecl | .functionDecl | .localFunction | .call | .assignment | .localAssignment => true
  | _ => false

end Node

/-- Whether a statement is kept from a text with errors: declarations, and calls and assignments that
require a module. -/
def Stmt.isKept : Stmt → Bool
  | .localVars .. | .funcDecl .. => true
  | .call callee args _ => (requiredModule? callee args).isSome
  | .assign _ values _ => values.any (·.requiredModule?.isSome)
  | _ => false

namespace Node

mutual

/-- The statements that can be recovered from a node at the top of a faulty text, before those in
`rest`. They stand at the top level or among what fits nowhere, never inside other statements, and
have no fault in them. -/
def addKept (rest : List Stmt) : Node → List Stmt
  | leaf .. => rest
  | tree (.rule n) cs e d =>
    let made := (Rule.get n).makes
    if !made.isVisible then addAllKept rest cs
    else if d.penalty = 0 && isRecoverable made then
      match (tree (.rule n) cs e d).meaning.stmt? with
      | some s => if s.isKept then s :: rest else rest
      | none => rest
    else rest
  | tree _ cs _ _ => addAllKept rest cs

/-- The statements that can be recovered from several nodes, before those in `rest`. -/
def addAllKept (rest : List Stmt) : List Node → List Stmt
  | [] => rest
  | n :: ns => addKept (addAllKept rest ns) n

end

/-- The statements that can be recovered from the tree of a faulty text. -/
def kept (root : Node) : List Stmt := addAllKept [] root.children

mutual

/-- Whether the program ends while it recovers statements from a node at the top of a faulty text. It puts
together what it may keep before it decides. -/
def endsKept : Node → Bool
  | leaf .. => false
  | tree (.rule n) cs e d =>
    let made := (Rule.get n).makes
    if !made.isVisible then endsAllKept cs
    else d.penalty = 0 && isRecoverable made && (tree (.rule n) cs e d).isFatal
  | tree _ cs _ _ => endsAllKept cs

/-- Whether the program ends while it recovers statements from several nodes. -/
def endsAllKept : List Node → Bool
  | [] => false
  | n :: ns => endsKept n || endsAllKept ns

end

end Node

/-- Whether a source text has syntax errors. -/
def hasErrors (source : String) : Bool := (Node.ofText source).all (·.penalty ≠ 0)

/-- Whether the program ends while it reads a source text. -/
def isFatal (source : String) : Bool :=
  match Node.ofText source with
  | some root => if root.penalty = 0 then root.isFatal else Node.endsAllKept root.children
  | none => false

/-- What a source text is read as, by all that can be said of the texts on which the program does not end. -/
def parse (source : String) : Outcome :=
  match Node.ofText source with
  | some root =>
    if root.penalty = 0 then
      .complete ⟨(root.meaning.block?).getD (.mk [] root.range), root.comments, root.range⟩
    else .degraded ⟨.mk root.kept root.range, root.comments, root.range⟩
  | none =>
    let range := ⟨.origin, Position.origin.advance source.toList⟩
    .degraded ⟨.mk [] range, [], range⟩

/-- Reads a source text, unless the program ends there. -/
def parse? (source : String) : Option Outcome := if isFatal source then none else some (parse source)

end LuaAtlas.Syntax
