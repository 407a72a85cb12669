/-
The outline of a document: its symbols as a forest. A member hangs under its table if the table is
declared before it in the same chunk; what a function's body declares hangs under the function.
-/
import LuaAtlas.Index

namespace LuaAtlas.Query

/-- A symbol in an outline, with what hangs under it. -/
inductive OutlineNode
  | mk (name detail : String) (kind : SymbolKind) (range : Range) (children : List OutlineNode)

/-- The last position below `n` whose element satisfies `p`. -/
def lastIndexBelow? (p : α → Bool) (as : List α) (n : Nat) : Option Nat :=
  ((List.range n).reverse).find? fun i => as[i]?.any p

/-- The closest earlier symbol of the same chunk that the `i`-th symbol is a member of. -/
def memberBase? (symbols : List Symbol) (i : Nat) : Option Nat := do
  let s ← symbols[i]?
  let base ← Name.base? s.searchName
  lastIndexBelow? (fun t => t.searchName = base && t.containers = s.containers) symbols i

/-- The last symbol that owns a chunk of this name starting on this line. -/
def chunkOwner? (symbols : List Symbol) (c : ChunkRef) : Option Nat :=
  lastIndexBelow?
    (fun s => s.ownedChunk?.any fun o => o.name = c.name && o.range.start.line = c.range.start.line)
    symbols symbols.length

/-- The symbol that owns the chunk around the `i`-th symbol. The chunk of the file has no owner. -/
def bodyOwner? (d : Document) (symbols : List Symbol) (i : Nat) : Option Nat := do
  let s ← symbols[i]?
  let container ← s.containers.getLast?
  if some container.name = d.fileChunk?.map (·.name) then none
  else (chunkOwner? symbols container).filter (· ≠ i)

/-- The symbol that the `i`-th symbol hangs under. -/
def parent? (d : Document) (symbols : List Symbol) (i : Nat) : Option Nat :=
  (memberBase? symbols i).or (bodyOwner? d symbols i)

/-- The nodes of the symbols that hang under `parent`; the first argument bounds the depth. -/
def outlineNodes (symbols : List Symbol) (parents : List (Option Nat)) (members : List Bool) :
    Nat → Option Nat → List OutlineNode
  | 0, _ => []
  | n + 1, parent =>
    (List.range symbols.length).flatMap fun i =>
      match symbols[i]? with
      | none => []
      | some s =>
        if parents[i]? = some parent then
          let name := if members[i]?.getD false then s.memberName else s.searchName
          [.mk name s.displayName s.kind s.range (outlineNodes symbols parents members n (some i))]
        else []

/-- The outline of a document. -/
def documentOutline (d : Document) : List OutlineNode :=
  let symbols := d.symbols
  let indices := List.range symbols.length
  outlineNodes symbols (indices.map (parent? d symbols))
    (indices.map fun i => (memberBase? symbols i).isSome) (symbols.length + 1) none

/-- The outline of the document of a URI. -/
def outline (x : Index) (uri : Uri) : List OutlineNode :=
  ((x.document? uri).map documentOutline).getD []

end LuaAtlas.Query
