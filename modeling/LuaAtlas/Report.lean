/-
What the program reports, as JSON.
-/
import LuaAtlas.Json
import LuaAtlas.Query.Completion
import LuaAtlas.Query.Definition
import LuaAtlas.Query.Outline
import LuaAtlas.Scan

namespace LuaAtlas.Report

open LuaAtlas.Query LuaAtlas.Scan

/-! ## Places -/

/-- A position. -/
def position (p : Position) : Json := .object [("line", .number p.line), ("column", .number p.column)]

/-- A range. -/
def range (r : Range) : Json := .object [("start", position r.start), ("end", position r.stop)]

/-- A stretch of a document. -/
def spot (s : Spot) : Json := .object [("uri", .text s.uri.text), ("range", range s.range)]

/-! ## Symbols -/

/-- The kind of a symbol. -/
def kind : SymbolKind → Json
  | .var => .text "Variable"
  | .func => .text "Function"

/-- Why a symbol has its tag. -/
def reason : TagReason → Json
  | .userTag => .text "UserTag"
  | .equal => .text "Equal"
  | .metaTable => .text "MetaTable"
  | .requireReturn => .text "RequireReturn"
  | .callReturn => .text "CallReturn"

/-- A tag. -/
def tag (t : Tag) : Json := .object [("reason", reason t.reason), ("type_name", .text t.typeName)]

/-- A chunk by its name and range. -/
def chunkRef (c : ChunkRef) : Json := .object [("name", .text c.name), ("range", range c.range)]

/-- A chunk. -/
def chunk (c : Chunk) : Json :=
  .object [("name", .text c.name), ("range", range c.range), ("return_name", .option .text c.returnName?)]

/-- The fields of a symbol. -/
def symbolFields (s : Symbol) : List (String × Json) :=
  [("display_name", .text s.displayName),
    ("search_name", .text s.searchName),
    ("original_name", .text s.memberName),
    ("kind", kind s.kind),
    ("location", spot ⟨s.uri, s.range⟩),
    ("is_local", .bool s.isLocal),
    ("container_name", .text s.containerName),
    ("container_chunks", .list chunkRef s.containers),
    ("function_params", .list .text s.params),
    ("tag", .option tag s.tag?),
    ("require_module", .option .text s.requiredModule?),
    ("call_return_of", .option .text s.callReturnOf?),
    ("owned_chunk", .option chunk s.ownedChunk?)]

/-- A symbol. -/
def symbol (s : Symbol) : Json := .object (symbolFields s)

/-! ## Answers -/

/-- Where a definition is. -/
def target : Target → Json
  | .symbol s => .object [("kind", .text "symbol"), ("symbol", symbol s)]
  | .module uri => .object [("kind", .text "module"), ("uri", .text uri.text)]

/-- A completion. -/
def item (i : Item) : Json :=
  let kind := match i.kind with
    | .func => "Function"
    | .var => "Variable"
    | .snippet => "Snippet"
  .object [("label", .text i.label),
    ("kind", .text kind),
    ("insert_text", .text i.insertText),
    ("detail", .text i.detail),
    ("insert_text_format", .text (if i.isSnippet then "Snippet" else "PlainText"))]

mutual

/-- A symbol in an outline. -/
def outlineNode : OutlineNode → Json
  | .mk name detail k r children =>
    .object [("name", .text name), ("detail", .text detail), ("kind", kind k), ("range", range r),
      ("children", .array (outlineNodes children))]

/-- Symbols in an outline. -/
def outlineNodes : List OutlineNode → List Json
  | [] => []
  | n :: ns => outlineNode n :: outlineNodes ns

end

/-! ## Scans -/

/-- The version of the program. -/
def version : String := "0.4.0"

/-- The numbers of a part of the index. -/
def counts (c : Counts) : Json := .object [("documents", .number c.documents), ("symbols", .number c.symbols)]

/-- The statistics of a scan. -/
def statistics (s : Statistics) : Json :=
  .object [
    ("metadata", .object [("luascope_version", .text version), ("workspace_path", .text s.root)]),
    ("files_processed", .number s.processed),
    ("files_skipped", .number s.skipped),
    ("files_errored", .number s.failed),
    ("files_degraded", .number s.degraded),
    ("require_edges", .number s.requireEdges),
    ("workspace", counts s.workspace),
    ("stdlib_preload", counts s.stdlib),
    ("user_preload", counts s.user)]

/-- The main numbers of a scan. -/
def summary (s : Statistics) : Json :=
  .object [
    ("workspace_path", .text s.root),
    ("files_processed", .number s.processed),
    ("files_skipped", .number s.skipped),
    ("files_errored", .number s.failed),
    ("workspace", counts s.workspace)]

end LuaAtlas.Report
