import LuaAtlas.Annotation
import LuaAtlas.CommandLine
import LuaAtlas.CommandLine.Command
import LuaAtlas.CommandLine.Option
import LuaAtlas.Config
import LuaAtlas.Config.File
import LuaAtlas.Declare
import LuaAtlas.Disk
import LuaAtlas.Document
import LuaAtlas.Index
import LuaAtlas.Index.Library
import LuaAtlas.Inference
import LuaAtlas.Json
import LuaAtlas.Main
import LuaAtlas.Name
import LuaAtlas.OsText
import LuaAtlas.Partition
import LuaAtlas.Pattern
import LuaAtlas.Pattern.Class
import LuaAtlas.Pattern.Encoding
import LuaAtlas.Pattern.Expression
import LuaAtlas.Pattern.Footprint
import LuaAtlas.Pattern.Matching
import LuaAtlas.Pattern.Reader
import LuaAtlas.Pattern.Syntax
import LuaAtlas.Proofs.Index.Library
import LuaAtlas.Query.Completion
import LuaAtlas.Query.Definition
import LuaAtlas.Query.Outline
import LuaAtlas.Report
import LuaAtlas.Scan
import LuaAtlas.Scan.Files
import LuaAtlas.Scan.Glob
import LuaAtlas.Scan.Ignore
import LuaAtlas.Search
import LuaAtlas.Symbol
import LuaAtlas.Syntax.Automaton
import LuaAtlas.Syntax.Automaton.Row
import LuaAtlas.Syntax.Automaton.Table
import LuaAtlas.Syntax.Chain
import LuaAtlas.Syntax.Lexeme
import LuaAtlas.Syntax.LongBracket
import LuaAtlas.Syntax.Meaning
import LuaAtlas.Syntax.Node
import LuaAtlas.Syntax.Parse
import LuaAtlas.Syntax.Place
import LuaAtlas.Syntax.Reader
import LuaAtlas.Syntax.Rule
import LuaAtlas.Syntax.Stack
import LuaAtlas.Syntax.Terminal
import LuaAtlas.Syntax.Tree
import LuaAtlas.Text.Age
import LuaAtlas.Text.Blank
import LuaAtlas.Text.Breaking
import LuaAtlas.Text.Category
import LuaAtlas.Text.CharSet
import LuaAtlas.Text.Digit
import LuaAtlas.Text.Extension
import LuaAtlas.Text.Folding
import LuaAtlas.Text.Latest
import LuaAtlas.Text.Letter
import LuaAtlas.Text.Position
import LuaAtlas.Text.Property
import LuaAtlas.Text.Quoted
import LuaAtlas.Text.Script
import LuaAtlas.Text.Segment
import LuaAtlas.Toml
import LuaAtlas.Toml.Quoted
import LuaAtlas.Toml.Scalar
import LuaAtlas.Toml.Value
import LuaAtlas.Trie
import LuaAtlas.Uri
import LuaAtlas.Visibility
import LuaAtlas.Walk
import LuaAtlas.Walk.Event
import LuaAtlas.Proofs.OsText
import LuaAtlas.Proofs.Index.Link
import LuaAtlas.Proofs.Index.Run
import LuaAtlas.Proofs.Index.ReverseEdges
import LuaAtlas.Proofs.Index.Untouched
import LuaAtlas.Proofs.Index.Batch
import LuaAtlas.Proofs.Walk.Pieces
import LuaAtlas.Proofs.Name
import LuaAtlas.Proofs.Partition
import LuaAtlas.Proofs.Index.Search
import LuaAtlas.Proofs.Index.Walk
import LuaAtlas.Proofs.Index.Answers
import LuaAtlas.Proofs.Index.Idempotence
import LuaAtlas.Proofs.Walk.Views
import LuaAtlas.Proofs.Inference.Chain
import LuaAtlas.Proofs.Inference.Agenda
import LuaAtlas.Proofs.Inference.Fuel
import LuaAtlas.Proofs.Inference.Soundness
import LuaAtlas.Proofs.Inference.Guard
import LuaAtlas.Proofs.Inference.Reach
import LuaAtlas.Proofs.Inference.Termination
import LuaAtlas.Proofs.Walk.Globals
import LuaAtlas.Proofs.Partition.Order
import LuaAtlas.Proofs.Syntax.Scoping
import LuaAtlas.Proofs.Syntax.Chain
import LuaAtlas.Proofs.Syntax.Place
import LuaAtlas.Proofs.Syntax.Automaton
import LuaAtlas.Proofs.Syntax.Lexeme
import LuaAtlas.Proofs.Syntax.Node
import LuaAtlas.Proofs.Syntax.Way
import LuaAtlas.Proofs.Syntax.Stack
import LuaAtlas.Proofs.Syntax.Reader
import LuaAtlas.Proofs.Syntax.Meaning
import LuaAtlas.Proofs.Syntax.Words
import LuaAtlas.Proofs.Syntax.Faithful
import LuaAtlas.Proofs.Syntax.Ending
import LuaAtlas.Proofs.Syntax.Heads
import LuaAtlas.Proofs.Syntax.Fidelity
import LuaAtlas.Proofs.Syntax.Recovery
import LuaAtlas.Proofs.Syntax.Binders
import LuaAtlas.Proofs.Syntax.Mentions
import LuaAtlas.Proofs.Walk.Scope
import LuaAtlas.Proofs.Walk.Binding
import LuaAtlas.Proofs.Walk.Locality
import LuaAtlas.Proofs.Walk.Publication
import LuaAtlas.Proofs.Visibility
import LuaAtlas.Proofs.Query.Definition
import LuaAtlas.Proofs.Query.Stubs
import LuaAtlas.Proofs.Query.Sight
import LuaAtlas.Proofs.Query.Completion
import LuaAtlas.Proofs.Walk.Bodies
import LuaAtlas.Proofs.Query.Outline
import LuaAtlas.Proofs.Syntax.Landmarks
import LuaAtlas.Proofs.Walk.Landmarks
import LuaAtlas.Proofs.Walk.Contents
import LuaAtlas.Proofs.Walk.Values
import LuaAtlas.Proofs.Declare.Precedence
import LuaAtlas.Proofs.Declare.Bindings
import LuaAtlas.Proofs.Inference.OneTag
import LuaAtlas.Proofs.Index.DepthCap
import LuaAtlas.Proofs.Query.References
import LuaAtlas.Proofs.Syntax.Parted
import LuaAtlas.Proofs.Walk.Conditions
import LuaAtlas.Proofs.Index.Resolution
import LuaAtlas.Proofs.Index.Loading
import LuaAtlas.Proofs.Scan.Listing
import LuaAtlas.Proofs.Scan.Run
import LuaAtlas.Proofs.Scan.Workspace
import LuaAtlas.Proofs.Scan.Counts
import LuaAtlas.Proofs.Walk.Roots
import LuaAtlas.Walk.Pass
import LuaAtlas.Proofs.Syntax.Nesting
import LuaAtlas.Proofs.Walk.Balance
import LuaAtlas.Proofs.Walk.Gathering
import LuaAtlas.Proofs.Walk.Pass
