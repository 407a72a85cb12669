/-
Places in a source text. A position is a zero-based line and a zero-based column counted in UTF-8
bytes; a range is a pair of positions. A range holds its own end: a cursor that stands right after
a name still points at it.
-/

namespace LuaAtlas

/-- A line and a column, both from zero; columns count UTF-8 bytes. -/
structure Position where
  line : Nat
  column : Nat
deriving DecidableEq, Repr, Inhabited

namespace Position

/-- The first position of every text. -/
def origin : Position := ⟨0, 0⟩

/-- Reading order: by line, then by column. -/
protected def le (a b : Position) : Prop := a.line < b.line ∨ a.line = b.line ∧ a.column ≤ b.column

instance : LE Position := ⟨Position.le⟩

instance (a b : Position) : Decidable (a ≤ b) :=
  inferInstanceAs (Decidable (a.line < b.line ∨ a.line = b.line ∧ a.column ≤ b.column))

/-- The position behind one character: a line feed opens the next line. -/
def next (p : Position) (c : Char) : Position :=
  if c = '\n' then ⟨p.line + 1, 0⟩ else ⟨p.line, p.column + c.utf8Size⟩

/-- The position behind a run of characters. -/
def advance (p : Position) (cs : List Char) : Position := cs.foldl next p

end Position

/-- A stretch of text from `start` to `stop`. -/
structure Range where
  start : Position
  stop : Position
deriving DecidableEq, Repr, Inhabited

namespace Range

/-- The empty range at the first position. -/
def origin : Range := ⟨.origin, .origin⟩

/-- Whether `p` lies in the range; both ends count. -/
def contains (r : Range) (p : Position) : Bool := decide (r.start ≤ p) && decide (p ≤ r.stop)

/-- The smallest range that holds both. -/
def cover (a b : Range) : Range where
  start := if a.start ≤ b.start then a.start else b.start
  stop := if a.stop ≤ b.stop then b.stop else a.stop

/-- From the start of `a` to the end of `b`. -/
def through (a b : Range) : Range := ⟨a.start, b.stop⟩

end Range

end LuaAtlas
