/-!
# Lines and columns

A place in a source is a line and a column, both counted from one and the column in bytes. A
tracker that is asked for increasing offsets scans every byte once; `Location.ofOffset` counts
afresh for a single offset.
-/

namespace Bxml

/-- A line and a column. -/
structure Location where
  line : Nat
  column : Nat
deriving DecidableEq, Repr, Inhabited

namespace Location

/-- No place in a source. -/
def none : Location := ⟨0, 0⟩

/-- A location in words. -/
def text (at_ : Location) : String := s!"line {at_.line}, column {at_.column}"

/-- The byte that ends a line. -/
def lineEnd : UInt8 := 10

/-- The location of an offset: one more than the line ends before it, and one more than the bytes
since the last of them. Offsets past the end count as the end. -/
def ofOffset (source : List UInt8) (offset : Nat) : Location where
  line := 1 + (source.take offset).count lineEnd
  column := 1 + ((source.take offset).reverse.takeWhile (· != lineEnd)).length

end Location

/-- Where a scan for line ends stands: the offset reached, its line, where that line starts, and
the bytes not yet scanned. -/
structure LineTracker where
  offset : Nat
  line : Nat
  lineStart : Nat
  rest : List UInt8

namespace LineTracker

/-- A tracker at the start of a source. -/
def start (source : List UInt8) : LineTracker := ⟨0, 1, 0, source⟩

/-- Scans bytes from `offset` on, where `line` started at `lineStart`. -/
def scan (offset line lineStart : Nat) : List UInt8 → Nat × Nat
  | [] => (line, lineStart)
  | b :: r =>
    if b = Location.lineEnd then scan (offset + 1) (line + 1) (offset + 1) r
    else scan (offset + 1) line lineStart r

/-- The location of `offset`, and the tracker that has scanned up to it. -/
def advance (t : LineTracker) (offset : Nat) : Location × LineTracker :=
  let ahead := t.rest.take (offset - t.offset)
  let (line, lineStart) := scan t.offset t.line t.lineStart ahead
  let reached := t.offset + ahead.length
  (⟨line, min offset reached - lineStart + 1⟩,
    ⟨reached, line, lineStart, t.rest.drop (offset - t.offset)⟩)

end LineTracker

end Bxml
