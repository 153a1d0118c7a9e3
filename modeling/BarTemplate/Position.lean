import BarTemplate.Text.Basic

/-!
# Positions

A place in a source text, as an offset in code points and as a line and a column. Lines end at LF.
-/

namespace BarTemplate

/-- A place in a source: line and column count from one, the offset from zero. -/
structure Position where
  line : Int
  column : Int
  offset : Int
  deriving DecidableEq, Repr

/-- The number of code points of a text up to and with its last line feed. -/
def lineStart (before : Text) : Nat :=
  before.length - (before.reverse.takeWhile (· ≠ '\n')).length

/-- The position at an offset of a source. Past the end of the source, the columns go on to count along the last line.
-/
def Position.ofOffset (source : Text) (offset : Nat) : Position :=
  let before := source.take offset
  { line := before.count '\n' + 1
    column := (offset : Int) - lineStart before + 1
    offset := offset }

end BarTemplate
