import BarTemplate.Text.Lines

/-!
# Paths

A path is a root, which is empty for a relative path, and the names of its parts. Repeated slashes and parts that are a
single point mean nothing and are dropped when a path is read; a part of two points is kept. The path without root and
parts is shown as a point.
-/

namespace BarTemplate

/-- A path. -/
structure Path where
  root : Text := []
  parts : List Text := []
  deriving DecidableEq, Repr

namespace Path

/-- The pieces of a text between slashes. -/
def pieces : Text → List Text
  | [] => [[]]
  | c :: t =>
    if c = '/' then [] :: pieces t else Text.growFirst c (pieces t)

/-- The root of a written path: two slashes stay two, and any other number of slashes is one. -/
def rootOf (t : Text) : Text :=
  match (t.takeWhile (· = '/')).length with
  | 0 => []
  | 2 => ['/', '/']
  | _ => ['/']

/-- The path that a text names. -/
def ofText (t : Text) : Path where
  root := rootOf t
  parts := (pieces t).filter fun p => p ≠ [] ∧ p ≠ ['.']

/-- A path as it is shown. -/
def shown (p : Path) : Text :=
  match p.root ++ Text.joinWith ['/'] p.parts with
  | [] => ['.']
  | t => t

/-- The path without its last part. -/
def parent (p : Path) : Path :=
  { p with parts := p.parts.dropLast }

/-- The path of a name within the directory of a path. -/
def within (p : Path) (name : Text) : Path :=
  { p with parts := p.parts ++ [name] }

end Path

end BarTemplate
