/-!
# Tables of code points

A property of code points is a list of inclusive ranges in ascending order, disjoint and with gaps between them. A
look-up walks the list and stops at the first range that does not end before the code point.
-/

namespace BarTemplate.Unicode

/-- Inclusive ranges of code points, ascending. -/
abbrev Table := List (Nat × Nat)

/-- The first code point of the range that holds `n`. -/
def Table.start? : Table → Nat → Option Nat
  | [], _ => none
  | (first, last) :: rest, n =>
    if n < first then none else if n ≤ last then some first else Table.start? rest n

/-- Some range of the table holds `n`. -/
def Table.covers (t : Table) (n : Nat) : Bool :=
  (t.start? n).isSome

end BarTemplate.Unicode
