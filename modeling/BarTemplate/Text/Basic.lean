/-!
# Text

A text is the list of its code points. Templates, file contents, messages and whole outputs are texts, and every offset,
column and length in the library counts code points. Written numbers are decimal, without padding.

A lone surrogate is no character, so a text holds none. Words of a command line that do hold one, as a system may pass
them, have no text (`Text.ofCodes?`), and nothing is said about them.
-/

namespace BarTemplate

/-- A text: its code points in order. -/
abbrev Text := List Char

/-- A string literal stands for its code points. -/
instance : Coe String Text := ⟨String.toList⟩

namespace Text

/-- The text with the given code points, if each of them is a character: a lone surrogate is none. -/
def ofCodes? (codes : List Nat) : Option Text :=
  codes.mapM fun n => if n.isValidChar then some (Char.ofNat n) else none

/-- A natural number in decimal. -/
def ofNat (n : Nat) : Text :=
  Nat.toDigits 10 n

/-- An integer in decimal, with a leading minus sign if it is negative. There is no limit on its digits. -/
def ofInt : Int → Text
  | .ofNat n => ofNat n
  | .negSucc n => '-' :: ofNat (n + 1)

/-- A run of spaces. -/
def spaces (n : Nat) : Text :=
  List.replicate n ' '

/-- The pieces in order, with a separator between neighbours. -/
def joinWith (separator : Text) (pieces : List Text) : Text :=
  separator.intercalate pieces

/-- Every line followed by a line feed. -/
def unlines (lines : List Text) : Text :=
  lines.flatMap (· ++ ['\n'])

/-- A natural number in lower-case hexadecimal, with leading zeros up to the width. -/
def hex (width n : Nat) : Text :=
  let digits := Nat.toDigits 16 n
  List.replicate (width - digits.length) '0' ++ digits

/-- Drops the code points with a property at both ends. -/
def trimBy (p : Char → Bool) (t : Text) : Text :=
  ((t.dropWhile p).reverse.dropWhile p).reverse

end Text

end BarTemplate
