import BarTemplate.Text.Basic
import BarTemplate.Unicode.Unprintable

/-!
# Quoted text

The form in which a text is shown inside a line of output: between delimiters and with escapes, so that the form has no
line break and no unprintable code point. The delimiter is an apostrophe, or a quotation mark if the text holds an
apostrophe and no quotation mark. A backslash stands before the delimiter and before a backslash; tab, line feed and
carriage return have letters of their own; any other unprintable code point is written in hexadecimal, in the shortest
of three fixed widths.
-/

namespace BarTemplate.Quoted

/-- The delimiter of the quoted form. -/
def delimiter (t : Text) : Char :=
  if t.contains '\'' && !t.contains '"' then '"' else '\''

/-- The hexadecimal escape of a code point: two, four or eight digits. -/
def hexEscape (c : Char) : Text :=
  if c.toNat < 0x100 then "\\x" ++ Text.hex 2 c.toNat
  else if c.toNat < 0x10000 then "\\u" ++ Text.hex 4 c.toNat
  else "\\U" ++ Text.hex 8 c.toNat

/-- How a code point is written between the delimiters `q`. -/
def escape (q c : Char) : Text :=
  if c = q ∨ c = '\\' then ['\\', c]
  else if c = '\t' then ['\\', 't']
  else if c = '\n' then ['\\', 'n']
  else if c = '\r' then ['\\', 'r']
  else if Unicode.isPrintable c then [c]
  else hexEscape c

/-- The quoted form of a text. -/
def encode (t : Text) : Text :=
  let q := delimiter t
  q :: t.flatMap (escape q) ++ [q]

end BarTemplate.Quoted
