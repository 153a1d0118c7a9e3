import BarTemplate.Text.Basic
import BarTemplate.Unicode.Alphanumeric
import BarTemplate.Unicode.Mark

/-!
# Classes of characters

What a template may hold where. Names are made of letters, numbers, underscores and hyphens, unquoted argument values
also of points and percent signs, and combining marks may continue either. Six characters have a meaning of their own;
all others are literal text.
-/

namespace BarTemplate

/-- A character of a name: a letter, a number, an underscore or a hyphen. -/
def isNameChar (c : Char) : Bool :=
  Unicode.isAlphanumeric c || c == '_' || c == '-'

/-- A character of an unquoted argument value: a name character, a point or a percent sign. -/
def isValueChar (c : Char) : Bool :=
  isNameChar c || c == '.' || c == '%'

/-- The character that makes the next one literal text. -/
def escapeChar : Char := '\\'

/-- The characters that end a run of literal text, by code point. -/
def specialChars : Text := ['$', escapeChar, '^', '{', '|', '}']

/-- A character that is literal text without an escape. -/
def isPlain (c : Char) : Bool :=
  !specialChars.contains c

/-- A character of the white space that may stand between arguments: space, tab, line feed, form feed or carriage
return. -/
def isGap (c : Char) : Bool :=
  c == ' ' || c == '\t' || c == '\n' || c == '\x0c' || c == '\r'

/-- The classes of characters by name. -/
inductive CharClass where
  | name
  | value
  | plain
  | gap
  | mark
  deriving DecidableEq, Repr

/-- Whether a text belongs to a class as a whole. A single character does if it has the property of the class. Of the
other texts, the non-empty ones of letters and numbers alone count as names and values, and all of them count as plain:
none is a special character. -/
def CharClass.holds (k : CharClass) (t : Text) : Bool :=
  match k, t with
  | .name, [c] => isNameChar c
  | .value, [c] => isValueChar c
  | .plain, [c] => isPlain c
  | .gap, [c] => isGap c
  | .mark, [c] => Unicode.isMark c
  | .name, _ | .value, _ => !t.isEmpty && t.all Unicode.isAlphanumeric
  | .plain, _ => true
  | .gap, _ | .mark, _ => false

end BarTemplate
