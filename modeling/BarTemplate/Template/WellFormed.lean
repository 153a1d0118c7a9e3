import BarTemplate.Production.Lexeme
import BarTemplate.Template.Basic

/-!
# Well-formed templates

The templates that have a source: names and keys are words, a value holds no quotation mark, a text is not empty and
never stands next to another one, and a template has at least one alternative.
-/

namespace BarTemplate

/-- A word over a class of characters: one of them, then only such characters and combining marks. -/
def IsWord (p : Char → Bool) : Text → Prop
  | [] => False
  | c :: r => p c = true ∧ ∀ d ∈ r, p d = true ∨ Unicode.isMark d = true

/-- A name. -/
def IsName (t : Text) : Prop :=
  IsWord isNameChar t

/-- An argument with a source. -/
def Argument.WellFormed (a : Argument) : Prop :=
  IsName a.key ∧ ∀ v ∈ a.value, Production.quote ∉ v

/-- A formatter with a source. -/
def Formatter.WellFormed (f : Formatter) : Prop :=
  IsName f.name ∧ ∀ a ∈ f.arguments, a.WellFormed

/-- A placeholder with a source. -/
def Placeholder.WellFormed (p : Placeholder) : Prop :=
  IsName p.name ∧ ∀ f ∈ p.formatter, f.WellFormed

/-- The first of two tokens may stand before the second: not both are texts. -/
def Token.MayPrecede : Token → Token → Prop
  | .text _, .text _ => False
  | _, _ => True

mutual

/-- A token with a source. -/
def Token.WellFormed : Token → Prop
  | .text v => v ≠ []
  | .placeholder p => p.WellFormed
  | .icon n => IsName n
  | .group t => t ≠ [] ∧ Token.WellFormedTemplate t

/-- Tokens with a source, none of them a text after a text. -/
def Token.WellFormedAlternative : List Token → Prop
  | [] => True
  | t :: ts => t.WellFormed ∧ (∀ u ∈ ts.head?, t.MayPrecede u) ∧ Token.WellFormedAlternative ts

/-- Alternatives with a source. -/
def Token.WellFormedTemplate : List (List Token) → Prop
  | [] => True
  | a :: as => Token.WellFormedAlternative a ∧ Token.WellFormedTemplate as

end

/-- A template with a source. -/
def Template.WellFormed (t : Template) : Prop :=
  t ≠ [] ∧ Token.WellFormedTemplate t

end BarTemplate
