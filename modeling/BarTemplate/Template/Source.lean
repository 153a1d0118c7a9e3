import BarTemplate.Production.Formatter

/-!
# The source of a template

A source text for every template, the same for equal templates. Every character of a text is escaped, every value is
quoted, and the parentheses of a formatter without arguments are left out.
-/

namespace BarTemplate

/-- Literal text with every character escaped. -/
def escaped (t : Text) : Text :=
  t.flatMap fun c => [escapeChar, c]

/-- The source of an argument. -/
def Argument.source (a : Argument) : Text :=
  match a.value with
  | none => a.key
  | some v => a.key ++ ":" ++ [Production.quote] ++ v ++ [Production.quote]

/-- The source of a formatter. -/
def Formatter.source (f : Formatter) : Text :=
  match f.arguments with
  | [] => "." ++ f.name
  | as => "." ++ f.name ++ "(" ++ Text.joinWith [','] (as.map Argument.source) ++ ")"

/-- The source of a placeholder. -/
def Placeholder.source (p : Placeholder) : Text :=
  match p.formatter with
  | none => "$" ++ p.name
  | some f => "$" ++ p.name ++ f.source

mutual

/-- The source of a token. -/
def Token.source : Token → Text
  | .text v => escaped v
  | .placeholder p => p.source
  | .icon n => '^' :: Production.iconMarker ++ n
  | .group t => '{' :: Token.sourceOfTemplate t ++ ['}']

/-- The sources of tokens, one after the other. -/
def Token.sourceOfAlternative : List Token → Text
  | [] => []
  | t :: ts => t.source ++ Token.sourceOfAlternative ts

/-- The sources of alternatives, with bars between them. -/
def Token.sourceOfTemplate : List (List Token) → Text
  | [] => []
  | [a] => Token.sourceOfAlternative a
  | a :: as => Token.sourceOfAlternative a ++ '|' :: Token.sourceOfTemplate as

end

/-- The source of a template. -/
def Template.source (t : Template) : Text :=
  Token.sourceOfTemplate t

end BarTemplate
