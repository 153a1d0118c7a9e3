import BarTemplate.Template.Basic
import BarTemplate.Text.Quoted

/-!
# Outlines

A template shown as a tree, one node a line, with two spaces of indentation for every level. Names are shown as they
are, texts and argument values in their quoted form.
-/

namespace BarTemplate

/-- A line of an outline: the level of its node, and what it says. -/
structure OutlineLine where
  level : Nat
  label : Text
  deriving DecidableEq, Repr

namespace Outline

/-- The line of an argument. -/
def ofArgument (level : Nat) (a : Argument) : OutlineLine :=
  match a.value with
  | none => ⟨level, "Arg " ++ a.key⟩
  | some v => ⟨level, "Arg " ++ a.key ++ "=" ++ Quoted.encode v⟩

/-- The lines of a formatter and its arguments. -/
def ofFormatter (level : Nat) (f : Formatter) : List OutlineLine :=
  ⟨level, "Formatter ." ++ f.name⟩ :: f.arguments.map (ofArgument (level + 1))

/-- The lines of a placeholder and its formatter. -/
def ofPlaceholder (level : Nat) (p : Placeholder) : List OutlineLine :=
  ⟨level, "Placeholder $" ++ p.name⟩ ::
    match p.formatter with
    | none => []
    | some f => ofFormatter (level + 1) f

mutual

/-- The lines of a token. -/
def ofToken (level : Nat) : Token → List OutlineLine
  | .text value => [⟨level, "Text(" ++ Quoted.encode value ++ ")"⟩]
  | .placeholder p => ofPlaceholder level p
  | .icon name => [⟨level, "Icon " ++ name⟩]
  | .group t => ⟨level, "Recursive"⟩ :: ⟨level + 1, "Template"⟩ :: ofAlternatives (level + 2) 1 t

/-- The lines of the tokens of an alternative. -/
def ofTokens (level : Nat) : List Token → List OutlineLine
  | [] => []
  | t :: ts => ofToken level t ++ ofTokens level ts

/-- The lines of alternatives, which are numbered. -/
def ofAlternatives (level number : Nat) : List (List Token) → List OutlineLine
  | [] => []
  | a :: as => ⟨level, "Alternative " ++ Text.ofNat number⟩ :: (ofTokens (level + 1) a ++ ofAlternatives level (number + 1) as)

end

/-- The lines of a template. -/
def ofTemplate (level : Nat) (t : Template) : List OutlineLine :=
  ⟨level, "Template"⟩ :: ofAlternatives (level + 1) 1 t

end Outline

/-- A line of an outline as it is written. -/
def OutlineLine.written (l : OutlineLine) : Text :=
  Text.spaces (2 * l.level) ++ l.label ++ ['\n']

/-- The outline of a template. -/
def Template.outline (t : Template) : Text :=
  (Outline.ofTemplate 0 t).flatMap OutlineLine.written

end BarTemplate
