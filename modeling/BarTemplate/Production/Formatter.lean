import BarTemplate.Production.Lexeme
import BarTemplate.Template.Basic

/-!
# Placeholders, formatters and icons

A placeholder is `$name`, and a formatter follows it as `.name`, and arguments follow that in parentheses, `(key:value,
key)`. Each part is taken wherever its first character stands. White space may stand after the opening parenthesis,
before the closing one and around commas. A comma that no argument follows is not taken: the closing parenthesis is then
missing at the comma. An icon is `^icon_name`.
-/

namespace BarTemplate.Production

open Committed

/-- An argument: a key, and a value if a colon follows. -/
def argument : Reader Argument :=
  name.andThen fun key => do
    match ← optional (.char ':') with
    | none => return { key }
    | some () =>
      let v ← require value (.char quote)
      return { key, value := some v }

/-- A further argument: a comma and an argument, each after white space. Nothing is taken if either is absent. -/
def furtherArgument : Reader Argument where
  read s :=
    match s.dropWhile isGap with
    | [] => .absent
    | c :: r => if c = ',' then argument.read (r.dropWhile isGap) else .absent
  advances {s a t} h := by
    split at h
    · cases h
    · next c r hr =>
      split at h
      · have hs : c :: r <:+ s := hr ▸ List.dropWhile_suffix isGap
        have hg := (List.dropWhile_suffix (l := r) isGap).trans ((List.suffix_cons c r).trans hs)
        have ha := argument.advances h
        exact ⟨ha.1.trans hg, Nat.lt_of_lt_of_le ha.2 hg.length_le⟩
      · cases h
  within {s f} h := by
    split at h
    · cases h
    · next c r hr =>
      split at h
      · have hs : c :: r <:+ s := hr ▸ List.dropWhile_suffix isGap
        exact (argument.within h).trans ((List.dropWhile_suffix isGap).trans ((List.suffix_cons c r).trans hs))
      · cases h

/-- The arguments between parentheses, separated by commas. -/
def arguments : Reader (List Argument) :=
  .lead '(' do
    skip isGap
    let args ← match ← optional argument with
      | none => pure []
      | some a => do
        let more ← many furtherArgument
        pure (a :: more)
    skip isGap
    expect ')'
    return args

/-- A formatter: a point, a name, and arguments if an opening parenthesis follows. -/
def formatter : Reader Formatter :=
  .lead '.' do
    let n ← require name .formatterName
    let args ← optional arguments
    return { name := n, arguments := args.getD [] }

/-- A placeholder: a dollar sign, a name, and a formatter if a point follows. -/
def placeholder : Reader Placeholder :=
  .lead '$' do
    let n ← require name .placeholderName
    let f ← optional formatter
    return { name := n, formatter := f }

/-- The text between the circumflex and the name of an icon. -/
def iconMarker : Text := ['i', 'c', 'o', 'n', '_']

/-- The name of an icon, after a circumflex and the marker. -/
def icon : Reader Text :=
  .lead '^' do
    marker iconMarker .iconMarker
    require name .iconName

end BarTemplate.Production
