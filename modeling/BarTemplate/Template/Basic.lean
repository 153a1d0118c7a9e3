import BarTemplate.Text.Basic

/-!
# Templates

A format template of a status bar: alternatives, each a run of tokens. A token is literal text, a placeholder for a
value (with an optional formatter and its arguments), an icon, or a nested template. Templates are compared by
structure, and the comparison is decidable (`Token.same_iff`).
-/

namespace BarTemplate

/-- An argument of a formatter: a key, and a value unless the key stands alone. -/
structure Argument where
  key : Text
  value : Option Text := none
  deriving DecidableEq, Repr

/-- A formatter of a placeholder: its name and its arguments in order. -/
structure Formatter where
  name : Text
  arguments : List Argument := []
  deriving DecidableEq, Repr

/-- A reference to a value by its name. -/
structure Placeholder where
  name : Text
  formatter : Option Formatter := none
  deriving DecidableEq, Repr

/-- A part of an alternative. The text of a `text` token has its escapes resolved, and the name of an icon goes without
the marker that introduces it. -/
inductive Token where
  | text (value : Text)
  | placeholder (value : Placeholder)
  | icon (name : Text)
  | group (template : List (List Token))
  deriving Repr

/-- An alternative: its tokens in order. -/
abbrev Alternative := List Token

/-- A template: its alternatives in order. -/
abbrev Template := List Alternative

mutual

/-- Structural comparison of two tokens. -/
def Token.same : Token → Token → Bool
  | .text a, .text b => a == b
  | .placeholder a, .placeholder b => a == b
  | .icon a, .icon b => a == b
  | .group a, .group b => sameTemplate a b
  | _, _ => false

/-- Structural comparison of two alternatives. -/
def Token.sameAlternative : List Token → List Token → Bool
  | [], [] => true
  | a :: as, b :: bs => Token.same a b && sameAlternative as bs
  | _, _ => false

/-- Structural comparison of two templates. -/
def Token.sameTemplate : List (List Token) → List (List Token) → Bool
  | [], [] => true
  | a :: as, b :: bs => sameAlternative a b && sameTemplate as bs
  | _, _ => false

end

mutual

/-- The comparison of tokens tells equal tokens from different ones. -/
theorem Token.same_iff : ∀ a b : Token, a.same b = true ↔ a = b
  | .text a, b => by cases b <;> simp [Token.same]
  | .placeholder a, b => by cases b <;> simp [Token.same]
  | .icon a, b => by cases b <;> simp [Token.same]
  | .group a, b => by cases b <;> simp [Token.same, Token.sameTemplate_iff a]

/-- The comparison of alternatives tells equal ones from different ones. -/
theorem Token.sameAlternative_iff : ∀ as bs : List Token, Token.sameAlternative as bs = true ↔ as = bs
  | [], bs => by cases bs <;> simp [Token.sameAlternative]
  | a :: as, bs => by
    cases bs with
    | nil => simp [Token.sameAlternative]
    | cons b bs => simp [Token.sameAlternative, Token.same_iff a b, Token.sameAlternative_iff as bs]

/-- The comparison of templates tells equal ones from different ones. -/
theorem Token.sameTemplate_iff : ∀ as bs : List (List Token), Token.sameTemplate as bs = true ↔ as = bs
  | [], bs => by cases bs <;> simp [Token.sameTemplate]
  | a :: as, bs => by
    cases bs with
    | nil => simp [Token.sameTemplate]
    | cons b bs => simp [Token.sameTemplate, Token.sameAlternative_iff a b, Token.sameTemplate_iff as bs]

end

instance : DecidableEq Token := fun a b => decidable_of_iff _ (Token.same_iff a b)

end BarTemplate
