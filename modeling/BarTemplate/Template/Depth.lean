import BarTemplate.Template.Basic

/-!
# The depth of a template

How many levels of braces a template has one within the other. A template without braces has depth zero.
-/

namespace BarTemplate

mutual

/-- The depth of a token: a nested template is one level deeper than what it holds. -/
def Token.depth : Token → Nat
  | .text _ => 0
  | .placeholder _ => 0
  | .icon _ => 0
  | .group t => Token.depthOfTemplate t + 1

/-- The depth of the deepest token. -/
def Token.depthOfAlternative : List Token → Nat
  | [] => 0
  | t :: ts => max t.depth (Token.depthOfAlternative ts)

/-- The depth of the deepest alternative. -/
def Token.depthOfTemplate : List (List Token) → Nat
  | [] => 0
  | a :: as => max (Token.depthOfAlternative a) (Token.depthOfTemplate as)

end

theorem Token.depthOfAlternative_append (ts us : List Token) :
    Token.depthOfAlternative (ts ++ us) = max (Token.depthOfAlternative ts) (Token.depthOfAlternative us) := by
  induction ts with
  | nil => simp [Token.depthOfAlternative]
  | cons t ts ih => simp only [List.cons_append, Token.depthOfAlternative, ih, Nat.max_assoc]

theorem Token.depthOfTemplate_append (as bs : List (List Token)) :
    Token.depthOfTemplate (as ++ bs) = max (Token.depthOfTemplate as) (Token.depthOfTemplate bs) := by
  induction as with
  | nil => simp [Token.depthOfTemplate]
  | cons a as ih => simp only [List.cons_append, Token.depthOfTemplate, ih, Nat.max_assoc]

/-- The depth of a template. -/
def Template.depth (t : Template) : Nat :=
  Token.depthOfTemplate t

end BarTemplate
