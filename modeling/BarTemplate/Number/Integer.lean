import BarTemplate.Number.Numeral

/-!
# Integers from text
-/

namespace BarTemplate

/-- The integer that a text stands for: an integer numeral, with white space around it. -/
def integerOfText? (t : Text) : Option Int :=
  (Numeral.whole? (t.trimBy Numeral.isMargin)).bind Numeral.Whole.value?

end BarTemplate
