import BarTemplate.Setting.Basic

/-!
# The machine

A run takes place on a machine that is not up to everything. Its stack may be too small for reading a document, or for
showing a value, in which lists and tables stand in one another; and its output stream may be unable to encode a text.
Where the machine fails, it says so in its own words. It does not fail at templates, for which the nesting cap leaves
stack enough, and its error stream takes every text.
-/

namespace BarTemplate.Command

/-- What a machine fails at, in its own words: reading a document, showing a value, or printing a text. A machine that
fails at nothing is the usual one. -/
structure Host where
  readFault : Text → Option Text := fun _ => none
  showFault : Setting → Option Text := fun _ => none
  printFault : Text → Option Text := fun _ => none

end BarTemplate.Command
