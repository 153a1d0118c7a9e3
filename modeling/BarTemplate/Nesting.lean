import BarTemplate.Log

/-!
# The nesting cap

A template may be nested only so deep. The depth that is asked for is cut to what the stack allows: some frames of it
are reserved, and every level of nesting takes four of the others. A depth that is cut is told in a warning. One level
is always allowed.
-/

namespace BarTemplate.Nesting

/-- The depth that holds where none is asked for. -/
def defaultDepth : Int := 100

/-- The stack frames that a level of nesting takes. -/
def framesPerLevel : Int := 4

/-- The stack frames that are kept for other uses. -/
def reservedFrames : Int := 50

/-- The greatest depth that a stack of so many frames allows. -/
def safeDepth (frames reserved : Int) : Int :=
  max 1 ((frames - reserved).fdiv framesPerLevel)

/-- The depth that holds where a depth is asked for. -/
def clamp (frames requested : Int) (reserved : Int := reservedFrames) : Int :=
  min requested (safeDepth frames reserved)

/-- The warning that a depth has been cut. A depth of more than 4300 digits is written out here, where a system with
that limit would tell of the limit in place of the warning. -/
def clampRecords (frames requested : Int) (reserved : Int := reservedFrames) : List Log.Record :=
  let safe := safeDepth frames reserved
  if requested ≤ safe then []
  else [{
    level := .warning
    logger := "statusfmt.depth"
    message := "max_depth " ++ Text.ofInt requested ++ " exceeds what the recursion limit (" ++ Text.ofInt frames ++
      ") allows; using " ++ Text.ofInt safe }]

end BarTemplate.Nesting
