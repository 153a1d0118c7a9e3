import BarTemplate.Nesting
import BarTemplate.Production.Template
import BarTemplate.SyntaxError
import BarTemplate.Text.Quoted

/-!
# Parsing a template

The template that a whole source is, or the first error in it. A cap of zero or less forbids every brace, and the
message about it names the cap as it is.
-/

namespace BarTemplate

/-- Parses a source under a nesting cap. -/
def parseUnder (cap : Int) (source : Text) : Except SyntaxError Template :=
  match (Production.whole cap.toNat).read source with
  | .ok (t, _) => .ok t
  | .error f => .error (.ofFailure source cap f)

/-- Parses a source with a stack of so many frames, where a nesting depth is asked for. -/
def parse (frames requested : Int) (source : Text) : Except SyntaxError Template :=
  parseUnder (Nesting.clamp frames requested) source

/-- The records of parsing: the source as it is shown, and the error if there is one. -/
def parseRecords (shown : Text) (result : Except SyntaxError Template) : List Log.Record :=
  let told (message : Text) : Log.Record := ⟨.debug, "statusfmt.parser", message⟩
  told ("parsing template " ++ shown) ::
    match result with
    | .ok _ => []
    | .error e => [told ("parse failed at offset " ++ Text.ofInt e.position.offset ++ ": " ++ e.message)]

/-- All records of parsing a source: about the nesting depth, then about the parse. -/
def parseLog (frames requested : Int) (source : Text) : List Log.Record :=
  Nesting.clampRecords frames requested ++ parseRecords (Quoted.encode source) (parse frames requested source)

end BarTemplate
