import BarTemplate.Production.Formatter

/-!
# The grammar of templates

What stands at the beginning of a text, as relations between the text, what is read from it, and the rest. Reading is
greedy: a word or a run of literal text goes on for as long as it can, and an optional part is there if its first
character is. The grammar does not limit the nesting of braces.
-/

namespace BarTemplate.Grammar

open Production (quote iconMarker)

/-- A rest does not begin with a character that has a property. -/
def StopsAt (p : Char → Bool) (r : Text) : Prop :=
  ∀ c ∈ r.head?, p c = false

/-- A rest does not begin with a given character. -/
def NotAt (c : Char) (r : Text) : Prop :=
  r.head? ≠ some c

/-- A word over a class of characters: one of them, and such characters and combining marks for as long as they follow.
-/
inductive WordAt (p : Char → Bool) : Text → Text → Text → Prop where
  | word {c : Char} {w r : Text} (first : p c = true) (more : ∀ d ∈ w, (p d || Unicode.isMark d) = true)
      (stop : StopsAt (fun d => p d || Unicode.isMark d) r) : WordAt p (c :: w ++ r) (c :: w) r

/-- White space, which may be empty, for as long as it goes. -/
inductive GapAt : Text → Text → Prop where
  | gap {g r : Text} (all : ∀ c ∈ g, isGap c = true) (stop : StopsAt isGap r) : GapAt (g ++ r) r

/-- The value of an argument: a word, or what stands between two quotation marks. -/
inductive ValueAt : Text → Text → Text → Prop where
  | bare {s w r : Text} (word : WordAt isValueChar s w r) : ValueAt s w r
  | quoted {v r : Text} (inner : quote ∉ v) : ValueAt (quote :: v ++ quote :: r) v r

/-- An argument: a key, with a value exactly if a colon follows. -/
inductive ArgumentAt : Text → Argument → Text → Prop where
  | bare {s k r : Text} (key : WordAt isNameChar s k r) (stop : NotAt ':' r) : ArgumentAt s { key := k } r
  | valued {s k t v r : Text} (key : WordAt isNameChar s k (':' :: t)) (value : ValueAt t v r) :
      ArgumentAt s { key := k, value := some v } r

/-- The arguments that follow the first one, up to the closing parenthesis. White space may stand around every comma and
before the parenthesis. -/
inductive FurtherAt : Text → List Argument → Text → Prop where
  | close {s r : Text} (gap : GapAt s (')' :: r)) : FurtherAt s [] r
  | further {s t u v r : Text} {a : Argument} {as : List Argument} (before : GapAt s (',' :: t)) (after : GapAt t u)
      (argument : ArgumentAt u a v) (rest : FurtherAt v as r) : FurtherAt s (a :: as) r

/-- Arguments in parentheses. -/
inductive ArgumentsAt : Text → List Argument → Text → Prop where
  | empty {t r : Text} (gap : GapAt t (')' :: r)) : ArgumentsAt ('(' :: t) [] r
  | first {t u v r : Text} {a : Argument} {as : List Argument} (gap : GapAt t u) (argument : ArgumentAt u a v)
      (rest : FurtherAt v as r) : ArgumentsAt ('(' :: t) (a :: as) r

/-- A formatter: a point and a name, with arguments exactly if an opening parenthesis follows. -/
inductive FormatterAt : Text → Formatter → Text → Prop where
  | bare {t n r : Text} (name : WordAt isNameChar t n r) (stop : NotAt '(' r) : FormatterAt ('.' :: t) { name := n } r
  | applied {t n u r : Text} {as : List Argument} (name : WordAt isNameChar t n u) (arguments : ArgumentsAt u as r) :
      FormatterAt ('.' :: t) { name := n, arguments := as } r

/-- A placeholder: a dollar sign and a name, with a formatter exactly if a point follows. -/
inductive PlaceholderAt : Text → Placeholder → Text → Prop where
  | bare {t n r : Text} (name : WordAt isNameChar t n r) (stop : NotAt '.' r) : PlaceholderAt ('$' :: t) { name := n } r
  | formatted {t n u r : Text} {f : Formatter} (name : WordAt isNameChar t n u) (formatter : FormatterAt u f r) :
      PlaceholderAt ('$' :: t) { name := n, formatter := some f } r

/-- Literal text, which may be empty, for as long as it goes: plain characters, and any characters after the escape
character. -/
inductive LiteralAt : Text → Text → Text → Prop where
  | stop {r : Text} (stop : StopsAt (fun c => isPlain c || c == escapeChar) r) : LiteralAt r [] r
  | plain {c : Char} {s v r : Text} (plain : isPlain c = true) (rest : LiteralAt s v r) : LiteralAt (c :: s) (c :: v) r
  | escaped {c : Char} {s v r : Text} (rest : LiteralAt s v r) : LiteralAt (escapeChar :: c :: s) (c :: v) r

mutual

/-- A token. -/
inductive TokenAt : Text → Token → Text → Prop where
  | text {s v r : Text} (literal : LiteralAt s v r) (nonempty : v ≠ []) : TokenAt s (.text v) r
  | placeholder {s r : Text} {p : Placeholder} (placeholder : PlaceholderAt s p r) : TokenAt s (.placeholder p) r
  | icon {t n r : Text} (name : WordAt isNameChar t n r) : TokenAt ('^' :: iconMarker ++ t) (.icon n) r
  | group {t r : Text} {inner : List (List Token)} (template : TemplateAt t inner ('}' :: r)) : TokenAt ('{' :: t) (.group inner) r

/-- An alternative: tokens up to a bar, a closing brace or the end. -/
inductive AlternativeAt : Text → List Token → Text → Prop where
  | stop {r : Text} (stop : ∀ c ∈ r.head?, c = '|' ∨ c = '}') : AlternativeAt r [] r
  | token {s u r : Text} {t : Token} {ts : List Token} (token : TokenAt s t u) (rest : AlternativeAt u ts r) :
      AlternativeAt s (t :: ts) r

/-- A template: alternatives with bars between them. -/
inductive TemplateAt : Text → List (List Token) → Text → Prop where
  | last {s r : Text} {a : List Token} (alternative : AlternativeAt s a r) (stop : NotAt '|' r) : TemplateAt s [a] r
  | bar {s u r : Text} {a : List Token} {as : List (List Token)} (alternative : AlternativeAt s a ('|' :: u))
      (rest : TemplateAt u as r) : TemplateAt s (a :: as) r

end

/-- A source as a whole is a template. -/
def Derives (source : Text) (t : Template) : Prop :=
  TemplateAt source t []

end BarTemplate.Grammar
