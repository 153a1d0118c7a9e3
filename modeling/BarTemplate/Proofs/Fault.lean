import BarTemplate.Template.Depth
import BarTemplate.Template.Grammar

/-!
# Where a source stops being a template

The counterpart of the grammar for sources that are not derived from it: relations between a text and the failure that
reading it ends in. A production that has begun and cannot go on fails where the first character stands that does not
fit. Parts that come before the failure are read as the grammar has them, so that a failure has exactly one place. The
room for nesting counts here: a brace that opens one level too many is a failure of its own.
-/

namespace BarTemplate.Grammar

open Production (quote iconMarker)

/-- A value that begins and does not end: a quotation mark without another one. -/
inductive ValueFails : Text → Failure → Prop where
  | unclosed {v : Text} (inner : quote ∉ v) : ValueFails (quote :: v) ⟨.expected (.char quote), []⟩

/-- An argument with a colon and no value after it. -/
inductive ArgumentFails : Text → Failure → Prop where
  | missing {s k t : Text} (key : WordAt isNameChar s k (':' :: t))
      (stop : StopsAt (fun c => c == quote || isValueChar c) t) :
      ArgumentFails s ⟨.expected (.char quote), t⟩
  | value {s k t : Text} {f : Failure} (key : WordAt isNameChar s k (':' :: t)) (value : ValueFails t f) :
      ArgumentFails s f

/-- No further argument: a comma, if there is one, stands before something that is none. -/
def NoFurther (s : Text) : Prop :=
  ∀ t u, GapAt s (',' :: t) → GapAt t u → StopsAt isNameChar u

/-- Arguments after the first one that the closing parenthesis does not follow. A comma that no argument follows is
where the parenthesis is missing. -/
inductive FurtherFails : Text → Failure → Prop where
  | unclosed {s u : Text} (none : NoFurther s) (gap : GapAt s u) (stop : NotAt ')' u) :
      FurtherFails s ⟨.expected (.char ')'), u⟩
  | argument {s t u : Text} {f : Failure} (before : GapAt s (',' :: t)) (after : GapAt t u)
      (argument : ArgumentFails u f) : FurtherFails s f
  | further {s t u v : Text} {a : Argument} {f : Failure} (before : GapAt s (',' :: t)) (after : GapAt t u)
      (argument : ArgumentAt u a v) (rest : FurtherFails v f) : FurtherFails s f

/-- Arguments in parentheses that go wrong after the opening one. -/
inductive ArgumentsFails : Text → Failure → Prop where
  | empty {t u : Text} (gap : GapAt t u) (none : StopsAt isNameChar u) (stop : NotAt ')' u) :
      ArgumentsFails ('(' :: t) ⟨.expected (.char ')'), u⟩
  | argument {t u : Text} {f : Failure} (gap : GapAt t u) (argument : ArgumentFails u f) : ArgumentsFails ('(' :: t) f
  | first {t u v : Text} {a : Argument} {f : Failure} (gap : GapAt t u) (argument : ArgumentAt u a v)
      (rest : FurtherFails v f) : ArgumentsFails ('(' :: t) f

/-- A formatter without a name, or with arguments that go wrong. -/
inductive FormatterFails : Text → Failure → Prop where
  | missing {t : Text} (stop : StopsAt isNameChar t) : FormatterFails ('.' :: t) ⟨.expected .formatterName, t⟩
  | arguments {t n u : Text} {f : Failure} (name : WordAt isNameChar t n u) (arguments : ArgumentsFails u f) :
      FormatterFails ('.' :: t) f

/-- A placeholder without a name, or with a formatter that goes wrong. -/
inductive PlaceholderFails : Text → Failure → Prop where
  | missing {t : Text} (stop : StopsAt isNameChar t) : PlaceholderFails ('$' :: t) ⟨.expected .placeholderName, t⟩
  | formatter {t n u : Text} {f : Failure} (name : WordAt isNameChar t n u) (formatter : FormatterFails u f) :
      PlaceholderFails ('$' :: t) f

/-- A circumflex without the marker of icons, or a marker without a name. -/
inductive IconFails : Text → Failure → Prop where
  | unmarked {t : Text} (none : ¬iconMarker <+: t) : IconFails ('^' :: t) ⟨.expected .iconMarker, t⟩
  | missing {t : Text} (stop : StopsAt isNameChar t) : IconFails ('^' :: iconMarker ++ t) ⟨.expected .iconName, t⟩

/-- Literal text whose last escape character has nothing to make literal. -/
inductive LiteralFails : Text → Failure → Prop where
  | dangling : LiteralFails [escapeChar] ⟨.danglingEscape, [escapeChar]⟩
  | plain {c : Char} {s : Text} {f : Failure} (plain : isPlain c = true) (rest : LiteralFails s f) :
      LiteralFails (c :: s) f
  | escaped {c : Char} {s : Text} {f : Failure} (rest : LiteralFails s f) : LiteralFails (escapeChar :: c :: s) f

mutual

/-- A template in braces, with room for so many levels, that is one level too deep, goes wrong inside or is not closed.
-/
inductive GroupFails : Nat → Text → Failure → Prop where
  | tooDeep {t : Text} : GroupFails 0 ('{' :: t) ⟨.tooDeep, '{' :: t⟩
  | template {room : Nat} {t : Text} {f : Failure} (template : TemplateFails room t f) :
      GroupFails (room + 1) ('{' :: t) f
  | unclosed {room : Nat} {t : Text} {inner : List (List Token)} (template : TemplateAt t inner [])
      (depth : Token.depthOfTemplate inner ≤ room) : GroupFails (room + 1) ('{' :: t) ⟨.expected (.char '}'), []⟩

/-- A token that goes wrong. -/
inductive TokenFails : Nat → Text → Failure → Prop where
  | literal {room : Nat} {s : Text} {f : Failure} (literal : LiteralFails s f) : TokenFails room s f
  | placeholder {room : Nat} {s : Text} {f : Failure} (placeholder : PlaceholderFails s f) : TokenFails room s f
  | icon {room : Nat} {s : Text} {f : Failure} (icon : IconFails s f) : TokenFails room s f
  | group {room : Nat} {s : Text} {f : Failure} (group : GroupFails room s f) : TokenFails room s f

/-- An alternative with a token that goes wrong, after tokens that do not. -/
inductive AlternativeFails : Nat → Text → Failure → Prop where
  | token {room : Nat} {s : Text} {f : Failure} (token : TokenFails room s f) : AlternativeFails room s f
  | later {room : Nat} {s u : Text} {t : Token} {f : Failure} (token : TokenAt s t u) (depth : t.depth ≤ room)
      (rest : AlternativeFails room u f) : AlternativeFails room s f

/-- A template with an alternative that goes wrong, after alternatives that do not. -/
inductive TemplateFails : Nat → Text → Failure → Prop where
  | alternative {room : Nat} {s : Text} {f : Failure} (alternative : AlternativeFails room s f) : TemplateFails room s f
  | later {room : Nat} {s u : Text} {a : List Token} {f : Failure} (alternative : AlternativeAt s a ('|' :: u))
      (depth : Token.depthOfAlternative a ≤ room) (rest : TemplateFails room u f) : TemplateFails room s f

end

/-- A source that is no template: one that goes wrong, or one that a closing brace without an opening one cuts short. -/
inductive Fails (room : Nat) : Text → Failure → Prop where
  | template {s : Text} {f : Failure} (template : TemplateFails room s f) : Fails room s f
  | trailing {s r : Text} {t : List (List Token)} (template : TemplateAt s t ('}' :: r))
      (depth : Token.depthOfTemplate t ≤ room) : Fails room s ⟨.trailing, '}' :: r⟩

/-! ## Causes -/

variable {s : Text} {f : Failure}

/-- A value fails at the end of the text only, where its closing quotation mark is missing. -/
theorem ValueFails.rest_eq_nil (h : ValueFails s f) : f.rest = [] := by
  cases h
  rfl

/-- A value fails for something that is expected. -/
theorem ValueFails.expected (h : ValueFails s f) : ∃ what, f.cause = .expected what := by
  cases h
  exact ⟨_, rfl⟩

/-- So does an argument. -/
theorem ArgumentFails.expected (h : ArgumentFails s f) : ∃ what, f.cause = .expected what := by
  cases h with
  | missing => exact ⟨_, rfl⟩
  | value _ value => exact value.expected

/-- So does a further argument. -/
theorem FurtherFails.expected (h : FurtherFails s f) : ∃ what, f.cause = .expected what := by
  induction h with
  | unclosed => exact ⟨_, rfl⟩
  | argument _ _ argument => exact argument.expected
  | further _ _ _ _ ih => exact ih

/-- So do arguments. -/
theorem ArgumentsFails.expected (h : ArgumentsFails s f) : ∃ what, f.cause = .expected what := by
  cases h with
  | empty => exact ⟨_, rfl⟩
  | argument _ argument => exact argument.expected
  | first _ _ further => exact further.expected

/-- So does a formatter. -/
theorem FormatterFails.expected (h : FormatterFails s f) : ∃ what, f.cause = .expected what := by
  cases h with
  | missing => exact ⟨_, rfl⟩
  | arguments _ arguments => exact arguments.expected

/-- So does a placeholder. -/
theorem PlaceholderFails.expected (h : PlaceholderFails s f) : ∃ what, f.cause = .expected what := by
  cases h with
  | missing => exact ⟨_, rfl⟩
  | formatter _ formatter => exact formatter.expected

/-- So does an icon. -/
theorem IconFails.expected (h : IconFails s f) : ∃ what, f.cause = .expected what := by
  cases h <;> exact ⟨_, rfl⟩

/-- Literal text fails for a dangling escape only. -/
theorem LiteralFails.cause_eq (h : LiteralFails s f) : f.cause = .danglingEscape := by
  induction h with
  | dangling => rfl
  | plain _ _ ih => exact ih
  | escaped _ ih => exact ih

/-- A failure for something that is expected is none for the depth. -/
theorem ne_tooDeep_of_expected {f : Failure} (h : ∃ what, f.cause = .expected what) : f.cause ≠ .tooDeep := by
  obtain ⟨what, cause⟩ := h
  simp [cause]

end BarTemplate.Grammar
