import BarTemplate.Proofs.Calls
import BarTemplate.Proofs.Level

/-!
# What an error says about its source

Main statement: an error is faithful to the source that it is about (`errors_faithful`). Its position is the one of its
offset, which lies in the source, and its problem is what the source shows there (`Shown`). The failures of the grammar
are followed from the inside to the outside for what stands at them and right before them (`Grounded`); how many
templates are open at a brace that is refused is known from the places that a parse comes to.
-/

namespace BarTemplate

open Grammar Production

variable {s r : Text} {f : Failure} {room : Nat}

/-! ## What a text shows at a failure -/

namespace Grammar

/-- What stands right before a name of some kind. -/
inductive Leads : Text → Expected → Prop where
  | placeholder : Leads ['$'] .placeholderName
  | formatter : Leads ['.'] .formatterName
  | icon : Leads ('^' :: iconMarker) .iconName

/-- A failure fits the text that it is in: what stands at it and right before it is what its cause says. -/
inductive Grounded (s : Text) : Failure → Prop where
  | ending {c : Char} (closing : c = quote ∨ c = ')' ∨ c = '}') : Grounded s ⟨.expected (.char c), []⟩
  | other {c d : Char} {r : Text} (closing : c = quote ∨ c = ')') (differs : d ≠ c) :
      Grounded s ⟨.expected (.char c), d :: r⟩
  | trailing {r : Text} : Grounded s ⟨.trailing, '}' :: r⟩
  | tooDeep {r : Text} : Grounded s ⟨.tooDeep, '{' :: r⟩
  | dangling : Grounded s ⟨.danglingEscape, [escapeChar]⟩
  | unmarked {r : Text} (before : '^' :: r <:+ s) (none : ¬iconMarker <+: r) : Grounded s ⟨.expected .iconMarker, r⟩
  | nameless {lead r : Text} {what : Expected} (leads : Leads lead what) (before : lead ++ r <:+ s)
      (none : StopsAt isNameChar r) : Grounded s ⟨.expected what, r⟩

/-- What fits the end of a text fits the text. -/
theorem Grounded.mono (h : Grounded r f) (hr : r <:+ s) : Grounded s f := by
  cases h with
  | ending closing => exact .ending closing
  | other closing differs => exact .other closing differs
  | trailing => exact .trailing
  | tooDeep => exact .tooDeep
  | dangling => exact .dangling
  | unmarked before none => exact .unmarked (before.trans hr) none
  | nameless leads before none => exact .nameless leads (before.trans hr) none

/-- A closing character that is not where it has to be: the text is at its end, or there is another character. -/
theorem Grounded.closing {c : Char} (h : c = quote ∨ c = ')') (stop : NotAt c r) :
    Grounded s ⟨.expected (.char c), r⟩ := by
  cases r with
  | nil => exact .ending (h.imp_right Or.inl)
  | cons d r => exact .other h fun same => stop (congrArg some same)

/-- A quoted value fails for want of its quote, at the end of the source. -/
theorem ValueFails.grounded (h : ValueFails s f) : Grounded s f := by
  cases h
  exact .ending (Or.inl rfl)

/-- An argument fails for want of a quote, the one that opens its value or the one that closes it. -/
theorem ArgumentFails.grounded (h : ArgumentFails s f) : Grounded s f := by
  cases h with
  | missing _ stop =>
    refine .closing (Or.inl rfl) fun at_quote => ?_
    cases stop _ at_quote
  | value key value => exact value.grounded.mono ((List.suffix_cons _ _).trans key.suffix)

/-- The arguments after the first fail inside one of them or where the list should close. -/
theorem FurtherFails.grounded (h : FurtherFails s f) : Grounded s f := by
  induction h with
  | unclosed _ _ stop => exact .closing (Or.inr rfl) stop
  | argument before after argument =>
    have behind := after.suffix.trans ((List.suffix_cons _ _).trans before.suffix)
    exact argument.grounded.mono behind
  | further before after argument _ ih =>
    have behind := after.suffix.trans ((List.suffix_cons _ _).trans before.suffix)
    exact ih.mono (argument.settled.suffix.trans behind)

theorem ArgumentsFails.grounded (h : ArgumentsFails s f) : Grounded s f := by
  cases h with
  | empty _ _ stop => exact .closing (Or.inr rfl) stop
  | argument gap argument => exact argument.grounded.mono (gap.suffix.trans (List.suffix_cons _ _))
  | first gap argument rest =>
    exact rest.grounded.mono (argument.settled.suffix.trans (gap.suffix.trans (List.suffix_cons _ _)))

/-- A formatter fails right after its point or in its arguments. -/
theorem FormatterFails.grounded (h : FormatterFails s f) : Grounded s f := by
  cases h with
  | missing stop => exact .nameless .formatter (List.suffix_refl _) stop
  | arguments name arguments => exact arguments.grounded.mono (name.suffix.trans (List.suffix_cons _ _))

/-- A placeholder fails right after its dollar sign or in its formatter. -/
theorem PlaceholderFails.grounded (h : PlaceholderFails s f) : Grounded s f := by
  cases h with
  | missing stop => exact .nameless .placeholder (List.suffix_refl _) stop
  | formatter name formatter => exact formatter.grounded.mono (name.suffix.trans (List.suffix_cons _ _))

/-- An icon fails right after its circumflex or right after its marker. -/
theorem IconFails.grounded (h : IconFails s f) : Grounded s f := by
  cases h with
  | unmarked none => exact .unmarked (List.suffix_refl _) none
  | missing stop => exact .nameless .icon (List.suffix_refl _) stop

/-- Literal text fails only at an escape character that ends the source. -/
theorem LiteralFails.grounded (h : LiteralFails s f) : Grounded s f := by
  induction h with
  | dangling => exact .dangling
  | plain _ _ ih => exact ih.mono (List.suffix_cons _ _)
  | @escaped c s _ _ ih => exact ih.mono (List.suffix_append [escapeChar, c] s)

mutual

/-- A template in braces fails at its own brace, inside it, or where its closing brace should be. -/
theorem GroupFails.grounded : ∀ {room : Nat} {s : Text} {f : Failure}, GroupFails room s f → Grounded s f
  | _, _, _, .tooDeep => .tooDeep
  | _, _, _, .template h => (TemplateFails.grounded h).mono (List.suffix_cons _ _)
  | _, _, _, .unclosed _ _ => .ending (Or.inr (Or.inr rfl))

theorem TokenFails.grounded : ∀ {room : Nat} {s : Text} {f : Failure}, TokenFails room s f → Grounded s f
  | _, _, _, .literal h => h.grounded
  | _, _, _, .placeholder h => h.grounded
  | _, _, _, .icon h => h.grounded
  | _, _, _, .group h => GroupFails.grounded h

theorem AlternativeFails.grounded :
    ∀ {room : Nat} {s : Text} {f : Failure}, AlternativeFails room s f → Grounded s f
  | _, _, _, .token h => TokenFails.grounded h
  | _, _, _, .later token _ rest => (AlternativeFails.grounded rest).mono token.settled.suffix

theorem TemplateFails.grounded : ∀ {room : Nat} {s : Text} {f : Failure}, TemplateFails room s f → Grounded s f
  | _, _, _, .alternative h => AlternativeFails.grounded h
  | _, _, _, .later alternative _ rest => by
    obtain ⟨x, rfl, -⟩ := alternative.settled
    exact (TemplateFails.grounded rest).mono ((List.suffix_cons _ _).trans (List.suffix_append x _))

end

/-- A whole source fails inside its template or at a closing brace that is left over. -/
theorem Fails.grounded (h : Fails room s f) : Grounded s f := by
  cases h with
  | template h => exact h.grounded
  | trailing => exact .trailing

end Grammar

/-! ## What a source shows at an offset -/

/-- How an error quotes a source from an offset on: sixteen characters, or as many as there are. -/
def quotation (source : Text) (o : Nat) : Text :=
  if o = source.length then "at end of input"
  else "near '" ++ (source.drop o).take (min 16 (source.length - o)) ++ "'"

/-- What a source shows at an offset, where a parse that began at another one has a problem there. -/
inductive Shown (cap : Int) (source : Text) (start o : Nat) : Problem → Prop where
  /-- A closing character is missing at the end of the source. -/
  | ending {c : Char} (closing : c = '\'' ∨ c = ')' ∨ c = '}') (last : o = source.length) :
      Shown cap source start o (.expectedText [c] none)
  /-- Another character stands in the place of a closing quotation mark or parenthesis. -/
  | other {c d : Char} (closing : c = '\'' ∨ c = ')') (actual : source[o]? = some d) (differs : d ≠ c) :
      Shown cap source start o (.expectedText [c] (some [d]))
  /-- A closing brace stands behind the template. -/
  | trailing (brace : source[o]? = some '}') : Shown cap source start o (.trailingText ['}'])
  /-- An opening brace stands where as many templates are open as the cap allows, and neither more nor fewer. -/
  | tooDeep (brace : source[o]? = some '{')
      (opened : ∀ n : Nat, Reaches cap.toNat (source.drop start) n (source.drop o) ↔ (n : Int) = max 0 cap) :
      Shown cap source start o (.tooDeep cap)
  /-- The source ends with an escape character that makes nothing literal. -/
  | dangling (escape : source[o]? = some '\\') (last : o + 1 = source.length) :
      Shown cap source start o (.general "dangling '\\' at end of input")
  /-- A circumflex stands before something that is not the marker of icons. -/
  | unmarked (before : ['^'] <:+ source.take o) (none : ¬iconMarker <+: source.drop o) :
      Shown cap source start o (.general ("expected 'icon_' after '^' " ++ quotation source o))
  /-- What leads a name stands before something that is none. -/
  | nameless {lead : Text} {what : Expected} (leads : Leads lead what) (before : lead <:+ source.take o)
      (none : ∀ c ∈ source[o]?, isNameChar c = false) :
      Shown cap source start o (.general ("expected " ++ SyntaxError.describe what ++ " " ++ quotation source o))

/-- An error of a parse that began at an offset of a source: it has the position of a later offset in the source, and
its problem is what the source shows there. -/
structure SyntaxError.Faithful (cap : Int) (source : Text) (start : Nat) (e : SyntaxError) (o : Nat) : Prop where
  position : e.position = .ofOffset source o
  source_eq : e.source = source
  inside : start ≤ o ∧ o ≤ source.length
  shown : Shown cap source start o e.problem

open SyntaxError

variable {cap : Int} {source : Text} {start : Nat}

/-- What a message quotes of the rest is what the source shows at the offset of the rest. -/
theorem nearby_eq_quotation (x r : Text) : nearby r = quotation (x ++ r) x.length := by
  unfold nearby quotation
  cases r with
  | nil => simp
  | cons c r =>
    have inside : x.length ≠ (x ++ c :: r).length := by simp
    have cut : (c :: r).take 16 = (c :: r).take (min 16 (c :: r).length) := List.take_eq_take_min
    rw [if_neg inside, List.drop_left, List.length_append, Nat.add_sub_cancel_left, ← cut]
    rfl

/-- Where the nesting is too deep, as many templates are open as the cap allows. -/
theorem opened_iff {t : Text} (h : Fails cap.toNat s ⟨.tooDeep, t⟩) (n : Nat) :
    Reaches cap.toNat s n t ↔ (n : Int) = max 0 cap := by
  obtain ⟨-, reaches⟩ := fails_tooDeep_iff.mp h
  constructor
  · intro h
    have level := h.unique reaches
    omega
  · intro level
    have full : n = cap.toNat := by omega
    exact full ▸ reaches

/-- A failure that fits the source is a problem that the source shows. -/
theorem Grammar.Grounded.shown (h : Grounded source f) (within : f.rest <:+ source)
    (refused : f.cause = .tooDeep → Fails cap.toNat (source.drop start) f) :
    Shown cap source start (source.length - f.rest.length) (problemOf cap f) := by
  obtain ⟨x, hx⟩ := within
  have offset : source.length - f.rest.length = x.length := by
    rw [← hx, List.length_append, Nat.add_sub_cancel]
  have behind : source.drop x.length = f.rest := by rw [← hx, List.drop_left]
  have before : source.take x.length = x := by rw [← hx, List.take_left]
  have here : source[x.length]? = f.rest.head? := by rw [← List.head?_drop, behind]
  have quoted : nearby f.rest = quotation source x.length := by rw [nearby_eq_quotation x, hx]
  have preceded : ∀ lead : Text, lead ++ f.rest <:+ source → lead <:+ source.take x.length := by
    intro lead h
    rw [before]
    rw [← hx] at h
    exact List.suffix_append_self_iff.mp h
  rw [offset]
  -- only the number of open templates is not known from the text around the failure
  cases h with
  | ending closing => exact .ending closing (by rw [← hx, List.append_nil])
  | other closing differs => exact .other closing here differs
  | trailing => exact .trailing here
  | tooDeep =>
    refine .tooDeep here fun n => ?_
    rw [behind]
    exact opened_iff (refused rfl) n
  | dangling => exact .dangling here (by rw [← hx, List.length_append]; rfl)
  | unmarked circumflex none =>
    have shown : Shown cap source start x.length _ := .unmarked (preceded ['^'] circumflex) (behind ▸ none)
    rw [← quoted] at shown
    exact shown
  | nameless leads name none =>
    have shown : Shown cap source start x.length _ := .nameless leads (preceded _ name) (here ▸ none)
    rw [← quoted] at shown
    cases leads <;> exact shown

/-! ## Errors of calls -/

/-- A token that goes wrong at the beginning of a source goes wrong in the source. -/
theorem Grammar.Fails.of_token (h : TokenFails room s f) : Fails room s f :=
  .template (.alternative (.token h))

/-- A step that reads what a source may begin with, from a part of a token on, fails as a parse of the whole text does.
Every other step fails with something that fits the text and is not about the nesting. -/
theorem Step.fails {step : Step} (h : step.read room s = .failed f) :
    Fails room s f ∨ Grounded s f ∧ f.cause ≠ .tooDeep := by
  have braces := group_reads room
  cases step with
  | gap => cases h
  | name => exact absurd (Outcome.map_failed_iff.mp h) word_ne_failed
  | value =>
    have fails := value_failed_iff.mp (Outcome.map_failed_iff.mp h)
    exact Or.inr ⟨fails.grounded, ne_tooDeep_of_expected fails.expected⟩
  | argument =>
    have fails := argument_failed_iff.mp (Outcome.map_failed_iff.mp h)
    exact Or.inr ⟨fails.grounded, ne_tooDeep_of_expected fails.expected⟩
  | arguments =>
    have fails := arguments_failed_iff.mp (Outcome.map_failed_iff.mp h)
    exact Or.inr ⟨fails.grounded, ne_tooDeep_of_expected fails.expected⟩
  | formatter =>
    have fails := formatter_failed_iff.mp (Outcome.map_failed_iff.mp h)
    exact Or.inr ⟨fails.grounded, ne_tooDeep_of_expected fails.expected⟩
  | placeholder =>
    have fails := placeholder_failed_iff.mp (Outcome.map_failed_iff.mp h)
    exact Or.inl (.of_token (.placeholder fails))
  | icon =>
    have fails := icon_failed_iff.mp (Outcome.map_failed_iff.mp h)
    exact Or.inl (.of_token (.icon fails))
  | text =>
    have fails := text_failed_iff.mp (Outcome.map_failed_iff.mp h)
    exact Or.inl (.of_token (.literal fails))
  | group =>
    have fails := braces.failed_iff.mp (Outcome.map_failed_iff.mp h)
    exact Or.inl (.of_token (.group fails))
  | token =>
    have fails := (token_failed_iff braces).mp (Outcome.map_failed_iff.mp h)
    exact Or.inl (.of_token fails)
  | alternative =>
    have error := Outcome.ofExcept_failed_iff.mp (Outcome.map_failed_iff.mp h)
    exact Or.inl (.template (.alternative ((alternative_error_iff braces).mp error)))
  | template =>
    have error := Outcome.ofExcept_failed_iff.mp (Outcome.map_failed_iff.mp h)
    exact Or.inl (.template ((template_error_iff braces).mp error))
  | whole =>
    have error := Outcome.ofExcept_failed_iff.mp (Outcome.map_failed_iff.mp h)
    exact Or.inl (whole_error_iff.mp error)

/-- A failure at the end of a source from an offset on is a faithful error. -/
theorem faithful_of_fails (begins : start ≤ source.length) (within : f.rest <:+ source.drop start)
    (h : Fails cap.toNat (source.drop start) f ∨ Grounded (source.drop start) f ∧ f.cause ≠ .tooDeep) :
    ∃ o, (ofFailure source cap f).Faithful cap source start o := by
  have behind : source.drop start <:+ source := List.drop_suffix start source
  have grounded : Grounded source f := (h.elim Fails.grounded And.left).mono behind
  have refused : f.cause = .tooDeep → Fails cap.toNat (source.drop start) f := fun cause =>
    h.resolve_right fun other => other.2 cause
  have length := within.length_le
  rw [List.length_drop] at length
  refine ⟨source.length - f.rest.length, rfl, rfl, ⟨by omega, Nat.sub_le _ _⟩, ?_⟩
  exact grounded.shown (within.trans behind) refused

/-- Every error is faithful to the source, whichever method raises it and wherever the calls before it have left the
cursor, and so is every error of a parse. -/
theorem errors_faithful (frames requested : Int) (source : Text) :
    (∀ steps, ∃ calls, (Machine.ofSource frames requested source).callAll steps {} = some calls ∧
      ∀ c ∈ calls, ∀ e, c.outcome = .error e →
        ∃ o, e.Faithful (Nesting.clamp frames requested) source c.before.cursor o) ∧
      ∀ e, parse frames requested source = .error e → ∃ o, e.Faithful (Nesting.clamp frames requested) source 0 o := by
  constructor
  · intro steps
    have run : (Machine.ofSource frames requested source).callAll steps {} = some _ :=
      Machine.callAll_eq steps 0 (Nat.zero_le _)
    refine ⟨_, run, ?_⟩
    intro c hc e he
    obtain ⟨begins, eq⟩ := Machine.mem_callsIn steps 0 (Nat.zero_le _) hc
    rw [eq] at he
    obtain ⟨f, read, rfl⟩ := Machine.callIn_error he
    exact faithful_of_fails begins (Step.within_of_failed read).1 (Step.fails read)
  · intro e he
    obtain ⟨f, fails, rfl⟩ := parseUnder_error_iff.mp he
    have within := ((Production.whole _).within (whole_error_iff.mpr fails)).1
    exact faithful_of_fails (Nat.zero_le _) within (Or.inl fails)

end BarTemplate
