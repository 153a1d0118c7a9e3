import BarTemplate.Proofs.Completion
import BarTemplate.Proofs.Parse

/-!
# The first mistake of a source

Main statement: an error stands at the first mistake (`error_at_first_mistake`). What comes before it can be completed
to a template, and but for three problems that one character does not decide, the character at the error is fatal:
whatever follows it, the source has the same error at the same place.

The second part follows the failures of the grammar from the inside to the outside (`Fails.fatal`). What was read before
a failure depends on one character of the rest at most, and the cause of the failure depends on that character alone.
-/

namespace BarTemplate

open Grammar Production

variable {s r z : Text} {f : Failure} {room : Nat}

/-! ## What follows a fatal character -/

/-- The first character of the rest decides a failure. It does not if it is an escape character with nothing after it,
if the marker of icons is incomplete, or if it is a comma that an argument may yet follow. -/
structure Failure.Decided (f : Failure) : Prop where
  rest_ne_nil : f.rest ≠ []
  not_dangling : f.cause ≠ .danglingEscape
  not_marker : f.cause ≠ .expected .iconMarker
  not_comma : f.cause = .expected (.char ')') → f.rest.head? ≠ some ','

namespace Grammar

/-- A text fails in the same way whatever comes after the first character of the rest that the failure leaves. -/
def Fatal (FailsAt : Text → Failure → Prop) (s : Text) (f : Failure) : Prop :=
  ∃ x, s = x ++ f.rest ∧ ∀ r', r'.head? = f.rest.head? → FailsAt (x ++ r') ⟨f.cause, r'⟩

/-- After the character at which a reading failed anything may follow, for what was read before it. -/
theorem standsFor_of_head {Z : Text → Prop} {x r' : Text} (hd : f.Decided) (head : r'.head? = f.rest.head?) :
    StandsFor Z (x ++ f.rest) (x ++ r') :=
  .append (Or.inr ⟨hd.rest_ne_nil, head⟩)

/-- The character at which an argument fails lets no argument through, whatever follows it. -/
theorem ArgumentFails.fatal (h : ArgumentFails s f) (hd : f.Decided) : Fatal ArgumentFails s f := by
  cases h with
  | @missing k _ key stop =>
    obtain ⟨rfl, -, key'⟩ := key.settled (fun z (hz : EndsArgument z) => hz.stopsAt (by decide))
    refine ⟨k ++ [':'], by simp, fun r' head => ?_⟩
    rw [List.append_assoc]
    exact .missing (key' _ .of_cons) (stopsAt_of_head head stop)
  | value _ value => exact absurd value.rest_eq_nil hd.rest_ne_nil

/-- Neither does the character at which the arguments after the first fail. -/
theorem FurtherFails.fatal (h : FurtherFails s f) (hd : f.Decided) : Fatal FurtherFails s f := by
  induction h with
  | unclosed _ gap stop =>
    obtain ⟨g, rfl, gap'⟩ := gap.settled
    refine ⟨g, rfl, fun r' head => ?_⟩
    have close := gap' r' (Or.inr ⟨hd.rest_ne_nil, head⟩)
    refine .unclosed (fun t u comma _ => ?_) close (notAt_of_head_eq head stop)
    -- A comma would be the first character of the rest, where one may still lead to an argument: not decided.
    obtain rfl := (gapAt_iff.mp close).symm.trans (gapAt_iff.mp comma)
    exact absurd head.symm (hd.not_comma rfl)
  | argument before after argument =>
    obtain ⟨g, rfl, before'⟩ := before.settled
    obtain ⟨g', rfl, after'⟩ := after.settled
    obtain ⟨x, rfl, argument'⟩ := argument.fatal hd
    refine ⟨g ++ ',' :: (g' ++ x), by simp, fun r' head => ?_⟩
    have source : g ++ ',' :: (g' ++ x) ++ r' = g ++ ',' :: (g' ++ (x ++ r')) := by simp
    rw [source]
    exact .argument (before' _ .of_cons) (after' _ (standsFor_of_head hd head)) (argument' r' head)
  | further before after argument _ ih =>
    obtain ⟨g, rfl, before'⟩ := before.settled
    obtain ⟨g', rfl, after'⟩ := after.settled
    obtain ⟨x, rfl, hx, argument'⟩ := argument.settled
    obtain ⟨y, rfl, further'⟩ := ih hd
    refine ⟨g ++ ',' :: (g' ++ (x ++ y)), by simp, fun r' head => ?_⟩
    have source : g ++ ',' :: (g' ++ (x ++ y)) ++ r' = g ++ ',' :: (g' ++ (x ++ (y ++ r'))) := by simp
    rw [source]
    have last := argument' _ (standsFor_of_head hd head)
    exact .further (before' _ .of_cons) (after' _ (.of_ne_nil hx)) last (further' r' head)

/-- The character at which an argument list fails makes every list with that beginning fail there. -/
theorem ArgumentsFails.fatal (h : ArgumentsFails s f) (hd : f.Decided) : Fatal ArgumentsFails s f := by
  cases h with
  | empty gap none stop =>
    obtain ⟨g, rfl, gap'⟩ := gap.settled
    refine ⟨'(' :: g, rfl, fun r' head => ?_⟩
    exact .empty (gap' r' (Or.inr ⟨hd.rest_ne_nil, head⟩)) (stopsAt_of_head head none) (notAt_of_head_eq head stop)
  | argument gap argument =>
    obtain ⟨g, rfl, gap'⟩ := gap.settled
    obtain ⟨x, rfl, argument'⟩ := argument.fatal hd
    refine ⟨'(' :: (g ++ x), by simp, fun r' head => ?_⟩
    rw [List.cons_append, List.append_assoc]
    exact .argument (gap' _ (standsFor_of_head hd head)) (argument' r' head)
  | first gap argument further =>
    obtain ⟨g, rfl, gap'⟩ := gap.settled
    obtain ⟨x, rfl, hx, argument'⟩ := argument.settled
    obtain ⟨y, rfl, further'⟩ := further.fatal hd
    refine ⟨'(' :: (g ++ (x ++ y)), by simp, fun r' head => ?_⟩
    have source : '(' :: (g ++ (x ++ y)) ++ r' = '(' :: (g ++ (x ++ (y ++ r'))) := by simp
    rw [source]
    exact .first (gap' _ (.of_ne_nil hx)) (argument' _ (standsFor_of_head hd head)) (further' r' head)

/-- The character at which a formatter fails makes every formatter with that beginning fail there. -/
theorem FormatterFails.fatal (h : FormatterFails s f) (hd : f.Decided) : Fatal FormatterFails s f := by
  cases h with
  | missing stop => exact ⟨['.'], rfl, fun r' head => .missing (stopsAt_of_head head stop)⟩
  | @arguments _ n _ _ name arguments =>
    obtain ⟨rfl, -, name'⟩ := name.settled fun _ => EndsAlternative.stopsAt_name
    obtain ⟨x, rfl, arguments'⟩ := arguments.fatal hd
    refine ⟨'.' :: (n ++ x), by simp, fun r' head => ?_⟩
    rw [List.cons_append, List.append_assoc]
    exact .arguments (name' _ (standsFor_of_head hd head)) (arguments' r' head)

/-- The character at which a placeholder fails makes every placeholder with that beginning fail there. -/
theorem PlaceholderFails.fatal (h : PlaceholderFails s f) (hd : f.Decided) : Fatal PlaceholderFails s f := by
  cases h with
  | missing stop => exact ⟨['$'], rfl, fun r' head => .missing (stopsAt_of_head head stop)⟩
  | @formatter _ n _ _ name formatter =>
    obtain ⟨rfl, -, name'⟩ := name.settled fun _ => EndsAlternative.stopsAt_name
    obtain ⟨x, rfl, formatter'⟩ := formatter.fatal hd
    refine ⟨'$' :: (n ++ x), by simp, fun r' head => ?_⟩
    rw [List.cons_append, List.append_assoc]
    exact .formatter (name' _ (standsFor_of_head hd head)) (formatter' r' head)

/-- The character at which an icon fails makes every icon with that beginning fail there. -/
theorem IconFails.fatal (h : IconFails s f) (hd : f.Decided) : Fatal IconFails s f := by
  cases h with
  | unmarked => exact absurd rfl hd.not_marker
  | missing stop =>
    exact ⟨'^' :: iconMarker, rfl, fun r' head => .missing (stopsAt_of_head head stop)⟩

mutual

/-- The character at which a group fails makes every group with that beginning fail there. A brace refused for want of
room is such a character itself. -/
theorem GroupFails.fatal :
    ∀ {room : Nat} {s : Text} {f : Failure}, GroupFails room s f → f.Decided → Fatal (GroupFails room) s f
  | _, _, _, .tooDeep, _ => by
    refine ⟨[], rfl, fun r' head => ?_⟩
    cases r' with
    | nil => cases head
    | cons c r' =>
      cases head
      exact .tooDeep
  | _, _, _, .template h, hd => by
    obtain ⟨x, rfl, template⟩ := TemplateFails.fatal h hd
    exact ⟨'{' :: x, rfl, fun r' head => .template (template r' head)⟩
  | _, _, _, .unclosed _ _, hd => absurd rfl hd.rest_ne_nil

/-- The character at which a token fails makes every token with that beginning fail there. A dangling escape is ruled
out, since it fails at the end of the source. -/
theorem TokenFails.fatal :
    ∀ {room : Nat} {s : Text} {f : Failure}, TokenFails room s f → f.Decided → Fatal (TokenFails room) s f
  | _, _, _, .literal h, hd => absurd h.cause_eq hd.not_dangling
  | _, _, _, .placeholder h, hd => by
    obtain ⟨x, rfl, placeholder⟩ := h.fatal hd
    exact ⟨x, rfl, fun r' head => .placeholder (placeholder r' head)⟩
  | _, _, _, .icon h, hd => by
    obtain ⟨x, rfl, icon⟩ := h.fatal hd
    exact ⟨x, rfl, fun r' head => .icon (icon r' head)⟩
  | _, _, _, .group h, hd => by
    obtain ⟨x, rfl, group⟩ := GroupFails.fatal h hd
    exact ⟨x, rfl, fun r' head => .group (group r' head)⟩

/-- The tokens before the failing one are read as before, so the failure is that of the token. -/
theorem AlternativeFails.fatal : ∀ {room : Nat} {s : Text} {f : Failure},
    AlternativeFails room s f → f.Decided → Fatal (AlternativeFails room) s f
  | _, _, _, .token h, hd => by
    obtain ⟨x, rfl, token⟩ := TokenFails.fatal h hd
    exact ⟨x, rfl, fun r' head => .token (token r' head)⟩
  | _, _, _, .later h depth rest, hd => by
    obtain ⟨x, rfl, -, token⟩ := h.settled
    obtain ⟨y, rfl, rest'⟩ := AlternativeFails.fatal rest hd
    refine ⟨x ++ y, by simp, fun r' head => ?_⟩
    rw [List.append_assoc]
    exact .later (token _ (standsFor_of_head hd head)) depth (rest' r' head)

/-- The alternatives before the failing one are read as before, so the failure is that of the alternative. -/
theorem TemplateFails.fatal : ∀ {room : Nat} {s : Text} {f : Failure},
    TemplateFails room s f → f.Decided → Fatal (TemplateFails room) s f
  | _, _, _, .alternative h, hd => by
    obtain ⟨x, rfl, alternative⟩ := AlternativeFails.fatal h hd
    exact ⟨x, rfl, fun r' head => .alternative (alternative r' head)⟩
  | _, _, _, .later h depth rest, hd => by
    obtain ⟨x, rfl, alternative⟩ := h.settled
    obtain ⟨y, rfl, rest'⟩ := TemplateFails.fatal rest hd
    refine ⟨x ++ '|' :: y, by simp, fun r' head => ?_⟩
    rw [List.append_assoc]
    exact .later (alternative _ .of_cons) depth (rest' r' head)

end

/-- A decided failure stays what it is whatever follows the character that decides it. -/
theorem Fails.fatal (h : Fails room s f) (hd : f.Decided) : Fatal (Fails room) s f := by
  cases h with
  | template h =>
    obtain ⟨x, rfl, template⟩ := h.fatal hd
    exact ⟨x, rfl, fun r' head => .template (template r' head)⟩
  | trailing h depth =>
    obtain ⟨x, rfl, template⟩ := h.settled
    refine ⟨x, rfl, fun r' head => ?_⟩
    cases r' with
    | nil => cases head
    | cons c r' =>
      cases head
      exact .trailing (template _ .of_cons) depth

end Grammar

/-! ## Problems -/

/-- One character does not decide the problem: an escape character that nothing follows, an incomplete marker of icons,
or a comma in the place of a closing parenthesis. -/
def Problem.Undecided : Problem → Prop
  | .general message => message = "dangling '\\' at end of input" ∨ ("expected 'icon_' after '^' " : Text) <+: message
  | .expectedText what actual => what = [')'] ∧ actual = some [',']
  | .trailingText _ => False
  | .tooDeep _ => False

/-- Two problems are of one kind: they are equal, or the same part of a template is missing, and only the words about
what stands in its place differ. -/
def Problem.SameKind (p q : Problem) : Prop :=
  p = q ∨ ∃ what m n,
    p = .general ("expected " ++ SyntaxError.describe what ++ " " ++ m) ∧
      q = .general ("expected " ++ SyntaxError.describe what ++ " " ++ n)

open SyntaxError

variable {cap : Int}

/-- A failure before the end of the source whose problem is decided is decided. -/
theorem decided_of_problem (hr : f.rest ≠ []) (h : ¬(problemOf cap f).Undecided) : f.Decided where
  rest_ne_nil := hr
  not_dangling cause := h (by simp [problemOf, cause, Problem.Undecided])
  not_marker cause := by
    refine h ?_
    simp only [problemOf, cause]
    exact Or.inr ⟨nearby f.rest, rfl⟩
  not_comma cause comma := h (by simp [problemOf, cause, comma, Problem.Undecided])

/-- Failures with one cause, at rests that begin with the same character, are problems of one kind. -/
theorem sameKind_of_head (head : r.head? = f.rest.head?) : (problemOf cap ⟨f.cause, r⟩).SameKind (problemOf cap f) := by
  obtain ⟨cause, rest⟩ := f
  cases cause with
  | expected what =>
    cases what with
    | char c => exact Or.inl (by simp [problemOf, head])
    | _ => exact Or.inr ⟨_, nearby r, nearby rest, rfl, rfl⟩
  | danglingEscape => exact Or.inl rfl
  | tooDeep => exact Or.inl rfl
  | trailing => exact Or.inl (by simp only [problemOf, List.take_one, head])

/-! ## Errors -/

/-- An error stands at the first mistake. The source up to it is the beginning of a template. The character at it,
unless one character does not decide the problem, makes the same error of every source that begins in the same way. An
error at the end of the source means that the source is incomplete. -/
theorem error_at_first_mistake (frames requested : Int) (s : Text) (e : SyntaxError)
    (h : parse frames requested s = .error e) :
    ∃ o : Nat, e.position.offset = o ∧ o ≤ s.length ∧
      (∃ t u, parse frames requested (s.take o ++ t) = .ok u) ∧
      (o < s.length → ¬e.problem.Undecided → ∀ t, ∃ e', parse frames requested (s.take (o + 1) ++ t) = .error e' ∧
        e'.problem.SameKind e.problem ∧ e'.position.offset = o) ∧
      (o = s.length → ∃ t u, parse frames requested (s ++ t) = .ok u) := by
  obtain ⟨f, hf, rfl⟩ := parseUnder_error_iff.mp h
  obtain ⟨x, w, t, hs, derives, depth⟩ := hf.completable
  have length : s.length = x.length + f.rest.length := by rw [hs, List.length_append]
  have offset : s.length - f.rest.length = x.length := by omega
  have before : s.take x.length = x := by rw [hs, List.take_left']; rfl
  have completed : parse frames requested (x ++ w) = .ok t := parseUnder_ok_iff.mpr ⟨derives, by omega⟩
  refine ⟨x.length, by rw [offset_ofFailure, offset], by omega, ⟨w, t, by rw [before]; exact completed⟩, ?_, ?_⟩
  · intro inside undecided t
    have nonempty : f.rest ≠ [] := fun hr => by simp [hr] at length; omega
    obtain ⟨y, hy, fatal⟩ := hf.fatal (decided_of_problem nonempty undecided)
    obtain rfl : y = x := List.append_cancel_right (hy.symm.trans hs)
    obtain ⟨c, rest, hc⟩ := List.exists_cons_of_ne_nil nonempty
    have source : s.take (y.length + 1) ++ t = y ++ c :: t := by
      rw [hs, hc, List.take_length_add_append]
      simp
    have head : (c :: t).head? = f.rest.head? := by rw [hc]; rfl
    rw [source]
    refine ⟨_, parseUnder_error_iff.mpr ⟨_, fatal (c :: t) head, rfl⟩, sameKind_of_head head, ?_⟩
    rw [offset_ofFailure, List.length_append, Nat.add_sub_cancel]
  · intro ending
    refine ⟨w, t, ?_⟩
    have whole : s = x := by rw [← before, ending, List.take_length]
    rw [whole]
    exact completed

/-- A dollar sign may have a name after it, and a point after it has the same error whatever follows. -/
theorem error_after_dollar :
    (∃ u v, parse 1000 100 (['$'] ++ u) = .ok v) ∧
      ∀ u, ∃ e, parse 1000 100 (['$', '.'] ++ u) = .error e ∧ e.position.offset = 1 := by
  have fails : Fails (Nesting.clamp 1000 100).toNat ['$', '.'] ⟨.expected .placeholderName, ['.']⟩ :=
    .template (.alternative (.token (.placeholder (.missing (stopsAt_cons.mpr (by decide))))))
  obtain ⟨o, at', -, completed, fatal, -⟩ :=
    error_at_first_mistake 1000 100 ['$', '.'] _ (parseUnder_error_iff.mpr ⟨_, fails, rfl⟩)
  obtain rfl : o = 1 := by
    have one : (1 : Int) = o := at'
    omega
  refine ⟨completed, fun u => ?_⟩
  obtain ⟨e, he, -, offset⟩ := fatal (by decide) (by simp [Problem.Undecided, SyntaxError.ofFailure, problemOf]; decide) u
  exact ⟨e, he, offset⟩

end BarTemplate
