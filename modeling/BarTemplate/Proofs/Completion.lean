import BarTemplate.Proofs.Stability

/-!
# Completing what has begun

What comes before a failure can be completed to a template (`Fails.completable`). Every part of a template that has
begun is brought to its end by a few characters: a missing name by a letter, a missing value by a pair of quotation
marks, an open quotation mark, parenthesis or brace by its closing counterpart. The completions are made from the inside
to the outside, and each leaves open what comes after it.
-/

namespace BarTemplate.Grammar

open Production (quote iconMarker)

variable {s r z : Text} {f : Failure} {room : Nat}

/-! ## Arguments, formatters and placeholders -/

/-- The part of a text before a failure, with some characters after it, is something before every rest with a property.
-/
def Completable (Z : Text → Prop) (At : Text → Text → Prop) (s : Text) (f : Failure) : Prop :=
  ∃ x w, s = x ++ f.rest ∧ x ≠ [] ∧ ∀ z, Z z → At (x ++ (w ++ z)) z

/-- The closing parenthesis stands at its place where the gap before it has no length. -/
theorem gapAt_closing : GapAt (')' :: z) (')' :: z) :=
  gapAt_self (stopsAt_cons.mpr (by decide))

/-- An argument that fails can be completed, by a quoted value behind its colon or by the quote that closes its value.
-/
theorem ArgumentFails.completable (h : ArgumentFails s f) : ∃ a, Completable EndsArgument (ArgumentAt · a ·) s f := by
  cases h with
  | @missing k _ key _ =>
    obtain ⟨rfl, -, key'⟩ := key.settled (fun z (hz : EndsArgument z) => hz.stopsAt (by decide))
    refine ⟨{ key := k, value := some [] }, k ++ [':'], [quote, quote], by simp, by simp, fun z _ => ?_⟩
    rw [List.append_assoc]
    exact .valued (key' _ .of_cons) (.quoted (v := []) (by simp))
  | @value k _ _ key value =>
    obtain ⟨rfl, -, key'⟩ := key.settled (fun z (hz : EndsArgument z) => hz.stopsAt (by decide))
    obtain @⟨v, inner⟩ := value
    refine ⟨{ key := k, value := some v }, k ++ ':' :: quote :: v, [quote], by simp, by simp, fun z _ => ?_⟩
    rw [List.append_assoc]
    exact .valued (key' _ .of_cons) (.quoted inner)

/-- Arguments after the first one, which the failure may leave none of, are closed by a parenthesis. The argument before
them ends in either case. -/
theorem FurtherFails.completable (h : FurtherFails s f) :
    ∃ as x w, s = x ++ f.rest ∧ ∀ z, StandsFor EndsArgument s (x ++ (w ++ z)) ∧ FurtherAt (x ++ (w ++ z)) as z := by
  induction h with
  | unclosed _ gap _ =>
    obtain ⟨g, rfl, gap'⟩ := gap.settled
    exact ⟨[], g, [')'], rfl, fun z => ⟨.append (Or.inl rfl), .close (gap' (')' :: z) (Or.inl rfl))⟩⟩
  | argument before after argument =>
    obtain ⟨g, rfl, before'⟩ := before.settled
    obtain ⟨g', rfl, after'⟩ := after.settled
    obtain ⟨a, x, w, rfl, hx, argument'⟩ := argument.completable
    refine ⟨[a], g ++ ',' :: (g' ++ x), w ++ [')'], by simp, fun z => ?_⟩
    have source : g ++ ',' :: (g' ++ x) ++ (w ++ [')'] ++ z) = g ++ ',' :: (g' ++ (x ++ (w ++ ')' :: z))) := by simp
    rw [source]
    have closed : FurtherAt (')' :: z) [] z := .close gapAt_closing
    exact ⟨.append .of_cons, .further (before' _ .of_cons) (after' _ (.of_ne_nil hx)) (argument' _ rfl) closed⟩
  | @further _ _ _ _ a _ before after argument _ ih =>
    obtain ⟨g, rfl, before'⟩ := before.settled
    obtain ⟨g', rfl, after'⟩ := after.settled
    obtain ⟨x, rfl, hx, argument'⟩ := argument.settled
    obtain ⟨as, y, w, rfl, further'⟩ := ih
    refine ⟨a :: as, g ++ ',' :: (g' ++ (x ++ y)), w, by simp, fun z => ?_⟩
    have source : g ++ ',' :: (g' ++ (x ++ y)) ++ (w ++ z) = g ++ ',' :: (g' ++ (x ++ (y ++ (w ++ z)))) := by simp
    rw [source]
    obtain ⟨stands, rest⟩ := further' z
    exact ⟨.append .of_cons, .further (before' _ .of_cons) (after' _ (.of_ne_nil hx)) (argument' _ stands) rest⟩

/-- An argument list that fails can be completed to one that closes with its parenthesis. -/
theorem ArgumentsFails.completable (h : ArgumentsFails s f) :
    ∃ as, Completable (fun _ => True) (ArgumentsAt · as ·) s f := by
  cases h with
  | empty gap _ _ =>
    obtain ⟨g, rfl, gap'⟩ := gap.settled
    exact ⟨[], '(' :: g, [')'], by simp, by simp, fun z _ => .empty (gap' (')' :: z) (Or.inl rfl))⟩
  | argument gap argument =>
    obtain ⟨g, rfl, gap'⟩ := gap.settled
    obtain ⟨a, x, w, rfl, hx, argument'⟩ := argument.completable
    refine ⟨[a], '(' :: (g ++ x), w ++ [')'], by simp, by simp, fun z _ => ?_⟩
    have source : '(' :: (g ++ x) ++ (w ++ [')'] ++ z) = '(' :: (g ++ (x ++ (w ++ ')' :: z))) := by simp
    rw [source]
    exact .first (gap' _ (.of_ne_nil hx)) (argument' _ rfl) (.close gapAt_closing)
  | @first _ _ _ a _ gap argument further =>
    obtain ⟨g, rfl, gap'⟩ := gap.settled
    obtain ⟨x, rfl, hx, argument'⟩ := argument.settled
    obtain ⟨as, y, w, rfl, further'⟩ := further.completable
    refine ⟨a :: as, '(' :: (g ++ (x ++ y)), w, by simp, by simp, fun z _ => ?_⟩
    have source : '(' :: (g ++ (x ++ y)) ++ (w ++ z) = '(' :: (g ++ (x ++ (y ++ (w ++ z)))) := by simp
    rw [source]
    obtain ⟨stands, rest⟩ := further' z
    exact .first (gap' _ (.of_ne_nil hx)) (argument' _ stands) rest

/-- A letter is a name where the alternative ends after it. -/
theorem wordAt_letter (hz : EndsAlternative z) : WordAt isNameChar (['a'] ++ z) ['a'] z :=
  .word (by decide) (by simp) hz.stopsAt_name

/-- A formatter that fails can be completed, by a name or by the rest of its arguments. -/
theorem FormatterFails.completable (h : FormatterFails s f) :
    ∃ a, Completable EndsAlternative (FormatterAt · a ·) s f := by
  cases h with
  | missing =>
    refine ⟨{ name := ['a'] }, ['.'], ['a'], rfl, by simp, fun z hz => ?_⟩
    exact .bare (wordAt_letter hz) (hz.notAt (by decide) (by decide))
  | @arguments _ n _ _ name arguments =>
    obtain ⟨rfl, -, name'⟩ := name.settled fun _ => EndsAlternative.stopsAt_name
    obtain ⟨as, x, w, rfl, hx, arguments'⟩ := arguments.completable
    refine ⟨{ name := n, arguments := as }, '.' :: (n ++ x), w, by simp, by simp, fun z _ => ?_⟩
    rw [List.cons_append, List.append_assoc]
    exact .applied (name' _ (.of_ne_nil hx)) (arguments' z trivial)

/-- A placeholder that fails can be completed, by a name or by the rest of its formatter. -/
theorem PlaceholderFails.completable (h : PlaceholderFails s f) :
    ∃ a, Completable EndsAlternative (PlaceholderAt · a ·) s f := by
  cases h with
  | missing =>
    refine ⟨{ name := ['a'] }, ['$'], ['a'], rfl, by simp, fun z hz => ?_⟩
    exact .bare (wordAt_letter hz) (hz.notAt (by decide) (by decide))
  | @formatter _ n _ _ name formatter =>
    obtain ⟨rfl, -, name'⟩ := name.settled fun _ => EndsAlternative.stopsAt_name
    obtain ⟨a, x, w, rfl, hx, formatter'⟩ := formatter.completable
    refine ⟨{ name := n, formatter := some a }, '$' :: (n ++ x), w, by simp, by simp, fun z hz => ?_⟩
    rw [List.cons_append, List.append_assoc]
    exact .formatted (name' _ (.of_ne_nil hx)) (formatter' z hz)

/-- An icon that fails is completed by the name `a` where the name should stand. -/
theorem IconFails.completable (h : IconFails s f) : Completable EndsAlternative (TokenAt · (.icon ['a']) ·) s f := by
  cases h with
  | unmarked => exact ⟨['^'], iconMarker ++ ['a'], rfl, by simp, fun z hz => .icon (wordAt_letter hz)⟩
  | missing => exact ⟨'^' :: iconMarker, ['a'], rfl, by simp, fun z hz => .icon (wordAt_letter hz)⟩

/-! ## Tokens, alternatives and templates -/

/-- The literal text before a dangling escape character, which may be empty. -/
theorem LiteralFails.completable (h : LiteralFails s f) :
    ∃ x v, s = x ++ f.rest ∧ (v = [] → x = []) ∧
      ∀ z, StopsAt (fun c => isPlain c || c == escapeChar) z → LiteralAt (x ++ z) v z := by
  induction h with
  | dangling => exact ⟨[], [], rfl, fun _ => rfl, fun z stop => .stop stop⟩
  | @plain c _ _ plain _ ih =>
    obtain ⟨x, v, rfl, -, literal⟩ := ih
    exact ⟨c :: x, c :: v, rfl, by simp, fun z stop => .plain plain (literal z stop)⟩
  | @escaped c _ _ _ ih =>
    obtain ⟨x, v, rfl, -, literal⟩ := ih
    exact ⟨escapeChar :: c :: x, c :: v, rfl, by simp, fun z stop => .escaped (literal z stop)⟩

/-- The part of a text before a failure, with some characters after it, is an alternative that the room allows. What
stands before the text ends in front of the alternative as it does in front of the text. -/
def AlternativeCompletable (room : Nat) (s : Text) (f : Failure) : Prop :=
  ∃ x w ts, s = x ++ f.rest ∧ Token.depthOfAlternative ts ≤ room ∧
    ∀ z, EndsAlternative z → StandsFor EndsAlternative s (x ++ (w ++ z)) ∧ AlternativeAt (x ++ (w ++ z)) ts z

/-- The part of a text before a failure, with some characters after it, is a template that the room allows. -/
def TemplateCompletable (room : Nat) (s : Text) (f : Failure) : Prop :=
  ∃ x w as, s = x ++ f.rest ∧ Token.depthOfTemplate as ≤ room ∧ ∀ z, EndsTemplate z → TemplateAt (x ++ (w ++ z)) as z

/-- A failure in a token leaves an alternative of one token. -/
theorem Completable.alternative {t : Token} (h : Completable EndsAlternative (TokenAt · t ·) s f)
    (depth : t.depth ≤ room) : AlternativeCompletable room s f := by
  obtain ⟨x, w, rfl, hx, token⟩ := h
  refine ⟨x, w, [t], rfl, ?_, fun z hz => ⟨.of_ne_nil hx, .token (token z hz) (.stop hz)⟩⟩
  simpa [Token.depthOfAlternative] using depth

/-- What can be completed to a template can be completed to a group. -/
theorem TemplateCompletable.group {t : Text} (h : TemplateCompletable room t f) :
    AlternativeCompletable (room + 1) ('{' :: t) f := by
  obtain ⟨x, w, as, rfl, depth, template⟩ := h
  have token : Completable EndsAlternative (TokenAt · (.group as) ·) ('{' :: (x ++ f.rest)) f := by
    refine ⟨'{' :: x, w ++ ['}'], rfl, by simp, fun z _ => ?_⟩
    have closed := template ('}' :: z) (fun c hc => (Option.some.inj hc).symm)
    rw [List.append_assoc]
    exact .group closed
  exact token.alternative (by simpa [Token.depth] using depth)

mutual

/-- A template in braces that fails can be completed by the rest of its template and a closing brace. A refused brace
needs nothing: the alternative may end before it. -/
theorem GroupFails.completable :
    ∀ {room : Nat} {s : Text} {f : Failure}, GroupFails room s f → AlternativeCompletable room s f
  | _, _, _, .tooDeep =>
    ⟨[], [], [], rfl, Nat.zero_le _, fun _ hz => ⟨Or.inl hz, .stop hz⟩⟩
  | _, _, _, .template h => (TemplateFails.completable h).group
  | _, _, _, .unclosed template depth => by
    obtain ⟨x, rfl, template'⟩ := template.settled
    exact TemplateCompletable.group ⟨x, [], _, rfl, depth, fun z hz => template' z (Or.inl hz)⟩

/-- A token that fails can be completed to an alternative that starts with it. -/
theorem TokenFails.completable :
    ∀ {room : Nat} {s : Text} {f : Failure}, TokenFails room s f → AlternativeCompletable room s f
  | _, _, _, .literal h => by
    obtain ⟨x, v, rfl, empty, literal⟩ := h.completable
    by_cases hv : v = []
    · obtain rfl := empty hv
      exact ⟨[], [], [], rfl, Nat.zero_le _, fun z hz => ⟨Or.inl hz, .stop hz⟩⟩
    · refine ⟨x, [], [.text v], rfl, by simp [Token.depthOfAlternative, Token.depth], fun z hz => ?_⟩
      have text := literal z (hz.stopsAt (by decide) (by decide))
      exact ⟨.append (Or.inl hz), .token (.text text hv) (.stop hz)⟩
  | _, _, _, .placeholder h => by
    obtain ⟨a, x, w, rfl, hx, placeholder⟩ := h.completable
    exact Completable.alternative ⟨x, w, rfl, hx, fun z hz => .placeholder (placeholder z hz)⟩ (Nat.zero_le _)
  | _, _, _, .icon h => h.completable.alternative (Nat.zero_le _)
  | _, _, _, .group h => GroupFails.completable h

/-- An alternative that fails can be completed, whatever tokens were read before the failure. -/
theorem AlternativeFails.completable : ∀ {room : Nat} {s : Text} {f : Failure},
    AlternativeFails room s f → AlternativeCompletable room s f
  | _, _, _, .token h => TokenFails.completable h
  | _, _, _, @AlternativeFails.later _ _ _ t _ h depth rest => by
    obtain ⟨x, rfl, hx, token⟩ := h.settled
    obtain ⟨y, w, ts, rfl, depths, rest'⟩ := AlternativeFails.completable rest
    refine ⟨x ++ y, w, t :: ts, by simp, Nat.max_le.mpr ⟨depth, depths⟩, fun z hz => ?_⟩
    obtain ⟨stands, tokens⟩ := rest' z hz
    rw [List.append_assoc]
    exact ⟨.of_ne_nil hx, .token (token _ (stands.imp fun _ hz => hz.endsToken)) tokens⟩

/-- A template that fails can be completed, whatever alternatives were read before the failure. -/
theorem TemplateFails.completable : ∀ {room : Nat} {s : Text} {f : Failure},
    TemplateFails room s f → TemplateCompletable room s f
  | _, _, _, .alternative h => by
    obtain ⟨x, w, ts, rfl, depth, alternative⟩ := AlternativeFails.completable h
    refine ⟨x, w, [ts], rfl, by simpa [Token.depthOfTemplate] using depth, fun z hz => ?_⟩
    exact .last (alternative z hz.endsAlternative).2 (fun bar => absurd (hz _ bar) (by decide))
  | _, _, _, @TemplateFails.later _ _ _ a _ h depth rest => by
    obtain ⟨x, rfl, alternative⟩ := h.settled
    obtain ⟨y, w, as, rfl, depths, rest'⟩ := TemplateFails.completable rest
    refine ⟨x ++ '|' :: y, w, a :: as, by simp, Nat.max_le.mpr ⟨depth, depths⟩, fun z hz => ?_⟩
    rw [List.append_assoc]
    exact .bar (alternative _ .of_cons) (rest' z hz)

end

/-- What comes before the failure of a source is the beginning of a template that the room allows. -/
theorem Fails.completable (h : Fails room s f) : ∃ x w t, s = x ++ f.rest ∧ Derives (x ++ w) t ∧ t.depth ≤ room := by
  have nothing : EndsTemplate [] := fun c hc => by cases hc
  cases h with
  | template h =>
    obtain ⟨x, w, as, rfl, depth, template⟩ := h.completable
    have whole := template [] nothing
    rw [List.append_nil] at whole
    exact ⟨x, w, as, rfl, whole, depth⟩
  | trailing h depth =>
    obtain ⟨x, rfl, template⟩ := h.settled
    exact ⟨x, [], _, rfl, template [] (Or.inl nothing), depth⟩

end BarTemplate.Grammar
