import BarTemplate.Proofs.Cut
import BarTemplate.Proofs.Parse

/-!
# Sources put together

Main statement: sources with a bar or with braces between them parse to what their templates make up (`parse_joined`).
Where a source ends that is a template, another one may go on that does not begin with literal text: the last
alternative of the one goes on with the first alternative of the other, and a failure of the other is one of both
(`TemplateAt.join`, `TemplateAt.join_fails`). A source behind a bar or a brace is of this kind.
-/

namespace BarTemplate

namespace Grammar

variable {s u r : Text} {f : Failure} {room : Nat} {a b : List Token} {as bs : List (List Token)}

/-! ## Tokens and alternatives in front -/

/-- A template with one alternative is that alternative. -/
theorem templateAt_singleton_iff : TemplateAt s [a] r ↔ AlternativeAt s a r ∧ NotAt '|' r := by
  constructor
  · intro h
    cases h with
    | last alternative stop => exact ⟨alternative, stop⟩
    | bar _ rest => cases rest
  · intro h
    obtain ⟨alternative, stop⟩ := h
    exact .last alternative stop

/-- A template with further alternatives is its first one, a bar and a template of the others. -/
theorem templateAt_cons_cons_iff :
    TemplateAt s (a :: b :: as) r ↔ ∃ v, AlternativeAt s a ('|' :: v) ∧ TemplateAt v (b :: as) r := by
  constructor
  · intro h
    cases h with
    | bar alternative rest => exact ⟨_, alternative, rest⟩
  · intro h
    obtain ⟨v, alternative, rest⟩ := h
    exact .bar alternative rest

/-- A token in front of a template belongs to its first alternative. -/
theorem TemplateAt.token {t : Token} (token : TokenAt s t u) (h : TemplateAt u (b :: bs) r) :
    TemplateAt s ((t :: b) :: bs) r := by
  cases h with
  | last alternative stop => exact .last (.token token alternative) stop
  | bar alternative rest => exact .bar (.token token alternative) rest

/-! ## Where a source ends and another one begins -/

/-- Where a text ends, one that has a property may follow. -/
theorem StandsFor.of_end {Z : Text → Prop} (hu : Z u) : StandsFor Z r (r ++ u) := by
  have ending : StandsFor Z (r ++ []) (r ++ u) := .append (Or.inl hu)
  rwa [List.append_nil] at ending

/-- An alternative at the end of a source goes on with an alternative that does not begin with literal text. -/
theorem AlternativeAt.join : ∀ {s : Text} {a : List Token}, AlternativeAt s a [] → EndsToken u → AlternativeAt u b r →
    AlternativeAt (s ++ u) (a ++ b) r
  | _, _, .stop _, _, next => next
  | _, _, .token first rest, hu, next => by
    obtain ⟨x, rfl, -, first'⟩ := first.settled
    rw [List.append_assoc]
    exact .token (first' _ (.of_end hu)) (AlternativeAt.join rest hu next)

/-- A failure of what goes on after an alternative is a failure of both together. -/
theorem AlternativeAt.join_fails : ∀ {s : Text} {a : List Token}, AlternativeAt s a [] →
    Token.depthOfAlternative a ≤ room → EndsToken u → AlternativeFails room u f → AlternativeFails room (s ++ u) f
  | _, _, .stop _, _, _, next => next
  | _, _, .token first rest, depth, hu, next => by
    obtain ⟨ht, hts⟩ := Nat.max_le.mp depth
    obtain ⟨x, rfl, -, first'⟩ := first.settled
    rw [List.append_assoc]
    exact .later (first' _ (.of_end hu)) ht (AlternativeAt.join_fails rest hts hu next)

/-- An alternative before a bar is the same if more comes behind the bar. -/
theorem AlternativeAt.before_bar {v : Text} (h : AlternativeAt s a ('|' :: v)) :
    AlternativeAt (s ++ u) a ('|' :: (v ++ u)) := by
  obtain ⟨x, rfl, alternative'⟩ := h.settled
  rw [List.append_assoc]
  exact alternative' _ .of_cons

/-- A template at the end of a source goes on with a template that does not begin with literal text. Its last
alternative goes on with the first one of the other, and the further ones follow. -/
theorem TemplateAt.join (h : TemplateAt s (as ++ [a]) []) (hu : EndsToken u) (next : TemplateAt u (b :: bs) r) :
    TemplateAt (s ++ u) (as ++ (a ++ b) :: bs) r := by
  induction as generalizing s with
  | nil =>
    obtain ⟨alternative, -⟩ := templateAt_singleton_iff.mp h
    cases next with
    | last alternative' stop => exact .last (alternative.join hu alternative') stop
    | bar alternative' rest => exact .bar (alternative.join hu alternative') rest
  | cons c as ih =>
    obtain ⟨d, ds, hd⟩ : ∃ d ds, as ++ [a] = d :: ds := List.exists_cons_of_ne_nil (by simp)
    rw [List.cons_append, hd] at h
    obtain ⟨v, alternative, rest⟩ := templateAt_cons_cons_iff.mp h
    rw [← hd] at rest
    exact .bar alternative.before_bar (ih rest)

/-- A failure after a template at the end of a source is a failure of both. -/
theorem TemplateAt.join_fails (h : TemplateAt s as []) (depth : Token.depthOfTemplate as ≤ room) (hu : EndsToken u)
    (next : TemplateFails room u f) : TemplateFails room (s ++ u) f := by
  induction as generalizing s with
  | nil => cases h
  | cons c as ih =>
    obtain ⟨hc, has⟩ := Nat.max_le.mp depth
    cases h with
    | last alternative _ =>
      cases next with
      | alternative failing => exact .alternative (alternative.join_fails hc hu failing)
      | later alternative' depth' rest =>
        refine .later (alternative.join hu alternative') ?_ rest
        rw [Token.depthOfAlternative_append]
        exact Nat.max_le.mpr ⟨hc, depth'⟩
    | bar alternative rest => exact .later alternative.before_bar hc (ih rest has)

/-! ## Bars and braces -/

theorem endsToken_bar : EndsToken ('|' :: s) :=
  stopsAt_cons.mpr (by decide)

theorem endsToken_brace : EndsToken ('{' :: s) :=
  stopsAt_cons.mpr (by decide)

/-- A template has a last alternative. -/
theorem TemplateAt.eq_append (h : TemplateAt s as r) : ∃ bs a, as = bs ++ [a] :=
  ⟨_, _, (List.dropLast_concat_getLast h.ne_nil).symm⟩

/-- Templates with a bar between them. -/
theorem Derives.bar (ha : Derives s as) (hb : Derives u bs) : Derives (s ++ '|' :: u) (as ++ bs) := by
  obtain ⟨as, a, rfl⟩ := TemplateAt.eq_append ha
  have behind : TemplateAt ('|' :: u) ([] :: bs) [] := .bar (.stop (by simp)) hb
  have joined := TemplateAt.join ha endsToken_bar behind
  rw [List.append_nil] at joined
  rw [List.append_assoc, List.singleton_append]
  exact joined

/-- What goes wrong behind a bar goes wrong behind a template and a bar. -/
theorem Derives.bar_fails (ha : Derives s as) (depth : Token.depthOfTemplate as ≤ room) (hf : Fails room u f) :
    Fails room (s ++ '|' :: u) f := by
  cases hf with
  | template hf =>
    have behind : TemplateFails room ('|' :: u) _ := .later (.stop (by simp)) (Nat.zero_le _) hf
    exact .template (TemplateAt.join_fails ha depth endsToken_bar behind)
  | trailing hb depth' =>
    obtain ⟨as, a, rfl⟩ := TemplateAt.eq_append ha
    have behind := TemplateAt.join ha endsToken_bar (.bar (.stop (by simp)) hb)
    refine .trailing behind ?_
    simp only [Token.depthOfTemplate_append, Token.depthOfTemplate, List.append_nil] at depth ⊢
    omega

/-- A template in braces between two others is a token between the last alternative of the one and the first
alternative of the other. -/
theorem Derives.braces {v : Text} {inner : Template} (ha : Derives s (as ++ [a])) (hi : Derives u inner)
    (hb : Derives v (b :: bs)) : Derives (s ++ '{' :: (u ++ '}' :: v)) (as ++ (a ++ .group inner :: b) :: bs) := by
  obtain ⟨x, rfl, inner'⟩ := TemplateAt.settled hi
  rw [List.append_nil] at *
  have group : TokenAt ('{' :: (x ++ '}' :: v)) (.group inner) v :=
    .group (inner' _ (Or.inl fun c hc => (Option.some.inj hc).symm))
  exact TemplateAt.join ha endsToken_brace (.token group hb)

end Grammar

open Grammar SyntaxError

/-! ## Parses of sources put together -/

/-- Parsing goes through bars and braces. Behind a source that parses and a bar, a source that parses adds its
alternatives, and one with an error has the same error, as much later as there is before it. A source in braces between
two others, all of which parse, is a token between the last alternative of the one and the first alternative of the
other, provided that the cap allows a template that is one level deeper. -/
theorem parse_joined (frames requested : Int) (s u : Text) (as : Template) (hs : parse frames requested s = .ok as) :
    (∀ bs, parse frames requested u = .ok bs → parse frames requested (s ++ '|' :: u) = .ok (as ++ bs)) ∧
      (∀ e, parse frames requested u = .error e → ∃ e', parse frames requested (s ++ '|' :: u) = .error e' ∧
        e'.problem = e.problem ∧ e'.message = e.message ∧
        e'.position.offset = s.length + 1 + e.position.offset) ∧
      ∀ v inner bs, parse frames requested u = .ok inner → (inner.depth : Int) < Nesting.clamp frames requested →
        parse frames requested v = .ok bs → ∃ front last first more, as = front ++ [last] ∧ bs = first :: more ∧
          parse frames requested (s ++ '{' :: u ++ '}' :: v) =
            .ok (front ++ (last ++ .group inner :: first) :: more) := by
  obtain ⟨derives, depth⟩ := parseUnder_ok_iff.mp hs
  have room : Token.depthOfTemplate as ≤ (Nesting.clamp frames requested).toNat := by
    unfold Template.depth at depth
    omega
  refine ⟨?_, ?_, ?_⟩
  · intro bs hu
    obtain ⟨derives', depth'⟩ := parseUnder_ok_iff.mp hu
    refine parseUnder_ok_iff.mpr ⟨derives.bar derives', ?_⟩
    unfold Template.depth at depth depth' ⊢
    rw [Token.depthOfTemplate_append]
    omega
  · intro e he
    obtain ⟨f, hf, rfl⟩ := parseUnder_error_iff.mp he
    refine ⟨_, parseUnder_error_iff.mpr ⟨f, derives.bar_fails room hf, rfl⟩, rfl, rfl, ?_⟩
    have inside := hf.rest_length_le
    rw [offset_ofFailure, offset_ofFailure, List.length_append, List.length_cons]
    omega
  · intro v inner bs hu deeper hv
    obtain ⟨front, last, rfl⟩ := TemplateAt.eq_append derives
    obtain ⟨derives', depth'⟩ := parseUnder_ok_iff.mp hv
    obtain ⟨first, more, rfl⟩ := List.exists_cons_of_ne_nil (TemplateAt.ne_nil derives')
    refine ⟨front, last, first, more, rfl, rfl, ?_⟩
    obtain ⟨inside, -⟩ := parseUnder_ok_iff.mp hu
    have source : s ++ '{' :: u ++ '}' :: v = s ++ '{' :: (u ++ '}' :: v) := by simp
    rw [source]
    refine parseUnder_ok_iff.mpr ⟨derives.braces inside derives', ?_⟩
    unfold Template.depth at depth depth' deeper ⊢
    simp only [Token.depthOfTemplate_append, Token.depthOfTemplate, Token.depthOfAlternative_append,
      Token.depthOfAlternative, Token.depth] at depth depth' ⊢
    omega

/-- A letter behind a bar is an alternative, one in braces a token between two others, and a dollar sign behind a bar
lacks its name there. -/
theorem letters_joined :
    parse 1000 100 ['x', '|', 'x'] = .ok [[.text ['x']], [.text ['x']]] ∧
      parse 1000 100 ['x', '{', 'x', '}', 'x'] = .ok [[.text ['x'], .group [[.text ['x']]], .text ['x']]] ∧
      ∃ e, parse 1000 100 ['x', '|', '$'] = .error e ∧ e.position.offset = 3 := by
  have letter : parse 1000 100 ['x'] = .ok [[.text ['x']]] := by
    have literal : LiteralAt ['x'] ['x'] [] := .plain (by decide) (.stop stopsAt_nil)
    have derives : Derives ['x'] [[.text ['x']]] :=
      .last (.token (.text literal (by decide)) (.stop (by simp))) (by simp [NotAt])
    exact parseUnder_ok_iff.mpr ⟨derives, by decide⟩
  obtain ⟨bar, -, braces⟩ := parse_joined 1000 100 ['x'] ['x'] _ letter
  refine ⟨bar _ letter, ?_, ?_⟩
  · obtain ⟨front, last, first, more, hs, hv, joined⟩ := braces ['x'] _ _ letter (by decide) letter
    obtain ⟨rfl, hl⟩ : [] = front ∧ [[.text ['x']]] = [last] := List.append_inj' hs rfl
    obtain rfl := List.singleton_inj.mp hl
    obtain ⟨rfl, rfl⟩ := List.cons.inj hv
    exact joined
  · obtain ⟨-, failing, -⟩ := parse_joined 1000 100 ['x'] ['$'] _ letter
    have fails : Fails (Nesting.clamp 1000 100).toNat ['$'] ⟨.expected .placeholderName, []⟩ :=
      .template (.alternative (.token (.placeholder (.missing stopsAt_nil))))
    obtain ⟨e, he, -, -, offset⟩ := failing _ (parseUnder_error_iff.mpr ⟨_, fails, rfl⟩)
    exact ⟨e, he, offset⟩

end BarTemplate
