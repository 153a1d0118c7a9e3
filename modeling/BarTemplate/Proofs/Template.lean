import BarTemplate.Production.Template
import BarTemplate.Proofs.Formatter

/-!
# Templates and their grammar

Tokens, alternatives and templates are read exactly as the grammar has them, as far as the room for nesting goes. What
is read inside braces is a parameter up to `group_reads`, where an induction on the room closes the circle: a template
in braces is read with one level of room less.
-/

namespace BarTemplate.Grammar

open Production

variable {s r t u : Text} {f : Failure} {room : Nat} {nested : Reader Template}

/-! ## First characters -/

/-- A placeholder begins with a dollar sign. -/
theorem PlaceholderAt.head {p : Placeholder} (h : PlaceholderAt s p r) : s.head? = some '$' := by
  cases h <;> rfl

/-- So does a placeholder that fails. -/
theorem PlaceholderFails.head (h : PlaceholderFails s f) : s.head? = some '$' := by
  cases h <;> rfl

/-- An icon that fails begins with a circumflex. -/
theorem IconFails.head (h : IconFails s f) : s.head? = some '^' := by
  cases h <;> rfl

/-- A template in braces that fails begins with an opening brace. -/
theorem GroupFails.head (h : GroupFails room s f) : s.head? = some '{' := by
  cases h <;> rfl

/-- A template in braces begins with an opening brace. -/
theorem TokenAt.head_of_group {inner : Template} (h : TokenAt s (.group inner) r) : s.head? = some '{' := by
  cases h
  rfl

/-- A text that begins with a given character does not begin with another one. -/
theorem notAt_of_head {c d : Char} (h : s.head? = some c) (hd : c ≠ d) : NotAt d s := by
  rw [NotAt, h, ne_eq, Option.some.injEq]
  exact hd

/-- Literal text does not begin with a special character other than the escape character. -/
theorem text_absent_of_head {c : Char} (h : s.head? = some c) (hc : (isPlain c || c == escapeChar) = false) :
    text.read s = .absent := by
  rw [text_absent_iff]
  intro d hd
  rw [h, Option.mem_some_iff] at hd
  exact hd ▸ hc

/-- The characters that are neither plain nor the escape character begin or end a token. -/
theorem not_literal_iff {c : Char} :
    (isPlain c || c == escapeChar) = false ↔ c = '$' ∨ c = '^' ∨ c = '{' ∨ c = '|' ∨ c = '}' := by
  constructor
  · intro h
    simp only [isPlain, specialChars, Bool.or_eq_false_iff, Bool.not_eq_eq_eq_not, Bool.not_false, List.contains_iff_mem,
      List.mem_cons, List.not_mem_nil, or_false, beq_eq_false_iff_ne] at h
    obtain ⟨hc | hc | hc | hc | hc | hc, he⟩ := h
    · exact Or.inl hc
    · exact absurd hc he
    · exact Or.inr (Or.inl hc)
    · exact Or.inr (Or.inr (Or.inl hc))
    · exact Or.inr (Or.inr (Or.inr (Or.inl hc)))
    · exact Or.inr (Or.inr (Or.inr (Or.inr hc)))
  · rintro (rfl | rfl | rfl | rfl | rfl) <;> decide

/-! ## Tokens -/

/-- A reader reads templates in braces as the grammar has them, with room for so many levels. -/
structure ReadsGroups (room : Nat) (nested : Reader Template) : Prop where
  found_iff : ∀ {s r : Text} {t : Template},
    nested.read s = .found t r ↔ TokenAt s (.group t) r ∧ (Token.group t).depth ≤ room
  failed_iff : ∀ {s : Text} {f : Failure}, nested.read s = .failed f ↔ GroupFails room s f
  absent_iff : ∀ {s : Text}, nested.read s = .absent ↔ NotAt '{' s

/-- The reader of tokens finds the tokens of the grammar that there is room for. Each kind begins with a character of
its own, so the order of the readers does not matter. -/
theorem token_found_iff (hn : ReadsGroups room nested) {t : Token} :
    (token nested).read s = .found t r ↔ TokenAt s t r ∧ t.depth ≤ room := by
  simp only [token, Reader.orElse_found_iff, Reader.map_found_iff, Reader.map_absent_iff, text_found_iff,
    placeholder_found_iff, placeholder_absent_iff, icon_found_iff, icon_absent_iff, hn.found_iff]
  constructor
  · intro h
    rcases h with ⟨v, ⟨literal, nonempty⟩, rfl⟩ |
      ⟨-, ⟨p, placeholder, rfl⟩ | ⟨-, ⟨n, ⟨t, rfl, name⟩, rfl⟩ | ⟨-, inner, group, rfl⟩⟩⟩
    · exact ⟨.text literal nonempty, Nat.zero_le _⟩
    · exact ⟨.placeholder placeholder, Nat.zero_le _⟩
    · exact ⟨.icon name, Nat.zero_le _⟩
    · exact group
  · intro h
    obtain ⟨h, depth⟩ := h
    cases t with
    | text v =>
      cases h with
      | text literal nonempty => exact Or.inl ⟨v, ⟨literal, nonempty⟩, rfl⟩
    | placeholder p =>
      cases h with
      | placeholder hp => exact Or.inr ⟨text_absent_of_head hp.head (by decide), Or.inl ⟨p, hp, rfl⟩⟩
    | icon n =>
      cases h with
      | icon name =>
        refine Or.inr ⟨text_absent_of_head (c := '^') rfl (by decide), Or.inr ⟨notAt_of_head (c := '^') rfl (by decide), ?_⟩⟩
        exact Or.inl ⟨n, ⟨_, rfl, name⟩, rfl⟩
    | group inner =>
      have head := h.head_of_group
      refine Or.inr ⟨text_absent_of_head head (by decide), Or.inr ⟨notAt_of_head head (by decide), Or.inr ?_⟩⟩
      exact ⟨notAt_of_head head (by decide), inner, ⟨h, depth⟩, rfl⟩

/-- It fails as the grammar has it, by the kind of token that the first character announces. -/
theorem token_failed_iff (hn : ReadsGroups room nested) : (token nested).read s = .failed f ↔ TokenFails room s f := by
  simp only [token, Reader.orElse_failed_iff, Reader.map_failed_iff, Reader.map_absent_iff, text_failed_iff,
    placeholder_failed_iff, placeholder_absent_iff, icon_failed_iff, icon_absent_iff, hn.failed_iff]
  constructor
  · intro h
    rcases h with literal | ⟨-, placeholder | ⟨-, icon | ⟨-, group⟩⟩⟩
    · exact .literal literal
    · exact .placeholder placeholder
    · exact .icon icon
    · exact .group group
  · intro h
    rcases h with literal | placeholder | icon | group
    · exact Or.inl literal
    · exact Or.inr ⟨text_absent_of_head placeholder.head (by decide), Or.inl placeholder⟩
    · exact Or.inr ⟨text_absent_of_head icon.head (by decide), Or.inr ⟨notAt_of_head icon.head (by decide), Or.inl icon⟩⟩
    · refine Or.inr ⟨text_absent_of_head group.head (by decide), Or.inr ⟨notAt_of_head group.head (by decide), Or.inr ?_⟩⟩
      exact ⟨notAt_of_head group.head (by decide), group⟩

/-- It finds no token before a bar, before a closing brace and at the end of the source. -/
theorem token_absent_iff (hn : ReadsGroups room nested) :
    (token nested).read s = .absent ↔ ∀ c ∈ s.head?, c = '|' ∨ c = '}' := by
  simp only [token, Reader.orElse_absent_iff, Reader.map_absent_iff, text_absent_iff, placeholder_absent_iff,
    icon_absent_iff, hn.absent_iff]
  cases s with
  | nil => simp [StopsAt, NotAt]
  | cons c s =>
    simp only [stopsAt_cons, not_literal_iff, NotAt, List.head?_cons, ne_eq, Option.some.injEq, Option.mem_some_iff,
      forall_eq']
    constructor
    · intro h
      rcases h with ⟨rfl | rfl | rfl | hc, h⟩
      · exact absurd rfl h.1
      · exact absurd rfl h.2.1
      · exact absurd rfl h.2.2
      · exact hc
    · rintro (rfl | rfl) <;> decide

/-! ## Alternatives -/

/-- The reader of alternatives reads those of the grammar that there is room for. -/
theorem alternative_ok_iff (hn : ReadsGroups room nested) {as : List Token} :
    (alternative nested).read s = .ok (as, r) ↔ AlternativeAt s as r ∧ Token.depthOfAlternative as ≤ room := by
  unfold alternative
  induction as generalizing s with
  | nil =>
    rw [Committed.many_nil_iff, token_absent_iff hn]
    constructor
    · intro h
      obtain ⟨stop, rfl⟩ := h
      exact ⟨.stop stop, Nat.zero_le _⟩
    · intro h
      obtain ⟨⟨stop⟩, -⟩ := h
      exact ⟨stop, rfl⟩
  | cons a as ih =>
    simp only [Committed.many_cons_iff, token_found_iff hn, ih, Token.depthOfAlternative, Nat.max_le]
    constructor
    · intro h
      obtain ⟨t, ⟨token, ha⟩, rest, has⟩ := h
      exact ⟨.token token rest, ha, has⟩
    · intro h
      obtain ⟨h, ha, has⟩ := h
      cases h with
      | token token rest => exact ⟨_, ⟨token, ha⟩, rest, has⟩

/-- An alternative that goes wrong is a failure of its reader. -/
theorem AlternativeFails.read (hn : ReadsGroups room nested) :
    ∀ {s : Text} {f : Failure}, AlternativeFails room s f → (alternative nested).read s = .error f
  | _, _, .token h => Committed.many_error_iff.mpr (Or.inl ((token_failed_iff hn).mpr h))
  | _, _, .later h depth rest =>
    Committed.many_error_iff.mpr (Or.inr ⟨_, _, (token_found_iff hn).mpr ⟨h, depth⟩, AlternativeFails.read hn rest⟩)

/-- It fails as the grammar has it, in the token after the ones that it has read. -/
theorem alternative_error_iff (hn : ReadsGroups room nested) :
    (alternative nested).read s = .error f ↔ AlternativeFails room s f := by
  constructor
  · intro h
    induction hl : s.length using Nat.strongRecOn generalizing s with
    | _ n ih =>
      rcases Committed.many_error_iff.mp h with h | ⟨t, u, ht, h⟩
      · exact .token ((token_failed_iff hn).mp h)
      · obtain ⟨token, depth⟩ := (token_found_iff hn).mp ht
        exact .later token depth (ih _ (hl ▸ ((Production.token nested).advances ht).2) h rfl)
  · exact AlternativeFails.read hn

/-! ## Templates -/

/-- A template is its first alternative and what the bars after it introduce. -/
theorem template_ok_cons_iff {a : Alternative} {as : List Alternative} :
    (template nested).read s = .ok (a :: as, r) ↔
      ∃ u, (alternative nested).read s = .ok (a, u) ∧
        (Committed.many (.lead '|' (alternative nested))).read u = .ok (as, r) := by
  simp only [template, Committed.bind_ok_iff, Committed.pure_ok_iff, List.cons.injEq]
  constructor
  · intro h
    obtain ⟨_, u, ha, _, _, has, ⟨rfl, rfl⟩, rfl⟩ := h
    exact ⟨u, ha, has⟩
  · intro h
    obtain ⟨u, ha, has⟩ := h
    exact ⟨a, u, ha, as, r, has, ⟨rfl, rfl⟩, rfl⟩

/-- A template fails in its first alternative or in the rest after a bar. -/
theorem template_error_cons_iff :
    (template nested).read s = .error f ↔ (alternative nested).read s = .error f ∨
      ∃ a u, (alternative nested).read s = .ok (a, u) ∧
        (Committed.many (.lead '|' (alternative nested))).read u = .error f := by
  simp only [template, Committed.bind_error_iff, Committed.pure_ne_error, exists_const, and_false, or_false]

/-- A template has at least one alternative. -/
theorem template_ne_nil : (template nested).read s ≠ .ok ([], r) := by
  simp [template, Committed.bind_ok_iff, Committed.pure_ok_iff]

/-- The reader of templates reads those of the grammar that there is room for. -/
theorem template_ok_iff (hn : ReadsGroups room nested) {as : List Alternative} :
    (template nested).read s = .ok (as, r) ↔ TemplateAt s as r ∧ Token.depthOfTemplate as ≤ room := by
  cases as with
  | nil =>
    refine ⟨fun h => absurd h template_ne_nil, ?_⟩
    intro h
    obtain ⟨h, -⟩ := h
    cases h
  | cons a as =>
    induction as generalizing a s with
    | nil =>
      simp only [template_ok_cons_iff, alternative_ok_iff hn, Committed.many_nil_iff, Reader.lead_absent_iff,
        Token.depthOfTemplate, Nat.max_le]
      constructor
      · intro h
        obtain ⟨u, ⟨alternative, ha⟩, stop, rfl⟩ := h
        exact ⟨.last alternative stop, ha, Nat.zero_le _⟩
      · intro h
        obtain ⟨h, ha, -⟩ := h
        cases h with
        | last alternative stop => exact ⟨r, ⟨alternative, ha⟩, stop, rfl⟩
        | bar _ rest => cases rest
    | cons b as ih =>
      have step : (template nested).read s = .ok (a :: b :: as, r) ↔
          ∃ u, (alternative nested).read s = .ok (a, '|' :: u) ∧ (template nested).read u = .ok (b :: as, r) := by
        simp only [template_ok_cons_iff, Committed.many_cons_iff, Reader.lead_found_iff]
        constructor
        · intro h
          obtain ⟨_, ha, v, ⟨u, rfl, hb⟩, has⟩ := h
          exact ⟨u, ha, v, hb, has⟩
        · intro h
          obtain ⟨u, ha, v, hb, has⟩ := h
          exact ⟨_, ha, v, ⟨u, rfl, hb⟩, has⟩
      simp only [step, alternative_ok_iff hn, ih, Token.depthOfTemplate, Nat.max_le]
      constructor
      · intro h
        obtain ⟨u, ⟨alternative, ha⟩, rest, has⟩ := h
        exact ⟨.bar alternative rest, ha, has⟩
      · intro h
        obtain ⟨h, ha, has⟩ := h
        cases h with
        | bar alternative rest => exact ⟨_, ⟨alternative, ha⟩, rest, has⟩

/-- A template that goes wrong is a failure of its reader. -/
theorem TemplateFails.read (hn : ReadsGroups room nested) :
    ∀ {s : Text} {f : Failure}, TemplateFails room s f → (template nested).read s = .error f
  | _, _, .alternative h => template_error_cons_iff.mpr (Or.inl ((alternative_error_iff hn).mpr h))
  | _, _, .later h depth rest => by
    have ha := (alternative_ok_iff hn).mpr ⟨h, depth⟩
    refine template_error_cons_iff.mpr (Or.inr ⟨_, _, ha, Committed.many_error_iff.mpr ?_⟩)
    rcases template_error_cons_iff.mp (TemplateFails.read hn rest) with h | ⟨b, v, hb, h⟩
    · exact Or.inl (Reader.lead_failed_iff.mpr ⟨_, rfl, h⟩)
    · exact Or.inr ⟨b, v, Reader.lead_found_iff.mpr ⟨_, rfl, hb⟩, h⟩

/-- It fails as the grammar has it, in the alternative after the ones that it has read. -/
theorem template_error_iff (hn : ReadsGroups room nested) :
    (template nested).read s = .error f ↔ TemplateFails room s f := by
  constructor
  · intro h
    induction hl : s.length using Nat.strongRecOn generalizing s with
    | _ n ih =>
      rcases template_error_cons_iff.mp h with h | ⟨a, _, ha, h⟩
      · exact .alternative ((alternative_error_iff hn).mp h)
      · obtain ⟨alternative, depth⟩ := (alternative_ok_iff hn).mp ha
        have onward := ((Production.alternative nested).onward ha).length_le
        rcases Committed.many_error_iff.mp h with h | ⟨b, v, hb, hv⟩
        · obtain ⟨u, rfl, hu⟩ := Reader.lead_failed_iff.mp h
          exact .later alternative depth (.alternative ((alternative_error_iff hn).mp hu))
        · obtain ⟨u, rfl, hu⟩ := Reader.lead_found_iff.mp hb
          refine .later alternative depth (ih u.length ?_ (template_error_cons_iff.mpr (Or.inr ⟨b, v, hu, hv⟩)) rfl)
          rw [List.length_cons] at onward
          omega
  · exact TemplateFails.read hn

/-! ## Templates in braces -/

/-- Without room for a level, every opening brace is refused. -/
theorem noGroup_reads : ReadsGroups 0 noGroup where
  found_iff {s r t} := by
    constructor
    · intro h
      cases s with
      | nil => cases h
      | cons c s => by_cases hc : c = '{' <;> simp [noGroup, hc] at h
    · intro h
      obtain ⟨-, depth⟩ := h
      simp [Token.depth] at depth
  failed_iff {s f} := by
    constructor
    · intro h
      cases s with
      | nil => cases h
      | cons c s =>
        by_cases hc : c = '{' <;> simp only [noGroup, hc, if_true, if_false, Outcome.failed.injEq, reduceCtorEq] at h
        rw [← h, hc]
        exact .tooDeep
    · intro h
      cases h
      rfl
  absent_iff {s} := by
    cases s with
    | nil => simp [noGroup, NotAt]
    | cons c s => by_cases hc : c = '{' <;> simp [noGroup, NotAt, hc]

/-- An alternative ends at a bar, at a closing brace or where the source ends. -/
theorem AlternativeAt.head_rest :
    ∀ {as : List Token} {s r : Text}, AlternativeAt s as r → ∀ c ∈ r.head?, c = '|' ∨ c = '}'
  | _, _, _, .stop h => h
  | _, _, _, .token _ rest => AlternativeAt.head_rest rest

/-- A template ends at a closing brace or where the source ends. -/
theorem TemplateAt.head_rest : ∀ {as : List (List Token)} {s r : Text}, TemplateAt s as r → ∀ c ∈ r.head?, c = '}'
  | _, _, _, .last h stop => fun _ hc => (AlternativeAt.head_rest h _ hc).resolve_left fun e => stop (e ▸ hc)
  | _, _, _, .bar _ rest => TemplateAt.head_rest rest

/-- A template has an alternative. -/
theorem TemplateAt.ne_nil {as : List (List Token)} (h : TemplateAt s as r) : as ≠ [] := by
  cases h <;> exact List.cons_ne_nil _ _

/-- Where a template ends that no closing brace follows, the source ends. -/
theorem TemplateAt.eq_nil {as : List (List Token)} (h : TemplateAt s as r) (hr : NotAt '}' r) : r = [] := by
  cases r with
  | nil => rfl
  | cons c r =>
    obtain rfl := h.head_rest c rfl
    exact absurd rfl hr

/-- A template in braces is read as the grammar has it, as far as the room goes. -/
theorem group_reads (room : Nat) : ReadsGroups room (group room) := by
  induction room with
  | zero => exact noGroup_reads
  | succ room ih =>
    have read : ∀ s, (group (room + 1)).read s = (Reader.lead '{' do
        let t ← template (group room)
        Committed.expect '}'
        return t).read s := fun _ => rfl
    refine ⟨fun {s r t} => ?_, fun {s f} => ?_, fun {s} => ?_⟩
    · simp only [read, Reader.lead_found_iff, Committed.bind_ok_iff, Committed.expect_ok_iff, Committed.pure_ok_iff,
        template_ok_iff ih, Token.depth, Nat.add_le_add_iff_right]
      constructor
      · intro h
        obtain ⟨u, rfl, a, v, ⟨h, depth⟩, _, w, rfl, rfl, rfl⟩ := h
        exact ⟨.group h, depth⟩
      · intro h
        obtain ⟨h, depth⟩ := h
        cases h with
        | group h => exact ⟨_, rfl, t, _, ⟨h, depth⟩, (), r, rfl, rfl, rfl⟩
    · simp only [read, Reader.lead_failed_iff, Committed.bind_error_iff, Committed.expect_error_iff, Committed.pure_ne_error,
        template_ok_iff ih, template_error_iff ih, exists_const, and_false, or_false]
      constructor
      · intro h
        rcases h with ⟨u, rfl, h | ⟨a, v, ⟨h, depth⟩, stop, rfl⟩⟩
        · exact .template h
        · obtain rfl := h.eq_nil stop
          exact .unclosed h depth
      · intro h
        cases h with
        | template h => exact ⟨_, rfl, Or.inl h⟩
        | unclosed h depth => exact ⟨_, rfl, Or.inr ⟨_, _, ⟨h, depth⟩, by simp, rfl⟩⟩
    · simp only [read, Reader.lead_absent_iff, NotAt]

/-- At the beginning of a text stands at most one token. -/
theorem TokenAt.unique {a b : Token} (h : TokenAt s a r) (h' : TokenAt s b t) : a = b ∧ r = t := by
  have reads := group_reads (max a.depth b.depth)
  have found := (token_found_iff reads).mpr ⟨h, Nat.le_max_left _ _⟩
  have found' := (token_found_iff reads).mpr ⟨h', Nat.le_max_right _ _⟩
  cases found.symm.trans found'
  exact ⟨rfl, rfl⟩

/-- No token begins with a bar or a closing brace. -/
theorem TokenAt.not_end {a : Token} (h : TokenAt s a r) : ¬∀ c ∈ s.head?, c = '|' ∨ c = '}' := by
  intro ends
  have reads := group_reads a.depth
  cases ((token_absent_iff reads).mpr ends).symm.trans ((token_found_iff reads).mpr ⟨h, Nat.le_refl _⟩)

/-! ## Whole sources -/

/-- The parser accepts the sources that the grammar derives a template for, if that is not too deep, and reads them to
the end. -/
theorem whole_ok_iff {t : Template} : (whole room).read s = .ok (t, r) ↔ (Derives s t ∧ t.depth ≤ room) ∧ r = [] := by
  have h : (template (group room)).read s = .ok (t, []) ↔ TemplateAt s t [] ∧ Token.depthOfTemplate t ≤ room :=
    template_ok_iff (group_reads room)
  unfold Derives Template.depth
  rw [← h]
  unfold whole
  rcases ht : (template (group room)).read s with g | ⟨a, _ | ⟨c, u⟩⟩ <;> simp [ht, eq_comm]

/-- It rejects all others with the failure that the grammar gives them. -/
theorem whole_error_iff : (whole room).read s = .error f ↔ Fails room s f := by
  have read : (whole room).read s = .error f ↔ (template (group room)).read s = .error f ∨
      ∃ t c u, (template (group room)).read s = .ok (t, c :: u) ∧ f = ⟨.trailing, c :: u⟩ := by
    unfold whole
    rcases ht : (template (group room)).read s with g | ⟨a, _ | ⟨c, u⟩⟩ <;> simp [ht, eq_comm, and_assoc]
  simp only [read, template_error_iff (group_reads room), template_ok_iff (group_reads room)]
  constructor
  · intro h
    rcases h with h | ⟨t, c, u, ⟨h, depth⟩, rfl⟩
    · exact .template h
    · obtain rfl := h.head_rest c rfl
      exact .trailing h depth
  · intro h
    rcases h with h | ⟨h, depth⟩
    · exact Or.inl h
    · exact Or.inr ⟨_, _, _, ⟨h, depth⟩, rfl⟩

/-- The grammar is unambiguous: a source is at most one template. -/
theorem Derives.unique {a b : Template} (ha : Derives s a) (hb : Derives s b) : a = b := by
  have h := whole_ok_iff.mpr ⟨⟨ha, Nat.le_max_left a.depth b.depth⟩, rfl⟩
  have h' := whole_ok_iff.mpr ⟨⟨hb, Nat.le_max_right a.depth b.depth⟩, rfl⟩
  rw [h] at h'
  cases h'
  rfl

end BarTemplate.Grammar
