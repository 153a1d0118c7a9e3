import BarTemplate.Proofs.Lexeme

/-!
# Placeholders, formatters and icons and their grammar

Each production that holds no template is read exactly as the grammar has it: it finds what stands there, fails where
the text stops being what it began as, and finds nothing where its first character is absent.
-/

namespace BarTemplate.Grammar

open Production

variable {s r t u : Text} {f : Failure}

/-! ## Arguments -/

/-- The reader of arguments finds those of the grammar. -/
theorem argument_found_iff {a : Argument} : argument.read s = .found a r ↔ ArgumentAt s a r := by
  simp only [argument, name, Reader.andThen_found_iff, Committed.bind_ok_iff, Committed.optional_ok_iff, word_found_iff,
    Reader.char_absent_iff, Reader.char_found_iff]
  constructor
  · intro h
    rcases h with ⟨k, t, hk, o, u, ⟨hc, rfl, rfl⟩ | ⟨⟨⟩, rfl, rfl⟩, h⟩
    · obtain ⟨rfl, rfl⟩ := Committed.pure_ok_iff.mp h
      exact .bare hk hc
    · obtain ⟨v, w, hv, h⟩ := Committed.bind_ok_iff.mp h
      obtain ⟨rfl, rfl⟩ := Committed.pure_ok_iff.mp h
      exact .valued hk (value_found_iff.mp (Committed.require_ok_iff.mp hv))
  · intro h
    rcases h with ⟨hk, hc⟩ | ⟨hk, hv⟩
    · exact ⟨_, _, hk, none, _, Or.inl ⟨hc, rfl, rfl⟩, Committed.pure_ok_iff.mpr ⟨rfl, rfl⟩⟩
    · refine ⟨_, _, hk, some (), _, Or.inr ⟨(), rfl, rfl⟩, Committed.bind_ok_iff.mpr ?_⟩
      exact ⟨_, _, Committed.require_ok_iff.mpr (value_found_iff.mpr hv), Committed.pure_ok_iff.mpr ⟨rfl, rfl⟩⟩

/-- It fails in the value only, once the key and its colon have been read. -/
theorem argument_failed_iff : argument.read s = .failed f ↔ ArgumentFails s f := by
  simp only [argument, name, Reader.andThen_failed_iff, Committed.bind_error_iff, Committed.optional_ok_iff,
    Committed.optional_error_iff, word_found_iff, word_ne_failed, Reader.char_ne_failed, Reader.char_found_iff, false_or]
  constructor
  · intro h
    rcases h with ⟨k, t, hk, o, u, ⟨-, rfl, -⟩ | ⟨⟨⟩, rfl, rfl⟩, h⟩
    · exact absurd h Committed.pure_ne_error
    · rcases Committed.bind_error_iff.mp h with h | ⟨v, w, -, h⟩
      · rcases Committed.require_error_iff.mp h with ⟨hv, rfl⟩ | hv
        · exact .missing hk (value_absent_iff.mp hv)
        · exact .value hk (value_failed_iff.mp hv)
      · exact absurd h Committed.pure_ne_error
  · rintro (⟨hk, stop⟩ | ⟨hk, hv⟩) <;>
      refine ⟨_, _, hk, some (), _, Or.inr ⟨(), rfl, rfl⟩, Committed.bind_error_iff.mpr (Or.inl ?_)⟩
    · exact Committed.require_error_iff.mpr (Or.inl ⟨value_absent_iff.mpr stop, rfl⟩)
    · exact Committed.require_error_iff.mpr (Or.inr (value_failed_iff.mpr hv))

/-- It finds none where no name begins. -/
theorem argument_absent_iff : argument.read s = .absent ↔ StopsAt isNameChar s := by
  simp only [argument, name, Reader.andThen_absent_iff, word_absent_iff]

/-! ## Further arguments -/

/-- After a comma, a further argument is read where the white space ends. -/
theorem furtherArgument_of_comma (before : GapAt s (',' :: t)) (after : GapAt t u) :
    furtherArgument.read s = argument.read u := by
  simp [furtherArgument, gapAt_iff.mp before, gapAt_iff.mp after]

/-- Without a comma there is no further argument. -/
theorem furtherArgument_of_no_comma (h : ∀ t, ¬GapAt s (',' :: t)) : furtherArgument.read s = .absent := by
  simp only [gapAt_iff] at h
  cases hs : s.dropWhile isGap with
  | nil => simp [furtherArgument, hs]
  | cons c t =>
    have hc : c ≠ ',' := by
      rintro rfl
      exact h t hs
    simp [furtherArgument, hs, hc]

/-- What a further argument is depends on the argument after its comma alone. -/
theorem furtherArgument_eq_iff {o : Outcome Argument} (ho : o ≠ .absent) :
    furtherArgument.read s = o ↔ ∃ t u, GapAt s (',' :: t) ∧ GapAt t u ∧ argument.read u = o := by
  constructor
  · intro h
    by_cases hs : ∃ t, GapAt s (',' :: t)
    · obtain ⟨t, ht⟩ := hs
      have hu : GapAt t (t.dropWhile isGap) := gapAt_iff.mpr rfl
      exact ⟨t, _, ht, hu, (furtherArgument_of_comma ht hu).symm.trans h⟩
    · exact absurd ((furtherArgument_of_no_comma (not_exists.mp hs)).symm.trans h).symm ho
  · intro h
    obtain ⟨t, u, ht, hu, h⟩ := h
    exact (furtherArgument_of_comma ht hu).trans h

/-- A further argument stands behind a comma, which may have white space on either side. -/
theorem furtherArgument_found_iff {a : Argument} :
    furtherArgument.read s = .found a r ↔ ∃ t u, GapAt s (',' :: t) ∧ GapAt t u ∧ ArgumentAt u a r := by
  simp only [furtherArgument_eq_iff (o := .found a r) (by simp), argument_found_iff]

/-- A further argument fails as an argument behind a comma does. -/
theorem furtherArgument_failed_iff :
    furtherArgument.read s = .failed f ↔ ∃ t u, GapAt s (',' :: t) ∧ GapAt t u ∧ ArgumentFails u f := by
  simp only [furtherArgument_eq_iff (o := .failed f) (by simp), argument_failed_iff]

/-- There is no further argument where no comma with an argument behind it follows. -/
theorem furtherArgument_absent_iff : furtherArgument.read s = .absent ↔ NoFurther s := by
  constructor
  · intro h t u ht hu
    rw [furtherArgument_of_comma ht hu] at h
    exact argument_absent_iff.mp h
  · intro h
    by_cases hs : ∃ t, GapAt s (',' :: t)
    · obtain ⟨t, ht⟩ := hs
      have hu : GapAt t (t.dropWhile isGap) := gapAt_iff.mpr rfl
      rw [furtherArgument_of_comma ht hu]
      exact argument_absent_iff.mpr (h t _ ht hu)
    · exact furtherArgument_of_no_comma (not_exists.mp hs)

/-- Before a closing parenthesis there is no further argument. -/
theorem noFurther_of_close (h : GapAt s (')' :: r)) : NoFurther s := by
  intro t u ht _
  have := (gapAt_iff.mp h).symm.trans (gapAt_iff.mp ht)
  cases this

/-- The arguments after the first one and the closing parenthesis. -/
theorem further_ok_iff {as : List Argument} :
    (∃ u, (Committed.many furtherArgument).read s = .ok (as, u) ∧ GapAt u (')' :: r)) ↔ FurtherAt s as r := by
  constructor
  · intro h
    obtain ⟨u, h, gap⟩ := h
    induction as generalizing s with
    | nil =>
      obtain ⟨-, rfl⟩ := Committed.many_nil_iff.mp h
      exact .close gap
    | cons a as ih =>
      obtain ⟨t, ha, h⟩ := Committed.many_cons_iff.mp h
      obtain ⟨v, w, before, after, argument⟩ := furtherArgument_found_iff.mp ha
      exact .further before after argument (ih h)
  · intro h
    induction h with
    | close gap =>
      exact ⟨_, Committed.many_nil_iff.mpr ⟨furtherArgument_absent_iff.mpr (noFurther_of_close gap), rfl⟩, gap⟩
    | further before after argument _ ih =>
      obtain ⟨u, h, gap⟩ := ih
      have ha := furtherArgument_found_iff.mpr ⟨_, _, before, after, argument⟩
      exact ⟨u, Committed.many_cons_iff.mpr ⟨_, ha, h⟩, gap⟩

/-- The arguments after the first one go wrong in one of them, or before the closing parenthesis. -/
theorem further_error_iff :
    ((Committed.many furtherArgument).read s = .error f ∨
      ∃ as t u, (Committed.many furtherArgument).read s = .ok (as, t) ∧ GapAt t u ∧ NotAt ')' u ∧
        f = ⟨.expected (.char ')'), u⟩) ↔ FurtherFails s f := by
  constructor
  · intro h
    rcases h with h | ⟨as, t, u, h, gap, stop, rfl⟩
    · induction hn : s.length using Nat.strongRecOn generalizing s with
      | _ n ih =>
        rcases Committed.many_error_iff.mp h with h | ⟨a, v, ha, h⟩
        · obtain ⟨t, u, before, after, argument⟩ := furtherArgument_failed_iff.mp h
          exact .argument before after argument
        · obtain ⟨t, u, before, after, argument⟩ := furtherArgument_found_iff.mp ha
          exact .further before after argument (ih _ (hn ▸ (furtherArgument.advances ha).2) h rfl)
    · induction as generalizing s with
      | nil =>
        obtain ⟨ha, rfl⟩ := Committed.many_nil_iff.mp h
        exact .unclosed (furtherArgument_absent_iff.mp ha) gap stop
      | cons a as ih =>
        obtain ⟨v, ha, h⟩ := Committed.many_cons_iff.mp h
        obtain ⟨_, _, before, after, argument⟩ := furtherArgument_found_iff.mp ha
        exact .further before after argument (ih h)
  · intro h
    induction h with
    | unclosed none gap stop =>
      exact Or.inr ⟨[], _, _, Committed.many_nil_iff.mpr ⟨furtherArgument_absent_iff.mpr none, rfl⟩, gap, stop, rfl⟩
    | argument before after argument =>
      exact Or.inl (Committed.many_error_iff.mpr (Or.inl (furtherArgument_failed_iff.mpr ⟨_, _, before, after, argument⟩)))
    | further before after argument _ ih =>
      have ha := furtherArgument_found_iff.mpr ⟨_, _, before, after, argument⟩
      rcases ih with h | ⟨as, t, u, h, gap, stop, hf⟩
      · exact Or.inl (Committed.many_error_iff.mpr (Or.inr ⟨_, _, ha, h⟩))
      · exact Or.inr ⟨_ :: as, t, u, Committed.many_cons_iff.mpr ⟨_, ha, h⟩, gap, stop, hf⟩

/-! ## Arguments in parentheses -/

/-- The end of a list of arguments: white space and the closing parenthesis. -/
theorem close_ok_iff {as bs : List Argument} :
    (do Committed.skip isGap; Committed.expect ')'; return as : Committed (List Argument)).read s = .ok (bs, r) ↔
      as = bs ∧ GapAt s (')' :: r) := by
  simp only [Committed.bind_ok_iff, Committed.skip_ok_iff, Committed.expect_ok_iff, Committed.pure_ok_iff, gapAt_iff]
  constructor
  · intro h
    obtain ⟨_, t, rfl, _, u, ht, rfl, rfl⟩ := h
    exact ⟨rfl, ht⟩
  · intro h
    obtain ⟨rfl, hs⟩ := h
    exact ⟨(), _, rfl, (), r, hs, rfl, rfl⟩

/-- The list does not close where something other than a parenthesis follows the white space. -/
theorem close_error_iff {as : List Argument} :
    (do Committed.skip isGap; Committed.expect ')'; return as : Committed (List Argument)).read s = .error f ↔
      ∃ u, GapAt s u ∧ NotAt ')' u ∧ f = ⟨.expected (.char ')'), u⟩ := by
  simp only [Committed.bind_error_iff, Committed.skip_ok_iff, Committed.skip_ne_error, Committed.expect_error_iff,
    Committed.pure_ne_error, gapAt_iff, and_false, exists_const, or_false, false_or]
  exact ⟨fun ⟨u, hs, stop, hf⟩ => ⟨u, hs, stop, hf⟩, fun ⟨u, hs, stop, hf⟩ => ⟨u, hs, stop, hf⟩⟩

/-- The reader of argument lists finds those of the grammar. -/
theorem arguments_found_iff {as : List Argument} : arguments.read s = .found as r ↔ ArgumentsAt s as r := by
  simp only [arguments, Reader.lead_found_iff, Committed.bind_ok_iff, Committed.skip_ok_iff, Committed.optional_ok_iff,
    argument_found_iff, argument_absent_iff, ← gapAt_iff]
  constructor
  · intro h
    rcases h with ⟨t, rfl, _, u, gap, o, v, ⟨-, rfl, rfl⟩ | ⟨a, argument, rfl⟩, h⟩
    · obtain ⟨_, _, hp, h⟩ := Committed.bind_ok_iff.mp h
      obtain ⟨rfl, rfl⟩ := Committed.pure_ok_iff.mp hp
      obtain ⟨rfl, close⟩ := close_ok_iff.mp h
      exact .empty (gap.eq_of_gapAt close ▸ gap)
    · obtain ⟨more, w, hm, h⟩ := Committed.bind_ok_iff.mp h
      obtain ⟨_, _, hp, h⟩ := Committed.bind_ok_iff.mp h
      obtain ⟨rfl, rfl⟩ := Committed.pure_ok_iff.mp hp
      obtain ⟨rfl, close⟩ := close_ok_iff.mp h
      exact .first gap argument (further_ok_iff.mp ⟨_, hm, close⟩)
  · intro h
    rcases h with gap | ⟨gap, argument, further⟩
    · have none : StopsAt isNameChar (')' :: r) := stopsAt_cons.mpr (by decide)
      refine ⟨_, rfl, (), _, gap, .none, _, Or.inl ⟨none, rfl, rfl⟩, Committed.bind_ok_iff.mpr ?_⟩
      exact ⟨_, _, Committed.pure_ok_iff.mpr ⟨rfl, rfl⟩, close_ok_iff.mpr ⟨rfl, gapAt_self (stopsAt_cons.mpr (by decide))⟩⟩
    · obtain ⟨w, hm, close⟩ := further_ok_iff.mpr further
      refine ⟨_, rfl, (), _, gap, some _, _, Or.inr ⟨_, argument, rfl⟩, Committed.bind_ok_iff.mpr ⟨_, _, hm, ?_⟩⟩
      exact Committed.bind_ok_iff.mpr ⟨_, _, Committed.pure_ok_iff.mpr ⟨rfl, rfl⟩, close_ok_iff.mpr ⟨rfl, close⟩⟩

/-- It fails as the grammar has it, once the parenthesis has been read. -/
theorem arguments_failed_iff : arguments.read s = .failed f ↔ ArgumentsFails s f := by
  simp only [arguments, Reader.lead_failed_iff, Committed.bind_error_iff, Committed.skip_ok_iff, Committed.skip_ne_error,
    Committed.optional_ok_iff, Committed.optional_error_iff, argument_found_iff, argument_failed_iff, argument_absent_iff,
    false_or, ← gapAt_iff]
  constructor
  · intro h
    rcases h with ⟨t, rfl, _, u, gap, argument | ⟨o, v, ⟨none, rfl, rfl⟩ | ⟨a, argument, rfl⟩, h⟩⟩
    · exact .argument gap argument
    · rcases Committed.bind_error_iff.mp h with hp | ⟨_, _, hp, h⟩
      · exact absurd hp Committed.pure_ne_error
      · obtain ⟨rfl, rfl⟩ := Committed.pure_ok_iff.mp hp
        obtain ⟨w, close, stop, rfl⟩ := close_error_iff.mp h
        obtain rfl := gap.eq_of_gapAt close
        exact .empty gap none stop
    · refine .first gap argument (further_error_iff.mp ?_)
      rcases Committed.bind_error_iff.mp h with hm | ⟨more, w, hm, h⟩
      · exact Or.inl hm
      · rcases Committed.bind_error_iff.mp h with hp | ⟨_, _, hp, h⟩
        · exact absurd hp Committed.pure_ne_error
        · obtain ⟨rfl, rfl⟩ := Committed.pure_ok_iff.mp hp
          obtain ⟨x, close, stop, hf⟩ := close_error_iff.mp h
          exact Or.inr ⟨_, _, _, hm, close, stop, hf⟩
  · intro h
    rcases h with ⟨gap, none, stop⟩ | ⟨gap, argument⟩ | ⟨gap, argument, further⟩
    · refine ⟨_, rfl, (), _, gap, Or.inr ⟨.none, _, Or.inl ⟨none, rfl, rfl⟩, Committed.bind_error_iff.mpr (Or.inr ?_)⟩⟩
      obtain ⟨-, hg⟩ := gap
      exact ⟨_, _, Committed.pure_ok_iff.mpr ⟨rfl, rfl⟩, close_error_iff.mpr ⟨_, gapAt_self hg, stop, rfl⟩⟩
    · exact ⟨_, rfl, (), _, gap, Or.inl argument⟩
    · refine ⟨_, rfl, (), _, gap, Or.inr ⟨some _, _, Or.inr ⟨_, argument, rfl⟩, Committed.bind_error_iff.mpr ?_⟩⟩
      rcases further_error_iff.mpr further with hm | ⟨as, v, w, hm, close, stop, hf⟩
      · exact Or.inl hm
      · refine Or.inr ⟨_, _, hm, Committed.bind_error_iff.mpr (Or.inr ?_)⟩
        exact ⟨_, _, Committed.pure_ok_iff.mpr ⟨rfl, rfl⟩, close_error_iff.mpr ⟨_, close, stop, hf⟩⟩

theorem arguments_absent_iff : arguments.read s = .absent ↔ NotAt '(' s :=
  Reader.lead_absent_iff

/-! ## Formatters and placeholders -/

/-- The reader of formatters finds those of the grammar. -/
theorem formatter_found_iff {a : Formatter} : formatter.read s = .found a r ↔ FormatterAt s a r := by
  simp only [formatter, Reader.lead_found_iff, Committed.bind_ok_iff, Committed.require_ok_iff, Committed.optional_ok_iff,
    Committed.pure_ok_iff, name, word_found_iff, arguments_found_iff, arguments_absent_iff]
  constructor
  · intro h
    rcases h with ⟨t, rfl, n, u, name, o, v, ⟨stop, rfl, rfl⟩ | ⟨as, arguments, rfl⟩, rfl, rfl⟩
    · exact .bare name stop
    · exact .applied name arguments
  · intro h
    rcases h with ⟨name, stop⟩ | ⟨name, arguments⟩
    · exact ⟨_, rfl, _, _, name, none, _, Or.inl ⟨stop, rfl, rfl⟩, rfl, rfl⟩
    · exact ⟨_, rfl, _, _, name, some _, _, Or.inr ⟨_, arguments, rfl⟩, rfl, rfl⟩

/-- It fails as the grammar has it, once the point has been read. -/
theorem formatter_failed_iff : formatter.read s = .failed f ↔ FormatterFails s f := by
  simp only [formatter, Reader.lead_failed_iff, Committed.bind_error_iff, Committed.require_ok_iff,
    Committed.require_error_iff, Committed.optional_error_iff, Committed.pure_ne_error, name, word_found_iff,
    word_absent_iff, word_ne_failed, arguments_failed_iff, and_false, exists_const, or_false]
  constructor
  · intro h
    rcases h with ⟨t, rfl, ⟨stop, rfl⟩ | ⟨n, u, name, arguments⟩⟩
    · exact .missing stop
    · exact .arguments name arguments
  · intro h
    rcases h with stop | ⟨name, arguments⟩
    · exact ⟨_, rfl, Or.inl ⟨stop, rfl⟩⟩
    · exact ⟨_, rfl, Or.inr ⟨_, _, name, arguments⟩⟩

theorem formatter_absent_iff : formatter.read s = .absent ↔ NotAt '.' s :=
  Reader.lead_absent_iff

/-- The reader of placeholders finds those of the grammar. -/
theorem placeholder_found_iff {a : Placeholder} : placeholder.read s = .found a r ↔ PlaceholderAt s a r := by
  simp only [placeholder, Reader.lead_found_iff, Committed.bind_ok_iff, Committed.require_ok_iff, Committed.optional_ok_iff,
    Committed.pure_ok_iff, name, word_found_iff, formatter_found_iff, formatter_absent_iff]
  constructor
  · intro h
    rcases h with ⟨t, rfl, n, u, name, o, v, ⟨stop, rfl, rfl⟩ | ⟨f, formatter, rfl⟩, rfl, rfl⟩
    · exact .bare name stop
    · exact .formatted name formatter
  · intro h
    rcases h with ⟨name, stop⟩ | ⟨name, formatter⟩
    · exact ⟨_, rfl, _, _, name, none, _, Or.inl ⟨stop, rfl, rfl⟩, rfl, rfl⟩
    · exact ⟨_, rfl, _, _, name, some _, _, Or.inr ⟨_, formatter, rfl⟩, rfl, rfl⟩

/-- It fails as the grammar has it, once the dollar sign has been read. -/
theorem placeholder_failed_iff : placeholder.read s = .failed f ↔ PlaceholderFails s f := by
  simp only [placeholder, Reader.lead_failed_iff, Committed.bind_error_iff, Committed.require_ok_iff,
    Committed.require_error_iff, Committed.optional_error_iff, Committed.pure_ne_error, name, word_found_iff,
    word_absent_iff, word_ne_failed, formatter_failed_iff, and_false, exists_const, or_false]
  constructor
  · intro h
    rcases h with ⟨t, rfl, ⟨stop, rfl⟩ | ⟨n, u, name, formatter⟩⟩
    · exact .missing stop
    · exact .formatter name formatter
  · intro h
    rcases h with stop | ⟨name, formatter⟩
    · exact ⟨_, rfl, Or.inl ⟨stop, rfl⟩⟩
    · exact ⟨_, rfl, Or.inr ⟨_, _, name, formatter⟩⟩

theorem placeholder_absent_iff : placeholder.read s = .absent ↔ NotAt '$' s :=
  Reader.lead_absent_iff

/-! ## Icons -/

/-- The reader of icons finds a name behind the marker of icons. -/
theorem icon_found_iff {n : Text} :
    icon.read s = .found n r ↔ ∃ t, s = '^' :: iconMarker ++ t ∧ WordAt isNameChar t n r := by
  simp only [icon, Reader.lead_found_iff, Committed.bind_ok_iff, Committed.marker_ok_iff, Committed.require_ok_iff, name,
    word_found_iff]
  constructor
  · intro h
    obtain ⟨_, rfl, _, t, rfl, name⟩ := h
    exact ⟨t, rfl, name⟩
  · intro h
    obtain ⟨t, rfl, name⟩ := h
    exact ⟨_, rfl, (), t, rfl, name⟩

/-- It fails as the grammar has it, once the circumflex has been read. -/
theorem icon_failed_iff : icon.read s = .failed f ↔ IconFails s f := by
  simp only [icon, Reader.lead_failed_iff, Committed.bind_error_iff, Committed.marker_ok_iff, Committed.marker_error_iff,
    Committed.require_error_iff, name, word_absent_iff, word_ne_failed, or_false]
  constructor
  · intro h
    rcases h with ⟨_, rfl, ⟨none, rfl⟩ | ⟨_, t, rfl, stop, rfl⟩⟩
    · exact .unmarked none
    · exact .missing stop
  · intro h
    rcases h with none | stop
    · exact ⟨_, rfl, Or.inl ⟨none, rfl⟩⟩
    · exact ⟨_, rfl, Or.inr ⟨(), _, rfl, stop, rfl⟩⟩

theorem icon_absent_iff : icon.read s = .absent ↔ NotAt '^' s :=
  Reader.lead_absent_iff

end BarTemplate.Grammar
