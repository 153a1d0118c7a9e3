import BarTemplate.Proofs.Fault
import BarTemplate.Proofs.Reader

/-!
# Lexemes and their grammar

Words, white space, values and literal text are read exactly as the grammar has them. Every run ends at the first
character outside its class (`span_iff`); the rest follows from where each class ends.
-/

namespace BarTemplate.Grammar

open Production

variable {p : Char → Bool} {s w r v : Text} {f : Failure}

/-! ## Runs of characters -/

/-- Every word stops at the end of the source. -/
theorem stopsAt_nil : StopsAt p [] := by
  intro c hc
  cases hc

theorem stopsAt_cons {c : Char} : StopsAt p (c :: r) ↔ p c = false := by
  simp [StopsAt]

/-- A run of characters with a property is taken as a whole exactly if all of it has the property and what follows does
not. -/
theorem span_iff : s.takeWhile p = w ∧ s.dropWhile p = r ↔ s = w ++ r ∧ (∀ c ∈ w, p c = true) ∧ StopsAt p r := by
  constructor
  · intro h
    obtain ⟨rfl, rfl⟩ := h
    refine ⟨List.takeWhile_append_dropWhile.symm, List.all_eq_true.mp List.all_takeWhile, fun c hc => ?_⟩
    have hne : s.dropWhile p ≠ [] := by
      intro h
      rw [h] at hc
      cases hc
    rw [List.head?_eq_some_head hne, Option.mem_some_iff] at hc
    rw [← hc]
    exact List.head_dropWhile_not p hne
  · intro h
    obtain ⟨rfl, hw, hr⟩ := h
    rw [List.takeWhile_append_of_pos hw, List.dropWhile_append_of_pos hw]
    cases r with
    | nil => simp
    | cons c r => simp [stopsAt_cons.mp hr]

/-- White space is what is skipped. -/
theorem gapAt_iff : GapAt s r ↔ s.dropWhile isGap = r := by
  constructor
  · intro h
    obtain ⟨all, stop⟩ := h
    exact (span_iff.mpr ⟨rfl, all, stop⟩).2
  · intro h
    obtain ⟨hs, all, stop⟩ := span_iff.mp ⟨rfl, h⟩
    rw [hs]
    exact .gap all stop

/-- A text without white space at its beginning stands where the gap before it ends. -/
theorem gapAt_self (h : StopsAt isGap s) : GapAt s s :=
  .gap (g := []) (by simp) h

/-- Where a gap ends there is no further one. -/
theorem GapAt.eq_of_gapAt {t : Text} (h : GapAt s r) (h' : GapAt r t) : t = r := by
  obtain ⟨-, stop⟩ := h
  exact (gapAt_iff.mp h').symm.trans (gapAt_iff.mp (gapAt_self stop))

/-! ## Words -/

/-- The reader of words takes a longest run of the characters, with the marks that belong to them. -/
theorem word_found_iff : (word p).read s = .found w r ↔ WordAt p s w r := by
  constructor
  · intro h
    cases s with
    | nil => cases h
    | cons c t =>
      by_cases hc : p c = true
      · simp only [word, hc, if_true, Outcome.found.injEq] at h
        obtain ⟨rfl, hr⟩ := h
        obtain ⟨ht, all, stop⟩ := span_iff.mp ⟨rfl, hr⟩
        conv => arg 2; rw [ht]
        exact .word hc all stop
      · simp [word, hc] at h
  · intro h
    obtain ⟨first, more, stop⟩ := h
    obtain ⟨hw, hr⟩ := span_iff.mpr ⟨rfl, more, stop⟩
    simp [word, first, hw, hr]

/-- It finds no word where the first character is not one of them. -/
theorem word_absent_iff : (word p).read s = .absent ↔ StopsAt p s := by
  cases s with
  | nil => simp [word, stopsAt_nil]
  | cons c t => cases hc : p c <;> simp [word, hc, stopsAt_cons]

/-- It never fails. -/
theorem word_ne_failed : (word p).read s ≠ .failed f := by
  cases s with
  | nil => simp [word]
  | cons c t => cases hc : p c <;> simp [word, hc]

/-! ## Values -/

theorem quote_not_value : isValueChar quote = false := by
  decide

/-- The characters up to the next quotation mark hold none. -/
theorem run_quote_iff :
    (run (· ≠ quote)).read s = .ok (v, r) ↔ s = v ++ r ∧ quote ∉ v ∧ (r = [] ∨ r.head? = some quote) := by
  have h := span_iff (p := fun c => decide (c ≠ quote)) (s := s) (w := v) (r := r)
  have hstop : StopsAt (fun c => decide (c ≠ quote)) r ↔ r = [] ∨ r.head? = some quote := by
    cases r <;> simp [StopsAt]
  have hall : (∀ c ∈ v, decide (c ≠ quote) = true) ↔ quote ∉ v := by
    simp only [decide_eq_true_eq]
    exact ⟨fun h hq => h quote hq rfl, fun h c hc e => h (e ▸ hc)⟩
  rw [← hstop, ← hall, ← h]
  simp [run]

/-- The reader of values finds those of the grammar, bare or in quotes. -/
theorem value_found_iff : value.read s = .found v r ↔ ValueAt s v r := by
  simp only [value, Reader.orElse_found_iff, Reader.lead_found_iff, Reader.lead_absent_iff, Committed.bind_ok_iff,
    Committed.expect_ok_iff, Committed.pure_ok_iff, run_quote_iff, word_found_iff]
  constructor
  · intro h
    rcases h with ⟨t, rfl, a, u, ⟨rfl, hv, -⟩, -, w, rfl, rfl, rfl⟩ | ⟨-, h⟩
    · exact .quoted hv
    · exact .bare h
  · intro h
    rcases h with h | @⟨v, r, hv⟩
    · refine Or.inr ⟨?_, h⟩
      rintro hq
      obtain ⟨first, -, -⟩ := h
      simp only [List.cons_append, List.head?_cons, Option.some.injEq] at hq
      rw [hq, quote_not_value] at first
      cases first
    · exact Or.inl ⟨v ++ quote :: r, by simp, v, quote :: r, ⟨rfl, hv, Or.inr rfl⟩, (), r, rfl, rfl, rfl⟩

/-- It fails only in a quoted value that does not close. -/
theorem value_failed_iff : value.read s = .failed f ↔ ValueFails s f := by
  simp only [value, Reader.orElse_failed_iff, Reader.lead_failed_iff, Committed.bind_error_iff, Committed.expect_error_iff,
    Committed.pure_ne_error, run_quote_iff, word_ne_failed, and_false, or_false, exists_const]
  constructor
  · intro h
    rcases h with ⟨t, rfl, h | ⟨v, u, ⟨rfl, hv, rfl | hu⟩, hne, rfl⟩⟩
    · cases h
    · rw [List.append_nil]
      exact .unclosed hv
    · exact absurd hu hne
  · rintro @⟨v, hv⟩
    exact ⟨v, rfl, Or.inr ⟨v, [], ⟨by simp, hv, Or.inl rfl⟩, by simp, rfl⟩⟩

/-- It finds no value where neither a quote nor a character of values follows. -/
theorem value_absent_iff : value.read s = .absent ↔ StopsAt (fun c => c == quote || isValueChar c) s := by
  simp only [value, Reader.orElse_absent_iff, Reader.lead_absent_iff, word_absent_iff]
  cases s <;> simp [StopsAt]

/-! ## Literal text -/

/-- Literal text is read as the grammar has it; there may be none. -/
theorem literal_ok_iff : literal s = .ok (v, r) ↔ LiteralAt s v r := by
  constructor
  · intro h
    fun_induction literal s generalizing v with
    | case1 => cases h; exact .stop stopsAt_nil
    | case2 => cases h
    | case3 => cases h
    | case4 d t v' r' ht ih => cases h; exact .escaped (ih ht)
    | case5 => cases h
    | case6 c s hc hp v' r' hs ih => cases h; exact .plain hp (ih hs)
    | case7 c s hc hp => cases h; exact .stop (stopsAt_cons.mpr (by simp [hc, hp]))
  · intro h
    induction h with
    | @stop r stop =>
      cases r with
      | nil => rfl
      | cons c r =>
        obtain ⟨hp, hc⟩ := Bool.or_eq_false_iff.mp (stopsAt_cons.mp stop)
        unfold literal
        simp [hp, beq_eq_false_iff_ne.mp hc]
    | @plain c s v r hp _ ih =>
      have hc : c ≠ escapeChar := by
        rintro rfl
        cases hp
      unfold literal
      simp [hc, hp, ih]
    | escaped _ ih => simp [literal, ih]

/-- Literal text fails only at an escape character with nothing after it. -/
theorem literal_error_iff : literal s = .error f ↔ LiteralFails s f := by
  constructor
  · intro h
    fun_induction literal s with
    | case1 => cases h
    | case2 => cases h; exact .dangling
    | case3 d t g ht ih => cases h; exact .escaped (ih ht)
    | case4 => cases h
    | case5 c s hc hp g hs ih => cases h; exact .plain hp (ih hs)
    | case6 => cases h
    | case7 => cases h
  · intro h
    induction h with
    | dangling => rfl
    | @plain c s f hp _ ih =>
      have hc : c ≠ escapeChar := by
        rintro rfl
        cases hp
      unfold literal
      simp [hc, hp, ih]
    | escaped _ ih => simp [literal, ih]

/-- A run of literal text is empty only if it stops where it begins. -/
theorem LiteralAt.nil_iff : LiteralAt s [] r ↔ s = r ∧ StopsAt (fun c => isPlain c || c == escapeChar) s := by
  constructor
  · intro h
    obtain ⟨stop⟩ := h
    exact ⟨rfl, stop⟩
  · intro h
    obtain ⟨rfl, stop⟩ := h
    exact .stop stop

/-- Literal text goes on as far as it can. -/
theorem LiteralAt.stop_rest (h : LiteralAt s v r) : StopsAt (fun c => isPlain c || c == escapeChar) r := by
  induction h with
  | stop stop => exact stop
  | plain _ _ ih => exact ih
  | escaped _ ih => exact ih

/-- The reader of texts finds literal text that spells out something. -/
theorem text_found_iff : text.read s = .found v r ↔ LiteralAt s v r ∧ v ≠ [] := by
  rw [← literal_ok_iff]
  rcases hl : literal s with g | ⟨_ | ⟨c, u⟩, t⟩ <;> simp [text, hl]
  · rintro rfl -
    simp
  · rintro rfl -
    simp

/-- It fails where literal text does. -/
theorem text_failed_iff : text.read s = .failed f ↔ LiteralFails s f := by
  rw [← literal_error_iff]
  rcases hl : literal s with g | ⟨_ | ⟨c, u⟩, t⟩ <;> simp [text, hl]

/-- It finds nothing before a character that is neither ordinary nor an escape. -/
theorem text_absent_iff : text.read s = .absent ↔ StopsAt (fun c => isPlain c || c == escapeChar) s := by
  constructor
  · intro h
    rcases hl : literal s with g | ⟨_ | ⟨c, u⟩, t⟩ <;> simp [text, hl] at h
    exact (LiteralAt.nil_iff.mp (literal_ok_iff.mp hl)).2
  · intro h
    have hl := literal_ok_iff.mpr (.stop h)
    simp [text, hl]

end BarTemplate.Grammar
