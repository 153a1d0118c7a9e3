import BarTemplate.Parse
import BarTemplate.Proofs.Template

/-!
# What a parse returns

Main statement: a source parses to a template exactly if the grammar derives the template from the whole source and the
cap allows its depth; the grammar derives at most one template from a source, and where it derives none that the cap
allows, the parse is an error (`parse_exact`). The errors are those of `Grammar.Fails`.
-/

namespace BarTemplate

open Grammar

variable {cap : Int} {s : Text}

/-- A source parses to what the grammar derives from it, if the cap allows its depth. Under a negative cap it does so as
under zero. -/
theorem parseUnder_ok_iff {t : Template} : parseUnder cap s = .ok t ↔ Derives s t ∧ (t.depth : Int) ≤ max 0 cap := by
  have depth : (t.depth : Int) ≤ max 0 cap ↔ t.depth ≤ cap.toNat := by omega
  have read : parseUnder cap s = .ok t ↔ (Production.whole cap.toNat).read s = .ok (t, []) := by
    unfold parseUnder
    rcases h : (Production.whole cap.toNat).read s with f | ⟨a, r⟩
    · simp
    · obtain ⟨-, rfl⟩ := whole_ok_iff.mp h
      simp
  rw [read, whole_ok_iff, depth]
  simp

/-- A source is rejected with the error that its failure is reported as. -/
theorem parseUnder_error_iff {e : SyntaxError} :
    parseUnder cap s = .error e ↔ ∃ f, Fails cap.toNat s f ∧ e = .ofFailure s cap f := by
  simp only [← whole_error_iff]
  unfold parseUnder
  rcases (Production.whole cap.toNat).read s with f | ⟨a, r⟩ <;> simp [eq_comm]

/-- The offset of an error is where the rest of its failure begins. -/
theorem offset_ofFailure {f : Failure} :
    (SyntaxError.ofFailure s cap f).position.offset = (s.length - f.rest.length : Nat) :=
  rfl

/-- A parse ends in one of two ways. -/
theorem parseUnder_total (cap : Int) (s : Text) :
    (∃ t, parseUnder cap s = .ok t) ∨ ∃ f, Fails cap.toNat s f ∧ parseUnder cap s = .error (.ofFailure s cap f) := by
  rcases h : parseUnder cap s with e | t
  · obtain ⟨f, hf, rfl⟩ := parseUnder_error_iff.mp h
    exact Or.inr ⟨f, hf, rfl⟩
  · exact Or.inl ⟨t, rfl⟩

/-- A failure has one place and one cause. -/
theorem Grammar.Fails.unique {room : Nat} {f g : Failure} (hf : Fails room s f) (hg : Fails room s g) : f = g := by
  have h := (whole_error_iff.mpr hf).symm.trans (whole_error_iff.mpr hg)
  exact Except.error.inj h

/-- Parsing and the grammar agree: a source parses to a template exactly if the grammar derives it from the whole source
and the cap allows its depth. The grammar is unambiguous, and every other source is an error. -/
theorem parse_exact (frames requested : Int) (s : Text) :
    (∀ t, parse frames requested s = .ok t ↔ Derives s t ∧ (t.depth : Int) ≤ max 0 (Nesting.clamp frames requested)) ∧
      (∀ t u, Derives s t → Derives s u → t = u) ∧
      ((∃ e, parse frames requested s = .error e) ↔
        ∀ t, Derives s t → max 0 (Nesting.clamp frames requested) < (t.depth : Int)) := by
  refine ⟨fun t => parseUnder_ok_iff, fun t u ht hu => ht.unique hu, ?_⟩
  constructor
  · rintro ⟨e, he⟩ t ht
    refine Int.lt_of_not_ge fun hd => ?_
    have h := parseUnder_ok_iff.mpr ⟨ht, hd⟩
    rw [parse, h] at he
    cases he
  · intro h
    rcases parseUnder_total (Nesting.clamp frames requested) s with ⟨t, ht⟩ | ⟨f, -, he⟩
    · obtain ⟨hs, hd⟩ := parseUnder_ok_iff.mp ht
      exact absurd hd (Int.not_le.mpr (h t hs))
    · exact ⟨_, he⟩

end BarTemplate
