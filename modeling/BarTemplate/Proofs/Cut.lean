import BarTemplate.Proofs.Completion

/-!
# Templates and failures where there is less room

What is read where there is room for many levels of braces, read again where there is room for fewer. A part that is
deep enough is cut: one of the braces in it is refused, before its end (`TemplateAt.cut`). Every other part is the same.
A failure either is the same or comes after the brace that is refused (`Fails.cut`).
-/

namespace BarTemplate.Grammar

open Production

variable {s r : Text} {f : Failure} {room : Nat}

/-! ## Parts that are too deep -/

/-- Every token takes at least one character. -/
theorem TokenAt.length_lt {t : Token} (h : TokenAt s t r) : r.length < s.length := by
  obtain ⟨x, rfl, hx, -⟩ := h.settled
  have positive := List.length_pos_iff.mpr hx
  rw [List.length_append]
  omega

/-- An alternative leaves no more than it was given; it may take nothing. -/
theorem AlternativeAt.length_le {as : List Token} (h : AlternativeAt s as r) : r.length ≤ s.length := by
  obtain ⟨x, rfl, -⟩ := h.settled
  simp

/-- A template leaves no more than it was given. -/
theorem TemplateAt.length_le {as : List (List Token)} (h : TemplateAt s as r) : r.length ≤ s.length := by
  obtain ⟨x, rfl, -⟩ := h.settled
  simp

/-- A brace is refused in a text, before a rest of it. -/
def CutBefore (FailsAt : Text → Failure → Prop) (s r : Text) : Prop :=
  ∃ q, FailsAt s ⟨.tooDeep, q⟩ ∧ r.length < q.length

/-- A refusal inside a part is a refusal inside the whole the part stands in, as long as the whole ends no earlier. -/
theorem CutBefore.imp {F G : Text → Failure → Prop} {s' r' : Text} (h : CutBefore F s r) (hr : r'.length ≤ r.length)
    (hG : ∀ g, F s g → G s' g) : CutBefore G s' r' := by
  obtain ⟨q, hq, before⟩ := h
  exact ⟨q, hG _ hq, Nat.lt_of_le_of_lt hr before⟩

mutual

/-- A token deeper than the room loses a brace inside it: its own when there is no room at all, otherwise one of its
template. -/
theorem TokenAt.cut :
    ∀ {s r : Text} {t : Token} {room : Nat}, TokenAt s t r → room < t.depth → CutBefore (TokenFails room) s r
  | _, _, _, _, .text _ _, depth => absurd depth (Nat.not_lt_zero _)
  | _, _, _, _, .placeholder _, depth => absurd depth (Nat.not_lt_zero _)
  | _, _, _, _, .icon _, depth => absurd depth (Nat.not_lt_zero _)
  | _, _, _, 0, .group template, _ => by
    have inside := template.length_le
    rw [List.length_cons] at inside
    exact ⟨_, .group .tooDeep, by rw [List.length_cons]; omega⟩
  | _, _, _, room + 1, .group template, depth => by
    have inner := TemplateAt.cut template (Nat.lt_of_succ_lt_succ depth)
    exact inner.imp (by simp) fun g hg => .group (.template hg)

/-- An alternative deeper than the room loses a brace inside it. Where the first token is shallow enough it is taken as
before and a later token is the one refused. -/
theorem AlternativeAt.cut :
    ∀ {s r : Text} {as : List Token} {room : Nat}, AlternativeAt s as r → room < Token.depthOfAlternative as →
    CutBefore (AlternativeFails room) s r
  | _, _, _, _, .stop _, depth => absurd depth (Nat.not_lt_zero _)
  | _, _, _, room, @AlternativeAt.token _ _ _ t _ token rest, depth => by
    -- If the first token is not the one that is too deep, it is read with less room as it is with more.
    by_cases ht : room < t.depth
    · exact (TokenAt.cut token ht).imp rest.length_le fun g hg => .token hg
    · rw [Token.depthOfAlternative] at depth
      exact (AlternativeAt.cut rest (by omega)).imp (Nat.le_refl _) fun g hg => .later token (Nat.le_of_not_lt ht) hg

/-- A template deeper than the room loses a brace inside it, in the first alternative that is too deep. -/
theorem TemplateAt.cut :
    ∀ {s r : Text} {as : List (List Token)} {room : Nat}, TemplateAt s as r → room < Token.depthOfTemplate as →
    CutBefore (TemplateFails room) s r
  | _, _, _, _, .last alternative _, depth => by
    rw [Token.depthOfTemplate, Token.depthOfTemplate, Nat.max_zero] at depth
    exact (AlternativeAt.cut alternative depth).imp (Nat.le_refl _) fun g hg => .alternative hg
  | _, _, _, room, @TemplateAt.bar _ _ _ a _ alternative rest, depth => by
    by_cases ha : room < Token.depthOfAlternative a
    · have within := rest.length_le
      exact (AlternativeAt.cut alternative ha).imp (by rw [List.length_cons]; omega) fun g hg => .alternative hg
    · rw [Token.depthOfTemplate] at depth
      exact (TemplateAt.cut rest (by omega)).imp (Nat.le_refl _) fun g hg => .later alternative (Nat.le_of_not_lt ha) hg

end

/-! ## Failures -/

/-- A failure is one where there is less room, or a brace before it is refused there. -/
def CutsTo (FailsAt : Text → Failure → Prop) (s : Text) (f : Failure) : Prop :=
  f.cause ≠ .tooDeep ∧ FailsAt s f ∨ CutBefore FailsAt s f.rest

/-- What less room makes of the failure of a part it makes of the failure of the whole. -/
theorem CutsTo.imp {F G : Text → Failure → Prop} {s' : Text} (h : CutsTo F s f) (hG : ∀ g, F s g → G s' g) :
    CutsTo G s' f :=
  Or.imp (And.imp_right (hG f)) (fun refused => refused.imp (Nat.le_refl _) hG) h

/-- An alternative fails inside the text it was given. -/
theorem AlternativeFails.rest_length_le (h : AlternativeFails room s f) : f.rest.length ≤ s.length := by
  obtain ⟨x, _, _, rfl, -⟩ := h.completable
  simp

/-- A template fails inside the text it was given. -/
theorem TemplateFails.rest_length_le (h : TemplateFails room s f) : f.rest.length ≤ s.length := by
  obtain ⟨x, _, _, rfl, -⟩ := h.completable
  simp

/-- The failure of a whole source lies inside it. -/
theorem Fails.rest_length_le (h : Fails room s f) : f.rest.length ≤ s.length := by
  obtain ⟨x, _, _, rfl, -⟩ := h.completable
  simp

mutual

/-- A group that fails with more room: with none its own brace is refused first, otherwise its template is cut. -/
theorem GroupFails.cut : ∀ {room' : Nat} {s : Text} {f : Failure}, GroupFails room' s f →
    ∀ room < room', CutsTo (GroupFails room) s f
  | _, _, _, .tooDeep, _, less => absurd less (Nat.not_lt_zero _)
  | _, _, _, .template h, 0, _ => Or.inr ⟨_, .tooDeep, Nat.lt_succ_of_le h.rest_length_le⟩
  | _, _, _, .template h, room + 1, less =>
    (TemplateFails.cut h room (Nat.lt_of_succ_lt_succ less)).imp fun _ hg => .template hg
  | _, _, _, .unclosed _ _, 0, _ => Or.inr ⟨_, .tooDeep, Nat.succ_pos _⟩
  | _, _, _, @GroupFails.unclosed _ _ inner template depth, room + 1, _ => by
    by_cases shallow : Token.depthOfTemplate inner ≤ room
    · exact Or.inl ⟨by simp, .unclosed template shallow⟩
    · exact Or.inr ((template.cut (Nat.lt_of_not_le shallow)).imp (Nat.le_refl _) fun g hg => .template hg)

/-- A token that fails with more room fails the same way with less, or has a brace refused before that point. -/
theorem TokenFails.cut : ∀ {room' : Nat} {s : Text} {f : Failure}, TokenFails room' s f →
    ∀ room < room', CutsTo (TokenFails room) s f
  | _, _, _, .literal h, _, _ => Or.inl ⟨by simp [h.cause_eq], .literal h⟩
  | _, _, _, .placeholder h, _, _ => Or.inl ⟨ne_tooDeep_of_expected h.expected, .placeholder h⟩
  | _, _, _, .icon h, _, _ => Or.inl ⟨ne_tooDeep_of_expected h.expected, .icon h⟩
  | _, _, _, .group h, room, less => (GroupFails.cut h room less).imp fun _ hg => .group hg

/-- The same for an alternative. A token that was read before the failure may now be too deep, and its refusal comes
first. -/
theorem AlternativeFails.cut : ∀ {room' : Nat} {s : Text} {f : Failure}, AlternativeFails room' s f →
    ∀ room < room', CutsTo (AlternativeFails room) s f
  | _, _, _, .token h, room, less => (TokenFails.cut h room less).imp fun _ hg => .token hg
  | _, _, _, @AlternativeFails.later _ _ _ t _ token _ rest, room, less => by
    by_cases shallow : t.depth ≤ room
    · exact (AlternativeFails.cut rest room less).imp fun g hg => .later token shallow hg
    · exact Or.inr ((token.cut (Nat.lt_of_not_le shallow)).imp rest.rest_length_le fun g hg => .token hg)

/-- The same for a template, where an alternative read before the failure may be the one cut. -/
theorem TemplateFails.cut : ∀ {room' : Nat} {s : Text} {f : Failure}, TemplateFails room' s f →
    ∀ room < room', CutsTo (TemplateFails room) s f
  | _, _, _, .alternative h, room, less => (AlternativeFails.cut h room less).imp fun _ hg => .alternative hg
  | _, _, _, @TemplateFails.later _ _ _ a _ alternative _ rest, room, less => by
    by_cases shallow : Token.depthOfAlternative a ≤ room
    · exact (TemplateFails.cut rest room less).imp fun g hg => .later alternative shallow hg
    · have within := rest.rest_length_le
      have refused := alternative.cut (Nat.lt_of_not_le shallow)
      exact Or.inr (refused.imp (by rw [List.length_cons]; omega) fun g hg => .alternative hg)

end

/-- A failure of a source is one where there is less room, or comes after the brace that is refused there. -/
theorem Fails.cut {room' : Nat} (h : Fails room' s f) (less : room < room') : CutsTo (Fails room) s f := by
  cases h with
  | template h => exact (h.cut room less).imp fun g hg => .template hg
  | @trailing _ t template _ =>
    by_cases shallow : Token.depthOfTemplate t ≤ room
    · exact Or.inl ⟨by simp, .trailing template shallow⟩
    · exact Or.inr ((template.cut (Nat.lt_of_not_le shallow)).imp (Nat.le_refl _) fun g hg => .template hg)

end BarTemplate.Grammar
