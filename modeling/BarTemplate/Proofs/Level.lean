import BarTemplate.Proofs.Cap

/-!
# How many templates are open at a place

Main statement: at a place that a parse comes to, one number of templates in braces is open (`Reaches.unique`). A parse
that has gone into braces does not get behind the closing one by itself (`Reaches.inside`), so that going past a
template in braces and going into it lead to different places.
-/

namespace BarTemplate.Grammar

variable {s r u v q z : Text} {room k k' : Nat}

/-! ## The first step of a parse -/

/-- No place is before the beginning of the text. -/
theorem Reaches.length_le (h : Reaches room s k q) : q.length ≤ s.length := by
  induction h with
  | start => exact Nat.le_refl _
  | token _ found ih => exact Nat.le_trans (Nat.le_of_lt ((Production.token _).advances found).2) ih
  | bar _ ih => exact Nat.le_of_succ_le ih
  | brace _ _ ih => exact Nat.le_of_succ_le ih

/-- Where a parse from a text can be: at its beginning, or somewhere after the token, the bar or the opening brace that
the text begins with. -/
inductive FirstStep (room : Nat) (s : Text) : Nat → Text → Prop where
  | none : FirstStep room s 0 s
  | token {k : Nat} {r q : Text} {t : Token} (token : TokenAt s t r) (later : Reaches room r k q) : FirstStep room s k q
  | bar {k : Nat} {u q : Text} (source : s = '|' :: u) (later : Reaches room u k q) : FirstStep room s k q
  | brace {k less : Nat} {u q : Text} (source : s = '{' :: u) (free : room = less + 1) (later : Reaches less u k q) :
      FirstStep room s (k + 1) q

/-- A way to a place can be told from its first step instead of its last. -/
theorem Reaches.firstStep (h : Reaches room s k q) : FirstStep room s k q := by
  induction h with
  | start => exact .none
  | @token k u r t here found ih =>
    obtain ⟨token, depth⟩ := (token_found_iff (group_reads _)).mp found
    cases ih with
    | none => exact .token token .start
    | token first later => exact .token first (later.token found)
    | bar source later => exact .bar source (later.token found)
    | @brace k less _ _ source free later =>
      have levels : room - (k + 1) = less - k := by omega
      rw [levels] at depth
      exact .brace source free (later.of_tokenAt token depth)
  | bar _ ih =>
    cases ih with
    | none => exact .bar rfl .start
    | token first later => exact .token first later.bar
    | bar source later => exact .bar source later.bar
    | brace source free later => exact .brace source free later.bar
  | @brace k u here free ih =>
    cases ih with
    | none => exact .brace rfl (Nat.succ_pred_eq_of_pos free).symm .start
    | token first later => exact .token first (later.brace free)
    | bar source later => exact .bar source (later.brace free)
    | brace source free' later => exact .brace source free' (later.brace (by omega))

/-- A template begins with nothing of its own, with a bar or with a token, and a template follows. -/
theorem TemplateAt.first {as : List (List Token)} (h : TemplateAt s as z) :
    s = z ∨ (∃ u bs, s = '|' :: u ∧ TemplateAt u bs z) ∨ ∃ t u bs, TokenAt s t u ∧ TemplateAt u bs z := by
  cases h with
  | last alternative stop =>
    cases alternative with
    | stop => exact Or.inl rfl
    | token token rest => exact Or.inr (Or.inr ⟨_, _, _, token, .last rest stop⟩)
  | bar alternative rest =>
    cases alternative with
    | stop => exact Or.inr (Or.inl ⟨_, _, rfl, rest⟩)
    | token token more => exact Or.inr (Or.inr ⟨_, _, _, token, .bar more rest⟩)

/-- A token that begins with an opening brace is a template in braces. -/
theorem TokenAt.of_brace {t : Token} (h : TokenAt ('{' :: u) t r) : ∃ inner, TemplateAt u inner ('}' :: r) := by
  cases t with
  | text v =>
    cases h with
    | text literal nonempty => cases literal with
      | stop => exact absurd rfl nonempty
      | plain plain => exact absurd plain (by decide)
  | placeholder p => cases h with | placeholder hp => cases hp.head
  | icon n => cases h
  | group inner => cases h with | group template => exact ⟨inner, template⟩

/-! ## One level at every place -/

/-- A parse that has gone into braces does not come to a place behind the closing one. -/
theorem Reaches.inside {as : List (List Token)} (there : Reaches room v k q) (h : TemplateAt v as ('}' :: r)) :
    r.length < q.length := by
  induction hn : v.length using Nat.strongRecOn generalizing v as r room k with
  | _ n ih =>
    subst hn
    cases there.firstStep with
    | none =>
      have before := h.length_le
      rwa [List.length_cons] at before
    | token first later =>
      rcases h.first with rfl | ⟨u, bs, rfl, -⟩ | ⟨t, u, bs, token, template⟩
      · exact absurd (by simp) first.not_end
      · exact absurd (by simp) first.not_end
      · obtain ⟨-, rfl⟩ := first.unique token
        exact ih _ token.length_lt later template rfl
    | bar source later =>
      rcases h.first with rfl | ⟨u, bs, rfl, template⟩ | ⟨t, u, bs, token, -⟩
      · cases source
      · cases source
        exact ih _ (Nat.lt_succ_self _) later template rfl
      · exact absurd (by simp [source]) token.not_end
    | brace source _ later =>
      rcases h.first with rfl | ⟨u, bs, rfl, -⟩ | ⟨t, u, bs, token, template⟩
      · cases source
      · cases source
      · -- the first token is the template that the parse has gone into, and the rest of this one is behind it
        obtain rfl := source
        obtain ⟨inner, deeper⟩ := token.of_brace
        have before : u.length < q.length := ih _ (Nat.lt_succ_self _) later deeper rfl
        have behind := template.length_le
        rw [List.length_cons] at behind
        omega

/-- A parse that goes past a token does not come to a place inside it. -/
theorem TokenAt.not_inside {t : Token} {room' : Nat} (token : TokenAt ('{' :: u) t r) (past : Reaches room r k q) :
    ¬Reaches room' u k' q := by
  intro into
  obtain ⟨inner, template⟩ := token.of_brace
  have before := into.inside template
  have behind := past.length_le
  omega

/-- At the beginning no template is open. -/
theorem Reaches.eq_zero (h : Reaches room s k q) (start : s.length ≤ q.length) : k = 0 := by
  cases h.firstStep with
  | none => rfl
  | token token later =>
    have shorter := token.length_lt
    have behind := later.length_le
    omega
  | bar source later | brace source _ later =>
    have behind := later.length_le
    rw [source, List.length_cons] at start
    omega

/-- At a place that a parse comes to, one number of templates is open. -/
theorem Reaches.unique (h : Reaches room s k q) (h' : Reaches room s k' q) : k = k' := by
  induction hn : s.length using Nat.strongRecOn generalizing s room k k' with
  | _ n ih =>
    subst hn
    rcases Nat.lt_or_ge q.length s.length with onward | start
    -- both parses take the same first step: one that goes past a template does not come to where the other one goes in
    · cases h.firstStep with
      | none => exact absurd onward (Nat.lt_irrefl _)
      | token token later =>
        cases h'.firstStep with
        | none => exact absurd onward (Nat.lt_irrefl _)
        | token token' later' =>
          obtain ⟨-, rfl⟩ := token.unique token'
          exact ih _ token.length_lt later later' rfl
        | bar source _ => exact absurd (by simp [source]) token.not_end
        | brace source _ later' =>
          obtain rfl := source
          exact absurd later' (token.not_inside later)
      | bar source later =>
        obtain rfl := source
        cases h'.firstStep with
        | none => exact absurd onward (Nat.lt_irrefl _)
        | token token' _ => exact absurd (by simp) token'.not_end
        | bar source later' =>
          cases source
          exact ih _ (Nat.lt_succ_self _) later later' rfl
        | brace source _ _ => cases source
      | brace source free later =>
        obtain rfl := source
        cases h'.firstStep with
        | none => exact absurd onward (Nat.lt_irrefl _)
        | token token' later' => exact absurd later (token'.not_inside later')
        | bar source _ => cases source
        | brace source free' later' =>
          cases source
          obtain rfl := Nat.succ.inj (free.symm.trans free')
          exact congrArg (· + 1) (ih _ (Nat.lt_succ_self _) later later' rfl)
    · exact (h.eq_zero start).trans (h'.eq_zero start).symm

end BarTemplate.Grammar
