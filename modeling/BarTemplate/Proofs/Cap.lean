import BarTemplate.Proofs.Cut
import BarTemplate.Proofs.Parse
import BarTemplate.Session

/-!
# What the nesting cap does

Main statement: the nesting cap cuts a parse and never changes it (`cap_only_cuts`). A greater cap has the same outcome,
but for a source in which the smaller one refuses a brace. The brace that it refuses is the first one that the parse
comes to with so many templates open (`Reaches`), and a parse under a greater cap gets past it.
-/

namespace BarTemplate

open Grammar

variable {s u q : Text} {f : Failure} {room k : Nat}

namespace Grammar

/-! ## The places that a parse comes to -/

/-- A parse of a source, with room for so many levels of braces, comes to a place with a number of templates open. From
the beginning, where none is open, it goes past every token that it finds and past every bar, and into every template in
braces that there is room for. A place is the rest of the source from there. -/
inductive Reaches (room : Nat) (source : Text) : Nat → Text → Prop where
  | start : Reaches room source 0 source
  | token {k : Nat} {u r : Text} {t : Token} (here : Reaches room source k u)
      (found : (Production.token (Production.group (room - k))).read u = .found t r) : Reaches room source k r
  | bar {k : Nat} {u : Text} (here : Reaches room source k ('|' :: u)) : Reaches room source k u
  | brace {k : Nat} {u : Text} (here : Reaches room source k ('{' :: u)) (free : k < room) : Reaches room source (k + 1) u

/-- A parse goes past every token of the grammar that there is room for. -/
theorem Reaches.of_tokenAt {t : Token} {r : Text} (h : Reaches room s k u) (token : TokenAt u t r)
    (depth : t.depth ≤ room - k) : Reaches room s k r :=
  h.token ((token_found_iff (group_reads (room - k))).mpr ⟨token, depth⟩)

/-- A parse comes to the end of every alternative that it reads. -/
theorem Reaches.of_alternativeAt : ∀ {u r : Text} {as : List Token}, Reaches room s k u → AlternativeAt u as r →
    Token.depthOfAlternative as ≤ room - k → Reaches room s k r
  | _, _, _, h, .stop _, _ => h
  | _, _, _, h, .token first rest, depth => by
    obtain ⟨ht, hts⟩ := Nat.max_le.mp depth
    exact Reaches.of_alternativeAt (h.of_tokenAt first ht) rest hts

/-- There is never more open than there is room for. -/
theorem Reaches.le_room (h : Reaches room s k u) : k ≤ room := by
  induction h with
  | start => exact Nat.zero_le _
  | token _ _ ih => exact ih
  | bar _ ih => exact ih
  | brace _ free _ => exact free

/-- More room does not keep a parse from coming to a place. -/
theorem Reaches.mono {room' : Nat} (h : Reaches room s k u) (hr : room ≤ room') : Reaches room' s k u := by
  induction h with
  | start => exact .start
  | token _ found ih =>
    obtain ⟨token, depth⟩ := (token_found_iff (group_reads _)).mp found
    exact ih.of_tokenAt token (by omega)
  | bar _ ih => exact .bar ih
  | brace _ free ih => exact .brace ih (by omega)

/-- What goes wrong at a place that the parse comes to goes wrong in the source. -/
theorem Reaches.templateFails (h : Reaches room s k u) (hf : TemplateFails (room - k) u f) :
    TemplateFails room s f := by
  induction h with
  | start => exact hf
  | token _ found ih =>
    obtain ⟨token, depth⟩ := (token_found_iff (group_reads _)).mp found
    refine ih ?_
    cases hf with
    | alternative alternative => exact .alternative (.later token depth alternative)
    | later alternative depths rest => exact .later (.token token alternative) (Nat.max_le.mpr ⟨depth, depths⟩) rest
  | bar _ ih => exact ih (.later (.stop (by simp)) (Nat.zero_le _) hf)
  | @brace k _ _ free ih =>
    have level : room - k = room - (k + 1) + 1 := by omega
    refine ih ?_
    rw [level]
    exact .alternative (.token (.group (.template hf)))

/-- A parse comes to a brace with as many templates open as there is room for. -/
def Refuses (room : Nat) (s q : Text) : Prop :=
  (∃ t, q = '{' :: t) ∧ Reaches room s room q

mutual

/-- Where a template in braces is too deep, the brace refused is one that the parse comes to with nothing free. -/
theorem GroupFails.refuses :
    ∀ {m k : Nat} {u : Text} {f : Failure}, GroupFails m u f → f.cause = .tooDeep → k + m = room →
    Reaches room s k u → Refuses room s f.rest
  | _, _, _, _, .tooDeep, _, hk, h => ⟨⟨_, rfl⟩, hk ▸ h⟩
  | _, _, _, _, .template inner, cause, hk, h => TemplateFails.refuses inner cause (by omega) (h.brace (by omega))

theorem TokenFails.refuses :
    ∀ {m k : Nat} {u : Text} {f : Failure}, TokenFails m u f → f.cause = .tooDeep → k + m = room →
    Reaches room s k u → Refuses room s f.rest
  | _, _, _, _, .literal literal, cause, _, _ => by cases literal.cause_eq.symm.trans cause
  | _, _, _, _, .placeholder placeholder, cause, _, _ => absurd cause (ne_tooDeep_of_expected placeholder.expected)
  | _, _, _, _, .icon icon, cause, _, _ => absurd cause (ne_tooDeep_of_expected icon.expected)
  | _, _, _, _, .group group, cause, hk, h => GroupFails.refuses group cause hk h

/-- The parse goes past the tokens before the one that is too deep. -/
theorem AlternativeFails.refuses :
    ∀ {m k : Nat} {u : Text} {f : Failure}, AlternativeFails m u f → f.cause = .tooDeep → k + m = room →
    Reaches room s k u → Refuses room s f.rest
  | _, _, _, _, .token token, cause, hk, h => TokenFails.refuses token cause hk h
  | _, _, _, _, .later token depth rest, cause, hk, h =>
    AlternativeFails.refuses rest cause hk (h.of_tokenAt token (by omega))

/-- The parse goes past the alternatives before the one that is too deep, and past their bars. -/
theorem TemplateFails.refuses :
    ∀ {m k : Nat} {u : Text} {f : Failure}, TemplateFails m u f → f.cause = .tooDeep → k + m = room →
    Reaches room s k u → Refuses room s f.rest
  | _, _, _, _, .alternative alternative, cause, hk, h => AlternativeFails.refuses alternative cause hk h
  | _, _, _, _, .later alternative depth rest, cause, hk, h =>
    TemplateFails.refuses rest cause hk (h.of_alternativeAt alternative (by omega)).bar

end

/-- The nesting is too deep exactly if the parse comes to a brace with as many templates open as there is room for. The
error is at the brace. -/
theorem fails_tooDeep_iff : Fails room s ⟨.tooDeep, q⟩ ↔ Refuses room s q := by
  constructor
  · intro h
    cases h with
    | template h => exact h.refuses rfl (Nat.zero_add _) .start
  · intro h
    obtain ⟨⟨t, rfl⟩, h⟩ := h
    refine .template (h.templateFails ?_)
    rw [Nat.sub_self]
    exact .alternative (.token (.group .tooDeep))

/-- A parse refuses one brace only, because it ends there. -/
theorem Fails.refused_unique {p : Text} (hp : Fails room s ⟨.tooDeep, p⟩) (hq : Fails room s ⟨.tooDeep, q⟩) : p = q :=
  congrArg Failure.rest (hp.unique hq)

/-- Up to the brace that is refused where there is less room, a parse with more room comes to the same places. -/
theorem Reaches.of_more {room' : Nat} (h : Reaches room' s k u) (hq : Fails room s ⟨.tooDeep, q⟩)
    (before : q.length ≤ u.length) : Reaches room s k u := by
  induction h with
  | start => exact .start
  | @token k u r t _ found ih =>
    obtain ⟨token, -⟩ := (token_found_iff (group_reads _)).mp found
    have here : Reaches room s k u := ih (Nat.le_trans before (Nat.le_of_lt token.length_lt))
    by_cases shallow : t.depth ≤ room - k
    · exact here.of_tokenAt token shallow
    · -- the token would be cut at a brace before the one that is refused
      obtain ⟨p, hp, after⟩ := token.cut (Nat.lt_of_not_le shallow)
      have refused : Fails room s ⟨.tooDeep, p⟩ := .template (here.templateFails (.alternative (.token hp)))
      rw [refused.refused_unique hq] at after
      omega
  | bar _ ih => exact .bar (ih (Nat.le_succ_of_le before))
  | @brace k u _ _ ih =>
    have here : Reaches room s k ('{' :: u) := ih (Nat.le_succ_of_le before)
    refine here.brace (Nat.lt_of_le_of_ne here.le_room fun full => ?_)
    rw [full] at here
    have refused : Fails room s ⟨.tooDeep, '{' :: u⟩ := fails_tooDeep_iff.mpr ⟨⟨u, rfl⟩, here⟩
    rw [← refused.refused_unique hq, List.length_cons] at before
    omega

/-- The brace that is refused is the first one that a parse with more room comes to with so many templates open. -/
theorem Reaches.length_le_of_refused {room' : Nat} (hq : Fails room s ⟨.tooDeep, q⟩)
    (h : Reaches room' s room ('{' :: u)) : ('{' :: u).length ≤ q.length := by
  rcases Nat.lt_or_ge q.length ('{' :: u).length with less | done
  · have refused := fails_tooDeep_iff.mpr ⟨⟨u, rfl⟩, h.of_more hq (Nat.le_of_lt less)⟩
    exact Nat.le_of_eq (congrArg List.length (refused.refused_unique hq))
  · exact done

end Grammar

/-! ## Parses under two caps -/

open SyntaxError

variable {cap cap' : Int}

/-- Only a refused brace is reported as nesting, with the cap it was refused under. -/
theorem problemOf_tooDeep_iff {c : Int} : problemOf cap f = .tooDeep c ↔ f.cause = .tooDeep ∧ cap = c := by
  obtain ⟨cause, rest⟩ := f
  cases cause with
  | expected what => cases what <;> simp [problemOf]
  | danglingEscape => simp [problemOf]
  | tooDeep => simp [problemOf]
  | trailing => simp [problemOf]

/-- Only the message about the nesting names the cap. -/
theorem ofFailure_cap (h : f.cause ≠ .tooDeep) : SyntaxError.ofFailure s cap' f = .ofFailure s cap f := by
  have problem : problemOf cap' f = problemOf cap f := by
    obtain ⟨cause, rest⟩ := f
    cases cause with
    | tooDeep => exact absurd rfl h
    | expected what => cases what <;> rfl
    | danglingEscape => rfl
    | trailing => rfl
  rw [ofFailure, ofFailure, problem]

/-- A source in which no brace is refused is read in the same way where there is more room. -/
theorem whole_read_of_more {room' : Nat} (hr : room ≤ room') (none : ∀ q, ¬Fails room s ⟨.tooDeep, q⟩) :
    (Production.whole room').read s = (Production.whole room).read s := by
  rcases Nat.eq_or_lt_of_le hr with rfl | less
  · rfl
  · rcases h : (Production.whole room').read s with f | ⟨t, r⟩
    · rcases (whole_error_iff.mp h).cut less with ⟨-, same⟩ | ⟨q, refused, -⟩
      · exact (whole_error_iff.mpr same).symm
      · exact absurd refused (none q)
    · obtain ⟨⟨derives, -⟩, rfl⟩ := whole_ok_iff.mp h
      by_cases shallow : t.depth ≤ room
      · exact (whole_ok_iff.mpr ⟨⟨derives, shallow⟩, rfl⟩).symm
      · obtain ⟨q, refused, -⟩ := TemplateAt.cut derives (Nat.lt_of_not_le shallow)
        exact absurd (.template refused) (none q)

/-- A parse that refuses no brace is the same under every larger cap. -/
theorem parseUnder_eq_of_more (hc : cap ≤ cap') (none : ∀ q, ¬Fails cap.toNat s ⟨.tooDeep, q⟩) :
    parseUnder cap' s = parseUnder cap s := by
  have read := whole_read_of_more (Int.toNat_le_toNat hc) none
  unfold parseUnder
  rw [read]
  rcases h : (Production.whole cap.toNat).read s with f | ⟨t, r⟩
  · have cause : f.cause ≠ .tooDeep := by
      intro hf
      refine none f.rest ?_
      rw [← hf]
      exact whole_error_iff.mp h
    exact congrArg Except.error (ofFailure_cap cause)
  · rfl

/-- Where the cursor stands when a source has been read as a whole under a nesting cap. -/
def finalCursor (cap : Int) (s : Text) : Nat :=
  (({ source := s, cap := cap } : Session).take .whole).2.cursor

/-- It also leaves the cursor at the same place. -/
theorem finalCursor_eq_of_more (hc : cap ≤ cap') (none : ∀ q, ¬Fails cap.toNat s ⟨.tooDeep, q⟩) :
    finalCursor cap' s = finalCursor cap s := by
  have read := whole_read_of_more (Int.toNat_le_toNat hc) none
  unfold finalCursor Session.take Step.read Session.rest
  simp only [List.drop_zero, read]
  rcases (Production.whole cap.toNat).read s with f | ⟨t, r⟩ <;> rfl

/-- The first brace that a parse of a source, with room for so many levels, comes to with a number of templates open.
The parse goes into it if there is room, and refuses it otherwise. -/
structure FirstBrace (room k : Nat) (s : Text) (o : Nat) : Prop where
  brace : s[o]? = some '{'
  reaches : Reaches room s k (s.drop o)
  first : ∀ o' : Nat, s[o']? = some '{' → Reaches room s k (s.drop o') → o ≤ o'

/-- Where a brace is refused, a parse with more room has its first brace at that level. -/
theorem firstBrace_of_refused {room' : Nat} (hq : Fails room s ⟨.tooDeep, q⟩) (hr : room ≤ room') :
    FirstBrace room' room s (s.length - q.length) := by
  obtain ⟨⟨t, rfl⟩, reaches⟩ := fails_tooDeep_iff.mp hq
  obtain ⟨x, _, _, hs, -⟩ := hq.completable
  have length : s.length = x.length + ('{' :: t).length := by rw [hs, List.length_append]
  have offset : s.length - ('{' :: t).length = x.length := by omega
  have rest : s.drop x.length = '{' :: t := by rw [hs, List.drop_left']; rfl
  rw [offset]
  refine ⟨?_, ?_, fun o ho reaches' => ?_⟩
  · rw [← List.head?_drop, rest]
    rfl
  · rw [rest]
    exact reaches.mono hr
  · obtain ⟨inside, brace⟩ := List.getElem?_eq_some_iff.mp ho
    rw [List.drop_eq_getElem_cons inside, brace] at reaches'
    have first := reaches'.length_le_of_refused hq
    rw [List.length_cons, List.length_drop] at first
    omega

/-- A parse under a greater cap gets past the brace that is refused: it finds a template that is too deep for the
smaller cap, or its error comes later. -/
theorem parseUnder_past (hq : Fails cap.toNat s ⟨.tooDeep, q⟩) (less : cap.toNat < cap'.toNat) :
    (∃ t, parseUnder cap' s = .ok t ∧ cap.toNat < t.depth) ∨
      ∃ e, parseUnder cap' s = .error e ∧ ((s.length - q.length : Nat) : Int) < e.position.offset := by
  rcases parseUnder_total cap' s with ⟨t, ht⟩ | ⟨f, hf, he⟩
  · refine Or.inl ⟨t, ht, Nat.lt_of_not_le fun shallow => ?_⟩
    have ok := whole_ok_iff.mpr ⟨⟨(parseUnder_ok_iff.mp ht).1, shallow⟩, rfl⟩
    cases ok.symm.trans (whole_error_iff.mpr hq)
  · refine Or.inr ⟨_, he, ?_⟩
    have inside : q.length ≤ s.length := hq.rest_length_le
    rcases hf.cut less with ⟨other, same⟩ | ⟨p, refused, after⟩
    · rw [same.unique hq] at other
      exact absurd rfl other
    · obtain rfl := refused.refused_unique hq
      have later : s.length - p.length < s.length - f.rest.length := by omega
      exact Int.ofNat_lt.mpr later

/-- The nesting cap cuts a parse and never changes it, for caps of which one is not greater than the other. If no brace
is refused under the smaller one, the greater one has the same outcome, and the cursor ends at the same place. A brace
that is refused is the first one that the parse under the greater cap comes to with as many templates open as the
smaller cap allows, and a cap that allows more gets past it. A source that parses under some cap parses under every cap
that allows the depth of its template, and under no other. -/
theorem cap_only_cuts (frames frames' d d' : Int) (s : Text) (h : Nesting.clamp frames d ≤ Nesting.clamp frames' d') :
    ((∀ e c, parse frames d s = .error e → e.problem ≠ .tooDeep c) →
        parse frames' d' s = parse frames d s ∧
          finalCursor (Nesting.clamp frames' d') s = finalCursor (Nesting.clamp frames d) s) ∧
      (∀ e c, parse frames d s = .error e → e.problem = .tooDeep c →
        ∃ o : Nat, e.position.offset = o ∧
          FirstBrace (Nesting.clamp frames' d').toNat (Nesting.clamp frames d).toNat s o ∧
          (max 0 (Nesting.clamp frames d) < Nesting.clamp frames' d' →
            (∃ t, parse frames' d' s = .ok t ∧ max 0 (Nesting.clamp frames d) < (t.depth : Int)) ∨
              ∃ e', parse frames' d' s = .error e' ∧ e.position.offset < e'.position.offset)) ∧
      (∀ t, parse frames d s = .ok t → ∀ frames₃ d₃ u,
        parse frames₃ d₃ s = .ok u ↔ u = t ∧ (t.depth : Int) ≤ max 0 (Nesting.clamp frames₃ d₃)) := by
  refine ⟨fun none => ?_, fun e c he hp => ?_, fun t ht frames₃ d₃ u => ?_⟩
  · have noneRefused : ∀ q, ¬Fails (Nesting.clamp frames d).toNat s ⟨.tooDeep, q⟩ :=
      fun q hq => none _ _ (parseUnder_error_iff.mpr ⟨_, hq, rfl⟩) rfl
    exact ⟨parseUnder_eq_of_more h noneRefused, finalCursor_eq_of_more h noneRefused⟩
  · obtain ⟨⟨cause, q⟩, hf, rfl⟩ := parseUnder_error_iff.mp he
    obtain ⟨rfl, -⟩ := problemOf_tooDeep_iff.mp hp
    refine ⟨_, rfl, firstBrace_of_refused hf (Int.toNat_le_toNat h), fun less => ?_⟩
    have more : (Nesting.clamp frames d).toNat < (Nesting.clamp frames' d').toNat := by omega
    rcases parseUnder_past hf more with ⟨t, ht, depth⟩ | ⟨e', he', later⟩
    · exact Or.inl ⟨t, ht, by omega⟩
    · exact Or.inr ⟨e', he', later⟩
  · obtain ⟨derives, -⟩ := parseUnder_ok_iff.mp ht
    rw [parse, parseUnder_ok_iff]
    constructor
    · intro h
      obtain ⟨hu, depth⟩ := h
      obtain rfl := hu.unique derives
      exact ⟨rfl, depth⟩
    · intro h
      obtain ⟨rfl, depth⟩ := h
      exact ⟨derives, depth⟩

/-- A pair of braces is refused under a cap of zero, and a template of depth one under every greater cap. -/
theorem pair_of_braces_cut :
    FirstBrace 1 0 ['{', '}'] 0 ∧ ∃ t, parse 1000 1 ['{', '}'] = .ok t ∧ 0 < t.depth := by
  have refused : Fails (Nesting.clamp 1000 0).toNat ['{', '}'] ⟨.tooDeep, ['{', '}']⟩ :=
    .template (.alternative (.token (.group .tooDeep)))
  obtain ⟨-, past, -⟩ := cap_only_cuts 1000 1000 0 1 ['{', '}'] (by decide)
  obtain ⟨o, ho, first, deeper⟩ := past _ 0 (parseUnder_error_iff.mpr ⟨_, refused, rfl⟩) rfl
  obtain rfl : 0 = o := Int.ofNat.inj ho
  refine ⟨first, ?_⟩
  have derives : Derives ['{', '}'] [[.group [[]]]] := by
    have stop : ∀ r : Text, AlternativeAt ('}' :: r) [] ('}' :: r) := fun r => .stop (by simp)
    exact .last (.token (.group (.last (stop []) (by simp [NotAt]))) (.stop (by simp))) (by simp [NotAt])
  have parsed : parse 1000 1 ['{', '}'] = .ok [[.group [[]]]] := parseUnder_ok_iff.mpr ⟨derives, by decide⟩
  rcases deeper (by decide) with ⟨t, ht, depth⟩ | ⟨e, he, -⟩
  · exact ⟨t, ht, Int.ofNat_lt.mp depth⟩
  · cases parsed.symm.trans he

end BarTemplate
