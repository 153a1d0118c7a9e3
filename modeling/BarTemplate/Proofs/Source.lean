import BarTemplate.Proofs.Parse
import BarTemplate.Template.Source
import BarTemplate.Template.WellFormed

/-!
# Templates and their sources

Main statement: the templates that parsing returns are exactly the well-formed ones that the cap allows, and the source
of each of them parses to it (`parse_source`). What the grammar derives is well-formed because words, values and runs of
text are; the source of a well-formed template is derived because every token begins with a special character, at which
the word or the text before it ends.
-/

namespace BarTemplate

open Grammar

variable {p : Char → Bool} {s r w v : Text}

/-! ## What is derived is well-formed -/

namespace Grammar

/-- What is read as a word is one. -/
theorem WordAt.isWord (h : WordAt p s w r) : IsWord p w := by
  obtain ⟨first, more, -⟩ := h
  refine ⟨first, fun d hd => ?_⟩
  have := more d hd
  rwa [Bool.or_eq_true] at this

/-- A value that is read has no quote in it, whether it stood in quotes or not. -/
theorem ValueAt.quote_not_mem (h : ValueAt s v r) : Production.quote ∉ v := by
  cases h with
  | quoted inner => exact inner
  | bare word =>
    obtain ⟨first, more, -⟩ := word
    intro hq
    rcases List.mem_cons.mp hq with rfl | hq
    · exact absurd first (by decide)
    · exact absurd (more _ hq) (by decide)

/-- An argument that is read is well formed. -/
theorem ArgumentAt.wellFormed {a : Argument} (h : ArgumentAt s a r) : a.WellFormed := by
  cases h with
  | bare key => exact ⟨key.isWord, fun v hv => nomatch hv⟩
  | valued key value =>
    refine ⟨key.isWord, fun v hv => ?_⟩
    cases hv
    exact value.quote_not_mem

theorem FurtherAt.wellFormed {as : List Argument} (h : FurtherAt s as r) : ∀ a ∈ as, a.WellFormed := by
  induction h with
  | close => exact fun a ha => nomatch ha
  | further _ _ argument _ ih => exact List.forall_mem_cons.mpr ⟨argument.wellFormed, ih⟩

/-- All arguments of a list that is read are well formed. -/
theorem ArgumentsAt.wellFormed {as : List Argument} (h : ArgumentsAt s as r) : ∀ a ∈ as, a.WellFormed := by
  cases h with
  | empty => exact fun a ha => nomatch ha
  | first _ argument rest => exact List.forall_mem_cons.mpr ⟨argument.wellFormed, rest.wellFormed⟩

/-- A formatter that is read is well formed. -/
theorem FormatterAt.wellFormed {f : Formatter} (h : FormatterAt s f r) : f.WellFormed := by
  cases h with
  | bare name => exact ⟨name.isWord, fun a ha => nomatch ha⟩
  | applied name arguments => exact ⟨name.isWord, arguments.wellFormed⟩

/-- A placeholder that is read is well formed. -/
theorem PlaceholderAt.wellFormed {p : Placeholder} (h : PlaceholderAt s p r) : p.WellFormed := by
  cases h with
  | bare name => exact ⟨name.isWord, fun f hf => nomatch hf⟩
  | formatted name formatter =>
    refine ⟨name.isWord, fun f hf => ?_⟩
    cases hf
    exact formatter.wellFormed

/-- Where literal text has stopped, no more of it stands. -/
theorem LiteralAt.eq_nil (h : LiteralAt s v r) (stop : StopsAt (fun c => isPlain c || c == escapeChar) s) : v = [] := by
  cases h with
  | stop => rfl
  | plain hp => simp [stopsAt_cons, hp] at stop
  | escaped => simp [stopsAt_cons] at stop

/-- After a run of text comes no other one. -/
theorem TokenAt.mayPrecede {t u : Token} {m : Text} (ht : TokenAt s t m) (hu : TokenAt m u r) : t.MayPrecede u := by
  cases ht with
  | text literal =>
    cases hu with
    | text literal' nonempty => exact absurd (literal'.eq_nil literal.stop_rest) nonempty
    | _ => trivial
  | _ => trivial

/-- The first token of an alternative stands at its beginning. -/
theorem AlternativeAt.token_head {as : List Token} (h : AlternativeAt s as r) : ∀ t ∈ as.head?, ∃ m, TokenAt s t m := by
  intro t ht
  cases h with
  | stop => cases ht
  | token token =>
    cases ht
    exact ⟨_, token⟩

mutual

/-- A token that is read is well formed. For a text that is to say it is not empty. -/
theorem TokenAt.wellFormed : ∀ {s r : Text} {t : Token}, TokenAt s t r → t.WellFormed
  | _, _, _, .text _ nonempty => nonempty
  | _, _, _, .placeholder placeholder => placeholder.wellFormed
  | _, _, _, .icon name => name.isWord
  | _, _, _, .group template => ⟨template.ne_nil, TemplateAt.wellFormed template⟩

/-- An alternative that is read is well formed: no literal text comes right after another. -/
theorem AlternativeAt.wellFormed :
    ∀ {s r : Text} {as : List Token}, AlternativeAt s as r → Token.WellFormedAlternative as
  | _, _, _, .stop _ => trivial
  | _, _, _, .token token rest => by
    refine ⟨TokenAt.wellFormed token, fun u hu => ?_, AlternativeAt.wellFormed rest⟩
    obtain ⟨m, hm⟩ := rest.token_head u hu
    exact token.mayPrecede hm

/-- A template that is read is well formed. -/
theorem TemplateAt.wellFormed : ∀ {s r : Text} {as : List (List Token)}, TemplateAt s as r → Token.WellFormedTemplate as
  | _, _, _, .last alternative _ => ⟨AlternativeAt.wellFormed alternative, trivial⟩
  | _, _, _, .bar alternative rest => ⟨AlternativeAt.wellFormed alternative, TemplateAt.wellFormed rest⟩

end

/-- A template that a source derives is well formed. -/
theorem Derives.wellFormed {t : Template} (h : Derives s t) : t.WellFormed :=
  ⟨TemplateAt.ne_nil h, TemplateAt.wellFormed h⟩

end Grammar

/-! ## Where a part of a source ends -/

/-- A rest that begins with a special character, or is empty. -/
def Bounded (r : Text) : Prop :=
  ∀ c ∈ r.head?, c ∈ specialChars

/-- At a special character every name ends. -/
theorem Bounded.stopsAt_name (h : Bounded r) : StopsAt (fun d => isNameChar d || Unicode.isMark d) r := by
  have all : specialChars.all (fun c => !(isNameChar c || Unicode.isMark c)) = true := by decide
  intro c hc
  have := List.all_eq_true.mp all c (h c hc)
  rwa [Bool.not_eq_true'] at this

/-- A character that is not special does not follow. -/
theorem Bounded.notAt {c : Char} (h : Bounded r) (hc : c ∉ specialChars) : NotAt c r :=
  fun hr => hc (h c hr)

theorem bounded_cons {c : Char} (hc : c ∈ specialChars) : Bounded (c :: r) := by
  rintro d ⟨⟩
  exact hc

/-- A bar, a closing brace or the end closes an alternative. -/
theorem Bounded.of_closing (h : ∀ c ∈ r.head?, c = '|' ∨ c = '}') : Bounded r := by
  intro c hc
  rcases h c hc with rfl | rfl <;> decide

/-- White space is no part of a name. -/
theorem isGap_of_isNameChar {c : Char} (h : isNameChar c = true) : isGap c = false := by
  refine Bool.eq_false_iff.mpr fun hg => ?_
  simp only [isGap, Bool.or_eq_true, beq_iff_eq] at hg
  rcases hg with (((rfl | rfl) | rfl) | rfl) | rfl <;> exact absurd h (by decide)

/-- A word stands before every rest that does not carry it on. -/
theorem IsWord.wordAt (h : IsWord p w) (stop : StopsAt (fun d => p d || Unicode.isMark d) r) :
    WordAt p (w ++ r) w r := by
  cases w with
  | nil => exact h.elim
  | cons c w =>
    refine .word h.1 (fun d hd => ?_) stop
    rw [Bool.or_eq_true]
    exact h.2 d hd

/-- A name begins with a name character. -/
theorem IsName.stopsAt_gap (h : IsName w) : StopsAt isGap (w ++ r) := by
  cases w with
  | nil => exact h.elim
  | cons c w => exact stopsAt_cons.mpr (isGap_of_isNameChar h.1)

/-! ## The source of a well-formed template is derived -/

/-- The source of an argument, with its value in quotes and a rest behind it. -/
theorem Argument.source_append (a : Argument) :
    a.source ++ r = a.key ++
      (match a.value with | none => r | some v => ':' :: (Production.quote :: v ++ Production.quote :: r)) := by
  obtain ⟨k, v | v⟩ := a <;> simp [Argument.source]

/-- The source of a well-formed argument reads as that argument before a comma and before a parenthesis. -/
theorem Argument.WellFormed.at_source {a : Argument} (h : a.WellFormed) {c : Char} (hc : c = ',' ∨ c = ')') :
    ArgumentAt (a.source ++ c :: r) a (c :: r) := by
  rw [a.source_append]
  obtain ⟨k, v⟩ := a
  cases v with
  | none =>
    rcases hc with rfl | rfl
    · exact .bare (IsWord.wordAt h.1 (stopsAt_cons.mpr (by decide))) (by simp [NotAt])
    · exact .bare (IsWord.wordAt h.1 (stopsAt_cons.mpr (by decide))) (by simp [NotAt])
  | some v => exact .valued (IsWord.wordAt h.1 (stopsAt_cons.mpr (by decide))) (.quoted (h.2 v rfl))

/-- No white space begins an argument, so what is skipped before one ends there. -/
theorem Argument.WellFormed.stopsAt_gap {a : Argument} (h : a.WellFormed) : StopsAt isGap (a.source ++ r) := by
  rw [a.source_append]
  exact IsName.stopsAt_gap h.1

/-- Sources of arguments with commas between them are the first one and the others, each after a comma. -/
theorem joinWith_cons (a : Argument) (as : List Argument) :
    Text.joinWith [','] ((a :: as).map Argument.source) = a.source ++ as.flatMap fun b => ',' :: b.source := by
  unfold Text.joinWith
  induction as generalizing a with
  | nil => simp
  | cons b as ih =>
    simp only [List.map_cons] at ih
    rw [List.map_cons, List.map_cons, List.intercalate_cons_cons, ih, List.flatMap_cons]
    simp

/-- The sources of well-formed arguments, each behind a comma, read as these up to the parenthesis. -/
theorem furtherAt_source {as : List Argument} (h : ∀ a ∈ as, a.WellFormed) :
    FurtherAt ((as.flatMap fun a => ',' :: a.source) ++ ')' :: r) as r := by
  induction as with
  | nil => exact .close (gapAt_self (stopsAt_cons.mpr (by decide)))
  | cons a as ih =>
    obtain ⟨ha, has⟩ := List.forall_mem_cons.mp h
    rw [List.flatMap_cons, List.cons_append, List.cons_append, List.append_assoc]
    refine .further (gapAt_self (stopsAt_cons.mpr (by decide))) (gapAt_self ha.stopsAt_gap) ?_ (ih has)
    cases as with
    | nil => exact ha.at_source (Or.inr rfl)
    | cons b as => exact ha.at_source (Or.inl rfl)

/-- So does a list of at least one in parentheses. -/
theorem argumentsAt_source {a : Argument} {as : List Argument} (h : ∀ b ∈ a :: as, b.WellFormed) :
    ArgumentsAt ('(' :: (Text.joinWith [','] ((a :: as).map Argument.source) ++ ')' :: r)) (a :: as) r := by
  obtain ⟨ha, has⟩ := List.forall_mem_cons.mp h
  rw [joinWith_cons, List.append_assoc]
  refine .first (gapAt_self ha.stopsAt_gap) ?_ (furtherAt_source has)
  cases as with
  | nil => exact ha.at_source (Or.inr rfl)
  | cons b as => exact ha.at_source (Or.inl rfl)

/-- The source of a well-formed formatter reads as that formatter where a special character or nothing follows. -/
theorem Formatter.WellFormed.at_source {f : Formatter} (h : f.WellFormed) (hr : Bounded r) :
    FormatterAt (f.source ++ r) f r := by
  obtain ⟨n, as⟩ := f
  cases as with
  | nil =>
    have source : Formatter.source ⟨n, []⟩ ++ r = '.' :: (n ++ r) := by simp [Formatter.source]
    rw [source]
    exact .bare (IsWord.wordAt h.1 hr.stopsAt_name) (hr.notAt (by decide))
  | cons a as =>
    have source : Formatter.source ⟨n, a :: as⟩ ++ r =
        '.' :: (n ++ '(' :: (Text.joinWith [','] ((a :: as).map Argument.source) ++ ')' :: r)) := by
      simp [Formatter.source]
    rw [source]
    exact .applied (IsWord.wordAt h.1 (stopsAt_cons.mpr (by decide))) (argumentsAt_source h.2)

/-- The source of a well-formed placeholder reads as that placeholder where a special character or nothing follows. -/
theorem Placeholder.WellFormed.at_source {p : Placeholder} (h : p.WellFormed) (hr : Bounded r) :
    PlaceholderAt (p.source ++ r) p r := by
  obtain ⟨n, f⟩ := p
  cases f with
  | none =>
    have source : Placeholder.source ⟨n, none⟩ ++ r = '$' :: (n ++ r) := by simp [Placeholder.source]
    rw [source]
    exact .bare (IsWord.wordAt h.1 hr.stopsAt_name) (hr.notAt (by decide))
  | some f =>
    have source : Placeholder.source ⟨n, some f⟩ ++ r = '$' :: (n ++ (f.source ++ r)) := by simp [Placeholder.source]
    have point : StopsAt (fun d => isNameChar d || Unicode.isMark d) (f.source ++ r) := by
      obtain ⟨m, _ | ⟨a, as⟩⟩ := f <;> simp only [Formatter.source, List.append_assoc] <;> exact stopsAt_cons.mpr (by decide)
    rw [source]
    exact .formatted (IsWord.wordAt h.1 point) ((h.2 f rfl).at_source hr)

/-- An escaped text reads as the text. -/
theorem literalAt_escaped (v : Text) (hr : StopsAt (fun c => isPlain c || c == escapeChar) r) :
    LiteralAt (escaped v ++ r) v r := by
  induction v with
  | nil => exact .stop hr
  | cons c v ih => exact .escaped ih

/-- The source of a token begins with a special character, and with the escape character only if the token is a text. -/
theorem Token.WellFormed.source_eq_cons {t : Token} (h : t.WellFormed) :
    ∃ c w, t.source = c :: w ∧ c ∈ specialChars ∧ (c = escapeChar → ∃ v, t = .text v) := by
  cases t with
  | text v =>
    cases v with
    | nil => exact absurd rfl h
    | cons c v => exact ⟨escapeChar, _, rfl, by decide, fun _ => ⟨_, rfl⟩⟩
  | placeholder p =>
    obtain ⟨n, _ | f⟩ := p
    · exact ⟨'$', n, by simp [Token.source, Placeholder.source], by decide, fun h => absurd h (by decide)⟩
    · exact ⟨'$', n ++ f.source, by simp [Token.source, Placeholder.source], by decide, fun h => absurd h (by decide)⟩
  | icon n => exact ⟨'^', _, rfl, by decide, fun h => absurd h (by decide)⟩
  | group t => exact ⟨'{', _, rfl, by decide, fun h => absurd h (by decide)⟩

/-- What may follow a token: the next special character or the end, and after a text no other one. -/
def Token.Before (t : Token) (r : Text) : Prop :=
  Bounded r ∧ ∀ v, t = .text v → NotAt escapeChar r

/-- After a text its literal text does not go on. -/
theorem Token.Before.stopsAt_literal (h : Token.Before (.text v) r) :
    StopsAt (fun c => isPlain c || c == escapeChar) r := by
  intro c hc
  have special : isPlain c = false := by
    rw [isPlain, List.contains_iff_mem.mpr (h.1 c hc), Bool.not_true]
  have escape : c ≠ escapeChar := fun e => h.2 v rfl (e ▸ hc)
  simp only [special, Bool.false_or, beq_eq_false_iff_ne]
  exact escape

/-- In a well-formed alternative, what follows a token is what may follow it. -/
theorem Token.before_source {t : Token} {ts : List Token} (h : Token.WellFormedAlternative (t :: ts))
    (hr : ∀ c ∈ r.head?, c = '|' ∨ c = '}') : t.Before (Token.sourceOfAlternative ts ++ r) := by
  obtain ⟨-, hu, hts⟩ := h
  cases ts with
  | nil =>
    refine ⟨.of_closing hr, fun v _ he => ?_⟩
    rcases hr _ he with h | h <;> exact absurd h (by decide)
  | cons u us =>
    obtain ⟨c, w, source, special, text⟩ := hts.1.source_eq_cons
    rw [Token.sourceOfAlternative, source]
    refine ⟨bounded_cons special, fun v hv he => ?_⟩
    obtain ⟨v', rfl⟩ := text (Option.some.inj he)
    subst hv
    exact hu _ rfl

mutual

/-- The source of a well-formed token reads as that token before whatever may follow it. -/
theorem Token.WellFormed.at_source :
    ∀ {t : Token}, t.WellFormed → ∀ {r : Text}, t.Before r → TokenAt (t.source ++ r) t r
  | .text v, h, _, hr => .text (literalAt_escaped v hr.stopsAt_literal) h
  | .placeholder _, h, _, hr => .placeholder (Placeholder.WellFormed.at_source h hr.1)
  | .icon n, h, r, hr => by
    rw [Token.source, List.append_assoc]
    exact .icon (IsWord.wordAt h hr.1.stopsAt_name)
  | .group t, h, r, _ => by
    rw [Token.source, List.append_assoc, List.cons_append]
    exact .group (Token.WellFormedTemplate.at_source h.1 h.2 (by simp))

/-- The source of a well-formed alternative reads as that alternative. Each token comes before one that may follow it,
since no literal text comes right after another. -/
theorem Token.WellFormedAlternative.at_source : ∀ {ts : List Token}, Token.WellFormedAlternative ts →
    ∀ {r : Text}, (∀ c ∈ r.head?, c = '|' ∨ c = '}') → AlternativeAt (Token.sourceOfAlternative ts ++ r) ts r
  | [], _, _, hr => .stop hr
  | t :: ts, h, r, hr => by
    rw [Token.sourceOfAlternative, List.append_assoc]
    exact .token (Token.WellFormed.at_source h.1 (Token.before_source h hr)) (Token.WellFormedAlternative.at_source h.2.2 hr)

/-- The source of a well-formed template reads as that template. -/
theorem Token.WellFormedTemplate.at_source : ∀ {as : List (List Token)}, as ≠ [] → Token.WellFormedTemplate as →
    ∀ {r : Text}, (∀ c ∈ r.head?, c = '}') → TemplateAt (Token.sourceOfTemplate as ++ r) as r
  | [], hne, _, _, _ => absurd rfl hne
  | [a], _, h, r, hr => by
    rw [Token.sourceOfTemplate]
    refine .last (Token.WellFormedAlternative.at_source h.1 fun c hc => Or.inr (hr c hc)) fun hc => ?_
    exact absurd (hr _ hc) (by decide)
  | a :: b :: as, _, h, r, hr => by
    rw [Token.sourceOfTemplate, List.append_assoc, List.cons_append]
    · exact .bar (Token.WellFormedAlternative.at_source h.1 (by simp)) (Token.WellFormedTemplate.at_source (by simp) h.2 hr)
    · simp

end

/-- The source of a well-formed template derives it. -/
theorem Template.WellFormed.derives {t : Template} (h : t.WellFormed) : Derives t.source t := by
  have source := Token.WellFormedTemplate.at_source h.1 h.2 (r := []) (by simp)
  rw [List.append_nil] at source
  exact source

/-- Parsing returns exactly the well-formed templates that the cap allows, and the source of each of them parses to it.
So does the source of what any source parses to. -/
theorem parse_source (frames requested : Int) :
    (∀ t : Template, (∃ s, parse frames requested s = .ok t) ↔
      t.WellFormed ∧ (t.depth : Int) ≤ max 0 (Nesting.clamp frames requested)) ∧
    (∀ t : Template, parse frames requested t.source = .ok t ↔
      t.WellFormed ∧ (t.depth : Int) ≤ max 0 (Nesting.clamp frames requested)) ∧
    (∀ s, (parse frames requested s).bind (fun t => parse frames requested t.source) = parse frames requested s) := by
  have image : ∀ (s : Text) (t : Template), parse frames requested s = .ok t →
      t.WellFormed ∧ (t.depth : Int) ≤ max 0 (Nesting.clamp frames requested) := by
    intro s t h
    obtain ⟨hs, depth⟩ := parseUnder_ok_iff.mp h
    exact ⟨hs.wellFormed, depth⟩
  have back : ∀ t : Template, t.WellFormed ∧ (t.depth : Int) ≤ max 0 (Nesting.clamp frames requested) →
      parse frames requested t.source = .ok t :=
    fun t h => parseUnder_ok_iff.mpr ⟨h.1.derives, h.2⟩
  refine ⟨fun t => ⟨fun ⟨s, h⟩ => image s t h, fun h => ⟨t.source, back t h⟩⟩, fun t => ⟨image _ t, back t⟩, fun s => ?_⟩
  rcases h : parse frames requested s with e | t
  · rfl
  · exact back t (image s t h)

end BarTemplate
