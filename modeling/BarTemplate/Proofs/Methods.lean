import BarTemplate.Proofs.Lexeme
import BarTemplate.Proofs.Machine

/-!
# The methods of the machine

Every method does what the production of its name reads. Braces are the one place where the count of open templates is
used: the room for nesting that a reader is given is what the count leaves of the cap (`performs_group`).
-/

namespace BarTemplate.Machine

open Production (quote iconMarker)

variable {α β : Type} {self : Machine} {level : Int} {r t : Text}

/-! ## Lexemes -/

/-- Gaps are skipped. -/
theorem performs_gap : Performs self level self.gap (Committed.skip isGap) :=
  ((performs_takeWhile isGap).bind fun _ => performs_pure ()).congr fun _ => rfl

/-- Words are read as the grammar has them: a first character of the class, then such characters and marks. -/
theorem performs_word (p : Char → Bool) :
    Performs self level (self.word p) (Committed.optional (Production.word p)) := by
  intro r hr
  unfold word
  rw [run_bind, run_peek, getElem?_standing hr]
  simp only [Option.bind_some, resume]
  cases r with
  | nil => rfl
  | cons c t =>
    by_cases hc : p c = true
    · have more : Performs self level _ _ := performs_takeWhile fun d => p d || Unicode.isMark d
      simp only [List.head?_cons, hc, if_true, run_bind]
      rw [more (c :: t) hr]
      simp [Production.run, Production.word, Committed.optional, answer, resume, hc]
    · simp [Production.word, Committed.optional, answer, hc]

/-- Names are read as words. -/
theorem performs_name : Performs self level self.name (Committed.optional Production.name) :=
  performs_word isNameChar

/-- A quoted value is read up to its closing quotation mark, which is expected. -/
theorem performs_quoted :
    Performs self level self.quoted (do
      let v ← Production.run (· ≠ quote)
      Committed.expect quote
      return v) :=
  (performs_takeWhile _).bind fun v => (performs_expect quote).bind fun _ => performs_pure v

/-- Values are read, quoted or as words. -/
theorem performs_value : Performs self level self.value (Committed.optional Production.value) :=
  performs_orElse (performs_lead quote performs_quoted) (performs_word isValueChar)

/-- Puts a piece in front of literal text. -/
def prepend (w : Text) (x : Except Failure (Text × Text)) : Except Failure (Text × Text) :=
  x.map fun (v, t) => (w ++ v, t)

/-- An escaped character is literal text, whatever it is. -/
theorem literal_escaped (d : Char) (s : Text) :
    Production.literal (escapeChar :: d :: s) = prepend [d] (Production.literal s) := by
  simp only [Production.literal, if_true]
  rcases Production.literal s with f | ⟨v, t⟩ <;> rfl

/-- Plain characters are literal text as they stand. -/
theorem literal_plain (w s : Text) (hw : ∀ c ∈ w, isPlain c = true) :
    Production.literal (w ++ s) = prepend w (Production.literal s) := by
  induction w with
  | nil =>
    rw [List.nil_append]
    rcases Production.literal s with f | ⟨v, t⟩ <;> rfl
  | cons c w ih =>
    have hc : isPlain c = true := hw c List.mem_cons_self
    have plain : c ≠ escapeChar := by
      rintro rfl
      cases hc
    have rest := ih fun d hd => hw d (List.mem_cons_of_mem c hd)
    rw [List.cons_append]
    conv => arg 1; unfold Production.literal
    rw [if_neg plain, if_pos hc, rest]
    rcases Production.literal s with f | ⟨v, t⟩ <;> rfl

/-- An escape at the end of the source is dangling, and is reported at itself. -/
theorem run_escape_end (hr : [escapeChar] <:+ self.source) :
    self.escape.run.run (self.standing [escapeChar] level) =
      some (self.answer level (.error ⟨.danglingEscape, [escapeChar]⟩)) := by
  unfold escape
  simp only [run_bind, run_get, Option.bind_some, resume]
  rw [run_advance_standing hr]
  simp only [Option.bind_some, resume, run_bind]
  rw [run_atEnd_standing List.nil_suffix]
  simp only [Option.bind_some, resume, List.isEmpty_nil, if_true]
  rw [run_raiseAt, drop_standing hr]
  rfl

/-- An escape before a character gives that character and is passed with it. -/
theorem run_escape_cons {d : Char} {s : Text} (hr : escapeChar :: d :: s <:+ self.source) :
    self.escape.run.run (self.standing (escapeChar :: d :: s) level) =
      some (.ok d, self.standing s level) := by
  have hs : d :: s <:+ self.source := (List.suffix_cons _ _).trans hr
  unfold escape
  simp only [run_bind, run_get, Option.bind_some, resume]
  rw [run_advance_standing hr]
  simp only [Option.bind_some, resume, run_bind]
  rw [run_atEnd_standing hs]
  exact run_advance_standing hs

/-- The pieces that the machine takes make up the literal text that is read, and it fails where that fails. -/
def TakesLiteral (self : Machine) (level : Int) (r : Text) : Prop :=
  ∃ x : Except Failure (List Text × Text), Production.literal r = x.map (fun (ps, t) => (ps.flatten, t)) ∧
    self.pieces.run.run (self.standing r level) = some (self.answer level x)

/-- A piece in front of literal text. -/
theorem TakesLiteral.cons {w : Text} (h : TakesLiteral self level t)
    (read : Production.literal r = prepend w (Production.literal t))
    (run : self.pieces.run.run (self.standing r level) =
      (do return w :: (← self.pieces) : Method (List Text)).run.run (self.standing t level)) :
    TakesLiteral self level r := by
  obtain ⟨x, hx, others⟩ := h
  refine ⟨x.map fun (ps, u) => (w :: ps, u), ?_, ?_⟩
  · rw [read, hx]
    rcases x with f | ⟨ps, u⟩ <;> rfl
  · rw [run, run_bind, others]
    rcases x with f | ⟨ps, u⟩ <;> rfl

/-- Literal text that begins with an escape is taken if what follows the escaped character is. -/
theorem takesLiteral_escaped {d : Char} (hr : escapeChar :: d :: t <:+ self.source) (h : TakesLiteral self level t) :
    TakesLiteral self level (escapeChar :: d :: t) := by
  refine h.cons (literal_escaped d t) ?_
  conv => arg 1; rw [pieces]
  rw [run_bind, run_peek, getElem?_standing hr]
  simp only [List.head?_cons, Option.bind_some, resume, if_true]
  rw [run_bind, run_escape_cons hr]
  rfl

/-- Literal text that begins with a plain character is taken if what follows the plain run is. -/
theorem takesLiteral_plain {c : Char} (hr : c :: t <:+ self.source) (hc : isPlain c = true)
    (h : TakesLiteral self level ((c :: t).dropWhile isPlain)) : TakesLiteral self level (c :: t) := by
  have escape : c ≠ escapeChar := by
    rintro rfl
    cases hc
  have taken : ∀ d ∈ (c :: t).takeWhile isPlain, isPlain d = true := List.all_eq_true.mp List.all_takeWhile
  have plain : Performs self level _ _ := performs_takeWhile isPlain
  refine h.cons (w := (c :: t).takeWhile isPlain) ?_ ?_
  · rw [← literal_plain _ _ taken, List.takeWhile_append_dropWhile]
  · conv => arg 1; rw [pieces]
    rw [run_bind, run_peek, getElem?_standing hr]
    simp only [List.head?_cons, Option.bind_some, resume, if_neg escape, if_pos hc]
    rw [run_bind, plain _ hr]
    rfl

/-- Literal text is taken from every place of the source. The induction is on the length of the rest. -/
theorem takesLiteral (r : Text) (hr : r <:+ self.source) : TakesLiteral self level r := by
  induction hn : r.length using Nat.strongRecOn generalizing r with
  | _ n ih =>
    cases r with
    | nil =>
      refine ⟨.ok ([], []), rfl, ?_⟩
      rw [pieces, run_bind, run_peek, getElem?_standing hr]
      rfl
    | cons c s =>
      by_cases hc : c = escapeChar
      · subst hc
        cases s with
        | nil =>
          refine ⟨.error ⟨.danglingEscape, [escapeChar]⟩, rfl, ?_⟩
          rw [pieces, run_bind, run_peek, getElem?_standing hr]
          simp only [List.head?_cons, Option.bind_some, resume, if_true, run_bind]
          rw [run_escape_end hr]
          rfl
        | cons d t =>
          have ht : t <:+ self.source := ((List.suffix_cons _ _).trans (List.suffix_cons _ _)).trans hr
          exact takesLiteral_escaped hr (ih t.length (by simp only [← hn, List.length_cons]; omega) t ht rfl)
      · by_cases hp : isPlain c = true
        · have shorter : ((c :: s).dropWhile isPlain).length < n := by
            rw [List.dropWhile_cons_of_pos hp, ← hn, List.length_cons]
            exact Nat.lt_succ_of_le (List.dropWhile_suffix isPlain).length_le
          exact takesLiteral_plain hr hp (ih _ shorter _ ((List.dropWhile_suffix isPlain).trans hr) rfl)
        · refine ⟨.ok ([], c :: s), ?_, ?_⟩
          · unfold Production.literal
            simp [hc, hp, Except.map]
          · rw [pieces, run_bind, run_peek, getElem?_standing hr]
            simp only [List.head?_cons, Option.bind_some, resume, hc, hp, if_false, Bool.false_eq_true]
            rfl

/-- Literal text is read, and is absent where none of it is taken. -/
theorem performs_text : Performs self level self.text (Committed.optional Production.text) := by
  intro r hr
  unfold text
  rw [run_bind]
  obtain ⟨x, hx, run⟩ := takesLiteral r hr
  rw [run]
  rcases x with f | ⟨ps, t⟩
  · simp [Committed.optional, Production.text, hx, answer, resume, Except.map]
  · simp only [Except.map] at hx
    cases hps : ps.flatten with
    | nil =>
      rw [hps] at hx
      -- Pieces that spell out nothing are no pieces at all, so the cursor has not moved.
      have still : r = t := (Grammar.LiteralAt.nil_iff.mp (Grammar.literal_ok_iff.mp hx)).1
      rw [still] at hx ⊢
      simp [Committed.optional, Production.text, hx, answer, resume, hps]
    | cons c v =>
      rw [hps] at hx
      simp [Committed.optional, Production.text, hx, answer, resume, hps]

/-! ## Placeholders and icons -/

/-- Arguments are read one by one, bare keys and keys with a value. -/
theorem performs_argument :
    Performs self level self.argument (Committed.optional Production.argument) := by
  refine performs_andThen performs_name fun key => ?_
  have value : Performs self level _ _ := performs_lead ':' (performs_require (.char quote) performs_value)
  refine (value.bind fun v => performs_pure (Argument.mk key v)).congr fun r => ?_
  cases r with
  | nil => rfl
  | cons c t =>
    by_cases hc : c = ':'
    · subst hc
      simp only [Committed.read_bind, Committed.read_pure, Committed.optional, Reader.lead, Reader.andThen, Reader.char,
        if_true, Outcome.ofExcept]
      rcases (Committed.require Production.value (.char quote)).read t with f | ⟨v, u⟩ <;> rfl
    · simp only [Committed.read_bind, Committed.read_pure, Committed.optional, Reader.lead, Reader.andThen, Reader.char,
        hc, if_false, Outcome.ofExcept]

/-- A comma and an argument are read as a further argument, and a comma without one is given back. -/
theorem performs_furtherArgument :
    Performs self level self.furtherArgument (Committed.optional Production.furtherArgument) := by
  intro r hr
  have hg : r.dropWhile isGap <:+ self.source := (List.dropWhile_suffix isGap).trans hr
  have blank : Performs self level _ _ := performs_gap
  unfold furtherArgument
  simp only [run_bind, run_get, Option.bind_some, resume]
  rw [blank r hr]
  simp only [Committed.skip, answer, Option.bind_some, resume, run_bind, run_sees]
  rw [getElem?_standing hg]
  -- Giving back a comma is moving the cursor to where it was.
  have back : ∀ u : Text, { self.standing u level with cursor := (self.standing r level).cursor } =
      self.standing r level :=
    fun _ => rfl
  cases hd : r.dropWhile isGap with
  | nil => simp [Committed.optional, Production.furtherArgument, hd, run_moveTo, back, Except.map]
  | cons c t =>
    rw [hd] at hg
    by_cases hc : c = ','
    · subst hc
      have ht : t.dropWhile isGap <:+ self.source :=
        (List.dropWhile_suffix isGap).trans ((List.suffix_cons _ t).trans hg)
      simp only [List.head?_cons, beq_self_eq_true, if_true, run_bind]
      rw [run_advance_standing hg]
      simp only [Option.bind_some, resume, run_bind]
      rw [blank t ((List.suffix_cons _ t).trans hg)]
      simp only [Committed.skip, answer, Option.bind_some, resume, run_bind]
      rw [performs_argument _ ht]
      cases ha : Production.argument.read (t.dropWhile isGap) with
      | absent =>
        simp [Committed.optional, Production.furtherArgument, hd, ha, answer, resume, run_moveTo, back, Except.map]
      | found a u => simp [Committed.optional, Production.furtherArgument, hd, ha, answer, resume]
      | failed f => simp [Committed.optional, Production.furtherArgument, hd, ha, answer, resume]
    · simp [Committed.optional, Production.furtherArgument, hd, hc, run_moveTo, back, Except.map]

/-- Further arguments are read until there is none. -/
theorem performs_furtherArguments :
    Performs self level self.furtherArguments (Committed.many Production.furtherArgument) := by
  refine performs_many ?_ performs_furtherArgument
  conv => arg 1; rw [furtherArguments]

/-- The arguments of a formatter are read with their parentheses. -/
theorem performs_arguments :
    Performs self level self.arguments (Committed.optional Production.arguments) := by
  refine performs_lead '(' ?_
  refine performs_gap.bind fun _ => ?_
  have closing : ∀ as : List Argument, Performs self level (do self.gap; self.expect ')'; return as)
      (do Committed.skip isGap; Committed.expect ')'; return as) :=
    fun as => performs_gap.bind fun _ => (performs_expect ')').bind fun _ => performs_pure as
  intro r hr
  have next : ∀ a t, Production.argument.read r = .found a t →
      self.furtherArguments.run.run (self.standing t level) =
        some (self.answer level ((Committed.many Production.furtherArgument).read t)) :=
    fun a t ha => performs_furtherArguments t ((Production.argument.advances ha).1.trans hr)
  rw [run_bind, run_round performs_argument hr next, Option.bind_some]
  cases ha : Production.argument.read r with
  | absent =>
    simp only [Committed.read_bind, Committed.optional, ha]
    exact closing [] r hr
  | found a t =>
    simp only [Committed.read_bind, Committed.optional, ha]
    rcases hm : (Committed.many Production.furtherArgument).read t with f | ⟨as, u⟩
    · rfl
    · exact closing (a :: as) u (((Committed.many _).onward hm).trans ((Production.argument.advances ha).1.trans hr))
  | failed f =>
    simp only [Committed.read_bind, Committed.optional, ha]
    rfl

/-- Formatters are read, with their arguments or without. -/
theorem performs_formatter :
    Performs self level self.formatter (Committed.optional Production.formatter) :=
  performs_lead '.' <| (performs_require .formatterName performs_name).bind fun n =>
    performs_arguments.bind fun as => performs_pure (Formatter.mk n (as.getD []))

/-- Placeholders are read, with their formatter or without. -/
theorem performs_placeholder :
    Performs self level self.placeholder (Committed.optional Production.placeholder) :=
  performs_lead '$' <| (performs_require .placeholderName performs_name).bind fun n =>
    performs_formatter.bind fun f => performs_pure (Placeholder.mk n f)

/-- The marker of icons is expected as a whole. -/
theorem performs_marker : Performs self level self.marker (Committed.marker iconMarker .iconMarker) := by
  intro r hr
  unfold marker
  simp only [run_bind, run_get, Option.bind_some, resume]
  rw [drop_standing hr]
  by_cases h : iconMarker <+: r
  · simp only [if_pos h, run_moveTo, Committed.marker, answer]
    rw [standing_drop hr h.length_le]
  · simp only [if_neg h]
    rw [run_raise_standing hr]
    simp [Committed.marker, h, answer, Failure.left]

/-- Icons are read. -/
theorem performs_icon : Performs self level self.icon (Committed.optional Production.icon) :=
  performs_lead '^' <| performs_marker.bind fun _ => performs_require .iconName performs_name

/-! ## Templates -/

variable {nested : Reader Template}

/-- Tokens are read if templates in braces are: text, placeholders, icons and groups are tried in this order. -/
theorem performs_token (h : Performs self level self.group (Committed.optional nested)) :
    Performs self level self.token (Committed.optional (Production.token nested)) := by
  rw [token]
  exact performs_orElse (performs_map _ performs_text) <| performs_orElse (performs_map _ performs_placeholder) <|
    performs_orElse (performs_map _ performs_icon) (performs_map _ h)

/-- Alternatives are read if templates in braces are, as tokens until there is none. -/
theorem performs_alternative (h : Performs self level self.group (Committed.optional nested)) :
    Performs self level self.alternative (Production.alternative nested) := by
  refine performs_many ?_ (performs_token h)
  conv => arg 1; rw [alternative]

/-- Templates are read if templates in braces are, as alternatives with bars between them. -/
theorem performs_template (h : Performs self level self.group (Committed.optional nested)) :
    Performs self level self.template (Production.template nested) := by
  have further : Performs self level self.furtherAlternatives
      (Committed.many (.lead '|' (Production.alternative nested))) := by
    refine performs_many ?_ (performs_lead '|' (performs_alternative h))
    conv => arg 1; rw [furtherAlternatives]
  rw [template]
  exact (performs_alternative h).bind fun first => further.bind fun more => performs_pure (first :: more)

/-- Where there is room for one more level, or no brace, the check of the level passes. -/
theorem run_checkLevel (hr : r <:+ self.source) (free : r.head? = some '{' → level < self.cap) :
    self.checkLevel.run.run (self.standing r level) = some (.ok (), self.standing r level) := by
  unfold checkLevel
  rw [run_bind, run_sees, getElem?_standing hr]
  simp only [Option.bind_some, resume]
  by_cases hb : r.head? = some '{'
  · have room : ¬self.cap ≤ (self.standing r level).level := Int.not_le.mpr (free hb)
    rw [hb]
    simp only [beq_self_eq_true, if_true, run_bind, run_get, Option.bind_some, resume, if_neg room]
    rfl
  · rw [beq_eq_false_iff_ne.mpr hb]
    rfl

/-- At the cap, a brace is refused before it is taken. -/
theorem run_checkLevel_full (hr : '{' :: t <:+ self.source) (full : self.cap ≤ level) :
    self.checkLevel.run.run (self.standing ('{' :: t) level) =
      some (self.answer level (.error ⟨.tooDeep, '{' :: t⟩)) := by
  have none : self.cap ≤ (self.standing ('{' :: t) level).level := full
  unfold checkLevel
  rw [run_bind, run_sees, getElem?_standing hr]
  simp only [Option.bind_some, resume, List.head?_cons, beq_self_eq_true, if_true, run_bind, run_get, if_pos none]
  exact run_raise_standing hr

/-- Templates in braces are read at every level. The induction is on the levels that are left under the cap. -/
theorem performs_group : ∀ (room : Nat) (level : Int), (self.cap - level).toNat = room →
    Performs self level self.group (Committed.optional (Production.group room)) := by
  intro room
  induction room with
  | zero =>
    intro level hl r hr
    have full : self.cap ≤ level := by omega
    rw [group, run_bind]
    by_cases hb : r.head? = some '{'
    · obtain ⟨t, rfl⟩ := List.head?_eq_some_iff.mp hb
      rw [run_checkLevel_full hr full]
      rfl
    · rw [run_checkLevel hr fun h => absurd h hb]
      simp only [Option.bind_some, resume, run_bind, run_sees]
      rw [getElem?_standing hr, beq_eq_false_iff_ne.mpr hb]
      cases r with
      | nil => rfl
      | cons c t =>
        have other : c ≠ '{' := fun h => hb (h ▸ rfl)
        simp [Committed.optional, Production.group, Production.noGroup, other, answer]
  | succ room ih =>
    intro level hl r hr
    have free : level < self.cap := by omega
    have inner := (performs_template (ih (level + 1) (by omega))).deeper
    have braces := performs_lead '{' (inner.bind fun t => (performs_expect '}').bind fun _ => performs_pure t)
    rw [group, run_bind, run_checkLevel hr fun _ => free]
    exact braces r hr

/-- A whole source is read: a template, and then the end. -/
theorem performs_whole {room : Nat} (hl : (self.cap - level).toNat = room) :
    Performs self level self.whole (Production.whole room) := by
  intro r hr
  unfold whole
  rw [run_bind, performs_template (performs_group room level hl) r hr, Option.bind_some]
  rcases ht : (Production.template (Production.group room)).read r with f | ⟨t, u⟩
  · simp [Production.whole, ht, answer, resume]
  · have hu : u <:+ self.source := ((Production.template _).onward ht).trans hr
    simp only [answer, resume, run_bind]
    rw [run_atEnd_standing hu]
    cases u with
    | nil => simp [Production.whole, ht, resume]
    | cons c v =>
      simp only [List.isEmpty_cons, Option.bind_some, resume, Bool.false_eq_true, if_false]
      rw [run_raise_standing hu]
      simp [Production.whole, ht, Failure.left]

end BarTemplate.Machine
