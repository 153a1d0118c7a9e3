import BarTemplate.Number.Numeral
import BarTemplate.Proofs.Lexeme

/-!
# Numerals and their grammar

Main statements: an integer numeral and a decimal numeral are read exactly as the grammar has them
(`whole?_eq_some_iff`, `decimal?_eq_some_iff`). An integer numeral is a decimal numeral too (`IsWhole.isDecimal`), the
underscores of a numeral stand for nothing (`IsDecimal.dropUnderscores`), and there is no stroke in it, while a ratio
has one (`IsDecimal.stroke_not_mem`, `stroke_mem_of_ratio?`).
-/

namespace BarTemplate.Numeral

open Grammar (NotAt StopsAt stopsAt_cons stopsAt_nil)

variable {s t u w r : Text} {ds : List Nat} {b b' negative : Bool} {c : Char} {n : Whole} {d : Decimal}

/-! ## Digits -/

/-- A character that digits are written with. -/
def isDigitChar (c : Char) : Bool :=
  Unicode.isDigit c || c == '_'

/-- Written digits, at a place that is behind a digit or not: an underscore may stand between two. -/
inductive Digits : Bool → Text → List Nat → Prop where
  | none {b : Bool} : Digits b [] []
  | digit {b : Bool} {c : Char} {d : Nat} {w : Text} {ds : List Nat} (first : Unicode.digitValue? c = some d)
      (more : Digits true w ds) : Digits b (c :: w) (d :: ds)
  | underscore {c : Char} {d : Nat} {w : Text} {ds : List Nat} (next : Unicode.digitValue? c = some d)
      (more : Digits true w ds) : Digits true ('_' :: c :: w) (d :: ds)

/-- A digit is no underscore. -/
theorem ne_underscore {k : Nat} (h : Unicode.digitValue? c = some k) : c ≠ '_' := by
  rintro rfl
  cases h

/-- An underscore may stand between a digit and further digits. -/
theorem Digits.after (h : Digits false w ds) (hne : ds ≠ []) : Digits true ('_' :: w) ds := by
  cases h with
  | none => exact absurd rfl hne
  | digit first more => exact .underscore first more

/-- What is read as digits is written so. -/
theorem digits_spec (h : digits b t = (ds, r)) : ∃ w, t = w ++ r ∧ Digits b w ds := by
  fun_induction digits b t generalizing ds r with
  | case1 =>
    cases h
    exact ⟨[], rfl, .none⟩
  | case2 b c rest k hc ds r more ih =>
    cases h
    obtain ⟨w, rfl, digits⟩ := ih more
    exact ⟨c :: w, rfl, .digit hc digits⟩
  | case3 =>
    cases h
    exact ⟨[], rfl, .none⟩
  | case4 b c rest _ hc some ih =>
    obtain ⟨rfl, rfl⟩ : b = true ∧ c = '_' := by simpa using hc
    obtain ⟨w, rfl, digits⟩ := ih h
    have nonempty : ds ≠ [] := by
      rintro rfl
      exact some _ h
    exact ⟨'_' :: w, rfl, digits.after nonempty⟩
  | case5 =>
    cases h
    exact ⟨[], rfl, .none⟩

/-- Written digits are read up to the first character that is neither a digit nor an underscore. -/
theorem Digits.read (h : Digits b w ds) (stop : StopsAt isDigitChar r) :
    digits b (w ++ r) = (ds, r) := by
  induction h with
  | none =>
    cases r with
    | nil => rfl
    | cons c r =>
      obtain ⟨other, notUnderscore⟩ := Bool.or_eq_false_iff.mp (stopsAt_cons.mp stop)
      have value : Unicode.digitValue? c = Option.none := Option.not_isSome_iff_eq_none.mp (Bool.eq_false_iff.mp other)
      simp [digits, value, notUnderscore]
  | digit first _ ih => simp [digits, first, ih]
  | underscore next _ ih =>
    have underscore : Unicode.digitValue? '_' = Option.none := rfl
    simp [digits, underscore, next, ih]

/-- Digits are written with digits and underscores only. -/
theorem Digits.of_mem (h : Digits b w ds) : ∀ c ∈ w, isDigitChar c = true := by
  have isDigit {c : Char} {k : Nat} (hc : Unicode.digitValue? c = some k) : isDigitChar c = true := by
    rw [isDigitChar, Unicode.isDigit, hc, Option.isSome_some, Bool.true_or]
  induction h with
  | none => nofun
  | digit first _ ih => exact List.forall_mem_cons.mpr ⟨isDigit first, ih⟩
  | underscore next _ ih => exact List.forall_mem_cons.mpr ⟨rfl, List.forall_mem_cons.mpr ⟨isDigit next, ih⟩⟩

/-- The underscores between digits stand for nothing. -/
theorem Digits.dropUnderscores (h : Digits b w ds) (b' : Bool) : Digits b' (w.filter (· ≠ '_')) ds := by
  induction h generalizing b' with
  | none => exact .none
  | digit first _ ih =>
    rw [List.filter_cons_of_pos (by simpa using ne_underscore first)]
    exact .digit first (ih true)
  | underscore next _ ih =>
    rw [List.filter_cons_of_neg (by simp), List.filter_cons_of_pos (by simpa using ne_underscore next)]
    exact .digit next (ih true)

/-! ## Integer numerals -/

/-- A character that a sign is written with. -/
def isSignChar (c : Char) : Bool :=
  c == '-' || c == '+'

/-- A written sign, or none. -/
inductive Sign : Text → Bool → Prop where
  | none : Sign [] false
  | plus : Sign ['+'] false
  | minus : Sign ['-'] true

/-- What is taken as a sign is one, and the rest follows it. -/
theorem sign_spec (h : sign t = (negative, r)) : ∃ s, t = s ++ r ∧ Sign s negative := by
  unfold sign at h
  split at h <;> cases h
  · exact ⟨['-'], rfl, .minus⟩
  · exact ⟨['+'], rfl, .plus⟩
  · exact ⟨[], rfl, .none⟩

/-- A sign is taken whole before what is none. -/
theorem Sign.read (h : Sign s negative) (stop : StopsAt isSignChar r) :
    sign (s ++ r) = (negative, r) := by
  cases h with
  | none =>
    cases r with
    | nil => rfl
    | cons c r =>
      have other : c ≠ '-' ∧ c ≠ '+' := by simpa [isSignChar] using stopsAt_cons.mp stop
      simp [sign, other]
  | plus => rfl
  | minus => rfl

theorem Sign.dropUnderscores (h : Sign s negative) : s.filter (· ≠ '_') = s := by
  cases h <;> rfl

/-- An integer numeral: a sign and digits. -/
inductive IsWhole : Text → Whole → Prop where
  | numeral {s w : Text} {negative : Bool} {ds : List Nat} (sign : Sign s negative) (digits : Digits false w ds)
      (nonempty : ds ≠ []) : IsWhole (s ++ w) ⟨negative, ds⟩

/-- Digits begin with no sign. -/
theorem Digits.stops_sign (h : Digits false w ds) (hr : StopsAt isSignChar r) :
    StopsAt isSignChar (w ++ r) := by
  cases h with
  | none => exact hr
  | @digit _ c _ _ _ first _ =>
    refine stopsAt_cons.mpr ?_
    have minus : c ≠ '-' := by
      rintro rfl
      cases first
    have plus : c ≠ '+' := by
      rintro rfl
      cases first
    simp [isSignChar, minus, plus]

/-- Integer numerals are read, and nothing else is. -/
theorem whole?_eq_some_iff : whole? t = some n ↔ IsWhole t n := by
  constructor
  · intro h
    rcases hsign : sign t with ⟨negative, u⟩
    obtain ⟨s, rfl, sign⟩ := sign_spec hsign
    simp only [whole?, hsign] at h
    split at h
    · cases h
    · next ds nonempty hdigits =>
      cases h
      obtain ⟨w, rfl, digits⟩ := digits_spec hdigits
      rw [List.append_nil]
      exact .numeral sign digits nonempty
    · cases h
  · rintro ⟨sign, digits, nonempty⟩
    have stops := digits.stops_sign (r := []) stopsAt_nil
    have read := digits.read (r := []) stopsAt_nil
    rw [List.append_nil] at stops read
    unfold whole?
    simp only [sign.read stops, read]

/-- An integer numeral without its underscores is a numeral of the same number. -/
theorem IsWhole.dropUnderscores (h : IsWhole t n) : IsWhole (t.filter (· ≠ '_')) n := by
  obtain ⟨sign, digits, nonempty⟩ := h
  rw [List.filter_append, sign.dropUnderscores]
  exact .numeral sign (digits.dropUnderscores false) nonempty

theorem Sign.of_mem (h : Sign s negative) : ∀ c ∈ s, isSignChar c = true := by
  cases h <;> simp [isSignChar]

/-- An integer numeral has signs, digits and underscores in it only. -/
theorem IsWhole.of_mem (h : IsWhole t n) : ∀ c ∈ t, isSignChar c = true ∨ isDigitChar c = true := by
  obtain ⟨sign, digits, -⟩ := h
  intro c hc
  exact (List.mem_append.mp hc).imp (sign.of_mem c) (digits.of_mem c)

/-! ## Decimal numerals -/

/-- A written fraction: a point and digits, or nothing. -/
inductive Fraction : Text → List Nat → Prop where
  | none : Fraction [] []
  | point {w : Text} {ds : List Nat} (digits : Digits false w ds) : Fraction ('.' :: w) ds

/-- A written exponent: a letter and an integer numeral, or nothing. -/
inductive Exponent : Text → Option Whole → Prop where
  | none : Exponent [] none
  | power {c : Char} {t : Text} {n : Whole} (letter : c = 'e' ∨ c = 'E') (whole : IsWhole t n) : Exponent (c :: t) (some n)

/-- A decimal numeral: a sign, digits before a point or after it, and an exponent. -/
inductive IsDecimal : Text → Decimal → Prop where
  | numeral {s w f x : Text} {negative : Bool} {before after : List Nat} {e : Option Whole} (sign : Sign s negative)
      (digits : Digits false w before) (fraction : Fraction f after) (exponent : Exponent x e)
      (nonempty : before ≠ [] ∨ after ≠ []) : IsDecimal (s ++ (w ++ (f ++ x))) ⟨negative, before, after, e⟩

/-- What is taken as a fraction is one, and the rest follows it. -/
theorem fraction_spec (h : fraction t = (ds, r)) : ∃ f, t = f ++ r ∧ Fraction f ds := by
  unfold fraction at h
  split at h
  · obtain ⟨w, rfl, digits⟩ := digits_spec h
    exact ⟨'.' :: w, rfl, .point digits⟩
  · cases h
    exact ⟨[], rfl, .none⟩

/-- A text is read as an exponent exactly if it is written as one. -/
theorem exponent?_eq_some_iff {e : Option Whole} : exponent? t = some e ↔ Exponent t e := by
  constructor
  · intro h
    cases t with
    | nil =>
      cases h
      exact .none
    | cons c t =>
      rw [exponent?] at h
      split at h
      case isTrue letter =>
        obtain ⟨n, whole, rfl⟩ := Option.map_eq_some_iff.mp h
        exact .power letter (whole?_eq_some_iff.mp whole)
      case isFalse => cases h
  · intro h
    cases h with
    | none => rfl
    | power letter whole => simp [exponent?, letter, whole?_eq_some_iff.mpr whole]

/-- An exponent begins with a letter, which belongs to no digits. -/
theorem Exponent.stops {e : Option Whole} (h : Exponent t e) :
    StopsAt isDigitChar t ∧ StopsAt isSignChar t ∧ NotAt '.' t := by
  cases h with
  | none => exact ⟨stopsAt_nil, stopsAt_nil, nofun⟩
  | power letter _ =>
    rcases letter with rfl | rfl <;>
      exact ⟨stopsAt_cons.mpr (by decide), stopsAt_cons.mpr (by decide), by simp [NotAt]⟩

/-- So does what follows the digits before the point. -/
theorem Fraction.stops {e : Option Whole} (h : Fraction t ds) (hu : Exponent u e) :
    StopsAt isDigitChar (t ++ u) ∧ StopsAt isSignChar (t ++ u) := by
  cases h with
  | none => exact ⟨hu.stops.1, hu.stops.2.1⟩
  | point _ => exact ⟨stopsAt_cons.mpr (by decide), stopsAt_cons.mpr (by decide)⟩

/-- A fraction is taken whole before an exponent. -/
theorem Fraction.read {e : Option Whole} (h : Fraction t ds) (hu : Exponent u e) : fraction (t ++ u) = (ds, u) := by
  cases h with
  | none =>
    have noPoint := hu.stops.2.2
    cases u with
    | nil => rfl
    | cons c u =>
      have other : c ≠ '.' := fun hc => noPoint (by rw [hc, List.head?_cons])
      simp [fraction, other]
  | point digits => exact digits.read hu.stops.1

/-- The parts of a text, taken off one by one, make a decimal numeral if there is a digit and the rest is an exponent.
-/
theorem decimal?_of_parts {before after : List Nat} {x : Text} (hsign : sign t = (negative, u))
    (hdigits : digits false u = (before, w)) (hfraction : fraction w = (after, x)) :
    decimal? t = if before = [] ∧ after = [] then none else (exponent? x).map fun e => ⟨negative, before, after, e⟩ := by
  have none : (before.isEmpty && after.isEmpty) = true ↔ before = [] ∧ after = [] := by simp
  simp only [decimal?, hsign, hdigits, hfraction, none]
  rw [Option.map_eq_bind]
  rfl

/-- Decimal numerals are read, and nothing else is. -/
theorem decimal?_eq_some_iff : decimal? t = some d ↔ IsDecimal t d := by
  constructor
  · intro h
    rcases hsign : sign t with ⟨negative, u⟩
    rcases hdigits : digits false u with ⟨before, v⟩
    rcases hfraction : fraction v with ⟨after, x⟩
    rw [decimal?_of_parts hsign hdigits hfraction] at h
    obtain ⟨s, rfl, sign⟩ := sign_spec hsign
    obtain ⟨w, rfl, digits⟩ := digits_spec hdigits
    obtain ⟨f, rfl, fraction⟩ := fraction_spec hfraction
    split at h
    case isTrue => cases h
    case isFalse some =>
      obtain ⟨e, exponent, rfl⟩ := Option.map_eq_some_iff.mp h
      exact .numeral sign digits fraction (exponent?_eq_some_iff.mp exponent) (Decidable.not_and_iff_not_or_not.mp some)
  · rintro ⟨sign, digits, fraction, exponent, nonempty⟩
    obtain ⟨digitsStop, signStop⟩ := fraction.stops exponent
    rw [decimal?_of_parts (sign.read (digits.stops_sign signStop)) (digits.read digitsStop) (fraction.read exponent),
      if_neg (Decidable.not_and_iff_not_or_not.mpr nonempty), exponent?_eq_some_iff.mpr exponent]
    rfl

/-- An integer numeral is a decimal numeral without a point and without an exponent. -/
theorem IsWhole.isDecimal (h : IsWhole t n) : IsDecimal t ⟨n.negative, n.digits, [], none⟩ := by
  obtain ⟨sign, digits, nonempty⟩ := h
  have whole := IsDecimal.numeral sign digits .none .none (Or.inl nonempty)
  rwa [List.append_nil, List.append_nil] at whole

/-- The underscores of a decimal numeral stand for nothing. -/
theorem IsDecimal.dropUnderscores (h : IsDecimal t d) : IsDecimal (t.filter (· ≠ '_')) d := by
  obtain ⟨sign, digits, fraction, exponent, nonempty⟩ := h
  rw [List.filter_append, List.filter_append, List.filter_append, sign.dropUnderscores]
  refine .numeral sign (digits.dropUnderscores false) ?_ ?_ nonempty
  · cases fraction with
    | none => exact .none
    | point digits => exact .point (digits.dropUnderscores false)
  · cases exponent with
    | none => exact .none
    | @power c _ _ letter whole =>
      have kept : c ≠ '_' := by rcases letter with rfl | rfl <;> decide
      rw [List.filter_cons_of_pos (by simpa using kept)]
      exact .power letter whole.dropUnderscores

/-! ## Ratios -/

theorem Digits.stroke_not_mem (h : Digits b w ds) : '/' ∉ w :=
  fun hc => absurd (h.of_mem _ hc) (by decide)

/-- An integer numeral has no fraction stroke in it. -/
theorem IsWhole.stroke_not_mem (h : IsWhole t n) : '/' ∉ t :=
  fun hc => absurd (h.of_mem _ hc) (by decide)

/-- There is no stroke in a decimal numeral. -/
theorem IsDecimal.stroke_not_mem (h : IsDecimal t d) : '/' ∉ t := by
  obtain ⟨sign, digits, fraction, exponent, -⟩ := h
  simp only [List.mem_append, not_or]
  refine ⟨?_, digits.stroke_not_mem, ?_, ?_⟩
  · cases sign <;> decide
  · cases fraction with
    | none => nofun
    | point digits => simpa using digits.stroke_not_mem
  · cases exponent with
    | none => nofun
    | power letter whole => rcases letter with rfl | rfl <;> simpa using whole.stroke_not_mem

/-- There is a stroke in a ratio. -/
theorem stroke_mem_of_ratio? {q : Ratio} (h : ratio? t = some q) : '/' ∈ t := by
  rcases hsign : sign t with ⟨negative, u⟩
  obtain ⟨s, rfl, -⟩ := sign_spec hsign
  simp only [ratio?, hsign] at h
  split at h
  · cases h
  · next hdigits =>
    obtain ⟨w, rfl, -⟩ := digits_spec hdigits
    simp
  · cases h

end BarTemplate.Numeral
