import BarTemplate.Number.Decimal
import BarTemplate.Number.Integer
import BarTemplate.Proofs.Digits
import BarTemplate.Proofs.Numeral

/-!
# Exact numbers from text

Main statements: an integer numeral that is not too long is the same number as an integer, as a ratio and as a decimal
number (`values_of_isWhole`), and a text that stands for a ratio and for a finite decimal number stands for one number
(`rational_eq_decimal`). A written integer is such a numeral (`Numeral.isWhole_ofInt`).
-/

namespace BarTemplate

open Numeral (Digits IsWhole IsDecimal isMargin maxDigits signed)

variable {t u w : Text} {ds : List Nat} {b negative : Bool} {c : Char} {n : Int} {q : Rat} {p : Char → Bool}

/-! ## Digits of the tables -/

namespace Unicode

/-- A range that holds a code point is one of the table. -/
theorem Table.mem_of_start? {t : Table} {k first : Nat} (h : t.start? k = some first) :
    ∃ last, (first, last) ∈ t ∧ first ≤ k ∧ k ≤ last := by
  induction t with
  | nil => cases h
  | cons range t ih =>
    obtain ⟨low, high⟩ := range
    rw [Table.start?] at h
    split at h
    case isTrue => cases h
    case isFalse above =>
      split at h
      case isTrue below =>
        cases h
        exact ⟨high, List.mem_cons_self, Nat.le_of_not_lt above, below⟩
      case isFalse =>
        obtain ⟨last, mem, within⟩ := ih h
        exact ⟨last, List.mem_cons_of_mem _ mem, within⟩

/-- No range of digits meets one of white space. -/
theorem digitRanges_blankRanges : ∀ x ∈ digitRanges, ∀ y ∈ blankRanges, x.2 < y.1 ∨ y.2 < x.1 := by
  decide

/-- A digit is no white space. -/
theorem isBlank_of_isDigit (h : isDigit c = true) : isBlank c = false := by
  refine Bool.eq_false_iff.mpr fun blank => ?_
  rw [isDigit, digitValue?, Option.isSome_map, Option.isSome_iff_exists] at h
  rw [isBlank, Table.covers, Option.isSome_iff_exists] at blank
  obtain ⟨first, digit⟩ := h
  obtain ⟨low, blank⟩ := blank
  obtain ⟨last, range, first_le, le_last⟩ := Table.mem_of_start? digit
  obtain ⟨high, other, low_le, le_high⟩ := Table.mem_of_start? blank
  have apart := digitRanges_blankRanges _ range _ other
  dsimp only at apart
  omega

theorem toNat_of_isDigit (h : c.isDigit = true) : 0x30 ≤ c.toNat ∧ c.toNat ≤ 0x39 := by
  simpa [Char.isDigit, UInt32.le_iff_toNat_le] using h

/-- A table that begins with the ten ASCII digits finds each of them there. -/
theorem Table.start?_of_isDigit (h : c.isDigit = true) (t : Table) :
    Table.start? ((0x30, 0x39) :: t) c.toNat = some 0x30 := by
  obtain ⟨low, high⟩ := toNat_of_isDigit h
  rw [Table.start?, if_neg (Nat.not_lt_of_le low), if_pos high]

/-- An ASCII digit has its hexadecimal value among the decimal digits of all scripts. -/
theorem digitValue?_of_isDigit (h : c.isDigit = true) : digitValue? c = some (Toml.hexDigitValue c) := by
  have zero : '0'.toNat = 0x30 := rfl
  have small : (c.toNat - 0x30) % 10 = c.toNat - 0x30 := by
    have bounds := toNat_of_isDigit h
    exact Nat.mod_eq_of_lt (by omega)
  rw [digitValue?, digitRanges, Table.start?_of_isDigit h, Option.map_some, Toml.hexDigitValue, if_pos h, zero, small]

theorem isAlphanumeric_of_isDigit (h : c.isDigit = true) : isAlphanumeric c = true := by
  rw [isAlphanumeric, alphanumericRanges, Table.covers, Table.start?_of_isDigit h, Option.isSome_some]

end Unicode

/-! ## Written integers -/

namespace Numeral

/-- ASCII digits are digits as they stand. -/
theorem digits_of_isDigit (h : ∀ c ∈ w, c.isDigit = true) (b : Bool) : Digits b w (w.map Toml.hexDigitValue) := by
  induction w generalizing b with
  | nil => exact .none
  | cons c w ih =>
    obtain ⟨first, more⟩ := List.forall_mem_cons.mp h
    exact .digit (Unicode.digitValue?_of_isDigit first) (ih more true)

theorem ofNat_ne_nil (m : Nat) : Text.ofNat m ≠ [] :=
  List.ne_nil_of_length_pos Nat.length_toDigits_pos

/-- Every integer is written with at least one character. -/
theorem ofInt_ne_nil (n : Int) : Text.ofInt n ≠ [] := by
  cases n with
  | ofNat m => exact ofNat_ne_nil m
  | negSucc m => exact List.cons_ne_nil _ _

/-- An integer is written as an integer numeral. -/
theorem isWhole_ofInt (n : Int) :
    IsWhole (Text.ofInt n) ⟨decide (n < 0), (Text.ofNat n.natAbs).map Toml.hexDigitValue⟩ := by
  have digits (m : Nat) := digits_of_isDigit (fun c => isDigit_of_mem_ofNat (c := c) (n := m)) false
  have some (m : Nat) : (Text.ofNat m).map Toml.hexDigitValue ≠ [] := mt List.map_eq_nil_iff.mp (ofNat_ne_nil m)
  cases n with
  | ofNat m => exact .numeral .none (digits m) (some m)
  | negSucc m =>
    rw [decide_eq_true (Int.negSucc_lt_zero m)]
    exact .numeral .minus (digits (m + 1)) (some (m + 1))

/-- An integer is its absolute value with its sign. -/
theorem signed_natAbs (n : Int) : signed (decide (n < 0)) n.natAbs = n := by
  unfold signed
  split
  case isTrue h =>
    have negative := of_decide_eq_true h
    omega
  case isFalse h =>
    have negative := of_decide_eq_false (Bool.eq_false_iff.mpr h)
    omega

theorem natAbs_signed (negative : Bool) (m : Nat) : (signed negative m).natAbs = m := by
  cases negative
  · exact Int.natAbs_natCast m
  · exact (Int.natAbs_neg m).trans (Int.natAbs_natCast m)

/-- The digits of a number stand for it. -/
theorem value_ofNat (m : Nat) : value ((Text.ofNat m).map Toml.hexDigitValue) = m := by
  have value : value ((Text.ofNat m).map Toml.hexDigitValue) = Toml.baseValue 10 (Text.ofNat m) := by
    rw [Numeral.value, List.foldl_map, Toml.baseValue]
  rw [value, Text.ofNat, baseValue_toDigits (by decide) (by decide)]

/-! ## How long a value is -/

/-- A digit of a numeral is less than ten. -/
theorem Digits.lt_ten (h : Digits b w ds) : ∀ k ∈ ds, k < 10 := by
  have small {c : Char} {k : Nat} (hc : Unicode.digitValue? c = some k) : k < 10 := by
    obtain ⟨first, -, rfl⟩ := Option.map_eq_some_iff.mp hc
    exact Nat.mod_lt _ (by decide)
  induction h with
  | none => nofun
  | digit first _ ih => exact List.forall_mem_cons.mpr ⟨small first, ih⟩
  | underscore next _ ih => exact List.forall_mem_cons.mpr ⟨small next, ih⟩

/-- A further digit makes a number longer by one at most. -/
theorem length_ofNat_step {k : Nat} (m : Nat) (hk : k < 10) :
    (Text.ofNat (10 * m + k)).length ≤ (Text.ofNat m).length + 1 := by
  unfold Text.ofNat
  rw [Nat.toDigits_eq_if (by decide)]
  split
  case isTrue => simp
  case isFalse =>
    have init : (10 * m + k) / 10 = m := by omega
    refine Nat.le_of_eq ?_
    rw [init, List.length_append, List.length_singleton]

/-- The value of digits is hardly longer than they are. -/
theorem length_ofNat_value (h : ∀ k ∈ ds, k < 10) : (Text.ofNat (value ds)).length ≤ ds.length + 1 := by
  have fold : ∀ m, (Text.ofNat (ds.foldl (fun n k => 10 * n + k) m)).length ≤ ds.length + (Text.ofNat m).length := by
    induction ds with
    | nil => intro m; simp
    | cons k ds ih =>
      intro m
      obtain ⟨hk, hds⟩ := List.forall_mem_cons.mp h
      have longer := length_ofNat_step m hk
      have rest := ih hds (10 * m + k)
      rw [List.foldl_cons, List.length_cons]
      omega
  exact fold 0

/-- The number that a numeral stands for is written with at most one digit more than the numeral has. -/
theorem IsWhole.length_ofNat {n : Whole} (h : IsWhole t n) :
    (Text.ofNat (value n.digits)).length ≤ n.digits.length + 1 := by
  obtain ⟨-, digits, -⟩ := h
  exact length_ofNat_value digits.lt_ten

end Numeral

/-! ## Trimming -/

/-- What is left of a text between characters with a property, and these. -/
theorem exists_trimBy (p : Char → Bool) (t : Text) :
    ∃ l r, t = l ++ (t.trimBy p ++ r) ∧ (∀ c ∈ l, p c = true) ∧ ∀ c ∈ r, p c = true := by
  have all (u : Text) : ∀ c ∈ u.takeWhile p, p c = true := List.all_eq_true.mp List.all_takeWhile
  have last : ∀ c ∈ ((t.dropWhile p).reverse.takeWhile p).reverse, p c = true :=
    fun c hc => all _ c (List.mem_reverse.mp hc)
  refine ⟨t.takeWhile p, _, ?_, all t, last⟩
  rw [Text.trimBy, ← List.reverse_append, List.takeWhile_append_dropWhile, List.reverse_reverse,
    List.takeWhile_append_dropWhile]

/-- Between characters with a property, characters without it are left. -/
theorem trimBy_between {l r : Text} (hl : ∀ c ∈ l, p c = true) (hr : ∀ c ∈ r, p c = true) (hu : ∀ c ∈ u, p c = false) :
    (l ++ (u ++ r)).trimBy p = u := by
  unfold Text.trimBy
  rw [List.dropWhile_append_of_pos hl]
  cases u with
  | nil =>
    have none : r.dropWhile p = [] :=
      (Grammar.span_iff (w := r)).mpr ⟨(List.append_nil r).symm, hr, Grammar.stopsAt_nil⟩ |>.2
    rw [List.nil_append, none, List.reverse_nil, List.dropWhile_nil, List.reverse_nil]
  | cons c u =>
    have first : ¬ p c = true := Bool.eq_false_iff.mp (hu c List.mem_cons_self)
    have last : (c :: u).reverse.dropWhile p = (c :: u).reverse := by
      refine (Grammar.span_iff (w := [])).mpr ⟨rfl, nofun, fun d hd => ?_⟩ |>.2
      exact hu d (List.mem_reverse.mp (List.mem_of_mem_head? hd))
    rw [List.cons_append, List.dropWhile_cons_of_neg first, ← List.cons_append, List.reverse_append,
      List.dropWhile_append_of_pos (fun d hd => hr d (List.mem_reverse.mp hd)), last, List.reverse_reverse]

namespace Numeral

/-- There is no white space in an integer numeral. -/
theorem IsWhole.not_blank {n : Whole} (h : IsWhole t n) : ∀ c ∈ t, Unicode.isBlank c = false := by
  intro c hc
  rcases h.of_mem c hc with sign | digit
  · rcases Bool.or_eq_true_iff.mp sign with minus | plus
    · rw [eq_of_beq minus]
      rfl
    · rw [eq_of_beq plus]
      rfl
  · rcases Bool.or_eq_true_iff.mp digit with digit | underscore
    · exact Unicode.isBlank_of_isDigit digit
    · rw [eq_of_beq underscore]
      rfl

/-- What may stand around a number is white space. -/
theorem isBlank_of_isMargin (h : isMargin c = true) : Unicode.isBlank c = true :=
  (Bool.and_eq_true_iff.mp h).1

theorem isMargin_of_not_blank (h : Unicode.isBlank c = false) : isMargin c = false := by
  rw [isMargin, h, Bool.false_and]

/-- An integer numeral between white space is left when all of that is dropped. -/
theorem IsWhole.trim {n : Whole} (h : IsWhole (t.trimBy isMargin) n) : t.trimBy Unicode.isBlank = t.trimBy isMargin := by
  obtain ⟨l, r, whole, left, right⟩ := exists_trimBy isMargin t
  generalize t.trimBy isMargin = u at h whole
  rw [whole]
  have left' : ∀ c ∈ l, Unicode.isBlank c = true := fun c hc => isBlank_of_isMargin (left c hc)
  have right' : ∀ c ∈ r, Unicode.isBlank c = true := fun c hc => isBlank_of_isMargin (right c hc)
  exact trimBy_between left' right' h.not_blank

/-- An integer numeral has nothing to drop at its ends. -/
theorem IsWhole.trim_self {n : Whole} (h : IsWhole t n) : t.trimBy isMargin = t := by
  have inside : ∀ c ∈ t, isMargin c = false := fun c hc => isMargin_of_not_blank (h.not_blank c hc)
  have alone := trimBy_between (l := []) (r := []) nofun nofun inside
  rwa [List.nil_append, List.append_nil] at alone

end Numeral

/-! ## The types agree -/

theorem scaled_zero (n : Int) : scaled n 0 = n := by
  have one : ((tenTo (Int.toNat 0) : Nat) : Int) = 1 := rfl
  rw [scaled, if_pos (Int.le_refl 0), one, Int.mul_one]

/-- What a power of ten scales an integer to. -/
theorem scaled_mul (n e : Int) : scaled n e * (tenTo (-e).toNat : Nat) = (n * tenTo e.toNat : Int) := by
  unfold scaled
  split
  case isTrue h =>
    have none : (-e).toNat = 0 := by omega
    have one : tenTo 0 = 1 := rfl
    rw [none, one]
    exact Rat.mul_one _
  case isFalse h =>
    have none : e.toNat = 0 := by omega
    have one : ((tenTo 0 : Nat) : Int) = 1 := rfl
    have positive : ((tenTo (-e).toNat : Nat) : Rat) ≠ 0 := by
      rw [ne_eq, Rat.natCast_eq_zero_iff]
      exact Nat.ne_of_gt (Nat.pow_pos (by decide))
    rw [none, one, Int.mul_one, Rat.mkRat_eq_div, Rat.div_mul_cancel positive]

/-- What a text stands for as an integer. -/
theorem integerOfText?_eq_some_iff : integerOfText? t = some n ↔ ∃ w, IsWhole (t.trimBy isMargin) w ∧
    w.digits.length ≤ maxDigits ∧ signed w.negative (Numeral.value w.digits) = n := by
  simp only [integerOfText?, Option.bind_eq_some_iff, Numeral.whole?_eq_some_iff, Numeral.Whole.value?,
    Option.ite_none_right_eq_some, Option.some.injEq]

/-- What a decimal numeral stands for as a ratio, for that it is none itself. -/
theorem rationalOfText?_of_isDecimal {d : Numeral.Decimal} (h : IsDecimal (t.trimBy Unicode.isBlank) d) :
    rationalOfText? t = d.value? := by
  have noRatio : Numeral.ratio? (t.trimBy Unicode.isBlank) = none := by
    refine Option.eq_none_iff_forall_ne_some.mpr fun q hq => ?_
    exact h.stroke_not_mem (Numeral.stroke_mem_of_ratio? hq)
  simp only [rationalOfText?, noRatio, Numeral.decimal?_eq_some_iff.mpr h, Option.bind_some]

/-- A text with white space around a decimal numeral is read as the decimal that the numeral writes. -/
theorem decimalOfText?_of_isDecimal {d : Numeral.Decimal} (h : IsDecimal (t.trimBy Unicode.isBlank) d) :
    Decimal.ofText? t = Decimal.finite? d.negative d.coefficient d.scale := by
  simp only [Decimal.ofText?, Numeral.decimal?_eq_some_iff.mpr h.dropUnderscores]

/-- The exponent of a whole number that is not too long is in bounds. -/
theorem finite?_whole {n : Nat} (h : (Text.ofNat n).length ≤ maxDigits + 1) (negative : Bool) :
    Decimal.finite? negative n 0 = some (.finite negative n 0) := by
  have length : maxDigits = 4300 := rfl
  refine if_pos ⟨?_, by decide⟩
  unfold Decimal.adjusted Decimal.maxAdjusted
  omega

/-- An integer numeral that is not too long has the same value as an integer, as a ratio and as a decimal number. -/
theorem values_of_isWhole {w : Numeral.Whole} (h : IsWhole (t.trimBy isMargin) w) (short : w.digits.length ≤ maxDigits) :
    integerOfText? t = some (signed w.negative (Numeral.value w.digits)) ∧
      rationalOfText? t = some ((signed w.negative (Numeral.value w.digits) : Int) : Rat) ∧
      Decimal.ofText? t = some (.finite w.negative (Numeral.value w.digits) 0) := by
  have decimal := h.isDecimal
  rw [← h.trim] at decimal
  refine ⟨integerOfText?_eq_some_iff.mpr ⟨w, h, short, rfl⟩, ?_, ?_⟩
  · rw [rationalOfText?_of_isDecimal decimal]
    have fits : decide (w.digits.length ≤ maxDigits) = true := decide_eq_true short
    simp [Numeral.Decimal.value?, fits, Numeral.Decimal.coefficient, Numeral.Decimal.scale, scaled_zero]
  · rw [decimalOfText?_of_isDecimal decimal]
    have length := h.length_ofNat
    simp only [Numeral.Decimal.coefficient, Numeral.Decimal.scale, List.append_nil]
    exact finite?_whole (by omega) w.negative

/-- No number that a word names is finite. -/
theorem named?_ne_finite {k : Nat} {e : Int} : Decimal.named? b t ≠ some (.finite negative k e) := by
  intro h
  unfold Decimal.named? at h
  split at h
  · cases h
  · split at h
    · obtain ⟨_, -, other⟩ := Option.map_eq_some_iff.mp h
      cases other
    · obtain ⟨_, -, other⟩ := Option.map_eq_some_iff.mp h
      cases other
    · cases h

/-- A finite decimal number is written as a decimal numeral, when its underscores are dropped. -/
theorem isDecimal_of_finite {k : Nat} {e : Int} (h : Decimal.ofText? t = some (.finite negative k e)) :
    ∃ d, IsDecimal ((t.trimBy Unicode.isBlank).filter (· ≠ '_')) d := by
  cases numeral : Numeral.decimal? ((t.trimBy Unicode.isBlank).filter (· ≠ '_')) with
  | none =>
    simp only [Decimal.ofText?, numeral] at h
    exact absurd h named?_ne_finite
  | some d => exact ⟨d, Numeral.decimal?_eq_some_iff.mp numeral⟩

/-- A text that stands for a ratio and for a finite decimal number is a decimal numeral. -/
theorem isDecimal_of_rational {k : Nat} {e : Int} (hq : rationalOfText? t = some q)
    (hd : Decimal.ofText? t = some (.finite negative k e)) :
    ∃ d, IsDecimal (t.trimBy Unicode.isBlank) d ∧ d.value? = some q := by
  simp only [rationalOfText?] at hq
  split at hq
  · next ratio =>
    -- The stroke of the ratio would be left when the underscores are dropped.
    obtain ⟨d, decimal⟩ := isDecimal_of_finite hd
    refine absurd ?_ decimal.stroke_not_mem
    exact List.mem_filter.mpr ⟨Numeral.stroke_mem_of_ratio? ratio, by decide⟩
  · obtain ⟨d, decimal, value⟩ := Option.bind_eq_some_iff.mp hq
    exact ⟨d, Numeral.decimal?_eq_some_iff.mp decimal, value⟩

/-- A text that stands for a ratio and for a finite decimal number stands for one number. -/
theorem rational_eq_decimal {k : Nat} {e : Int} (hq : rationalOfText? t = some q)
    (hd : Decimal.ofText? t = some (.finite negative k e)) :
    q * (tenTo (-e).toNat : Nat) = (signed negative k * tenTo e.toNat : Int) := by
  obtain ⟨d, decimal, value⟩ := isDecimal_of_rational hq hd
  rw [decimalOfText?_of_isDecimal decimal, Decimal.finite?, Option.ite_none_right_eq_some] at hd
  simp only [Numeral.Decimal.value?, Option.ite_none_right_eq_some] at value
  obtain ⟨-, finite⟩ := hd
  obtain ⟨-, scaled⟩ := value
  cases finite
  cases scaled
  exact scaled_mul _ _

end BarTemplate
