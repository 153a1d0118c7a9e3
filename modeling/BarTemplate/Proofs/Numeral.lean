import BarTemplate.Toml.Strings

/-!
# Written numbers

Main statements: the digits that a number is written in stand for that number in the same base (`baseValue_toDigits`),
also with zeros in front of them (`baseValue_hex`). So no two numbers are written alike, with a sign or without
(`Text.ofInt_inj`), and a hexadecimal number that its width has room for is exactly as long as the width (`length_hex`).
-/

namespace BarTemplate

open Toml (baseValue hexDigitValue isHexDigit)

variable {base n m : Nat} {c : Char}

/-! ## Digits and what they stand for -/

/-- A digit below sixteen is a hexadecimal digit and stands for itself. -/
theorem digitChar_spec : ∀ d < 16, isHexDigit (Nat.digitChar d) = true ∧ hexDigitValue (Nat.digitChar d) = d := by
  decide

/-- The last digit counts once, and all before it as often as the base. -/
theorem baseValue_append (t : Text) (c : Char) :
    baseValue base (t ++ [c]) = base * baseValue base t + hexDigitValue c := by
  unfold baseValue
  rw [List.foldl_append]
  rfl

/-- The digits of a number stand for it, and all of them are hexadecimal digits. -/
theorem toDigits_spec (h : 1 < base) (h16 : base ≤ 16) (n : Nat) :
    baseValue base (Nat.toDigits base n) = n ∧ ∀ c ∈ Nat.toDigits base n, isHexDigit c = true := by
  induction n using Nat.strongRecOn with
  | ind n ih =>
    rw [Nat.toDigits_eq_if h]
    split
    case isTrue hn =>
      obtain ⟨digit, value⟩ := digitChar_spec n (by omega)
      exact ⟨by simpa [baseValue] using value, by simpa using digit⟩
    case isFalse hn =>
      have smaller : n / base < n := Nat.div_lt_self (by omega) h
      have last : n % base < base := Nat.mod_lt n (by omega)
      obtain ⟨value, digits⟩ := ih _ smaller
      obtain ⟨digit, lastValue⟩ := digitChar_spec (n % base) (by omega)
      constructor
      · rw [baseValue_append, value, lastValue]
        exact Nat.div_add_mod n base
      · intro c hc
        rcases List.mem_append.mp hc with hc | hc
        · exact digits c hc
        · rw [List.mem_singleton.mp hc]
          exact digit

/-- The digits of a number in a base stand for the number. -/
theorem baseValue_toDigits (h : 1 < base) (h16 : base ≤ 16) (n : Nat) : baseValue base (Nat.toDigits base n) = n :=
  (toDigits_spec h h16 n).1

/-! ## Hexadecimal numbers of a width -/

/-- Zeros in front of digits stand for nothing. -/
theorem baseValue_zeros (k : Nat) (t : Text) : baseValue base (List.replicate k '0' ++ t) = baseValue base t := by
  induction k with
  | zero => rfl
  | succ k ih =>
    have first : ∀ u : Text, baseValue base ('0' :: u) = baseValue base u := by
      intro u
      have : base * 0 + hexDigitValue '0' = 0 := by simp [show hexDigitValue '0' = 0 from rfl]
      unfold baseValue
      rw [List.foldl_cons, this]
    rw [List.replicate_succ, List.cons_append, first, ih]

/-- Leading zeros change nothing. -/
theorem baseValue_hex (width n : Nat) : baseValue 16 (Text.hex width n) = n := by
  unfold Text.hex
  rw [baseValue_zeros]
  exact baseValue_toDigits (by decide) (by decide) n

/-- A number in hexadecimal has hexadecimal digits only. -/
theorem isHexDigit_of_mem_hex {width : Nat} (hc : c ∈ Text.hex width n) : isHexDigit c = true := by
  rcases List.mem_append.mp hc with hc | hc
  · rw [List.eq_of_mem_replicate hc]
    rfl
  · exact (toDigits_spec (by decide) (by decide) n).2 c hc

/-- A number that fits a width is filled up to it. -/
theorem length_hex {width : Nat} (h : (Nat.toDigits 16 n).length ≤ width) : (Text.hex width n).length = width := by
  unfold Text.hex
  rw [List.length_append, List.length_replicate]
  omega

/-! ## Decimal numbers -/

/-- Different numbers are written differently. -/
theorem Text.ofNat_inj (h : Text.ofNat m = Text.ofNat n) : m = n := by
  have value := congrArg (baseValue 10) h
  unfold Text.ofNat at value
  rwa [baseValue_toDigits (by decide) (by decide), baseValue_toDigits (by decide) (by decide)] at value

/-- A number is written with ASCII digits only. -/
theorem isDigit_of_mem_ofNat (hc : c ∈ Text.ofNat n) : c.isDigit = true :=
  Nat.isDigit_of_mem_toDigits (by decide) (by decide) hc

/-- No natural number is written with a sign. -/
theorem minus_ne_ofNat {t : Text} : '-' :: t ≠ Text.ofNat n := by
  intro h
  have digit : '-'.isDigit = true := isDigit_of_mem_ofNat (n := n) (h ▸ List.mem_cons_self)
  exact absurd digit (by decide)

/-- No two integers are written alike. -/
theorem Text.ofInt_inj {i j : Int} (h : Text.ofInt i = Text.ofInt j) : i = j := by
  cases i with
  | ofNat m =>
    cases j with
    | ofNat n => exact congrArg Int.ofNat (Text.ofNat_inj h)
    | negSucc n => exact absurd h.symm minus_ne_ofNat
  | negSucc m =>
    cases j with
    | ofNat n => exact absurd h minus_ne_ofNat
    | negSucc n =>
      have := Text.ofNat_inj (List.cons.inj h).2
      exact congrArg Int.negSucc (by omega)

/-- A written integer is made of digits, with a minus sign at most. -/
theorem mem_ofInt {i : Int} (hc : c ∈ Text.ofInt i) : c = '-' ∨ c.isDigit = true := by
  cases i with
  | ofNat n => exact Or.inr (isDigit_of_mem_ofNat hc)
  | negSucc n =>
    rcases List.mem_cons.mp hc with rfl | hc
    · exact Or.inl rfl
    · exact Or.inr (isDigit_of_mem_ofNat hc)

end BarTemplate
