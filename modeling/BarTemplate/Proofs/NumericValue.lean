import BarTemplate.Proofs.Calls
import BarTemplate.Proofs.ExactNumber
import BarTemplate.Proofs.Source
import BarTemplate.Value

/-!
# Numeric values of arguments

Main statement: the numeric types read every argument alike (`numeric_values_agree`). A written integer comes back from
a list of arguments, quoted or not, as itself in each of the types; what is an integer is the same number as a ratio and
as a decimal number; and what is a ratio and a finite decimal number is one number.
-/

namespace BarTemplate

open Numeral (IsWhole isMargin maxDigits signed)

variable {t : Text} {negative : Bool} {n : Int} {q : Rat}

/-! ## Values and their types -/

/-- The type that a value is of. -/
def Value.target : Value → Target
  | .flag _ => .flag
  | .text _ => .text
  | .integer _ => .integer
  | .binary _ => .binary
  | .decimal _ => .decimal
  | .rational _ => .rational

/-- What is read for a type is of that type. -/
theorem Target.read?_target {target : Target} {v : Value} (h : target.read? t = some v) : v.target = target := by
  cases target with
  | text =>
    cases h
    rfl
  | bytes => cases h
  | _ =>
    obtain ⟨_, -, rfl⟩ := Option.map_eq_some_iff.mp h
    rfl

/-- An argument has a value of the wanted type, or there is an error that has its key. -/
theorem Argument.valueAs_cases (a : Argument) (target : Target) :
    (∃ v, v.target = target ∧ a.valueAs target = .ok v) ∨
      ∃ fault, a.valueAs target = .error ⟨a.key, fault⟩ ∧ (fault = .missing ↔ a.value = none) := by
  unfold Argument.valueAs
  cases a.value with
  | none =>
    by_cases flag : target = .flag
    · exact Or.inl ⟨.flag true, flag.symm, if_pos flag⟩
    · exact Or.inr ⟨.missing, if_neg flag, by simp⟩
  | some t =>
    cases read : target.read? t with
    | none => exact Or.inr ⟨.invalid, by simp only [read], by simp⟩
    | some v => exact Or.inl ⟨v, Target.read?_target read, by simp only [read]⟩

/-- A value that a numeric type has is what the text of the argument stands for. -/
theorem Argument.valueAs_ok_iff {a : Argument} {target : Target} {v : Value} (h : target ≠ .flag) :
    a.valueAs target = .ok v ↔ ∃ t, a.value = some t ∧ target.read? t = some v := by
  unfold Argument.valueAs
  cases a.value with
  | none => simp [h]
  | some t => cases read : target.read? t <;> simp [read]

/-! ## Written integers in arguments -/

/-- Arguments in parentheses, as they are written if there is one only: a key, and what stands for its value. -/
def singleArgument (key value : Text) : Text :=
  '(' :: (key ++ ':' :: (value ++ [')']))

open Grammar in
/-- A list of one argument is read as that argument. -/
theorem arguments_read_single {k s v : Text} (key : IsName k) (value : ValueAt (s ++ [')']) v [')']) :
    Production.arguments.read (singleArgument k s) = .found [{ key := k, value := some v }] [] := by
  refine arguments_found_iff.mpr (.first (gapAt_self key.stopsAt_gap) (.valued ?_ value) (.close (gapAt_self ?_)))
  · exact IsWord.wordAt key (stopsAt_cons.mpr (by decide))
  · exact stopsAt_cons.mpr (by decide)

/-- An integer is a word over the characters of a bare value. -/
theorem isWord_ofInt (n : Int) : IsWord isValueChar (Text.ofInt n) := by
  have all : ∀ c ∈ Text.ofInt n, isValueChar c = true := by
    intro c hc
    rcases mem_ofInt hc with rfl | digit
    · decide
    · simp [isValueChar, isNameChar, Unicode.isAlphanumeric_of_isDigit digit]
  cases written : Text.ofInt n with
  | nil => exact absurd written (Numeral.ofInt_ne_nil n)
  | cons c w =>
    rw [written] at all
    obtain ⟨first, more⟩ := List.forall_mem_cons.mp all
    exact ⟨first, fun d hd => Or.inl (more d hd)⟩

open Grammar Production in
/-- A written integer is read as the value of an argument, quoted or not. -/
theorem valueAt_ofInt {s : Text} (h : s = Text.ofInt n ∨ s = quote :: Text.ofInt n ++ [quote]) :
    ValueAt (s ++ [')']) (Text.ofInt n) [')'] := by
  rcases h with rfl | rfl
  · exact .bare (IsWord.wordAt (isWord_ofInt n) (stopsAt_cons.mpr (by decide)))
  · have plain : quote ∉ Text.ofInt n := by
      intro hc
      rcases mem_ofInt hc with minus | digit
      · cases minus
      · cases digit
    rw [List.append_assoc]
    exact .quoted plain

open Production in
/-- The call of a machine that reads arguments finds one, whose value is the integer as it is written without quotes. -/
theorem call_arguments {k s : Text} (frames requested : Int) (key : IsName k)
    (written : s = Text.ofInt n ∨ s = quote :: Text.ofInt n ++ [quote]) :
    (Machine.ofSource frames requested (singleArgument k s)).call .arguments {} =
      some ⟨.arguments, {}, .ok (some (.arguments [{ key := k, value := some (Text.ofInt n) }])),
        ⟨(singleArgument k s).length, 0⟩⟩ := by
  have read := arguments_read_single key (valueAt_ofInt written)
  refine (Machine.call_eq (Nat.zero_le _) .arguments).trans (congrArg some ?_)
  refine Machine.callIn_of_found (r := []) _ 0 ?_
  exact congrArg (Outcome.map Finding.arguments) read

/-! ## One number in every type -/

/-- An argument has an integer as its value in each of the numeric types that are exact. -/
structure Argument.IsInteger (a : Argument) (n : Int) : Prop where
  integer : a.valueAs .integer = .ok (.integer n)
  rational : a.valueAs .rational = .ok (.rational n)
  decimal : ∃ negative, signed negative n.natAbs = n ∧ a.valueAs .decimal = .ok (.decimal (.finite negative n.natAbs 0))

/-- An argument whose value is an integer numeral is an integer, if it has no more digits than can be read. -/
theorem Argument.isInteger_of_isWhole {a : Argument} {w : Numeral.Whole} (given : a.value = some t)
    (h : IsWhole (t.trimBy isMargin) w) (short : w.digits.length ≤ maxDigits) :
    a.IsInteger (signed w.negative (Numeral.value w.digits)) := by
  obtain ⟨integer, rational, decimal⟩ := values_of_isWhole h short
  have read {target : Target} {v : Value} (other : target ≠ .flag) (h : target.read? t = some v) :
      a.valueAs target = .ok v := (valueAs_ok_iff other).mpr ⟨t, given, h⟩
  refine ⟨read (by decide) ?_, read (by decide) ?_, w.negative, ?_, read (by decide) ?_⟩
  · simp only [Target.read?, integer, Option.map_some]
  · simp only [Target.read?, rational, Option.map_some]
  · rw [Numeral.natAbs_signed]
  · simp only [Target.read?, decimal, Option.map_some, Numeral.natAbs_signed]

/-- An argument with a written integer as its value has that integer, unless it is too long. -/
theorem isInteger_ofInt {k : Text} (short : (Text.ofNat n.natAbs).length ≤ maxDigits) :
    Argument.IsInteger { key := k, value := some (Text.ofInt n) } n := by
  have whole := Numeral.isWhole_ofInt n
  rw [← whole.trim_self] at whole
  have value : signed (decide (n < 0)) (Numeral.value ((Text.ofNat n.natAbs).map Toml.hexDigitValue)) = n := by
    rw [Numeral.value_ofNat, Numeral.signed_natAbs]
  rw [← List.length_map Toml.hexDigitValue] at short
  have holds := Argument.isInteger_of_isWhole (a := { key := k, value := some (Text.ofInt n) }) rfl whole short
  rwa [value] at holds

/-- Whatever is an integer is that integer in the other types too. -/
theorem Argument.isInteger_of_integer {a : Argument} (h : a.valueAs .integer = .ok (.integer n)) : a.IsInteger n := by
  obtain ⟨t, given, read⟩ := (valueAs_ok_iff (by decide)).mp h
  obtain ⟨m, integer, same⟩ := Option.map_eq_some_iff.mp read
  obtain rfl : m = n := Value.integer.inj same
  obtain ⟨w, whole, short, rfl⟩ := integerOfText?_eq_some_iff.mp integer
  exact isInteger_of_isWhole given whole short

/-- The ratio and the finite decimal number that an argument has are one number. -/
theorem Argument.rational_eq_decimal {a : Argument} {k : Nat} {e : Int} (hq : a.valueAs .rational = .ok (.rational q))
    (hd : a.valueAs .decimal = .ok (.decimal (.finite negative k e))) :
    q * (tenTo (-e).toNat : Nat) = (signed negative k * tenTo e.toNat : Int) := by
  obtain ⟨t, given, readRational⟩ := (valueAs_ok_iff (by decide)).mp hq
  obtain ⟨u, given', readDecimal⟩ := (valueAs_ok_iff (by decide)).mp hd
  obtain rfl : t = u := Option.some.inj (given.symm.trans given')
  obtain ⟨_, rational, same⟩ := Option.map_eq_some_iff.mp readRational
  obtain ⟨_, decimal, same'⟩ := Option.map_eq_some_iff.mp readDecimal
  cases same
  cases same'
  exact BarTemplate.rational_eq_decimal rational decimal

open Production in
/-- A written integer is read from a list of arguments as the value of the one argument that is there, quoted or not,
and has its value in every numeric type, unless it is too long. Whatever text an argument has: if it is an integer, it
is the same number as a ratio and as a decimal number, and if it is a ratio and a finite decimal number, it is one
number. An argument that has no value of a type gives an error with its key. -/
theorem numeric_values_agree (frames requested : Int) :
    (∀ (k s : Text) (n : Int), IsName k → (Text.ofNat n.natAbs).length ≤ maxDigits →
      s = Text.ofInt n ∨ s = quote :: Text.ofInt n ++ [quote] → ∃ a : Argument, a.key = k ∧ a.IsInteger n ∧
        (Machine.ofSource frames requested (singleArgument k s)).call .arguments {} =
          some ⟨.arguments, {}, .ok (some (.arguments [a])), ⟨(singleArgument k s).length, 0⟩⟩) ∧
      (∀ (a : Argument) (n : Int), a.valueAs .integer = .ok (.integer n) → a.IsInteger n) ∧
      (∀ (a : Argument) (q : Rat) (negative : Bool) (coefficient : Nat) (exponent : Int),
        a.valueAs .rational = .ok (.rational q) →
        a.valueAs .decimal = .ok (.decimal (.finite negative coefficient exponent)) →
        q * (tenTo (-exponent).toNat : Nat) = (signed negative coefficient * tenTo exponent.toNat : Int)) ∧
      ∀ (a : Argument) (target : Target), (∃ v, v.target = target ∧ a.valueAs target = .ok v) ∨
        ∃ fault, a.valueAs target = .error ⟨a.key, fault⟩ ∧ (fault = .missing ↔ a.value = none) := by
  refine ⟨?read, ?integer, ?exact, Argument.valueAs_cases⟩
  case read =>
    intro k s n key short written
    exact ⟨_, rfl, isInteger_ofInt short, call_arguments frames requested key written⟩
  case integer =>
    intro a n integer
    exact a.isInteger_of_integer integer
  case exact =>
    intro a q negative coefficient exponent rational decimal
    exact a.rational_eq_decimal rational decimal

/-- A bare `-7` in a list of arguments, an integer between spaces with an underscore in it, and a number with an
exponent. -/
theorem numeric_values_of_weight :
    (∃ a : Argument, a.key = ['w'] ∧ a.IsInteger (-7) ∧
      (Machine.ofSource 1000 5 ['(', 'w', ':', '-', '7', ')']).call .arguments {} =
        some ⟨.arguments, {}, .ok (some (.arguments [a])), ⟨6, 0⟩⟩) ∧
      Argument.IsInteger ⟨['w'], some [' ', '1', '_', '0', ' ']⟩ 10 ∧
      mkRat 5 2 * (tenTo 1 : Nat) = (25 * tenTo 0 : Int) := by
  obtain ⟨written, integers, decimals, -⟩ := numeric_values_agree 1000 5
  refine ⟨written ['w'] ['-', '7'] (-7) ⟨by decide, by simp⟩ (by decide) (Or.inl rfl), integers _ _ rfl, ?_⟩
  exact decimals ⟨['w'], some ['2', '5', 'e', '-', '1']⟩ (mkRat 5 2) false 25 (-1) rfl rfl

end BarTemplate
