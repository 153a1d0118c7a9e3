import BarTemplate.Proofs.Numeral
import BarTemplate.Text.Quoted

/-!
# Quoted texts are unambiguous

Main statement: from a quoted text and what follows it, the text and what follows can be told
(`Quoted.encode_append_inj`). A code point that is written in one of four ways (`Quoted.Written`) can be read back,
whatever follows (`Quoted.Written.unescape`), and none of them is written so that it looks like the delimiter, so that
the first delimiter is the closing one. A quoted text has no line break (`Quoted.newline_not_mem_encode`).
-/

namespace BarTemplate.Quoted

variable {q c : Char} {r s t u w : Text}

/-! ## Delimiters -/

/-- A delimiter of quoted texts. -/
def IsDelimiter (q : Char) : Prop :=
  q = '\'' ∨ q = '"'

/-- A text is quoted by one of the two delimiters. -/
theorem isDelimiter_delimiter (t : Text) : IsDelimiter (delimiter t) := by
  unfold delimiter IsDelimiter
  split <;> simp

theorem IsDelimiter.ne (hq : IsDelimiter q) (h₁ : c ≠ '\'') (h₂ : c ≠ '"') : c ≠ q := by
  rintro rfl
  rcases hq with h | h
  · exact h₁ h
  · exact h₂ h

/-! ## How a code point is written -/

/-- The letters after a backslash, and what they stand for. -/
def letters : List (Char × Char) :=
  [('t', '\t'), ('n', '\n'), ('r', '\r')]

/-- The marks of hexadecimal escapes, and their numbers of digits. -/
def widths : List (Char × Nat) :=
  [('x', 2), ('u', 4), ('U', 8)]

/-- The ways in which a code point is written: after a backslash, as a letter after a backslash, as it is, or in
hexadecimal. -/
inductive Written (q c : Char) : Text → Prop where
  | marked (h : c = q ∨ c = '\\') : Written q c ['\\', c]
  | letter {e : Char} (h : (e, c) ∈ letters) : Written q c ['\\', e]
  | plain (hq : c ≠ q) (hb : c ≠ '\\') (hn : c ≠ '\n') : Written q c [c]
  | hex {m : Char} {width : Nat} (h : (m, width) ∈ widths) (fits : (Text.hex width c.toNat).length = width) :
      Written q c (['\\', m] ++ Text.hex width c.toNat)

/-- An escape in hexadecimal is one of the ways in which a code point is written. -/
theorem written_hexEscape (q c : Char) : Written q c (hexEscape c) := by
  have two : ('x', 2) ∈ widths := by decide
  have four : ('u', 4) ∈ widths := by decide
  have eight : ('U', 8) ∈ widths := by decide
  unfold hexEscape
  split
  case isTrue h => exact .hex two (length_hex ((Nat.length_toDigits_le_iff (by decide) (by decide)).mpr h))
  case isFalse =>
    split
    case isTrue h => exact .hex four (length_hex ((Nat.length_toDigits_le_iff (by decide) (by decide)).mpr h))
    case isFalse =>
      exact .hex eight (length_hex ((Nat.length_toDigits_le_iff (by decide) (by decide)).mpr c.val.toNat_lt))

/-- Every code point is written in one of the four ways. -/
theorem written_escape (q c : Char) : Written q c (escape q c) := by
  unfold escape
  split
  case isTrue h => exact .marked h
  case isFalse h =>
    obtain ⟨hq, hb⟩ := not_or.mp h
    split
    case isTrue h => exact .letter (by rw [h]; decide)
    split
    case isTrue h => exact .letter (by rw [h]; decide)
    case isFalse hn =>
      split
      case isTrue h => exact .letter (by rw [h]; decide)
      split
      case isTrue => exact .plain hq hb hn
      case isFalse => exact written_hexEscape q c

/-- What is written does not begin with the delimiter. -/
theorem Written.head (h : Written q c w) (hq : IsDelimiter q) : ∃ d v, w = d :: v ∧ d ≠ q := by
  have backslash : '\\' ≠ q := hq.ne (by decide) (by decide)
  cases h with
  | plain h => exact ⟨_, _, rfl, h⟩
  | marked | letter | hex => exact ⟨_, _, rfl, backslash⟩

/-- No way of writing a code point puts a newline into the text. -/
theorem Written.newline_not_mem (h : Written q c w) (hq : IsDelimiter q) : '\n' ∉ w := by
  have newline : '\n' ≠ q := hq.ne (by decide) (by decide)
  intro hn
  cases h with
  | marked h =>
    have : '\n' = c := by simpa using hn
    rcases h with rfl | rfl
    · exact newline this
    · exact absurd this (by decide)
  | letter h =>
    have all : ∀ p ∈ letters, '\n' ∉ ['\\', p.1] := by decide
    exact all _ h hn
  | plain _ _ h => exact h (List.mem_singleton.mp hn).symm
  | hex h =>
    have all : ∀ p ∈ widths, '\n' ∉ ['\\', p.1] := by decide
    rcases List.mem_append.mp hn with hn | hn
    · exact all _ h hn
    · exact absurd (isHexDigit_of_mem_hex hn) (by decide)

/-! ## Reading a code point back -/

/-- The code point that so many hexadecimal digits stand for, and what follows them. -/
def unhex (width : Nat) (t : Text) : Char × Text :=
  (Char.ofNat (Toml.baseValue 16 (t.take width)), t.drop width)

/-- The code point that is written at the front of a text, and the rest. -/
def unescape : Text → Option (Char × Text)
  | [] => none
  | '\\' :: 't' :: r => some ('\t', r)
  | '\\' :: 'n' :: r => some ('\n', r)
  | '\\' :: 'r' :: r => some ('\r', r)
  | '\\' :: 'x' :: r => some (unhex 2 r)
  | '\\' :: 'u' :: r => some (unhex 4 r)
  | '\\' :: 'U' :: r => some (unhex 8 r)
  | '\\' :: c :: r => some (c, r)
  | c :: r => some (c, r)

/-- Hexadecimal digits are read back to the code point that they were written for. -/
theorem unhex_hex {width : Nat} (fits : (Text.hex width c.toNat).length = width) (r : Text) :
    unhex width (Text.hex width c.toNat ++ r) = (c, r) := by
  unfold unhex
  rw [List.take_append_of_le_length (by omega), List.take_of_length_le (by omega), baseValue_hex, Char.ofNat_toNat,
    List.drop_append_of_le_length (by omega), List.drop_of_length_le (by omega), List.nil_append]

theorem unescape_plain (hc : c ≠ '\\') (r : Text) : unescape (c :: r) = some (c, r) := by
  unfold unescape
  split <;> simp_all

/-- A code point is read back from how it is written, whatever follows. -/
theorem Written.unescape (h : Written q c w) (hq : IsDelimiter q) (r : Text) : unescape (w ++ r) = some (c, r) := by
  cases h with
  | marked h => rcases hq with rfl | rfl <;> rcases h with rfl | rfl <;> rfl
  | letter h =>
    simp only [letters, List.mem_cons, Prod.mk.injEq, List.not_mem_nil, or_false] at h
    rcases h with ⟨rfl, rfl⟩ | ⟨rfl, rfl⟩ | ⟨rfl, rfl⟩ <;> rfl
  | plain _ hb => exact unescape_plain hb r
  | hex h fits =>
    simp only [widths, List.mem_cons, Prod.mk.injEq, List.not_mem_nil, or_false] at h
    rcases h with ⟨rfl, rfl⟩ | ⟨rfl, rfl⟩ | ⟨rfl, rfl⟩ <;> exact congrArg some (unhex_hex fits r)

/-! ## Whole texts -/

/-- Up to the closing delimiter, the code points can be told. -/
theorem flatMap_escape_inj (hq : IsDelimiter q) :
    ∀ {t u : Text}, t.flatMap (escape q) ++ q :: r = u.flatMap (escape q) ++ q :: s → t = u ∧ r = s
  | [], [], h => ⟨rfl, (List.cons.inj h).2⟩
  | [], c :: u, h => by
    obtain ⟨d, v, hw, hd⟩ := (written_escape q c).head hq
    rw [List.flatMap_cons, hw] at h
    exact absurd (List.cons.inj h).1.symm hd
  | c :: t, [], h => by
    obtain ⟨d, v, hw, hd⟩ := (written_escape q c).head hq
    rw [List.flatMap_cons, hw] at h
    exact absurd (List.cons.inj h).1 hd
  | c :: t, d :: u, h => by
    rw [List.flatMap_cons, List.flatMap_cons, List.append_assoc, List.append_assoc] at h
    have read := congrArg Quoted.unescape h
    rw [(written_escape q c).unescape hq, (written_escape q d).unescape hq, Option.some.injEq, Prod.mk.injEq] at read
    obtain ⟨rfl, rest⟩ := read
    obtain ⟨rfl, hr⟩ := flatMap_escape_inj hq rest
    exact ⟨rfl, hr⟩

/-- A quoted text can be told from what follows it. -/
theorem encode_append_inj (h : encode t ++ r = encode u ++ s) : t = u ∧ r = s := by
  unfold encode at h
  simp only [List.cons_append, List.append_assoc, List.cons.injEq, List.nil_append] at h
  obtain ⟨hq, h⟩ := h
  rw [← hq] at h
  exact flatMap_escape_inj (isDelimiter_delimiter t) h

/-- A quoted text is on one line. -/
theorem newline_not_mem_encode (t : Text) : '\n' ∉ encode t := by
  have hq := isDelimiter_delimiter t
  have newline : '\n' ≠ delimiter t := hq.ne (by decide) (by decide)
  have inner : '\n' ∉ t.flatMap (escape (delimiter t)) := by
    intro h
    obtain ⟨c, -, hc⟩ := List.mem_flatMap.mp h
    exact (written_escape _ c).newline_not_mem hq hc
  simp [encode, newline, inner]

end BarTemplate.Quoted
