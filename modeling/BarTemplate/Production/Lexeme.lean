import BarTemplate.Character
import BarTemplate.Reader.Basic

/-!
# Lexemes

The pieces of a template that hold no others: words, quoted values and runs of literal text. Each takes as much as it
can. Inside a quoted value every character but the quotation mark stands for itself; inside literal text an escape
character makes the next character literal, whatever it is.
-/

namespace BarTemplate.Production

/-- A word over a class of characters: one of them, then as many of them and of combining marks as follow. -/
def word (p : Char → Bool) : Reader Text where
  read s :=
    match s with
    | [] => .absent
    | c :: r =>
      if p c then
        let more := fun d => p d || Unicode.isMark d
        .found (c :: r.takeWhile more) (r.dropWhile more)
      else .absent
  advances {s a r} h := by
    split at h
    · cases h
    · next c t =>
      split at h
      · cases h
        have ht := List.dropWhile_suffix (l := t) fun d => p d || Unicode.isMark d
        exact ⟨ht.trans (List.suffix_cons c t), Nat.lt_succ_of_le ht.length_le⟩
      · cases h
  within {s f} h := by
    split at h
    · cases h
    · split at h <;> cases h

/-- A name: a word over the name characters. -/
def name : Reader Text :=
  word isNameChar

/-- The mark at both ends of a quoted value. -/
def quote : Char := '\''

/-- The characters up to the next one that has a property, or to the end. -/
def run (p : Char → Bool) : Committed Text where
  read s := .ok (s.takeWhile p, s.dropWhile p)
  onward h := by cases h; exact List.dropWhile_suffix p
  within h := by cases h

/-- The value of an argument: between quotation marks, or a word over the value characters. -/
def value : Reader Text :=
  (Reader.lead quote do
    let v ← run (· ≠ quote)
    Committed.expect quote
    return v).orElse (word isValueChar)

/-- Literal text as far as it goes, with its escapes resolved, and the rest. -/
def literal : Text → Except Failure (Text × Text)
  | [] => .ok ([], [])
  | c :: s =>
    if c = escapeChar then
      match s with
      | [] => .error ⟨.danglingEscape, [c]⟩
      | d :: t =>
        match literal t with
        | .error f => .error f
        | .ok (v, r) => .ok (d :: v, r)
    else if isPlain c then
      match literal s with
      | .error f => .error f
      | .ok (v, r) => .ok (c :: v, r)
    else .ok ([], c :: s)

theorem literal_suffix : ∀ {s v r : Text}, literal s = .ok (v, r) → r <:+ s ∧ (v ≠ [] → r.length < s.length) := by
  intro s
  fun_induction literal s with
  | case1 => intro v r h; cases h; simp
  | case2 => intro v r h; cases h
  | case3 => intro v r h; cases h
  | case4 d t v' r' ht ih =>
    intro v r h
    cases h
    have hs := (ih ht).1
    exact ⟨hs.trans ((List.suffix_cons _ _).trans (List.suffix_cons _ _)),
      fun _ => by have := hs.length_le; simp only [List.length_cons]; omega⟩
  | case5 => intro v r h; cases h
  | case6 c s hc hp v' r' hs ih =>
    intro v r h
    cases h
    have hs := (ih hs).1
    exact ⟨hs.trans (List.suffix_cons _ _), fun _ => Nat.lt_succ_of_le hs.length_le⟩
  | case7 => intro v r h; cases h; simp

theorem literal_within : ∀ {s : Text} {f : Failure}, literal s = .error f → f.Within s := by
  intro s
  fun_induction literal s with
  | case1 => intro f h; cases h
  | case2 => intro f h; cases h; exact ⟨List.suffix_refl _, List.nil_suffix⟩
  | case3 d t e ht ih =>
    intro f h
    cases h
    exact (ih ht).trans ((List.suffix_cons _ _).trans (List.suffix_cons _ _))
  | case4 => intro f h; cases h
  | case5 c s hc hp e hs ih => intro f h; cases h; exact (ih hs).trans (List.suffix_cons _ _)
  | case6 => intro f h; cases h
  | case7 => intro f h; cases h

/-- A run of literal text that is not empty. -/
def text : Reader Text where
  read s :=
    match literal s with
    | .error f => .failed f
    | .ok ([], _) => .absent
    | .ok (c :: v, r) => .found (c :: v) r
  advances {s a r} h := by
    split at h
    · cases h
    · cases h
    · next hl => cases h; exact ⟨(literal_suffix hl).1, (literal_suffix hl).2 (by simp)⟩
  within {s f} h := by
    split at h
    · next hl => cases h; exact literal_within hl
    · cases h
    · cases h

end BarTemplate.Production
