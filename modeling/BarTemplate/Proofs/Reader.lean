import BarTemplate.Reader.Basic

/-!
# What readers do

For every way to build a reader: exactly when it finds a value, when it fails and when it finds nothing, in terms of its
parts. Later proofs take productions apart with these statements and never open a reader.
-/

namespace BarTemplate

variable {α β : Type}

namespace Outcome

/-- A mapped outcome is a find exactly if the outcome is one, of a value that is mapped to the one found. -/
theorem map_found_iff {g : α → β} {o : Outcome α} {b : β} {r : Text} :
    o.map g = .found b r ↔ ∃ a, o = .found a r ∧ g a = b := by
  cases o with
  | absent => simp [map]
  | found a t =>
    simp only [map, found.injEq]
    constructor
    · rintro ⟨ha, ht⟩
      exact ⟨a, ⟨rfl, ht⟩, ha⟩
    · rintro ⟨_, ⟨rfl, ht⟩, hg⟩
      exact ⟨hg, ht⟩
  | failed f => simp [map]

/-- Mapping leaves failures as they are. -/
theorem map_failed_iff {g : α → β} {o : Outcome α} {f : Failure} : o.map g = .failed f ↔ o = .failed f := by
  cases o <;> simp [map]

/-- Mapping leaves absence as it is. -/
theorem map_absent_iff {g : α → β} {o : Outcome α} : o.map g = .absent ↔ o = .absent := by
  cases o <;> simp [map]

/-- A result counts as a find exactly if it is a value with a rest. -/
theorem ofExcept_found_iff {x : Except Failure (α × Text)} {a : α} {r : Text} :
    ofExcept x = .found a r ↔ x = .ok (a, r) := by
  rcases x with f | ⟨b, t⟩ <;> simp [ofExcept]

/-- An error counts as a failure, and nothing else does. -/
theorem ofExcept_failed_iff {x : Except Failure (α × Text)} {f : Failure} : ofExcept x = .failed f ↔ x = .error f := by
  rcases x with g | ⟨b, t⟩ <;> simp [ofExcept]

/-- A committed reader is never absent. -/
theorem ofExcept_ne_absent {x : Except Failure (α × Text)} : ofExcept x ≠ .absent := by
  rcases x with g | ⟨b, t⟩ <;> simp [ofExcept]

end Outcome

namespace Committed

variable {s r : Text} {f : Failure}

/-- A computation that is pure reads nothing. -/
theorem read_pure (a : α) (s : Text) : (pure a : Committed α).read s = .ok (a, s) :=
  rfl

/-- Of two computations in a row, the second reads on where the first has ended, unless that has failed. -/
theorem read_bind (p : Committed α) (q : α → Committed β) (s : Text) :
    (p >>= q).read s = match p.read s with | .error f => .error f | .ok (a, t) => (q a).read t :=
  rfl

/-- What a pure computation gives. -/
theorem pure_ok_iff {a b : α} : (pure a : Committed α).read s = .ok (b, r) ↔ a = b ∧ s = r := by
  change Except.ok (a, s) = _ ↔ _
  simp

/-- A pure computation does not fail. -/
theorem pure_ne_error {a : α} : (pure a : Committed α).read s ≠ .error f := by
  change Except.ok (a, s) ≠ _
  simp

/-- Two computations in a row succeed exactly if both do, the second from where the first has ended. -/
theorem bind_ok_iff {p : Committed α} {q : α → Committed β} {b : β} :
    (p >>= q).read s = .ok (b, r) ↔ ∃ a t, p.read s = .ok (a, t) ∧ (q a).read t = .ok (b, r) := by
  change (match p.read s with | .error f => Except.error f | .ok (a, t) => (q a).read t) = _ ↔ _
  rcases p.read s with g | ⟨a, t⟩ <;> simp [and_assoc]

/-- Two computations in a row fail exactly if the first does, or the second where the first has ended. -/
theorem bind_error_iff {p : Committed α} {q : α → Committed β} :
    (p >>= q).read s = .error f ↔ p.read s = .error f ∨ ∃ a t, p.read s = .ok (a, t) ∧ (q a).read t = .error f := by
  change (match p.read s with | .error f => Except.error f | .ok (a, t) => (q a).read t) = _ ↔ _
  rcases p.read s with g | ⟨a, t⟩ <;> simp [and_assoc]

/-- Skipping drops all characters with the property. -/
theorem skip_ok_iff {p : Char → Bool} {u : Unit} : (skip p).read s = .ok (u, r) ↔ s.dropWhile p = r := by
  simp [skip]

/-- Skipping does not fail. -/
theorem skip_ne_error {p : Char → Bool} : (skip p).read s ≠ .error f := by
  simp [skip]

/-- An expected character is taken exactly if it is the next one. -/
theorem expect_ok_iff {c : Char} {u : Unit} : (expect c).read s = .ok (u, r) ↔ s = c :: r := by
  unfold expect
  cases s with
  | nil => simp
  | cons d t => by_cases hd : d = c <;> simp [hd]

/-- An expected character is missed where another one, or none, is next, and the failure stands there. -/
theorem expect_error_iff {c : Char} :
    (expect c).read s = .error f ↔ s.head? ≠ some c ∧ f = ⟨.expected (.char c), s⟩ := by
  unfold expect
  cases s with
  | nil => simp [eq_comm]
  | cons d t =>
    by_cases hd : d = c
    · simp [hd]
    · simp [hd, eq_comm (a := f)]

/-- A marker is taken exactly if the text begins with it. -/
theorem marker_ok_iff {t : Text} {what : Expected} {u : Unit} : (marker t what).read s = .ok (u, r) ↔ s = t ++ r := by
  simp only [marker]
  by_cases h : t <+: s
  · obtain ⟨v, rfl⟩ := h
    simp
  · simp only [if_neg h, reduceCtorEq, false_iff]
    rintro rfl
    exact h (List.prefix_append t r)

/-- A marker is missed where the text does not begin with it, and the failure stands there. -/
theorem marker_error_iff {t : Text} {what : Expected} :
    (marker t what).read s = .error f ↔ ¬t <+: s ∧ f = ⟨.expected what, s⟩ := by
  by_cases h : t <+: s <;> simp [marker, h, eq_comm]

/-- What is required is taken exactly if it is found. -/
theorem require_ok_iff {p : Reader α} {what : Expected} {a : α} :
    (require p what).read s = .ok (a, r) ↔ p.read s = .found a r := by
  unfold require
  cases hp : p.read s <;> simp [hp]

/-- What is required is missed where it is absent; a failure of finding it is kept. -/
theorem require_error_iff {p : Reader α} {what : Expected} :
    (require p what).read s = .error f ↔ (p.read s = .absent ∧ f = ⟨.expected what, s⟩) ∨ p.read s = .failed f := by
  unfold require
  cases hp : p.read s <;> simp [hp, eq_comm]

/-- What is optional is taken if it is found, and nothing is read if it is absent. -/
theorem optional_ok_iff {p : Reader α} {o : Option α} :
    (optional p).read s = .ok (o, r) ↔
      (p.read s = .absent ∧ o = none ∧ s = r) ∨ ∃ a, p.read s = .found a r ∧ o = some a := by
  unfold optional
  cases hp : p.read s with
  | absent => simp [hp, eq_comm]
  | found a t =>
    simp only [hp, Except.ok.injEq, Prod.mk.injEq, reduceCtorEq, false_and, Outcome.found.injEq, false_or]
    exact ⟨fun ⟨ho, ht⟩ => ⟨a, ⟨rfl, ht⟩, ho.symm⟩, fun ⟨b, ⟨hb, ht⟩, ho⟩ => ⟨hb ▸ ho.symm, ht⟩⟩
  | failed g => simp [hp]

/-- What is optional fails exactly if finding it does. -/
theorem optional_error_iff {p : Reader α} : (optional p).read s = .error f ↔ p.read s = .failed f := by
  unfold optional
  cases hp : p.read s <;> simp [hp]

/-- A repetition is empty exactly if its body is absent at once. -/
theorem many_nil_iff {p : Reader α} : (many p).read s = .ok ([], r) ↔ p.read s = .absent ∧ s = r := by
  change p.readAll s = _ ↔ _
  cases hp : p.read s with
  | absent => simp [Reader.readAll_eq p s, hp]
  | found a t => rcases ht : p.readAll t with g | ⟨as, u⟩ <;> simp [Reader.readAll_eq p s, hp, ht]
  | failed g => simp [Reader.readAll_eq p s, hp]

/-- A repetition has a first find exactly if its body is found and the repetition reads on behind that. -/
theorem many_cons_iff {p : Reader α} {a : α} {as : List α} :
    (many p).read s = .ok (a :: as, r) ↔ ∃ t, p.read s = .found a t ∧ (many p).read t = .ok (as, r) := by
  change p.readAll s = _ ↔ ∃ t, _ ∧ p.readAll t = _
  cases hp : p.read s with
  | absent => simp [Reader.readAll_eq p s, hp]
  | found b t => rcases ht : p.readAll t with g | ⟨bs, u⟩ <;> simp [Reader.readAll_eq p s, hp, ht, and_assoc]
  | failed g => simp [Reader.readAll_eq p s, hp]

/-- A repetition fails exactly if its body does, at once or behind a first find. -/
theorem many_error_iff {p : Reader α} :
    (many p).read s = .error f ↔ p.read s = .failed f ∨ ∃ a t, p.read s = .found a t ∧ (many p).read t = .error f := by
  change p.readAll s = _ ↔ _ ∨ ∃ a t, _ ∧ p.readAll t = _
  cases hp : p.read s with
  | absent => simp [Reader.readAll_eq p s, hp]
  | found b t => rcases ht : p.readAll t with g | ⟨bs, u⟩ <;> simp [Reader.readAll_eq p s, hp, ht, and_assoc]
  | failed g => simp [Reader.readAll_eq p s, hp]

end Committed

namespace Reader

variable {s r : Text} {f : Failure}

/-- A mapped reader finds the mapped values. -/
theorem map_found_iff {g : α → β} {p : Reader α} {b : β} :
    (p.map g).read s = .found b r ↔ ∃ a, p.read s = .found a r ∧ g a = b :=
  Outcome.map_found_iff

/-- A mapped reader fails where the reader does. -/
theorem map_failed_iff {g : α → β} {p : Reader α} : (p.map g).read s = .failed f ↔ p.read s = .failed f :=
  Outcome.map_failed_iff

/-- A mapped reader is absent where the reader is. -/
theorem map_absent_iff {g : α → β} {p : Reader α} : (p.map g).read s = .absent ↔ p.read s = .absent :=
  Outcome.map_absent_iff

/-- An alternative finds what its first side finds, or its second where the first is absent. -/
theorem orElse_found_iff {p q : Reader α} {a : α} :
    (p.orElse q).read s = .found a r ↔ p.read s = .found a r ∨ p.read s = .absent ∧ q.read s = .found a r := by
  unfold orElse
  cases hp : p.read s <;> simp [hp]

/-- An alternative fails as its first side does, or as its second where the first is absent. -/
theorem orElse_failed_iff {p q : Reader α} :
    (p.orElse q).read s = .failed f ↔ p.read s = .failed f ∨ p.read s = .absent ∧ q.read s = .failed f := by
  unfold orElse
  cases hp : p.read s <;> simp [hp]

/-- An alternative is absent exactly if both sides are. -/
theorem orElse_absent_iff {p q : Reader α} :
    (p.orElse q).read s = .absent ↔ p.read s = .absent ∧ q.read s = .absent := by
  unfold orElse
  cases hp : p.read s <;> simp [hp]

/-- A reader with a continuation finds what the continuation makes of a find. -/
theorem andThen_found_iff {p : Reader α} {q : α → Committed β} {b : β} :
    (p.andThen q).read s = .found b r ↔ ∃ a t, p.read s = .found a t ∧ (q a).read t = .ok (b, r) := by
  unfold andThen
  cases hp : p.read s with
  | absent => simp [hp]
  | found a t => simp [hp, Outcome.ofExcept_found_iff, and_assoc]
  | failed g => simp [hp]

/-- A reader with a continuation fails as the reader does, or as the continuation behind a find. -/
theorem andThen_failed_iff {p : Reader α} {q : α → Committed β} :
    (p.andThen q).read s = .failed f ↔ p.read s = .failed f ∨ ∃ a t, p.read s = .found a t ∧ (q a).read t = .error f := by
  unfold andThen
  cases hp : p.read s with
  | absent => simp [hp]
  | found a t => simp [hp, Outcome.ofExcept_failed_iff, and_assoc]
  | failed g => simp [hp]

/-- A continuation has no part in absence: after a find, nothing is absent any more. -/
theorem andThen_absent_iff {p : Reader α} {q : α → Committed β} :
    (p.andThen q).read s = .absent ↔ p.read s = .absent := by
  unfold andThen
  cases hp : p.read s <;> simp [hp, Outcome.ofExcept_ne_absent]

/-- A character is found exactly if it is the next one. -/
theorem char_found_iff {c : Char} {u : Unit} : (char c).read s = .found u r ↔ s = c :: r := by
  unfold char
  cases s with
  | nil => simp
  | cons d t => by_cases hd : d = c <;> simp [hd]

/-- Looking for a character does not fail. -/
theorem char_ne_failed {c : Char} : (char c).read s ≠ .failed f := by
  unfold char
  cases s with
  | nil => simp
  | cons d t => by_cases hd : d = c <;> simp [hd]

/-- A character is absent exactly if another one, or none, is next. -/
theorem char_absent_iff {c : Char} : (char c).read s = .absent ↔ s.head? ≠ some c := by
  unfold char
  cases s with
  | nil => simp
  | cons d t => by_cases hd : d = c <;> simp [hd]

/-- What a character leads is found exactly if the character is next and what follows it is read. -/
theorem lead_found_iff {c : Char} {q : Committed α} {a : α} :
    (lead c q).read s = .found a r ↔ ∃ t, s = c :: t ∧ q.read t = .ok (a, r) := by
  simp [lead, andThen_found_iff, char_found_iff]

/-- What a character leads fails only behind that character. -/
theorem lead_failed_iff {c : Char} {q : Committed α} :
    (lead c q).read s = .failed f ↔ ∃ t, s = c :: t ∧ q.read t = .error f := by
  simp [lead, andThen_failed_iff, char_found_iff, char_ne_failed]

/-- What a character leads is absent exactly if the character is. -/
theorem lead_absent_iff {c : Char} {q : Committed α} : (lead c q).read s = .absent ↔ s.head? ≠ some c := by
  simp [lead, andThen_absent_iff, char_absent_iff]

end Reader

end BarTemplate
