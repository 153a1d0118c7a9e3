import BarTemplate.Text.Basic

/-!
# Readers

A reader looks at what is left of a source and does one of three things: it finds nothing of its kind and takes nothing,
it finds a value and leaves a shorter rest, or it fails. A reader that has seen how its kind begins is committed: from
there on it finds a value or fails. Both are functions of the remaining text alone, and both carry the proof that what
they leave is an end of what they were given. The proof is what lets a reader be repeated until it finds nothing more
(`Committed.many`).
-/

namespace BarTemplate

/-- What a committed reader has to find: a single character, or a part of a template. -/
inductive Expected where
  | char (c : Char)
  | placeholderName
  | formatterName
  | iconMarker
  | iconName
  deriving DecidableEq, Repr

/-- Why reading stops. -/
inductive Cause where
  | expected (what : Expected)
  | danglingEscape
  | tooDeep
  | trailing
  deriving DecidableEq, Repr

/-- A failure: its cause, and the rest of the source from the place that it is reported at. -/
structure Failure where
  cause : Cause
  rest : Text
  deriving DecidableEq, Repr

/-- The rest of the source after a failure. A dangling escape is reported at the escape character, which has been taken;
every other failure takes nothing from the place that it is reported at. -/
def Failure.left (f : Failure) : Text :=
  match f.cause with
  | .danglingEscape => []
  | _ => f.rest

/-- What a reader does with a text. -/
inductive Outcome (α : Type) where
  | absent
  | found (value : α) (rest : Text)
  | failed (failure : Failure)
  deriving DecidableEq, Repr

namespace Outcome

variable {α β : Type}

/-- Changes the value that was found. -/
def map (f : α → β) : Outcome α → Outcome β
  | absent => absent
  | found a rest => found (f a) rest
  | failed e => failed e

/-- The outcome of a reader that cannot be absent. -/
def ofExcept : Except Failure (α × Text) → Outcome α
  | .ok (a, rest) => found a rest
  | .error e => failed e

end Outcome

/-- The rest of a source that a failure leaves, and the place that it is reported at, lie in the source. -/
def Failure.Within (f : Failure) (s : Text) : Prop :=
  f.rest <:+ s ∧ f.left <:+ s

theorem Failure.Within.trans {f : Failure} {r s : Text} (h : f.Within r) (hr : r <:+ s) : f.Within s :=
  ⟨h.1.trans hr, h.2.trans hr⟩

/-- A failure to find what is expected is reported where it happens. -/
theorem Failure.within_expected (what : Expected) (s : Text) : Failure.Within ⟨.expected what, s⟩ s :=
  ⟨List.suffix_refl s, List.suffix_refl s⟩

/-- A reader that may find nothing. -/
structure Reader (α : Type) where
  read : Text → Outcome α
  advances : ∀ {s a r}, read s = .found a r → r <:+ s ∧ r.length < s.length
  within : ∀ {s f}, read s = .failed f → f.Within s

/-- A reader that finds a value or fails. -/
structure Committed (α : Type) where
  read : Text → Except Failure (α × Text)
  onward : ∀ {s a r}, read s = .ok (a, r) → r <:+ s
  within : ∀ {s f}, read s = .error f → f.Within s

namespace Committed

variable {α β : Type}

/-- Finds a given value and takes nothing. -/
protected def pure (a : α) : Committed α where
  read s := .ok (a, s)
  onward h := by cases h; exact List.suffix_refl _
  within h := by cases h

/-- Reads on with what was found. -/
protected def bind (p : Committed α) (q : α → Committed β) : Committed β where
  read s :=
    match p.read s with
    | .error f => .error f
    | .ok (a, r) => (q a).read r
  onward {s b r} h := by
    split at h
    · cases h
    · next a t hp => exact ((q a).onward h).trans (p.onward hp)
  within {s f} h := by
    split at h
    · next g hp => cases h; exact p.within hp
    · next a t hp => exact ((q a).within h).trans (p.onward hp)

instance : Monad Committed where
  pure := Committed.pure
  bind := Committed.bind

/-- Takes the run of characters with a property, which may be empty. -/
def skip (p : Char → Bool) : Committed Unit where
  read s := .ok ((), s.dropWhile p)
  onward h := by cases h; exact List.dropWhile_suffix p
  within h := by cases h

/-- Takes one given character. -/
def expect (c : Char) : Committed Unit where
  read s :=
    match s with
    | [] => .error ⟨.expected (.char c), []⟩
    | d :: r => if d = c then .ok ((), r) else .error ⟨.expected (.char c), d :: r⟩
  onward {s a r} h := by
    split at h
    · cases h
    · next d t =>
      split at h
      · cases h; exact List.suffix_cons d _
      · cases h
  within {s f} h := by
    split at h
    · cases h; exact Failure.within_expected _ _
    · next d t =>
      split at h
      · cases h
      · cases h; exact Failure.within_expected _ _

/-- Takes a given text. -/
def marker (t : Text) (what : Expected) : Committed Unit where
  read s := if t <+: s then .ok ((), s.drop t.length) else .error ⟨.expected what, s⟩
  onward {s a r} h := by
    split at h
    · cases h; exact List.drop_suffix _ _
    · cases h
  within {s f} h := by
    split at h
    · cases h
    · cases h; exact Failure.within_expected _ _

/-- Reads what has to be there. -/
def require (p : Reader α) (what : Expected) : Committed α where
  read s :=
    match p.read s with
    | .absent => .error ⟨.expected what, s⟩
    | .found a r => .ok (a, r)
    | .failed f => .error f
  onward {s a r} h := by
    split at h
    · cases h
    · next hp => cases h; exact (p.advances hp).1
    · cases h
  within {s f} h := by
    split at h
    · cases h; exact Failure.within_expected _ _
    · cases h
    · next hp => cases h; exact p.within hp

/-- Reads what may be there. -/
def optional (p : Reader α) : Committed (Option α) where
  read s :=
    match p.read s with
    | .absent => .ok (none, s)
    | .found a r => .ok (some a, r)
    | .failed f => .error f
  onward {s a r} h := by
    split at h
    · cases h; exact List.suffix_refl _
    · next hp => cases h; exact (p.advances hp).1
    · cases h
  within {s f} h := by
    split at h
    · cases h
    · cases h
    · next hp => cases h; exact p.within hp

end Committed

namespace Reader

variable {α β : Type}

/-- Reads again and again until nothing more is found. -/
def readAll (p : Reader α) (s : Text) : Except Failure (List α × Text) :=
  match h : p.read s with
  | .absent => .ok ([], s)
  | .failed f => .error f
  | .found a r =>
    have := (p.advances h).2
    match readAll p r with
    | .error f => .error f
    | .ok (as, t) => .ok (a :: as, t)
termination_by s.length

/-- One round of repeated reading. -/
theorem readAll_eq (p : Reader α) (s : Text) :
    p.readAll s =
      match p.read s with
      | .absent => .ok ([], s)
      | .failed f => .error f
      | .found a r =>
        match p.readAll r with
        | .error f => .error f
        | .ok (as, t) => .ok (a :: as, t) := by
  rw [readAll]
  split <;> simp_all

theorem readAll_suffix (p : Reader α) : ∀ {s : Text} {as : List α} {r : Text}, p.readAll s = .ok (as, r) → r <:+ s := by
  intro s
  induction hn : s.length using Nat.strongRecOn generalizing s with
  | _ n ih =>
    intro as r h
    rw [readAll_eq] at h
    split at h
    · cases h; exact List.suffix_refl _
    · cases h
    · next a t hp =>
      split at h
      · cases h
      · next hr =>
        cases h
        exact (ih _ (hn ▸ (p.advances hp).2) rfl hr).trans (p.advances hp).1

theorem readAll_within (p : Reader α) : ∀ {s : Text} {f : Failure}, p.readAll s = .error f → f.Within s := by
  intro s
  induction hn : s.length using Nat.strongRecOn generalizing s with
  | _ n ih =>
    intro f h
    rw [readAll_eq] at h
    split at h
    · cases h
    · next hp => cases h; exact p.within hp
    · next a t hp =>
      split at h
      · next hr =>
        cases h
        exact (ih _ (hn ▸ (p.advances hp).2) rfl hr).trans (p.advances hp).1
      · cases h

/-- Changes the value that is found. -/
def map (f : α → β) (p : Reader α) : Reader β where
  read s := (p.read s).map f
  advances {s b r} h := by
    cases hp : p.read s with
    | absent => rw [hp] at h; cases h
    | found a t => rw [hp] at h; cases h; exact p.advances hp
    | failed e => rw [hp] at h; cases h
  within {s e} h := by
    cases hp : p.read s with
    | absent => rw [hp] at h; cases h
    | found a t => rw [hp] at h; cases h
    | failed e => rw [hp] at h; cases h; exact p.within hp

/-- Reads with the second reader where the first finds nothing. -/
def orElse (p q : Reader α) : Reader α where
  read s :=
    match p.read s with
    | .absent => q.read s
    | o => o
  advances {s a r} h := by
    split at h
    · exact q.advances h
    · exact p.advances h
  within {s f} h := by
    split at h
    · exact q.within h
    · exact p.within h

/-- Is committed once it has found its first part. -/
def andThen (p : Reader α) (q : α → Committed β) : Reader β where
  read s :=
    match p.read s with
    | .absent => .absent
    | .failed f => .failed f
    | .found a r => .ofExcept ((q a).read r)
  advances {s b r} h := by
    split at h
    · cases h
    · cases h
    · next a t hp =>
      have ht := p.advances hp
      cases hq : (q a).read t with
      | error f => rw [hq] at h; cases h
      | ok x =>
        rw [hq] at h
        cases h
        have hr := (q a).onward hq
        exact ⟨hr.trans ht.1, Nat.lt_of_le_of_lt hr.length_le ht.2⟩
  within {s f} h := by
    split at h
    · cases h
    · next hp => cases h; exact p.within hp
    · next a t hp =>
      cases hq : (q a).read t with
      | error e => rw [hq] at h; cases h; exact ((q a).within hq).trans (p.advances hp).1
      | ok x => rw [hq] at h; cases h

/-- Finds a given character. -/
def char (c : Char) : Reader Unit where
  read s :=
    match s with
    | [] => .absent
    | d :: r => if d = c then .found () r else .absent
  advances {s a r} h := by
    split at h
    · cases h
    · next d t =>
      split at h
      · cases h; exact ⟨List.suffix_cons d _, Nat.lt_succ_self _⟩
      · cases h
  within {s f} h := by
    split at h
    · cases h
    · split at h <;> cases h

/-- Is committed once it has found a given character. -/
def lead (c : Char) (q : Committed α) : Reader α :=
  (char c).andThen fun _ => q

/-- A reader that is made when it is used. -/
def delay (p : Unit → Reader α) : Reader α where
  read s := (p ()).read s
  advances := (p ()).advances
  within := (p ()).within

end Reader

/-- Reads as many as there are. -/
def Committed.many {α : Type} (p : Reader α) : Committed (List α) where
  read := p.readAll
  onward := p.readAll_suffix
  within := p.readAll_within

end BarTemplate
