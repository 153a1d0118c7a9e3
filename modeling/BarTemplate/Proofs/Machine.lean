import BarTemplate.Machine
import BarTemplate.Proofs.Reader

/-!
# Machines and readers

How the methods of the parsing machine run, part by part, and what it means that a method does what a reader does
(`Performs`): it has a result from wherever it starts, it gives the same value or raises the error of the same failure,
the cursor ends where the reader stops, and the count of open templates is as before. Every way to build a method keeps
this. Loops end because readers leave shorter rests (`performs_many`), and the count goes back also when an error passes
(`Performs.deeper`).
-/

namespace BarTemplate.Machine

variable {α β : Type} {self : Machine} {level : Int} {r t : Text}

/-! ## Running methods -/

/-- What is done with the result of a method before another one goes on. -/
def resume (k : α → Method β) : Except SyntaxError α × State → Option (Except SyntaxError β × State)
  | (.ok a, s) => (k a).run.run s
  | (.error e, s) => some (.error e, s)

/-- A method behind another runs in the state that the other leaves, unless that raises or does not end. -/
theorem run_bind (m : Method α) (k : α → Method β) (s : State) :
    (m >>= k).run.run s = (m.run.run s).bind (resume k) := by
  change ((m.run.run s).bind _) = _
  congr 1
  funext x
  obtain ⟨_ | a, u⟩ := x <;> rfl

theorem run_get (s : State) : (get : Method State).run.run s = some (.ok s, s) :=
  rfl

theorem run_modify (g : State → State) (s : State) : (modify g : Method PUnit).run.run s = some (.ok ⟨⟩, g s) :=
  rfl

/-- To peek gives the character at the cursor and leaves the state. -/
theorem run_peek (s : State) : self.peek.run.run s = some (.ok self.source[s.cursor]?, s) :=
  rfl

/-- To see a character is to compare it with the one at the cursor. -/
theorem run_sees (c : Char) (s : State) : (self.sees c).run.run s = some (.ok (self.source[s.cursor]? == some c), s) :=
  rfl

/-- The end is where the cursor is not before the length of the source. -/
theorem run_atEnd (s : State) : self.atEnd.run.run s = some (.ok (decide (self.source.length ≤ s.cursor)), s) :=
  rfl

/-- To move sets the cursor and nothing else. -/
theorem run_moveTo (o : Nat) (s : State) : (moveTo o).run.run s = some (.ok ⟨⟩, { s with cursor := o }) :=
  rfl

/-- To advance takes the character at the cursor and leaves the cursor behind it. -/
theorem run_advance {c : Char} {s : State} (h : self.source[s.cursor]? = some c) :
    self.advance.run.run s = some (.ok c, { s with cursor := s.cursor + 1 }) := by
  unfold advance
  simp only [run_bind, run_get, Option.bind_some, resume]
  rw [h]
  rfl

/-- An error that is raised at an offset shows the source from there, and leaves the state as it was. -/
theorem run_raiseAt (o : Nat) (cause : Cause) (s : State) :
    (self.raiseAt o cause : Method α).run.run s =
      some (.error ⟨SyntaxError.problemOf self.cap ⟨cause, self.source.drop o⟩, .ofOffset self.source o, self.source⟩,
        s) :=
  rfl

/-- An error is raised at the cursor unless it is told where. -/
theorem run_raise (cause : Cause) (s : State) :
    (self.raise cause : Method α).run.run s = (self.raiseAt s.cursor cause : Method α).run.run s :=
  rfl

/-- To observe a method makes its errors values and keeps what it does to the state. -/
theorem run_observe (m : Method α) (s : State) : (observe m).run.run s = (m.run.run s).map fun x => (.ok x.1, x.2) := by
  change (m.run.run s).bind _ = _
  rcases m.run.run s with _ | ⟨x, t⟩ <;> rfl

/-- A result that is given back as it is leaves the state. -/
theorem run_liftExcept (x : Except SyntaxError α) (s : State) : (liftExcept x : Method α).run.run s = some (x, s) := by
  rcases x with e | a <;> rfl

/-! ## Machines and readers -/

/-- The state with the cursor where a rest of the source begins. -/
def standing (self : Machine) (r : Text) (level : Int) : State where
  cursor := self.source.length - r.length
  level := level

/-- What a machine gives or raises, and where it stands then, where a committed reader has an answer. -/
def answer (self : Machine) (level : Int) : Except Failure (α × Text) → Except SyntaxError α × State
  | .ok (a, t) => (.ok a, self.standing t level)
  | .error f => (.error (.ofFailure self.source self.cap f), self.standing f.left level)

/-- A method does at a level what a committed reader does: from wherever in the source it starts, it has a result, gives
the value of the reader or raises the error of its failure, and leaves the cursor where the reader stops. The count of
open templates is the same before and after, with a value and with an error. -/
def Performs (self : Machine) (level : Int) (m : Method α) (c : Committed α) : Prop :=
  ∀ r, r <:+ self.source → m.run.run (self.standing r level) = some (self.answer level (c.read r))

/-- Behind the cursor of a parser that stands before a rest, that rest remains. -/
theorem drop_standing (hr : r <:+ self.source) : self.source.drop (self.standing r level).cursor = r := by
  obtain ⟨x, hx⟩ := hr
  simp [standing, ← hx]

/-- At the cursor is the first character of the rest. -/
theorem getElem?_standing (hr : r <:+ self.source) : self.source[(self.standing r level).cursor]? = r.head? := by
  rw [← List.head?_drop, drop_standing hr]

/-- The cursor moves on by as many characters as the rest becomes shorter. -/
theorem standing_drop {n : Nat} (hr : r <:+ self.source) (hn : n ≤ r.length) :
    { self.standing r level with cursor := (self.standing r level).cursor + n } =
      self.standing (r.drop n) level := by
  have inside := hr.length_le
  simp only [standing, List.length_drop, State.mk.injEq, and_true]
  omega

/-- A parser is at the end exactly if the rest is empty. -/
theorem run_atEnd_standing (hr : r <:+ self.source) :
    self.atEnd.run.run (self.standing r level) = some (.ok r.isEmpty, self.standing r level) := by
  have inside := hr.length_le
  have done : self.source.length ≤ (self.standing r level).cursor ↔ r = [] := by
    rw [← List.length_eq_zero_iff]
    simp only [standing]
    omega
  have same : decide (self.source.length ≤ (self.standing r level).cursor) = r.isEmpty := by
    rw [Bool.eq_iff_iff, decide_eq_true_iff, List.isEmpty_iff]
    exact done
  rw [run_atEnd, same]

/-- A parser before a character advances to stand before what follows it. -/
theorem run_advance_standing {c : Char} (hr : c :: t <:+ self.source) :
    self.advance.run.run (self.standing (c :: t) level) = some (.ok c, self.standing t level) := by
  rw [run_advance (getElem?_standing hr), standing_drop hr (Nat.le_add_left 1 t.length)]
  rfl

/-- What a parser raises before a rest is the failure at that rest, as an error of its source. -/
theorem run_raise_standing {cause : Cause} (hr : r <:+ self.source) :
    (self.raise cause : Method α).run.run (self.standing r level) =
      some (.error (.ofFailure self.source self.cap ⟨cause, r⟩), self.standing r level) := by
  rw [run_raise, run_raiseAt, drop_standing hr]
  rfl

/-- A method performs every computation that reads the same. -/
theorem Performs.congr {m : Method α} {c c' : Committed α} (h : Performs self level m c)
    (hc : ∀ r, c'.read r = c.read r) : Performs self level m c' := by
  intro r hr
  rw [hc r]
  exact h r hr

/-- To give a value back performs the pure computation. -/
theorem performs_pure (a : α) : Performs self level (pure a) (pure a) := by
  intro r _
  rfl

/-- Methods that perform computations perform their sequence. All methods are put together by this. -/
theorem Performs.bind {m : Method α} {k : α → Method β} {c : Committed α} {q : α → Committed β}
    (h : Performs self level m c) (hk : ∀ a, Performs self level (k a) (q a)) :
    Performs self level (m >>= k) (c >>= q) := by
  intro r hr
  rw [run_bind, h r hr, Option.bind_some, Committed.read_bind]
  rcases hc : c.read r with f | ⟨a, t⟩
  · rfl
  · exact hk a t ((c.onward hc).trans hr)

/-! ## Parts of methods -/

/-- To take characters while a property holds performs the run of such characters. -/
theorem performs_takeWhile (p : Char → Bool) : Performs self level (self.takeWhile p) (Production.run p) := by
  intro r hr
  induction r with
  | nil =>
    rw [takeWhile, run_bind, run_peek, getElem?_standing hr]
    rfl
  | cons c t ih =>
    rw [takeWhile, run_bind, run_peek, getElem?_standing hr]
    simp only [List.head?_cons, Option.bind_some, resume]
    by_cases hc : p c = true
    · have step := ih ((List.suffix_cons c t).trans hr)
      rw [if_pos hc, run_bind, run_advance_standing hr]
      simp only [Option.bind_some, resume, run_bind]
      rw [step]
      simp [Production.run, answer, resume, hc]
    · rw [if_neg hc]
      simp [Production.run, answer, hc]

/-- To expect a character performs the expected character, error and all. -/
theorem performs_expect (c : Char) : Performs self level (self.expect c) (Committed.expect c) := by
  intro r hr
  unfold expect
  rw [run_bind, run_sees, getElem?_standing hr]
  simp only [Option.bind_some, resume]
  cases r with
  | nil => exact run_raise_standing hr
  | cons d t =>
    by_cases hd : d = c
    · subst hd
      simp only [List.head?_cons, beq_self_eq_true, if_true, run_bind]
      rw [run_advance_standing hr]
      simp [Committed.expect, answer, resume]
    · simp only [List.head?_cons, Option.some_beq_some, beq_eq_false_iff_ne.mpr hd, Bool.false_eq_true, if_false]
      rw [run_raise_standing hr]
      simp [Committed.expect, answer, hd, Failure.left]

/-- A method behind a leading character performs what the character leads. -/
theorem performs_lead {m : Method α} {q : Committed α} (c : Char) (h : Performs self level m q) :
    Performs self level (self.lead c m) (Committed.optional (Reader.lead c q)) := by
  intro r hr
  rw [run_bind, run_sees, getElem?_standing hr]
  simp only [Option.bind_some, resume]
  cases r with
  | nil => rfl
  | cons d t =>
    by_cases hd : d = c
    · subst hd
      simp only [List.head?_cons, beq_self_eq_true, if_true, run_bind]
      rw [run_advance_standing hr]
      simp only [Option.bind_some, resume, run_bind]
      rw [h t ((List.suffix_cons d t).trans hr)]
      rcases hq : q.read t with f | ⟨a, u⟩ <;>
        simp [Committed.optional, Reader.lead, Reader.andThen, Reader.char, Outcome.ofExcept, hq, answer, resume]
    · simp [Committed.optional, Reader.lead, Reader.andThen, Reader.char, hd, answer]

/-- The count of open templates is as before after a method that was run with one more template open. -/
theorem Performs.deeper {m : Method α} {c : Committed α} (h : Performs self (level + 1) m c) :
    Performs self level (deeper m) c := by
  intro r hr
  have inner : m.run.run { self.standing r level with level := (self.standing r level).level + 1 } =
      some (self.answer (level + 1) (c.read r)) := h r hr
  have back : ∀ u : Text, { self.standing u (level + 1) with level := (self.standing u (level + 1)).level - 1 } =
      self.standing u level := by
    intro u
    simp only [standing, Int.add_sub_cancel]
  rw [run_bind, run_modify]
  simp only [Option.bind_some, resume, run_bind, run_observe]
  rw [inner]
  rcases c.read r with f | ⟨a, u⟩ <;>
    simp only [answer, Option.map_some, Option.bind_some, resume, run_bind, run_modify, run_liftExcept, back]

/-- A method whose result is required performs what is required. -/
theorem performs_require {m : Method (Option α)} {p : Reader α} (what : Expected)
    (h : Performs self level m (Committed.optional p)) :
    Performs self level (self.require m what) (Committed.require p what) := by
  intro r hr
  unfold require
  rw [run_bind, h r hr, Option.bind_some]
  cases hp : p.read r with
  | absent =>
    simp only [Committed.optional, Committed.require, hp, answer, resume]
    exact run_raise_standing hr
  | found a t => simp [Committed.optional, Committed.require, hp, answer, resume]
  | failed f => simp [Committed.optional, Committed.require, hp, answer, resume]

/-- A method whose result is mapped performs the mapped reader. -/
theorem performs_map {m : Method (Option α)} {p : Reader α} (g : α → β)
    (h : Performs self level m (Committed.optional p)) :
    Performs self level (do return (← m).map g) (Committed.optional (p.map g)) := by
  intro r hr
  rw [run_bind, h r hr, Option.bind_some]
  cases hp : p.read r <;> simp [Committed.optional, Reader.map, Outcome.map, hp, answer, resume]

/-- Two methods, the second tried if the first gives nothing, perform the alternative. -/
theorem performs_orElse {m m' : Method (Option α)} {p q : Reader α}
    (h : Performs self level m (Committed.optional p))
    (h' : Performs self level m' (Committed.optional q)) :
    Performs self level (orElse m m') (Committed.optional (p.orElse q)) := by
  intro r hr
  rw [run_bind, h r hr, Option.bind_some]
  cases hp : p.read r with
  | absent =>
    have next : (Committed.optional (p.orElse q)).read r = (Committed.optional q).read r := by
      simp only [Committed.optional, Reader.orElse, hp]
    rw [next]
    simp only [Committed.optional, hp, answer, resume]
    exact h' r hr
  | found a t => simp [Committed.optional, Reader.orElse, hp, answer, resume]
  | failed f => simp [Committed.optional, Reader.orElse, hp, answer, resume]

/-- A method that goes on only with a result performs the reader with a continuation. -/
theorem performs_andThen {m : Method (Option α)} {k : α → Method β} {p : Reader α} {q : α → Committed β}
    (h : Performs self level m (Committed.optional p)) (hk : ∀ a, Performs self level (k a) (q a)) :
    Performs self level (andThen m k) (Committed.optional (p.andThen q)) := by
  intro r hr
  rw [run_bind, h r hr, Option.bind_some]
  cases hp : p.read r with
  | absent => simp [Committed.optional, Reader.andThen, hp, answer, resume]
  | found a t =>
    simp only [Committed.optional, hp, answer, resume, run_bind]
    rw [hk a t ((p.advances hp).1.trans hr)]
    rcases hq : (q a).read t with f | ⟨b, u⟩ <;> simp [Reader.andThen, Outcome.ofExcept, hp, hq, answer, resume]
  | failed f => simp [Committed.optional, Reader.andThen, hp, answer, resume]

/-- What a round of a loop does, where the loop does from a shorter rest on what a committed reader does. -/
theorem run_round {body : Method (Option α)} {loop : Method (List α)} {p : Reader α} {c : Committed (List α)}
    (h : Performs self level body (Committed.optional p)) (hr : r <:+ self.source)
    (hl : ∀ a t, p.read r = .found a t →
      loop.run.run (self.standing t level) = some (self.answer level (c.read t))) :
    (round body loop).run.run (self.standing r level) = some (self.answer level
      (match p.read r with
      | .absent => .ok ([], r)
      | .failed f => .error f
      | .found a t =>
        match c.read t with
        | .error f => .error f
        | .ok (as, u) => .ok (a :: as, u))) := by
  rw [run_bind, h r hr, Option.bind_some]
  cases hp : p.read r with
  | absent => simp [Committed.optional, hp, answer, resume]
  | found a t =>
    simp only [Committed.optional, hp, answer, resume, run_bind]
    rw [hl a t hp]
    rcases c.read t with f | ⟨as, u⟩ <;> simp [answer, resume]
  | failed f => simp [Committed.optional, hp, answer, resume]

/-- A loop that goes round while its body gives something performs the repetition. The induction is on the rest, which
every round makes shorter. -/
theorem performs_many {loop : Method (List α)} {body : Method (Option α)} {p : Reader α} (hl : loop = round body loop)
    (h : Performs self level body (Committed.optional p)) :
    Performs self level loop (Committed.many p) := by
  intro r
  induction hn : r.length using Nat.strongRecOn generalizing r with
  | _ n ih =>
    intro hr
    rw [hl]
    have next : ∀ a t, p.read r = .found a t →
        loop.run.run (self.standing t level) = some (self.answer level ((Committed.many p).read t)) := by
      intro a t hp
      obtain ⟨ht, less⟩ := p.advances hp
      exact ih t.length (hn ▸ less) t rfl (ht.trans hr)
    rw [run_round h hr next]
    change _ = some (self.answer level (p.readAll r))
    rw [p.readAll_eq]
    rfl

end BarTemplate.Machine
