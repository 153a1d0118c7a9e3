import BarTemplate.Proofs.Methods

/-!
# Calls on one parser

Main statement: what a parser keeps through any sequence of calls of its methods, also of calls that raise errors
(`calls_regular`). Every call has a result, no call leaves a template open, the cursor stays in the source and never
moves back, and nothing that happened before a call but the place of the cursor has a bearing on it.
-/

namespace BarTemplate.Machine

variable {α β : Type} {self : Machine} {level : Int} {r t : Text}

/-! ## Steps -/

/-- What a machine gives or raises, and where it stands then, where a reader has an answer. -/
def answerOf (self : Machine) (level : Int) (r : Text) : Outcome α → Except SyntaxError (Option α) × State
  | .absent => (.ok none, self.standing r level)
  | .found a t => (.ok (some a), self.standing t level)
  | .failed f => (.error (.ofFailure self.source self.cap f), self.standing f.left level)

/-- An optional part answers with what its reader finds, or with nothing. -/
theorem answer_optional (p : Reader α) :
    self.answer level ((Committed.optional p).read r) = self.answerOf level r (p.read r) := by
  cases hp : p.read r <;> simp [Committed.optional, hp, answer, answerOf]

/-- A method that has found what it has to find is never absent. -/
theorem Performs.run_some {m : Method α} {c : Committed α} (g : α → β) (h : Performs self level m c)
    (hr : r <:+ self.source) :
    (do return some (g (← m)) : Method (Option β)).run.run (self.standing r level) =
      some (self.answerOf level r ((Outcome.ofExcept (c.read r)).map g)) := by
  rw [run_bind, h r hr]
  rcases c.read r with f | ⟨a, t⟩ <;> rfl

/-- A method that performs an optional part still answers as its reader does when what it finds is wrapped. -/
theorem Performs.run_map {m : Method (Option α)} {p : Reader α} (g : α → β)
    (h : Performs self level m (Committed.optional p)) (hr : r <:+ self.source) :
    (do return (← m).map g : Method (Option β)).run.run (self.standing r level) =
      some (self.answerOf level r ((p.read r).map g)) := by
  rw [performs_map g h r hr, answer_optional]
  rfl

/-- The method for a step does what the step reads. -/
theorem run_method (step : Step) (hr : r <:+ self.source) :
    (self.method step).run.run (self.standing r 0) =
      some (self.answerOf 0 r (step.read self.cap.toNat r)) := by
  have level : (self.cap - 0).toNat = self.cap.toNat := congrArg Int.toNat (Int.sub_zero self.cap)
  have braces : Performs self 0 _ _ := performs_group self.cap.toNat 0 level
  cases step with
  | gap => exact performs_gap.run_some (fun _ => Finding.gap) hr
  | name => exact performs_name.run_map _ hr
  | value => exact performs_value.run_map _ hr
  | argument => exact performs_argument.run_map _ hr
  | arguments => exact performs_arguments.run_map _ hr
  | formatter => exact performs_formatter.run_map _ hr
  | placeholder => exact performs_placeholder.run_map _ hr
  | icon => exact performs_icon.run_map _ hr
  | text => exact performs_text.run_map _ hr
  | group => exact braces.run_map _ hr
  | token => exact (performs_token braces).run_map _ hr
  | alternative => exact (performs_alternative braces).run_some _ hr
  | template => exact (performs_template braces).run_some _ hr
  | whole => exact (performs_whole level).run_some _ hr

end BarTemplate.Machine

namespace BarTemplate

variable {room : Nat} {step : Step} {s r : Text} {x : Finding} {f : Failure}

/-- A step that takes at least one character where it finds something. -/
def Step.takes : Step → Bool
  | .gap | .alternative | .template | .whole => false
  | _ => true

/-- A reader that finds something takes at least one character. -/
theorem Outcome.found_of_map {α β : Type} {p : Reader α} {g : α → β} {b : β} (h : (p.read s).map g = .found b r) :
    r <:+ s ∧ r.length < s.length := by
  obtain ⟨a, ha, -⟩ := Outcome.map_found_iff.mp h
  exact p.advances ha

/-- What must be there may be empty, so all that is known is that the rest is an end of the text. -/
theorem Outcome.suffix_of_map {α β : Type} {c : Committed α} {g : α → β} {b : β}
    (h : (Outcome.ofExcept (c.read s)).map g = .found b r) : r <:+ s := by
  obtain ⟨a, ha, -⟩ := Outcome.map_found_iff.mp h
  exact c.onward (Outcome.ofExcept_found_iff.mp ha)

/-- No step reads outside the text. -/
theorem Step.suffix_of_found (h : step.read room s = .found x r) : r <:+ s := by
  cases step with
  | gap => cases h; exact List.dropWhile_suffix isGap
  | alternative | template | whole => exact Outcome.suffix_of_map h
  | _ => exact (Outcome.found_of_map h).1

/-- A step that takes something makes progress where it finds something. -/
theorem Step.shorter_of_found (h : step.read room s = .found x r) (ht : step.takes = true) : r.length < s.length := by
  cases step with
  | gap | alternative | template | whole => cases ht
  | _ => exact (Outcome.found_of_map h).2

/-- A step fails inside the text that it reads. -/
theorem Step.within_of_failed (h : step.read room s = .failed f) : f.Within s := by
  cases step with
  | gap => cases h
  | alternative | template | whole =>
    exact Committed.within _ (Outcome.ofExcept_failed_iff.mp (Outcome.map_failed_iff.mp h))
  | _ => exact Reader.within _ (Outcome.map_failed_iff.mp h)

namespace Machine

variable {self : Machine} {k : Nat}

/-- A session on the source of a machine. -/
def session (self : Machine) (k : Nat) : Session where
  source := self.source
  cap := self.cap
  cursor := k

/-- The call that the step of a session at a place tells. -/
def callIn (self : Machine) (k : Nat) (step : Step) : Call where
  step := step
  before := ⟨k, 0⟩
  outcome := ((self.session k).take step).1
  after := ⟨((self.session k).take step).2.cursor, 0⟩

/-- The calls that the steps of a session from a place on tell. -/
def callsIn (self : Machine) (k : Nat) : List Step → List Call
  | [] => []
  | step :: steps => self.callIn k step :: self.callsIn (self.callIn k step).after.cursor steps

/-- A call leaves the cursor inside the source. -/
theorem callIn_inside (h : k ≤ self.source.length) (step : Step) :
    (self.callIn k step).after.cursor ≤ self.source.length := by
  simp only [callIn, Session.take]
  cases step.read (self.session k).cap.toNat (self.session k).rest with
  | absent => exact h
  | found x r => exact Nat.sub_le _ _
  | failed f => exact Nat.sub_le _ _

/-- The cursor of a session stands where its rest begins. -/
theorem standing_rest (h : k ≤ self.source.length) : self.standing (self.session k).rest 0 = ⟨k, 0⟩ := by
  simp only [standing, session, Session.rest, List.length_drop, State.mk.injEq, and_true]
  omega

/-- A call that finds nothing leaves the cursor where it was. -/
theorem callIn_of_absent (self : Machine) (k : Nat) (h : step.read self.cap.toNat (self.session k).rest = .absent) :
    self.callIn k step = ⟨step, ⟨k, 0⟩, .ok none, ⟨k, 0⟩⟩ := by
  have read : step.read (self.session k).cap.toNat (self.session k).rest = .absent := h
  simp only [callIn, Session.take, read]
  rfl

/-- A call that finds something leaves the cursor at what is left to read. -/
theorem callIn_of_found (self : Machine) (k : Nat) (h : step.read self.cap.toNat (self.session k).rest = .found x r) :
    self.callIn k step = ⟨step, ⟨k, 0⟩, .ok (some x), ⟨self.source.length - r.length, 0⟩⟩ := by
  have read : step.read (self.session k).cap.toNat (self.session k).rest = .found x r := h
  simp only [callIn, Session.take, read]
  rfl

/-- A call that fails leaves the cursor at what the failure leaves, and no brace open. -/
theorem callIn_of_failed (self : Machine) (k : Nat) (h : step.read self.cap.toNat (self.session k).rest = .failed f) :
    self.callIn k step =
      ⟨step, ⟨k, 0⟩, .error (.ofFailure self.source self.cap f), ⟨self.source.length - f.left.length, 0⟩⟩ := by
  have read : step.read (self.session k).cap.toNat (self.session k).rest = .failed f := h
  simp only [callIn, Session.take, read]
  rfl

/-- A call that raises an error raises the one that the step fails with. -/
theorem callIn_error {e : SyntaxError} (h : (self.callIn k step).outcome = .error e) :
    ∃ f, step.read self.cap.toNat (self.session k).rest = .failed f ∧ e = .ofFailure self.source self.cap f := by
  cases read : step.read self.cap.toNat (self.session k).rest with
  | absent =>
    rw [callIn_of_absent self k read] at h
    cases h
  | found x r =>
    rw [callIn_of_found self k read] at h
    cases h
  | failed f =>
    rw [callIn_of_failed self k read] at h
    cases h
    exact ⟨f, rfl, rfl⟩

/-- A call on the machine is the step of the session at the same place, and leaves no template open. -/
theorem call_eq (h : k ≤ self.source.length) (step : Step) : self.call step ⟨k, 0⟩ = some (self.callIn k step) := by
  have run : (self.method step).run.run (self.standing (self.session k).rest 0) =
      some (self.answerOf 0 (self.session k).rest (step.read self.cap.toNat (self.session k).rest)) :=
    run_method step (List.drop_suffix k self.source)
  have room : (self.session k).cap = self.cap := rfl
  rw [standing_rest h] at run
  unfold call callIn Session.take
  rw [run, room]
  cases step.read self.cap.toNat (self.session k).rest with
  | absent =>
    simp only [answerOf, standing_rest h]
    rfl
  | found x r => rfl
  | failed f => rfl

/-- Calls made one after another do what the steps of a session do, whatever the calls before them did. -/
theorem callAll_eq (steps : List Step) :
    ∀ k, k ≤ self.source.length → self.callAll steps ⟨k, 0⟩ = some (self.callsIn k steps) := by
  induction steps with
  | nil => intro k _; rfl
  | cons step steps ih =>
    intro k h
    have others : self.callAll steps (self.callIn k step).after = some _ := ih _ (callIn_inside h step)
    unfold callAll
    rw [call_eq h]
    simp only [Option.bind_eq_bind, Option.bind_some, others]
    rfl

/-- Every call of a sequence is the one that the step of a session at its place tells, which lies in the source. -/
theorem mem_callsIn {c : Call} (steps : List Step) : ∀ k, k ≤ self.source.length → c ∈ self.callsIn k steps →
    c.before.cursor ≤ self.source.length ∧ c = self.callIn c.before.cursor c.step := by
  induction steps with
  | nil => intro k _ hc; cases hc
  | cons step steps ih =>
    intro k h hc
    rcases List.mem_cons.mp hc with rfl | hc
    · exact ⟨h, rfl⟩
    · exact ih _ (callIn_inside h step) hc

theorem map_step_callsIn (steps : List Step) : ∀ k, (self.callsIn k steps).map (·.step) = steps := by
  induction steps with
  | nil => intro k; rfl
  | cons step steps ih =>
    intro k
    rw [callsIn, List.map_cons, ih]
    rfl

/-- What holds after a call: no template is left open; the cursor is in the source and has not moved back, and the
source from there on is what is left to read; a call that finds nothing leaves the cursor where it was; and a call that
takes something where it finds something has moved it on. -/
structure Call.Regular (self : Machine) (c : Call) : Prop where
  closed : c.after.level = 0
  inside : c.after.cursor ≤ self.source.length
  behind : ∃ taken, taken.length = c.after.cursor ∧ taken ++ self.rest c.after = self.source
  onward : c.before.cursor ≤ c.after.cursor
  still : c.outcome = .ok none → c.after.cursor = c.before.cursor
  moved : c.step.takes = true → ∀ x, c.outcome = .ok (some x) → c.before.cursor < c.after.cursor

/-- A call of a session is regular, by what its step reads at the cursor. -/
theorem callIn_regular (h : k ≤ self.source.length) (step : Step) : (self.callIn k step).Regular self := by
  have inside := callIn_inside h step
  have length : (self.session k).rest.length = self.source.length - k := List.length_drop
  have source : (self.session k).source = self.source := rfl
  have onward : k ≤ (self.callIn k step).after.cursor := by
    simp only [callIn, Session.take]
    cases hr : step.read (self.session k).cap.toNat (self.session k).rest with
    | absent => exact Nat.le_refl _
    | found x r =>
      have shorter := (Step.suffix_of_found hr).length_le
      simp only [Session.moveTo, source]
      omega
    | failed f =>
      have shorter := (Step.within_of_failed hr).2.length_le
      simp only [Session.moveTo, source]
      omega
  refine ⟨rfl, inside, ⟨self.source.take (self.callIn k step).after.cursor, ?_, List.take_append_drop _ _⟩, onward,
    ?_, ?_⟩
  · rw [List.length_take]
    exact Nat.min_eq_left inside
  · intro none
    simp only [callIn, Session.take] at none ⊢
    cases hr : step.read (self.session k).cap.toNat (self.session k).rest with
    | absent => rfl
    | found x r => rw [hr] at none; cases none
    | failed f => rw [hr] at none; cases none
  · intro takes x found
    simp only [callIn, Session.take] at found ⊢
    cases hr : step.read (self.session k).cap.toNat (self.session k).rest with
    | absent => rw [hr] at found; cases found
    | found y r =>
      have shorter := Step.shorter_of_found hr takes
      simp only [Session.moveTo, source]
      omega
    | failed f => rw [hr] at found; cases found

/-- Whatever methods are called on a parser, and whether they raise errors or not: every call has a result and is
regular, and it depends on nothing but the source, the nesting cap and the place of the cursor before it. Two calls of
one method from one place, in any two sequences of calls, give or raise the same and end in the same state, which is
what the step of a session gives there. -/
theorem calls_regular (frames requested : Int) (source : Text) (steps : List Step) :
    ∃ calls, (ofSource frames requested source).callAll steps {} = some calls ∧
      calls.map (·.step) = steps ∧
      (∀ c ∈ calls, c.Regular (ofSource frames requested source)) ∧
      (∀ c ∈ calls, c = (ofSource frames requested source).callIn c.before.cursor c.step) ∧
      ∀ frames' requested' steps' calls', Nesting.clamp frames' requested' = Nesting.clamp frames requested →
        (ofSource frames' requested' source).callAll steps' {} = some calls' →
        ∀ c ∈ calls, ∀ c' ∈ calls', c.step = c'.step → c.before.cursor = c'.before.cursor →
          c.outcome = c'.outcome ∧ c.after = c'.after := by
  have fresh : ∀ (self : Machine) (steps : List Step), self.callAll steps {} = some (self.callsIn 0 steps) :=
    fun self steps => callAll_eq steps 0 (Nat.zero_le _)
  have placed : ∀ (self : Machine) (steps : List Step), ∀ c ∈ self.callsIn 0 steps,
      c.before.cursor ≤ self.source.length ∧ c = self.callIn c.before.cursor c.step :=
    fun self steps c hc => mem_callsIn steps 0 (Nat.zero_le _) hc
  refine ⟨_, fresh _ steps, map_step_callsIn steps 0, fun c hc => ?_, fun c hc => (placed _ steps c hc).2, ?_⟩
  · obtain ⟨inside, eq⟩ := placed _ steps c hc
    rw [eq]
    exact callIn_regular inside c.step
  · intro frames' requested' steps' calls' cap run c hc c' hc' step place
    have machine : ofSource frames' requested' source = ofSource frames requested source := by
      rw [ofSource, cap, ofSource]
    rw [machine, fresh, Option.some.injEq] at run
    rw [← run] at hc'
    have eq := (placed _ steps c hc).2
    have eq' := (placed _ steps' c' hc').2
    rw [step, place] at eq
    have same : c = c' := eq.trans eq'.symm
    exact ⟨congrArg Call.outcome same, congrArg Call.after same⟩

end Machine

end BarTemplate
