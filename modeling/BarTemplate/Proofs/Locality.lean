import BarTemplate.Proofs.Calls
import BarTemplate.Proofs.Stability

/-!
# Where a call looks

Main statement: a call on a parser depends on nothing before the cursor, and on one character behind what it takes at
most (`call_local`). Behind a prefix it does what it does on a source of its own, only that places are as much later as
the prefix is long. A call that does not raise an error does the same on every source that has the same characters up to
where the cursor ends and the same next character, or none as well.
-/

namespace BarTemplate

open Grammar

variable {α : Type} {s s' r r' : Text} {room : Nat} {step : Step} {x : Finding}

/-! ## One character ahead -/

namespace Grammar

/-- What stands at the beginning of a text stands there before every rest with the same first character, or with none.
-/
def Foreseen (At : Text → Text → Prop) (s r : Text) : Prop :=
  ∃ w, s = w ++ r ∧ ∀ r', r'.head? = r.head? → At (w ++ r') r'

/-- A rest with the same first character is the same, if there is none, or may come into its place. -/
theorem StandsFor.of_head {Z : Text → Prop} (head : r'.head? = r.head?) : r' = r ∨ StandsFor Z r r' := by
  cases r with
  | nil => exact Or.inl (List.head?_eq_none_iff.mp head)
  | cons c r => exact Or.inr (Or.inr ⟨List.cons_ne_nil _ _, head⟩)

/-- What is settled among the rests that may follow is foreseen: the others have no first character, and are the same
rest. -/
theorem Foreseen.of_standsFor {Z : Text → Prop} {At : Text → Text → Prop} {w : Text} (h : At s r) (hs : s = w ++ r)
    (settled : ∀ r', StandsFor Z r r' → At (w ++ r') r') : Foreseen At s r := by
  refine ⟨w, hs, ?_⟩
  intro r' head
  rcases StandsFor.of_head head with rfl | stands
  · exact hs ▸ h
  · exact settled r' stands

theorem Foreseen.of_settled {Z : Text → Prop} {At : Text → Text → Prop} (h : At s r) (settled : Settled Z At s r) :
    Foreseen At s r := by
  obtain ⟨w, hs, -, settled⟩ := settled
  exact .of_standsFor h hs settled

/-- What is foreseen of a reading is foreseen of whatever it implies. -/
theorem Foreseen.imp {At Bt : Text → Text → Prop} (h : Foreseen At s r) (hB : ∀ s r, At s r → Bt s r) :
    Foreseen Bt s r := by
  obtain ⟨w, hs, foreseen⟩ := h
  exact ⟨w, hs, fun r' head => hB _ _ (foreseen r' head)⟩

/-! ## What stands at the beginning of a text -/

/-- White space is over at the first character that is none. -/
theorem GapAt.foreseen (h : GapAt s r) : Foreseen GapAt s r := by
  obtain ⟨g, hs, settled⟩ := h.settled
  exact .of_standsFor h hs settled

/-- A word is over at the first character that does not belong to it. -/
theorem WordAt.foreseen {p : Char → Bool} {w : Text} (h : WordAt p s w r) : Foreseen (WordAt p · w ·) s r := by
  obtain ⟨hs, -, settled⟩ := h.settled (Z := fun _ => False) fun _ hz => hz.elim
  exact .of_standsFor h hs settled

/-- An icon is over where its name is. -/
theorem IconAt.foreseen {n : Text} (h : ∃ t, s = '^' :: iconMarker ++ t ∧ WordAt isNameChar t n r) :
    Foreseen (fun s r => ∃ t, s = '^' :: iconMarker ++ t ∧ WordAt isNameChar t n r) s r := by
  obtain ⟨t, rfl, name⟩ := h
  obtain ⟨w, rfl, foreseen⟩ := name.foreseen
  exact ⟨'^' :: iconMarker ++ w, by simp, fun r' head => ⟨w ++ r', by simp, foreseen r' head⟩⟩

/-- Literal text is over at the first character that is neither ordinary nor an escape. -/
theorem LiteralAt.foreseen {v : Text} (h : LiteralAt s v r) : Foreseen (LiteralAt · v ·) s r := by
  obtain ⟨w, hs, -, settled⟩ := h.settled
  exact ⟨w, hs, fun r' head => settled r' (stopsAt_of_head head h.stop_rest)⟩

/-- An alternative is over at the first character that begins no token. -/
theorem AlternativeAt.foreseen {as : List Token} (h : AlternativeAt s as r) : Foreseen (AlternativeAt · as ·) s r := by
  obtain ⟨w, hs, settled⟩ := h.settled
  exact .of_standsFor h hs settled

/-- A template is over at the first character that begins no token and is no bar. -/
theorem TemplateAt.foreseen {as : List (List Token)} (h : TemplateAt s as r) : Foreseen (TemplateAt · as ·) s r := by
  obtain ⟨w, hs, settled⟩ := h.settled
  exact .of_standsFor h hs settled

end Grammar

/-! ## Steps -/

/-- What is found wherever it stands, and whose place depends on one character behind it, is found before every rest
with the same first character. -/
theorem Grammar.Foreseen.map {o : Text → Outcome α} {At : Text → α → Text → Prop} {g : α → Finding}
    (h : (o s).map g = .found x r) (found_iff : ∀ {s a r}, o s = .found a r ↔ At s a r)
    (foreseen : ∀ {s a r}, At s a r → Foreseen (At · a ·) s r) :
    Foreseen (fun s r => (o s).map g = .found x r) s r := by
  obtain ⟨a, found, rfl⟩ := Outcome.map_found_iff.mp h
  refine (foreseen (found_iff.mp found)).imp ?_
  intro s r ha
  exact Outcome.map_found_iff.mpr ⟨a, found_iff.mpr ha, rfl⟩

/-- What a step finds depends on what it takes and on the next character. -/
theorem Step.foreseen (h : step.read room s = .found x r) :
    Foreseen (fun s r => step.read room s = .found x r) s r := by
  have braces := group_reads room
  cases step with
  | gap =>
    cases h
    exact (GapAt.foreseen (gapAt_iff.mpr rfl)).imp fun _ _ gap => gapAt_iff.mp gap ▸ rfl
  | name => exact .map h word_found_iff WordAt.foreseen
  | value => exact .map h value_found_iff fun hv => .of_settled hv hv.settled
  | argument => exact .map h argument_found_iff fun ha => .of_settled ha ha.settled
  | arguments => exact .map h arguments_found_iff fun ha => .of_settled ha ha.settled
  | formatter => exact .map h formatter_found_iff fun hf => .of_settled hf hf.settled
  | placeholder => exact .map h placeholder_found_iff fun hp => .of_settled hp hp.settled
  | icon => exact .map h icon_found_iff IconAt.foreseen
  | text =>
    refine .map h text_found_iff ?_
    rintro _ _ _ ⟨literal, nonempty⟩
    exact literal.foreseen.imp fun _ _ literal' => ⟨literal', nonempty⟩
  | group =>
    refine .map h braces.found_iff ?_
    rintro _ _ _ ⟨hg, depth⟩
    exact (Foreseen.of_settled hg hg.settled).imp fun _ _ hg' => ⟨hg', depth⟩
  | token =>
    refine .map h (token_found_iff braces) ?_
    rintro _ _ _ ⟨ht, depth⟩
    exact (Foreseen.of_settled ht ht.settled).imp fun _ _ ht' => ⟨ht', depth⟩
  | alternative =>
    refine .map h (Outcome.ofExcept_found_iff.trans (alternative_ok_iff braces)) ?_
    rintro _ _ _ ⟨ha, depth⟩
    exact ha.foreseen.imp fun _ _ ha' => ⟨ha', depth⟩
  | template =>
    refine .map h (Outcome.ofExcept_found_iff.trans (template_ok_iff braces)) ?_
    rintro _ _ _ ⟨ht, depth⟩
    exact ht.foreseen.imp fun _ _ ht' => ⟨ht', depth⟩
  | whole =>
    -- a source that has been read as a whole has no rest, and neither may the other one have any
    refine .map h (Outcome.ofExcept_found_iff.trans whole_ok_iff) ?_
    rintro s t r ⟨derives, rest⟩
    refine ⟨s, by rw [rest, List.append_nil], ?_⟩
    intro r' head
    obtain rfl : r' = [] := List.head?_eq_none_iff.mp (head.trans (congrArg List.head? rest))
    exact ⟨by rwa [List.append_nil], rfl⟩

/-- A step that finds nothing finds nothing in a text with the same first character. -/
theorem Outcome.map_absent {o : Text → Outcome α} {P : Text → Prop} {g : α → Finding} (h : (o s).map g = .absent)
    (absent_iff : ∀ {s}, o s = .absent ↔ P s) (ahead : P s → P s') : (o s').map g = .absent := by
  have here : P s := absent_iff.mp (Outcome.map_absent_iff.mp h)
  have there : o s' = .absent := absent_iff.mpr (ahead here)
  exact Outcome.map_absent_iff.mpr there

/-- Whether a step finds nothing depends on the next character. -/
theorem Step.absent_of_head (h : step.read room s = .absent) (head : s'.head? = s.head?) :
    step.read room s' = .absent := by
  have braces := group_reads room
  cases step with
  | gap => cases h
  | alternative | template | whole => exact absurd (Outcome.map_absent_iff.mp h) Outcome.ofExcept_ne_absent
  | name => exact Outcome.map_absent h word_absent_iff (stopsAt_of_head head)
  | value => exact Outcome.map_absent h value_absent_iff (stopsAt_of_head head)
  | argument => exact Outcome.map_absent h argument_absent_iff (stopsAt_of_head head)
  | arguments => exact Outcome.map_absent h arguments_absent_iff (notAt_of_head_eq head)
  | formatter => exact Outcome.map_absent h formatter_absent_iff (notAt_of_head_eq head)
  | placeholder => exact Outcome.map_absent h placeholder_absent_iff (notAt_of_head_eq head)
  | icon => exact Outcome.map_absent h icon_absent_iff (notAt_of_head_eq head)
  | text => exact Outcome.map_absent h text_absent_iff (stopsAt_of_head head)
  | group => exact Outcome.map_absent h braces.absent_iff (notAt_of_head_eq head)
  | token => exact Outcome.map_absent h (token_absent_iff braces) fun stop => head.symm ▸ stop

namespace Machine

/-! ## Calls -/

variable {p : Text} {cap : Int}

/-- A call on a source that stands behind a prefix does what a call on the source alone does. Where that raises an error
at an offset, this one raises an error with the same problem at the offset behind the prefix, and so with the same
message, the same characters and the same cap in it. -/
structure Call.Behind (p s : Text) (c c' : Call) : Prop where
  step : c'.step = c.step
  value : ∀ x, c.outcome = .ok x → c'.outcome = .ok x
  error : ∀ e, c.outcome = .error e → ∃ o : Nat, o ≤ s.length ∧ e.position = .ofOffset s o ∧
    c'.outcome = .error { problem := e.problem, position := .ofOffset (p ++ s) (p.length + o), source := p ++ s }
  after : c'.after = ⟨p.length + c.after.cursor, 0⟩

/-- What is left to read behind a prefix is the source that stands there. -/
theorem rest_behind (p s : Text) (cap : Int) : (session ⟨p ++ s, cap⟩ p.length).rest = s :=
  List.drop_left

/-- A call behind a prefix does what the call on the source alone does, since both have the same rest to read. -/
theorem callIn_behind (p s : Text) (cap : Int) (step : Step) :
    (callIn ⟨s, cap⟩ 0 step).Behind p s (callIn ⟨p ++ s, cap⟩ p.length step) := by
  cases read : step.read cap.toNat s with
  | absent =>
    rw [callIn_of_absent ⟨s, cap⟩ 0 read, callIn_of_absent ⟨p ++ s, cap⟩ p.length (by rwa [rest_behind])]
    exact ⟨rfl, fun _ h => h, fun _ h => (by cases h), rfl⟩
  | found x r =>
    have inside := (Step.suffix_of_found read).length_le
    rw [callIn_of_found ⟨s, cap⟩ 0 read, callIn_of_found ⟨p ++ s, cap⟩ p.length (by rwa [rest_behind])]
    refine ⟨rfl, fun _ h => h, fun _ h => (by cases h), ?_⟩
    rw [List.length_append, Nat.add_sub_assoc inside]
  | failed f =>
    have reported := (Step.within_of_failed read).1.length_le
    have left := (Step.within_of_failed read).2.length_le
    rw [callIn_of_failed ⟨s, cap⟩ 0 read, callIn_of_failed ⟨p ++ s, cap⟩ p.length (by rwa [rest_behind])]
    refine ⟨rfl, fun _ h => (by cases h), ?_, ?_⟩
    · intro e h
      cases h
      refine ⟨s.length - f.rest.length, Nat.sub_le _ _, rfl, ?_⟩
      rw [SyntaxError.ofFailure, List.length_append, Nat.add_sub_assoc reported]
      rfl
    · rw [List.length_append, Nat.add_sub_assoc left]

/-- A call that does not raise an error has looked at what it has taken and at one more character, if there is one. -/
theorem callIn_ahead {x : Option Finding} (h : (callIn ⟨s, cap⟩ 0 step).outcome = .ok x)
    (same : s'.take (callIn ⟨s, cap⟩ 0 step).after.cursor = s.take (callIn ⟨s, cap⟩ 0 step).after.cursor)
    (next : s'[(callIn ⟨s, cap⟩ 0 step).after.cursor]? = s[(callIn ⟨s, cap⟩ 0 step).after.cursor]?) :
    callIn ⟨s', cap⟩ 0 step = callIn ⟨s, cap⟩ 0 step := by
  cases read : step.read cap.toNat s with
  | absent =>
    rw [callIn_of_absent ⟨s, cap⟩ 0 read] at next ⊢
    have head : s'.head? = s.head? := by rwa [List.head?_eq_getElem?, List.head?_eq_getElem?]
    exact callIn_of_absent ⟨s', cap⟩ 0 (Step.absent_of_head read head)
  | found y r =>
    obtain ⟨w, rfl, foreseen⟩ := Step.foreseen read
    have cursor : (w ++ r).length - r.length = w.length := by simp
    rw [callIn_of_found ⟨w ++ r, cap⟩ 0 read] at same next ⊢
    simp only [cursor, List.take_left] at same next ⊢
    -- what has been taken is the same, so that the other source is that with a rest of its own
    obtain ⟨r', rfl⟩ : ∃ r', s' = w ++ r' := same ▸ ⟨_, (List.take_append_drop w.length s').symm⟩
    have head : r'.head? = r.head? := by
      simpa [List.getElem?_append_right, List.head?_eq_getElem?] using next
    have cursor' : (w ++ r').length - r'.length = w.length := by simp
    rw [callIn_of_found ⟨w ++ r', cap⟩ 0 (foreseen r' head), cursor']
  | failed f =>
    rw [callIn_of_failed ⟨s, cap⟩ 0 read] at h
    cases h

/-- A call on a fresh parser depends on what it takes and on one character more. The same call behind a prefix does the
same, with every place as much later as the prefix is long. If it does not raise an error, then it does the same on
every source that has the same characters up to where the cursor ends and the same next one, or none there as well. -/
theorem call_local (cap : Int) (step : Step) (s : Text) :
    ∃ c, (Machine.mk s cap).call step {} = some c ∧
      (∀ p : Text, ∃ c', (Machine.mk (p ++ s) cap).call step ⟨p.length, 0⟩ = some c' ∧ c.Behind p s c') ∧
      ∀ x, c.outcome = .ok x → ∀ s' : Text, s'.take c.after.cursor = s.take c.after.cursor →
        s'[c.after.cursor]? = s[c.after.cursor]? → (Machine.mk s' cap).call step {} = some c := by
  have fresh : ∀ s' : Text, (Machine.mk s' cap).call step {} = some (callIn ⟨s', cap⟩ 0 step) := by
    intro s'
    exact call_eq (Nat.zero_le _) step
  refine ⟨_, fresh s, ?_, ?_⟩
  · intro p
    have inside : p.length ≤ (p ++ s).length := by simp
    exact ⟨_, call_eq inside step, callIn_behind p s cap step⟩
  · intro x ok s' same next
    rw [fresh, callIn_ahead ok same next]

end Machine

end BarTemplate
