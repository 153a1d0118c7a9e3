import BarTemplate.Command.Run
import BarTemplate.Proofs.Parse

/-!
# Batches of sources

What a batch of sources comes to is told source by source. The output is made of the outlines of the sources that parse
(`parseAll_outlines`), there are as many errors as sources that do not (`parseAll_errors`), and the error stream has the
records of every source and then its report or its outline (`parseAll_stderr`). With a check, only the output is missing
(`parseAll_checking`).
-/

namespace BarTemplate.Command

variable {frames : Int} {o : Options} {ss : List Source}

/-! ## The sources that parse and those that do not -/

/-- The sources that parse, each with its template. -/
def Options.parsed (o : Options) (frames : Int) (ss : List Source) : List (Source × Template) :=
  ss.filterMap fun s =>
    match parse frames o.maxDepth s.text with
    | .ok t => some (s, t)
    | .error _ => none

/-- The sources that do not parse, each with its error. -/
def Options.failed (o : Options) (frames : Int) (ss : List Source) : List (Source × SyntaxError) :=
  ss.filterMap fun s =>
    match parse frames o.maxDepth s.text with
    | .ok _ => none
    | .error e => some (s, e)

/-- The sources that have parsed are those that parse, with their templates. -/
theorem mem_parsed {s : Source} {t : Template} :
    (s, t) ∈ o.parsed frames ss ↔ s ∈ ss ∧ parse frames o.maxDepth s.text = .ok t := by
  unfold Options.parsed
  rw [List.mem_filterMap]
  constructor
  · rintro ⟨s', hs, h⟩
    split at h
    case h_1 hp =>
      cases h
      exact ⟨hs, hp⟩
    case h_2 => cases h
  · rintro ⟨hs, hp⟩
    exact ⟨s, hs, by rw [hp]⟩

/-- The sources that have failed are those that do not, with their errors. -/
theorem mem_failed {s : Source} {e : SyntaxError} :
    (s, e) ∈ o.failed frames ss ↔ s ∈ ss ∧ parse frames o.maxDepth s.text = .error e := by
  unfold Options.failed
  rw [List.mem_filterMap]
  constructor
  · rintro ⟨s', hs, h⟩
    split at h
    case h_1 => cases h
    case h_2 hp =>
      cases h
      exact ⟨hs, hp⟩
  · rintro ⟨hs, hp⟩
    exact ⟨s, hs, by rw [hp]⟩

/-! ## The output -/

/-- The headings and outlines of sources that parse. -/
def dump (ps : List (Source × Template)) : Text :=
  ps.flatMap fun (s, t) => "# " ++ s.filename ++ ":" ++ Text.ofInt s.line ++ "\n" ++ t.outline

/-- Without a check, the output is made of the outlines of the sources that parse. -/
theorem parseAll_outlines (h : o.check = false) (ss : List Source) :
    (o.parseAll frames ss).outlines = dump (o.parsed frames ss) := by
  induction ss with
  | nil => rfl
  | cons s ss ih =>
    simp only [Options.parseAll, Batch.append, ih, Options.parseOne, Options.parsed, List.filterMap_cons]
    cases parse frames o.maxDepth s.text with
    | error e => rfl
    | ok t =>
      rw [h]
      rfl

/-! ## The errors -/

/-- There is an error for every source that does not parse. -/
theorem parseAll_errors (ss : List Source) : (o.parseAll frames ss).errors = (o.failed frames ss).length := by
  induction ss with
  | nil => rfl
  | cons s ss ih =>
    simp only [Options.parseAll, Batch.append, ih, Options.parseOne, Options.failed, List.filterMap_cons]
    cases parse frames o.maxDepth s.text with
    | error e => exact Nat.add_comm 1 _
    | ok t => exact Nat.zero_add _

/-- The code of a batch is zero if all sources parse, and one if some source does not. -/
theorem code_parseAll (o : Options) (frames : Int) (ss : List Source) :
    ((o.parseAll frames ss).code = 0 ∧ ∀ s ∈ ss, ∃ t, parse frames o.maxDepth s.text = .ok t) ∨
      ((o.parseAll frames ss).code = 1 ∧ ∃ s ∈ ss, ∃ e, parse frames o.maxDepth s.text = .error e) := by
  unfold Batch.code
  rw [parseAll_errors]
  cases hf : o.failed frames ss with
  | nil =>
    refine Or.inl ⟨rfl, fun s hs => ?_⟩
    cases hp : parse frames o.maxDepth s.text with
    | ok t => exact ⟨t, rfl⟩
    | error e =>
      have member : (s, e) ∈ o.failed frames ss := mem_failed.mpr ⟨hs, hp⟩
      rw [hf] at member
      cases member
  | cons p ps =>
    have member : p ∈ o.failed frames ss := hf ▸ List.mem_cons_self
    obtain ⟨hs, he⟩ := mem_failed.mp member
    exact Or.inr ⟨rfl, p.1, hs, p.2, he⟩

/-! ## The error stream -/

/-- The log records of parsing a source, as they are written. A warning about a depth of more than 4300 digits is one of
them here, as with `Nesting.clampRecords`. -/
def Options.records (o : Options) (frames : Int) (s : Source) : Text :=
  Log.lines o.verbose
    (Nesting.clampRecords frames o.maxDepth ++ parseRecords s.shown (parse frames o.maxDepth s.text))

/-- What is told of a source after the records: the report of its error or, for debugging, its outline. -/
def Options.verdict (o : Options) (frames : Int) (s : Source) : Text :=
  match parse frames o.maxDepth s.text with
  | .error e => e.report s.filename s.line ++ "\n"
  | .ok t => if o.debug then t.outline else []

/-- What the log says of a source that fails is the report of its error. -/
theorem verdict_of_error {s : Source} {e : SyntaxError} (h : parse frames o.maxDepth s.text = .error e) :
    o.verdict frames s = e.report s.filename s.line ++ ['\n'] := by
  unfold Options.verdict
  rw [h]
  rfl

/-- Of a source that parses the log has the outline if it was asked for, and nothing otherwise. -/
theorem verdict_of_ok {s : Source} {t : Template} (h : parse frames o.maxDepth s.text = .ok t) :
    o.verdict frames s = if o.debug then t.outline else [] := by
  unfold Options.verdict
  rw [h]

/-- The error stream tells of every source, in order. -/
theorem parseAll_stderr (ss : List Source) :
    (o.parseAll frames ss).stderr = ss.flatMap fun s => o.records frames s ++ o.verdict frames s := by
  have one : ∀ s, (o.parseOne frames s).stderr = o.records frames s ++ o.verdict frames s := by
    intro s
    unfold Options.parseOne Options.records Options.verdict
    cases parse frames o.maxDepth s.text with
    | error e => exact List.append_assoc ..
    | ok t => rfl
  induction ss with
  | nil => rfl
  | cons s ss ih =>
    rw [List.flatMap_cons, ← ih, ← one]
    rfl

/-- Without verbosity, and at a depth that the stack allows, there are no records. -/
theorem records_eq_nil (verbose : o.verbose = false)
    (depth : o.maxDepth ≤ Nesting.safeDepth frames Nesting.reservedFrames) (s : Source) : o.records frames s = [] := by
  unfold Options.records Nesting.clampRecords parseRecords
  rw [verbose, if_pos depth]
  cases parse frames o.maxDepth s.text <;> rfl

/-- Then the error stream of a batch is made of the reports only. -/
theorem stderr_of_quiet (verbose : o.verbose = false) (debug : o.debug = false)
    (depth : o.maxDepth ≤ Nesting.safeDepth frames Nesting.reservedFrames) (ss : List Source) :
    (o.parseAll frames ss).stderr =
      (o.failed frames ss).flatMap fun (s, e) => e.report s.filename s.line ++ ['\n'] := by
  rw [parseAll_stderr]
  induction ss with
  | nil => rfl
  | cons s ss ih =>
    rw [List.flatMap_cons, ih, records_eq_nil verbose depth, List.nil_append]
    unfold Options.verdict Options.failed
    rw [List.filterMap_cons]
    cases parse frames o.maxDepth s.text with
    | error e => rfl
    | ok t => simp [debug]

/-! ## Checks -/

/-- With a check, sources come to the same errors and the same error stream. -/
theorem parseAll_checking (o : Options) (frames : Int) (ss : List Source) :
    (Options.parseAll { o with check := true } frames ss).code = (o.parseAll frames ss).code ∧
      (Options.parseAll { o with check := true } frames ss).stderr = (o.parseAll frames ss).stderr := by
  unfold Batch.code
  rw [parseAll_errors, parseAll_errors, parseAll_stderr, parseAll_stderr]
  exact ⟨rfl, rfl⟩

/-! ## A plain batch -/

/-- The options of a command line that gives templates only. -/
def Options.plain (templates : List (Option Text)) : Options where
  input := none
  templates := templates
  output := none
  maxDepth := Nesting.defaultDepth
  check := false
  debug := false
  verbose := false

/-- A character that is not special is literal text, with an escape or without. -/
theorem parse_letter :
    parse 1000 Nesting.defaultDepth ['x'] = .ok [[.text ['x']]] ∧
      parse 1000 Nesting.defaultDepth ['\\', 'x'] = .ok [[.text ['x']]] := by
  have derives : ∀ {s : Text}, Grammar.LiteralAt s ['x'] [] → Grammar.Derives s [[.text ['x']]] := fun literal =>
    .last (.token (.text literal (by decide)) (.stop (by simp))) (by simp [Grammar.NotAt])
  have stop : Grammar.LiteralAt [] [] [] := .stop Grammar.stopsAt_nil
  exact ⟨parseUnder_ok_iff.mpr ⟨derives (.plain (by decide) stop), by decide⟩,
    parseUnder_ok_iff.mpr ⟨derives (.escaped stop), by decide⟩⟩

/-- A dollar sign alone has no name behind it. -/
theorem parse_dollar : parse 1000 Nesting.defaultDepth ['$'] =
    .error (.ofFailure ['$'] (Nesting.clamp 1000 Nesting.defaultDepth) ⟨.expected .placeholderName, []⟩) := by
  have fails : Grammar.Fails (Nesting.clamp 1000 Nesting.defaultDepth).toNat ['$'] ⟨.expected .placeholderName, []⟩ :=
    .template (.alternative (.token (.placeholder (.missing Grammar.stopsAt_nil))))
  exact parseUnder_error_iff.mpr ⟨_, fails, rfl⟩

end BarTemplate.Command
