import BarTemplate.Proofs.Course

/-!
# What a run comes to

Main statement: the exit code of a run that returns, what it leaves on its streams and what it writes (`run_contract`).
A run that returns is refused for one of five reasons (`Refused`), or else it has a depth and sources to work on
(`Work`), and these alone decide its verdict (`Arguments.run_cases`).
-/

namespace BarTemplate.Command

variable {a : Arguments} {disk : Disk} {host : Host} {stdin : Text} {frames : Int} {code : Nat} {o : Options}

/-! ## Runs that are refused -/

/-- The reasons for which a run does not work on any source: there is nothing to work on, the configuration is not
valid, the depth in it or on the command line is none, or the input cannot be had. -/
inductive Refused (a : Arguments) (disk : Disk) (host : Host) : Prop where
  | nothing (input : a.input = none) (templates : a.templates = [])
  | config {p : Path} {document : Text} (place : ConfigAt a p) (present : ¬ disk.Absent p)
      (holds : disk.Holds p document) (invalid : Toml.parse document = .error .invalid)
  | configuredDepth {config : Table} {v : Setting} (configured : Configured a disk host config)
      (depth : config.GivesDepth v) (bad : ¬ v.IsDepth)
  | givenDepth {v : Setting} (depth : a.maxDepth = some v) (bad : ¬ v.IsDepth)
  | input {p : Path} {e : ReadError} (input : Names a.input p) (file : p ≠ standardInput) (lacks : disk.Lacks p e)

/-! ## Runs that work -/

/-- What a run works on: the depth in effect, and the sources in the input followed by those of the command line. -/
structure Work (a : Arguments) (disk : Disk) (host : Host) (stdin : Text) (depth : Int) (ss : List Source) : Prop where
  resolved : Resolved a disk host depth
  positive : 1 ≤ depth
  collected : Collected a disk stdin ss

/-- A run works on one list of sources at one depth. -/
theorem Work.unique {depth depth' : Int} {ss ss' : List Source} (h : Work a disk host stdin depth ss)
    (h' : Work a disk host stdin depth' ss') : depth = depth' ∧ ss = ss' :=
  ⟨h.resolved.unique h'.resolved, h.collected.unique h'.collected⟩

/-! ## The two kinds of runs -/

/-- Where there are no options in effect, the run is refused, unless the error is not handled. -/
theorem refused_of_resolve {e : ConfigError} (h : a.resolve disk host = .error e)
    (he : e.report.ending = .returned code) : Refused a disk host ∧ ∃ message, e.report = .refusal message := by
  rcases resolve_error_iff.mp h with unconfigured | ⟨config, d, configured, refused, rfl⟩
  · cases unconfigured with
    | file => cases he
    | host => cases he
    | @document _ _ f place present holds _ parse =>
      cases f with
      | longInteger => cases he
      | invalid => exact ⟨.config place present holds parse, _, rfl⟩
  · constructor
    · cases firstBad_of_error refused with
      | configured gives bad => exact .configuredDepth configured gives bad
      | given _ given bad => exact .givenDepth given bad
    · unfold ConfigError.ofDepth at he ⊢
      split at he
      case h_1 => cases he
      case h_2 =>
        split at he
        case isTrue => cases he
        case isFalse short =>
          rw [if_neg short]
          exact ⟨_, rfl⟩

/-- Where the input cannot be had, the run is refused, unless the error is not handled. -/
theorem refused_of_unread {e : ReadError} (host : Host) (h : Unread a disk e)
    (he : (inputReport e).ending = .returned code) : Refused a disk host ∧ ∃ message, inputReport e = .refusal message := by
  obtain ⟨p, input, file, lacks⟩ := h
  refine ⟨.input input file lacks, ?_⟩
  unfold inputReport at he ⊢
  split at he
  case h_1 => cases he
  case h_2 => exact ⟨_, rfl⟩

/-- A configuration that can be had is in no file that is not valid. -/
theorem Configured.parse_ne {config : Table} {p : Path} {document : Text} {f : Toml.Fault}
    (h : Configured a disk host config) (place : ConfigAt a p) (present : ¬ disk.Absent p)
    (holds : disk.Holds p document) : Toml.parse document ≠ .error f := by
  intro invalid
  cases h with
  | absent place' absent => exact present (place.unique place' ▸ absent)
  | file place' _ holds' _ parse =>
    cases place.unique place'
    cases holds.unique holds'
    cases parse.symm.trans invalid

/-- A run that gets to its sources has none of the reasons to be refused. -/
theorem not_refused {depth : Int} {ss : List Source} (asked : Asked a) (resolved : Resolved a disk host depth)
    (collected : Collected a disk stdin ss) : ¬ Refused a disk host := by
  obtain ⟨config, configured, sound⟩ := resolved
  intro h
  cases h with
  | nothing input templates => exact asked ⟨input, templates⟩
  | config place present holds invalid => exact configured.parse_ne place present holds invalid
  | configuredDepth configured' gives bad =>
    cases configured.unique configured'
    exact bad (sound.configured _ gives)
  | givenDepth given bad => exact bad (sound.given _ given)
  | input input file lacks =>
    have unread := (sources_error_iff depth stdin).mpr ⟨_, input, file, lacks⟩
    cases unread.symm.trans ((sources_ok_iff _).mpr collected)

/-- A run that returns is refused and only says so, or else it works and delivers what its sources come to. -/
theorem Arguments.run_cases (h : (a.run disk stdin frames host).ending = .returned code) :
    (Refused a disk host ∧ ∃ message, a.run disk stdin frames host = .refusal message) ∨
      (¬ Refused a disk host ∧ ∃ depth ss, Work a disk host stdin depth ss ∧ a.run disk stdin frames host =
        (a.optionsAt depth).deliver disk host ((a.optionsAt depth).parseAll frames ss)) := by
  have course := run_course a disk host stdin frames
  generalize a.run disk stdin frames host = r at course h
  cases course with
  | nothing input templates => exact Or.inl ⟨.nothing input templates, _, rfl⟩
  | options _ resolve => exact Or.inl (refused_of_resolve resolve h)
  | input _ _ unread => exact Or.inl (refused_of_unread host unread h)
  | work asked resolved collected =>
    exact Or.inr ⟨not_refused asked resolved collected, _, _, ⟨resolved, resolved.positive, collected⟩, rfl⟩

/-! ## What a run delivers -/

/-- A run that delivers has the code and the error stream of its sources. Without a check, the outlines go to the output
file or else to the output stream; with one, they go nowhere. -/
theorem deliver_cases {b : Batch} (h : (o.deliver disk host b).ending = .returned code) :
    code = b.code ∧ (o.deliver disk host b).stderr = b.stderr ∧
      (o.check = true → (o.deliver disk host b).stdout = [] ∧ (o.deliver disk host b).written = none) ∧
      (o.check = false → o.output = none →
        (o.deliver disk host b).stdout = b.outlines ∧ (o.deliver disk host b).written = none) ∧
      (o.check = false → ∀ p, o.output = some p →
        (o.deliver disk host b).stdout = [] ∧ (o.deliver disk host b).written = some (p, b.outlines)) := by
  unfold Options.deliver at h ⊢
  cases check : o.check with
  | true =>
    rw [check] at h
    cases h
    exact ⟨rfl, rfl, fun _ => ⟨rfl, rfl⟩, nofun, nofun⟩
  | false =>
    rw [check] at h
    cases ho : o.output with
    | none =>
      rw [ho] at h
      cases able : host.printFault b.outlines with
      | some fault =>
        simp only [able] at h
        cases h
      | none =>
        simp only [able] at h ⊢
        cases h
        exact ⟨rfl, rfl, nofun, fun _ _ => ⟨rfl, rfl⟩, nofun⟩
    | some p =>
      rw [ho] at h
      cases writable : disk.writeFault p with
      | some f =>
        simp only [writable] at h
        cases h
      | none =>
        simp only [writable] at h ⊢
        cases h
        refine ⟨rfl, rfl, nofun, nofun, fun _ q hq => ?_⟩
        cases hq
        exact ⟨rfl, rfl⟩

/-! ## Options that change no code -/

section Flags

variable {output : Option Text} {check debug verbose : Bool} {depth : Int}

/-- Where the output goes and what else is told has no part in the configuration of a run. -/
theorem configured_flags {config : Table} :
    Configured { a with output, check, debug, verbose } disk host config ↔ Configured a disk host config := by
  rw [← loadConfig_ok_iff, ← loadConfig_ok_iff]
  exact Iff.rfl

/-- Nor in where that is. -/
theorem configAt_flags {p : Path} : ConfigAt { a with output, check, debug, verbose } p ↔ ConfigAt a p := by
  rw [configAt_iff, configAt_iff]
  exact Iff.rfl

/-- Nor in the depth in effect. -/
theorem resolved_flags :
    Resolved { a with output, check, debug, verbose } disk host depth ↔ Resolved a disk host depth := by
  refine exists_congr fun config => and_congr configured_flags ?_
  rw [← depthOf_ok_iff, ← depthOf_ok_iff]
  exact Iff.rfl

/-- Nor in the sources. -/
theorem collected_flags {ss : List Source} :
    Collected { a with output, check, debug, verbose } disk stdin ss ↔ Collected a disk stdin ss := by
  rw [← sources_ok_iff 0, ← sources_ok_iff 0]
  exact Iff.rfl

/-- Nor in whether a run is refused. -/
theorem Refused.of_flags (h : Refused { a with output, check, debug, verbose } disk host) : Refused a disk host := by
  cases h with
  | nothing input templates => exact .nothing input templates
  | config place present holds invalid => exact .config (configAt_flags.mp place) present holds invalid
  | configuredDepth configured gives bad => exact .configuredDepth (configured_flags.mp configured) gives bad
  | givenDepth given bad => exact .givenDepth given bad
  | input input file lacks => exact .input input file lacks

/-- Nor in what a run works on. -/
theorem Work.of_flags {ss : List Source} (h : Work { a with output, check, debug, verbose } disk host stdin depth ss) :
    Work a disk host stdin depth ss :=
  ⟨resolved_flags.mp h.resolved, h.positive, collected_flags.mp h.collected⟩

end Flags

/-! ## Runs with and without a check -/

/-- The same arguments with a check. -/
def Arguments.checking (a : Arguments) : Arguments :=
  { a with check := true }

/-- With a check, a run has the same options in effect, or none for the same reason. -/
theorem resolve_checking (a : Arguments) (disk : Disk) (host : Host) :
    a.checking.resolve disk host = (a.resolve disk host).map fun o => { o with check := true } := by
  have config : configPath a.checking = configPath a := rfl
  have depth : ∀ config, depthOf a.checking config = depthOf a config := fun _ => rfl
  unfold Arguments.resolve
  rw [config]
  cases loadConfig disk host (configPath a) with
  | error e => rfl
  | ok config =>
    simp only [depth]
    cases depthOf a config <;> rfl

/-- A refusal with a check is the same refusal, which has nothing but an error stream. -/
theorem refusal_checking {r : Report} (h : ∃ message, r = .refusal message) (hr : r.ending = .returned code)
    (checking : Course a.checking disk host stdin frames r) :
    a.checking.run disk stdin frames host = { ending := .returned code, stderr := r.stderr } := by
  obtain ⟨message, rfl⟩ := h
  cases hr
  exact checking.run_eq

/-- A run that returns does so with a check too, with the same code and the same error stream and nothing else. -/
theorem run_checking (h : (a.run disk stdin frames host).ending = .returned code) :
    a.checking.run disk stdin frames host =
      { ending := .returned code, stderr := (a.run disk stdin frames host).stderr } := by
  have course := run_course a disk host stdin frames
  generalize a.run disk stdin frames host = r at course h
  cases course with
  | nothing input templates => exact refusal_checking ⟨_, rfl⟩ h (.nothing input templates)
  | @options e asked resolve =>
    have checking : a.checking.resolve disk host = .error e := by
      rw [resolve_checking, resolve]
      rfl
    exact refusal_checking (refused_of_resolve resolve h).2 h (.options asked checking)
  | input asked resolved unread =>
    have message := (refused_of_unread host unread h).2
    exact refusal_checking message h (.input asked (resolved_flags.mpr resolved) unread)
  | @work depth ss asked resolved collected =>
    have checked : Course a.checking disk host stdin frames _ :=
      .work asked (resolved_flags.mpr resolved) (collected_flags.mpr collected)
    obtain ⟨hcode, hstderr, -⟩ := deliver_cases h
    obtain ⟨checkedCode, checkedStderr⟩ := parseAll_checking (a.optionsAt depth) frames ss
    rw [checked.run_eq, hstderr, hcode, ← checkedCode, ← checkedStderr]
    rfl

/-! ## The contract of a run -/

/-- What a run that works on sources at a depth returns and leaves behind. -/
structure Delivered (a : Arguments) (frames depth : Int) (ss : List Source) (code : Nat) (r : Report) : Prop where
  verdict : code = 0 ∨ code = 1
  passes : code = 0 ↔ ∀ s ∈ ss, ∃ t, parse frames depth s.text = .ok t
  fails : code = 1 ↔ ∃ s ∈ ss, ∃ e, parse frames depth s.text = .error e
  stderr : r.stderr = ss.flatMap fun s => (a.optionsAt depth).records frames s ++ (a.optionsAt depth).verdict frames s
  reported : ∀ s e, parse frames depth s.text = .error e →
    (a.optionsAt depth).verdict frames s = e.report s.filename s.line ++ ['\n']
  unreported : ∀ s t, parse frames depth s.text = .ok t →
    (a.optionsAt depth).verdict frames s = if a.debug then t.outline else []
  quiet : a.verbose = false → a.debug = false → depth ≤ Nesting.safeDepth frames Nesting.reservedFrames →
    r.stderr = ((a.optionsAt depth).failed frames ss).flatMap fun (s, e) => e.report s.filename s.line ++ ['\n']
  checked : a.check = true → r.stdout = [] ∧ r.written = none
  printed : a.check = false → path? a.output = none →
    r.stdout = dump ((a.optionsAt depth).parsed frames ss) ∧ r.written = none
  filed : a.check = false → ∀ p, path? a.output = some p →
    r.stdout = [] ∧ r.written = some (p, dump ((a.optionsAt depth).parsed frames ss))

/-- A run that returns has delivered what was asked for. -/
theorem delivered_of_deliver {depth : Int} {ss : List Source}
    (h : ((a.optionsAt depth).deliver disk host ((a.optionsAt depth).parseAll frames ss)).ending = .returned code) :
    Delivered a frames depth ss code ((a.optionsAt depth).deliver disk host ((a.optionsAt depth).parseAll frames ss)) := by
  obtain ⟨rfl, stderr, checked, printed, filed⟩ := deliver_cases h
  have outlines : a.check = false →
      ((a.optionsAt depth).parseAll frames ss).outlines = dump ((a.optionsAt depth).parsed frames ss) :=
    fun check => parseAll_outlines check ss
  have apart : ∀ s t e, parse frames depth s = .ok t → parse frames depth s ≠ .error e := by
    intro s t e ht he
    cases ht.symm.trans he
  have code := code_parseAll (a.optionsAt depth) frames ss
  exact {
    verdict := code.imp And.left And.left
    passes := by
      rcases code with ⟨zero, all⟩ | ⟨one, s, hs, e, he⟩
      · exact ⟨fun _ => all, fun _ => zero⟩
      · refine ⟨fun zero => absurd (one.symm.trans zero) (by decide), fun all => ?_⟩
        obtain ⟨t, ht⟩ := all s hs
        exact absurd he (apart _ t e ht)
    fails := by
      rcases code with ⟨zero, all⟩ | ⟨one, some⟩
      · refine ⟨fun one => absurd (zero.symm.trans one) (by decide), ?_⟩
        rintro ⟨s, hs, e, he⟩
        obtain ⟨t, ht⟩ := all s hs
        exact absurd he (apart _ t e ht)
      · exact ⟨fun _ => some, fun _ => one⟩
    stderr := stderr.trans (parseAll_stderr ss)
    reported := fun s e he => verdict_of_error he
    unreported := fun s t ht => verdict_of_ok ht
    quiet := fun verbose debug fits => stderr.trans (stderr_of_quiet verbose debug fits ss)
    checked := checked
    printed := fun check output => outlines check ▸ printed check output
    filed := fun check p output => outlines check ▸ filed check p output }

/-- A run that returns is refused, with code two and nothing else than a message, or delivers what it works on. -/
theorem run_delivered (h : (a.run disk stdin frames host).ending = .returned code) :
    (Refused a disk host ∧ code = 2 ∧ (a.run disk stdin frames host).stdout = [] ∧
        (a.run disk stdin frames host).written = none) ∨
      (¬ Refused a disk host ∧ ∃ depth ss, Work a disk host stdin depth ss ∧
        Delivered a frames depth ss code (a.run disk stdin frames host)) := by
  rcases Arguments.run_cases h with ⟨refused, message, hr⟩ | ⟨allowed, depth, ss, work, hr⟩
  · rw [hr] at h ⊢
    cases h
    exact Or.inl ⟨refused, rfl, rfl, rfl⟩
  · rw [hr] at h ⊢
    exact Or.inr ⟨allowed, depth, ss, work, delivered_of_deliver h⟩

/-- The output file and the options for checking, debugging and verbosity do not change the code. -/
theorem code_of_flags {output : Option Text} {check debug verbose : Bool} {code' : Nat}
    (h : (a.run disk stdin frames host).ending = .returned code)
    (h' : (Arguments.run { a with output, check, debug, verbose } disk stdin frames host).ending = .returned code') :
    code' = code := by
  rcases run_delivered h with ⟨refused, two, -⟩ | ⟨allowed, depth, ss, work, delivered⟩
  · rcases run_delivered h' with ⟨-, two', -⟩ | ⟨allowed', -⟩
    · rw [two, two']
    -- The first arguments are the second ones with other flags, too.
    · have refused' : Refused { { a with output, check, debug, verbose } with
          output := a.output, check := a.check, debug := a.debug, verbose := a.verbose } disk host := refused
      exact absurd refused'.of_flags allowed'
  · rcases run_delivered h' with ⟨refused', -⟩ | ⟨-, depth', ss', work', delivered'⟩
    · exact absurd refused'.of_flags allowed
    · obtain ⟨rfl, rfl⟩ := work'.of_flags.unique work
      have zero := delivered.passes.trans delivered'.passes.symm
      have := delivered.verdict
      have := delivered'.verdict
      omega

/-- The contract of a run whose command line is accepted. It returns unless it comes upon an error that it does not
handle. Its code is two exactly if the run is refused, and then nothing is printed or written. Otherwise there are a
depth and sources, and the code, the streams and the written file are what they come to. Neither the output file nor the
options for checking, debugging and verbosity change the code, and a check changes nothing but the output. -/
theorem run_contract (words : List Text) (disk : Disk) (stdin : Text) (frames : Int) (host : Host) (a : Arguments)
    (accepted : Arguments.ofWords words = .ok a) :
    ((∃ code, (run words disk stdin frames host).ending = .returned code) ∨
        ∃ e, Escapes a disk host stdin frames e) ∧
      ∀ code, (run words disk stdin frames host).ending = .returned code →
        (code = 2 ↔ Refused a disk host) ∧
        (Refused a disk host →
          (run words disk stdin frames host).stdout = [] ∧ (run words disk stdin frames host).written = none) ∧
        (¬ Refused a disk host → ∃ depth ss, Work a disk host stdin depth ss ∧
          Delivered a frames depth ss code (run words disk stdin frames host)) ∧
        (∀ words' output check debug verbose code',
          Arguments.ofWords words' = .ok { a with output, check, debug, verbose } →
          (run words' disk stdin frames host).ending = .returned code' → code' = code) ∧
        ∀ words', Arguments.ofWords words' = .ok a.checking → run words' disk stdin frames host =
          { ending := .returned code, stderr := (run words disk stdin frames host).stderr } := by
  have same : ∀ {words : List Text} {a : Arguments}, Arguments.ofWords words = .ok a →
      run words disk stdin frames host = a.run disk stdin frames host := by
    intro words a accepted
    unfold run
    rw [accepted]
  rw [same accepted]
  constructor
  · rcases (run_course a disk host stdin frames).ending with returned | ⟨e, -, escapes⟩
    · exact Or.inl returned
    · exact Or.inr ⟨e, escapes⟩
  intro code returned
  have flags : ∀ words' output check debug verbose code',
      Arguments.ofWords words' = .ok { a with output, check, debug, verbose } →
      (run words' disk stdin frames host).ending = .returned code' → code' = code := by
    intro words' output check debug verbose code' accepted' returned'
    rw [same accepted'] at returned'
    exact code_of_flags returned returned'
  have checking : ∀ words', Arguments.ofWords words' = .ok a.checking → run words' disk stdin frames host =
      { ending := .returned code, stderr := (a.run disk stdin frames host).stderr } := by
    intro words' accepted'
    rw [same accepted']
    exact run_checking returned
  rcases run_delivered returned with ⟨refused, two, nothing⟩ | ⟨allowed, depth, ss, work, delivered⟩
  · exact ⟨⟨fun _ => refused, fun _ => two⟩, fun _ => nothing, fun allowed => absurd refused allowed, flags, checking⟩
  · have other : code ≠ 2 := by
      have := delivered.verdict
      omega
    exact ⟨⟨fun two => absurd two other, fun refused => absurd refused allowed⟩,
      fun refused => absurd refused allowed, fun _ => ⟨depth, ss, work, delivered⟩, flags, checking⟩

/-- A disk without files, on which every file can be written. -/
def emptyDisk : Disk where
  read := fun _ => .error .notFound
  writeFault := fun _ => none

/-- A disk with one file, in the working directory, on which every file can be written. -/
def singleFile (name : Text) (content : List UInt8) : Disk where
  read p := if p.parts = [name] then .ok content else .error .notFound
  writeFault _ := none

/-- A file with a template, a blank line and a dollar sign. -/
def mixedFile : Disk :=
  singleFile ['f'] [0x78, 0x0A, 0x0A, 0x24]

/-- A configuration that gives a depth of zero. -/
def zeroDepth : Disk :=
  singleFile configFilename (("parser.max_depth=0" : Text).map fun c => UInt8.ofNat c.toNat)

/-- Arguments that name an input file, a template and an output file. -/
def mixedArguments : Arguments :=
  { input := some ['f'], templates := [some ['x']], output := some ['o'] }

/-- What they give with that file to work on. -/
def mixedSources : List Source :=
  [⟨['f'], 1, ['x'], false⟩, ⟨['f'], 3, ['$'], false⟩, ⟨"<template 1>", 1, ['x'], false⟩]

theorem collected_mixed : Collected mixedArguments mixedFile [] mixedSources := by
  have lines : LinesGive ['f'] 1 [['x'], [], ['$']] [⟨['f'], 1, ['x'], false⟩, ⟨['f'], 3, ['$'], false⟩] :=
    .template List.mem_cons_self rfl (.blank nofun (.template List.mem_cons_self rfl (.none 4)))
  have input : FromInput mixedArguments mixedFile [] [⟨['f'], 1, ['x'], false⟩, ⟨['f'], 3, ['$'], false⟩] :=
    .file ⟨['f'], rfl, by decide, rfl⟩ (by decide) ⟨_, rfl, rfl⟩ lines
  exact ⟨_, _, input, templatesGive_iff.mpr rfl, rfl⟩

/-- The error of the third line of the file. -/
def mixedError : SyntaxError :=
  .ofFailure ['$'] (Nesting.clamp 1000 Nesting.defaultDepth) ⟨.expected .placeholderName, []⟩

/-- The third line of the file does not parse, and the other sources do. -/
theorem parsed_mixed :
    (mixedArguments.optionsAt 100).parsed 1000 mixedSources =
        [(⟨['f'], 1, ['x'], false⟩, [[.text ['x']]]), (⟨"<template 1>", 1, ['x'], false⟩, [[.text ['x']]])] ∧
      (mixedArguments.optionsAt 100).failed 1000 mixedSources = [(⟨['f'], 3, ['$'], false⟩, mixedError)] := by
  have letter : parse 1000 100 ['x'] = .ok [[.text ['x']]] := parse_letter.1
  have dollar : parse 1000 100 ['$'] = .error mixedError := parse_dollar
  simp [Options.parsed, Options.failed, Arguments.optionsAt, mixedSources, letter, dollar]

/-- What the run reports of it. -/
theorem report_mixed : mixedError.report ['f'] 3 ++ ['\n'] =
    ("error: expected placeholder name after '$' at end of input\n  --> f:3:2\n  |\n3 | $\n  |  ^\n" : Text) := by
  decide +kernel

/-- What it writes of the other sources. -/
theorem dump_mixed :
    dump [(⟨['f'], 1, ['x'], false⟩, [[.text ['x']]]), (⟨"<template 1>", 1, ['x'], false⟩, [[.text ['x']]])] =
      ("# f:1\nTemplate\n  Alternative 1\n    Text('x')\n" ++
        "# <template 1>:1\nTemplate\n  Alternative 1\n    Text('x')\n" : Text) := by
  decide +kernel

/-- A run under that configuration returns two. -/
theorem run_zeroDepth : (run [['-', 't'], ['x']] zeroDepth [] 1000).ending = .returned 2 := by
  have present : ¬ zeroDepth.Absent { parts := [configFilename] } := by
    refine Disk.not_absent_iff.mpr ⟨rfl, fun f hf => ?_⟩
    cases hf
  have parse : Toml.parse ("parser.max_depth=0" : Text) = .ok [("parser", .table [("max_depth", .integer 0)])] := rfl
  have configured : Configured { templates := [some ['x']] } zeroDepth {} _ :=
    .file (.here (Or.inl rfl) (Or.inl (Or.inl rfl))) present ⟨_, rfl, rfl⟩ rfl parse
  have gives : Table.GivesDepth [("parser", .table [("max_depth", .integer 0)])] (.integer 0) := ⟨_, rfl, rfl⟩
  have zero : ¬ Setting.IsDepth (.integer 0) := by
    intro positive
    obtain ⟨i, hi, positive⟩ := positive
    cases hi
    exact absurd positive (by decide)
  have asked : Asked { templates := [some ['x']] } := fun h => nomatch h.2
  obtain ⟨e, value, run⟩ := run_of_firstBad [] 1000 asked configured (.configured gives zero)
  have words : Command.run [['-', 't'], ['x']] zeroDepth [] 1000 = _ := run
  rw [words, ConfigError.ofDepth, value]
  rfl

/-- A run on a file and a template with a line that does not parse returns one. It reports that line by its number, and
writes the outlines of the other sources to the output file. A run that is asked for nothing is refused, and so is one
whose configuration gives a depth of zero. -/
theorem run_of_mixed_sources :
    (run [['f'], ['-', 't'], ['x'], ['-', 'o'], ['o']] mixedFile [] 1000).ending = .returned 1 ∧
      ¬ Refused mixedArguments mixedFile {} ∧
      (∃ depth, Work mixedArguments mixedFile {} [] depth mixedSources ∧
        Delivered mixedArguments 1000 depth mixedSources 1
          (run [['f'], ['-', 't'], ['x'], ['-', 'o'], ['o']] mixedFile [] 1000)) ∧
      (run [['f'], ['-', 't'], ['x'], ['-', 'o'], ['o']] mixedFile [] 1000).stderr =
        ("error: expected placeholder name after '$' at end of input\n  --> f:3:2\n  |\n3 | $\n  |  ^\n" : Text) ∧
      (run [['f'], ['-', 't'], ['x'], ['-', 'o'], ['o']] mixedFile [] 1000).written = some (({ parts := [['o']] } : Path),
        ("# f:1\nTemplate\n  Alternative 1\n    Text('x')\n" ++
          "# <template 1>:1\nTemplate\n  Alternative 1\n    Text('x')\n" : Text)) ∧
      ((run [] emptyDisk [] 1000).ending = .returned 2 ∧ Refused {} emptyDisk {}) ∧
      (run [['-', 't'], ['x']] zeroDepth [] 1000).ending = .returned 2 ∧
        Refused { templates := [some ['x']] } zeroDepth {} := by
  have accepted : Arguments.ofWords [['f'], ['-', 't'], ['x'], ['-', 'o'], ['o']] = .ok mixedArguments := rfl
  have nothing : Arguments.ofWords [] = .ok {} := rfl
  have template : Arguments.ofWords [['-', 't'], ['x']] = .ok { templates := [some ['x']] } := rfl
  have delivers : run [['f'], ['-', 't'], ['x'], ['-', 'o'], ['o']] mixedFile [] 1000 =
      (mixedArguments.optionsAt 100).deliver mixedFile {} ((mixedArguments.optionsAt 100).parseAll 1000 mixedSources) := rfl
  -- What the sources come to is known from the theorems on batches, without evaluating it.
  generalize hb : (mixedArguments.optionsAt 100).parseAll 1000 mixedSources = b at delivers
  obtain ⟨parsed, failed⟩ := parsed_mixed
  have errors : b.errors = 1 := by
    rw [← hb, parseAll_errors, failed]
    rfl
  have stderr : b.stderr = mixedError.report ['f'] 3 ++ ['\n'] := by
    rw [← hb, stderr_of_quiet rfl rfl (by decide), failed]
    exact List.append_nil _
  have outlines : b.outlines = _ := hb ▸ parseAll_outlines rfl mixedSources
  have returned : (run [['f'], ['-', 't'], ['x'], ['-', 'o'], ['o']] mixedFile [] 1000).ending = .returned 1 := by
    have code : b.code = 1 := by
      rw [Batch.code, errors]
      rfl
    rw [delivers]
    exact congrArg Ending.returned code
  obtain ⟨-, contract⟩ := run_contract _ mixedFile [] 1000 {} _ accepted
  obtain ⟨two, -, works, -⟩ := contract 1 returned
  have allowed : ¬ Refused mixedArguments mixedFile {} := fun h => absurd (two.mpr h) (by decide)
  obtain ⟨depth, ss, work, delivered⟩ := works allowed
  cases work.collected.unique collected_mixed
  obtain ⟨-, unasked⟩ := run_contract _ emptyDisk [] 1000 {} _ nothing
  obtain ⟨-, unsound⟩ := run_contract _ zeroDepth [] 1000 {} _ template
  refine ⟨returned, allowed, ⟨depth, work, delivered⟩, ?_, ?_, ⟨rfl, (unasked 2 rfl).1.mp rfl⟩,
    run_zeroDepth, (unsound 2 run_zeroDepth).1.mp rfl⟩
  · rw [delivers, ← report_mixed]
    exact stderr
  · rw [delivers, ← dump_mixed, ← parsed]
    exact congrArg (fun t => some (({ parts := [['o']] } : Path), t)) outlines

end BarTemplate.Command
