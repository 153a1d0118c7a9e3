import BarTemplate.Proofs.Batch
import BarTemplate.Proofs.Collect

/-!
# The course of a run

Every run takes one of four courses (`run_course`), which decides what it comes to (`Course.run_eq`). It ends with a
code that is returned, or by one of the errors that it does not handle (`Course.ending`); and where a run comes upon
such an error, it ends by that (`Escapes.ending`).
-/

namespace BarTemplate.Command

variable {a : Arguments} {disk : Disk} {host : Host} {stdin : Text} {frames : Int} {r : Report} {depth : Int}

/-! ## Courses -/

/-- A run is asked for something: it has an input, though that may be empty, or a template. -/
def Asked (a : Arguments) : Prop :=
  ¬ (a.input = none ∧ a.templates = [])

/-- What a run comes to: there is nothing to work on, there are no options in effect, the input cannot be had, or the
sources are worked on. -/
inductive Course (a : Arguments) (disk : Disk) (host : Host) (stdin : Text) (frames : Int) : Report → Prop where
  | nothing (input : a.input = none) (templates : a.templates = []) :
      Course a disk host stdin frames (.refusal "no input file or --template given")
  | options {e : ConfigError} (asked : Asked a) (resolve : a.resolve disk host = .error e) :
      Course a disk host stdin frames e.report
  | input {depth : Int} {e : ReadError} (asked : Asked a) (resolved : Resolved a disk host depth)
      (unread : Unread a disk e) : Course a disk host stdin frames (inputReport e)
  | work {depth : Int} {ss : List Source} (asked : Asked a) (resolved : Resolved a disk host depth)
      (collected : Collected a disk stdin ss) : Course a disk host stdin frames
        ((a.optionsAt depth).deliver disk host ((a.optionsAt depth).parseAll frames ss))

/-- Nothing was asked for if neither an input nor a template was given. -/
theorem nothing_iff (a : Arguments) :
    (a.input.isNone && a.templates.isEmpty) = true ↔ a.input = none ∧ a.templates = [] := by
  rw [Bool.and_eq_true, Option.isNone_iff_eq_none, List.isEmpty_iff]

/-- Every run has a course. -/
theorem run_course (a : Arguments) (disk : Disk) (host : Host) (stdin : Text) (frames : Int) :
    Course a disk host stdin frames (a.run disk stdin frames host) := by
  unfold Arguments.run
  split
  case isTrue none =>
    obtain ⟨input, templates⟩ := (nothing_iff a).mp none
    exact .nothing input templates
  case isFalse some =>
    have asked : Asked a := fun h => some ((nothing_iff a).mpr h)
    split
    case h_1 e resolve => exact .options asked resolve
    case h_2 o resolve =>
      obtain ⟨depth, resolved, rfl⟩ := resolve_ok_iff.mp resolve
      split
      case h_1 e sources => exact .input asked resolved ((sources_error_iff _ _).mp sources)
      case h_2 ss sources => exact .work asked resolved ((sources_ok_iff _).mp sources)

/-- A run has one course. -/
theorem Course.run_eq (h : Course a disk host stdin frames r) : a.run disk stdin frames host = r := by
  have some : Asked a → ¬ (a.input.isNone && a.templates.isEmpty) = true :=
    fun asked h => asked ((nothing_iff a).mp h)
  unfold Arguments.run
  cases h with
  | nothing input templates => rw [if_pos ((nothing_iff a).mpr ⟨input, templates⟩)]
  | options asked resolve => rw [if_neg (some asked), resolve]
  | input asked resolved unread =>
    rw [if_neg (some asked), resolve_ok_iff.mpr ⟨_, resolved, rfl⟩]
    simp only [(sources_error_iff _ _).mpr unread]
  | work asked resolved collected =>
    rw [if_neg (some asked), resolve_ok_iff.mpr ⟨_, resolved, rfl⟩]
    simp only [(sources_ok_iff _).mpr collected]

/-! ## Errors that are not handled -/

/-- The errors that a run does not handle, each where the run gets as far. There is a configuration file, but its text
cannot be had, or the machine fails at reading it, or an integer in it is too long. The first depth that is bad cannot
be shown: the machine fails at that, or an integer in it is too long. No file can have the name of the input. And
without a check: the output file cannot be written, or the machine fails at printing the outlines. -/
inductive Escapes (a : Arguments) (disk : Disk) (host : Host) (stdin : Text) (frames : Int) : Escape → Prop where
  | config {p : Path} {e : ReadError} (asked : Asked a) (place : ConfigAt a p) (present : ¬ disk.Absent p)
      (lacks : disk.Lacks p e) : Escapes a disk host stdin frames (.file e)
  | reading {p : Path} {document fault : Text} (asked : Asked a) (place : ConfigAt a p) (present : ¬ disk.Absent p)
      (holds : disk.Holds p document) (fails : host.readFault document = some fault) :
      Escapes a disk host stdin frames (.host fault)
  | integer {p : Path} {document : Text} {digits : Nat} (asked : Asked a) (place : ConfigAt a p)
      (present : ¬ disk.Absent p) (holds : disk.Holds p document) (able : host.readFault document = none)
      (long : Toml.parse document = .error (.longInteger digits)) :
      Escapes a disk host stdin frames (.longInteger (some digits))
  | showing {config : Table} {v : Setting} {fault : Text} (asked : Asked a) (configured : Configured a disk host config)
      (bad : FirstBad a config v) (fails : host.showFault v = some fault) :
      Escapes a disk host stdin frames (.host fault)
  | value {config : Table} {v : Setting} (asked : Asked a) (configured : Configured a disk host config)
      (bad : FirstBad a config v) (able : host.showFault v = none) (long : v.ContainsLong) :
      Escapes a disk host stdin frames (.longInteger none)
  | input {depth : Int} {p : Path} (asked : Asked a) (resolved : Resolved a disk host depth) (input : Names a.input p)
      (file : p ≠ standardInput) (read : disk.read p = .error .nullByte) :
      Escapes a disk host stdin frames (.file (.unreadable p .nullByte))
  | output {depth : Int} {ss : List Source} {p : Path} {f : DiskFault} (asked : Asked a)
      (resolved : Resolved a disk host depth) (collected : Collected a disk stdin ss) (check : a.check = false)
      (output : Names a.output p) (write : disk.writeFault p = some f) :
      Escapes a disk host stdin frames (.file (.unreadable p f))
  | printing {depth : Int} {ss : List Source} {fault : Text} (asked : Asked a) (resolved : Resolved a disk host depth)
      (collected : Collected a disk stdin ss) (check : a.check = false) (output : NamesNothing a.output)
      (fails : host.printFault (dump ((a.optionsAt depth).parsed frames ss)) = some fault) :
      Escapes a disk host stdin frames (.host fault)

/-- A run without options in effect comes to what is reported of that. -/
theorem run_of_resolve {e : ConfigError} (asked : Asked a) (resolve : a.resolve disk host = .error e) :
    a.run disk stdin frames host = e.report := by
  have course : Course a disk host stdin frames e.report := .options asked resolve
  exact course.run_eq

/-- A run whose configuration cannot be had comes to what is reported of that. -/
theorem run_of_unconfigured {e : ConfigError} (asked : Asked a) (h : Unconfigured a disk host e) :
    a.run disk stdin frames host = e.report :=
  run_of_resolve asked (resolve_error_iff.mpr (Or.inl h))

/-- A run with a bad depth comes to what is reported of the first one. -/
theorem run_of_firstBad {config : Table} {v : Setting} (stdin : Text) (frames : Int) (asked : Asked a)
    (configured : Configured a disk host config) (bad : FirstBad a config v) :
    ∃ e : DepthError, e.value = v ∧ a.run disk stdin frames host = (ConfigError.ofDepth host e).report := by
  obtain ⟨e, refused, value⟩ := depthOf_error_iff.mpr bad
  exact ⟨e, value, run_of_resolve asked (resolve_error_iff.mpr (Or.inr ⟨config, e, configured, refused, rfl⟩))⟩

/-- A run that gets to its sources delivers what they come to. -/
theorem run_of_collected {ss : List Source} (asked : Asked a) (resolved : Resolved a disk host depth)
    (collected : Collected a disk stdin ss) : a.run disk stdin frames host =
      (a.optionsAt depth).deliver disk host ((a.optionsAt depth).parseAll frames ss) := by
  have course : Course a disk host stdin frames _ := .work asked resolved collected
  exact course.run_eq

/-- A run escapes where its output cannot be written to the file. -/
theorem deliver_of_writeFault {o : Options} {b : Batch} {p : Path} {f : DiskFault} (check : o.check = false)
    (output : o.output = some p) (write : disk.writeFault p = some f) :
    (o.deliver disk host b).ending = .escaped (.file (.unreadable p f)) := by
  simp [Options.deliver, check, output, write]

/-- A run escapes where its output cannot be printed. -/
theorem deliver_of_printFault {o : Options} {b : Batch} {fault : Text} (check : o.check = false)
    (output : o.output = none) (fails : host.printFault b.outlines = some fault) :
    (o.deliver disk host b).ending = .escaped (.host fault) := by
  simp [Options.deliver, check, output, fails]

/-- An error that is not handled is what the run ends by. -/
theorem Escapes.ending {e : Escape} (h : Escapes a disk host stdin frames e) :
    (a.run disk stdin frames host).ending = .escaped e := by
  cases h with
  | config asked place present lacks =>
    rw [run_of_unconfigured asked (.file place present lacks)]
    rfl
  | reading asked place present holds fails =>
    rw [run_of_unconfigured asked (.host place present holds fails)]
    rfl
  | integer asked place present holds able long =>
    rw [run_of_unconfigured asked (.document place present holds able long)]
    rfl
  | showing asked configured bad fails =>
    obtain ⟨e, rfl, run⟩ := run_of_firstBad stdin frames asked configured bad
    rw [run, ConfigError.ofDepth, fails]
    rfl
  | value asked configured bad able long =>
    obtain ⟨e, rfl, run⟩ := run_of_firstBad stdin frames asked configured bad
    simp only [run, ConfigError.ofDepth, able, (Setting.isLong_iff _).mpr long, if_true]
    rfl
  | input asked resolved input file read =>
    have course : Course a disk host stdin frames _ := .input asked resolved ⟨_, input, file, .unreadable read⟩
    rw [course.run_eq]
    rfl
  | output asked resolved collected check output write =>
    rw [run_of_collected asked resolved collected]
    exact deliver_of_writeFault check (path?_eq_some_iff.mpr output) write
  | @printing depth ss fault asked resolved collected check output fails =>
    have outlines : ((a.optionsAt depth).parseAll frames ss).outlines = _ := parseAll_outlines check ss
    rw [run_of_collected asked resolved collected]
    exact deliver_of_printFault check (path?_eq_none_iff.mpr output) (outlines ▸ fails)

/-- The delivery of a run that has worked on sources ends with a code that is returned, or by an error that is not
handled. -/
theorem deliver_ending {ss : List Source} (asked : Asked a) (resolved : Resolved a disk host depth)
    (collected : Collected a disk stdin ss) :
    (∃ code, ((a.optionsAt depth).deliver disk host ((a.optionsAt depth).parseAll frames ss)).ending = .returned code) ∨
      ∃ e, ((a.optionsAt depth).deliver disk host ((a.optionsAt depth).parseAll frames ss)).ending = .escaped e ∧
        Escapes a disk host stdin frames e := by
  unfold Options.deliver
  split
  case isTrue => exact Or.inl ⟨_, rfl⟩
  case isFalse check =>
    have check : a.check = false := Bool.eq_false_iff.mpr check
    split
    case h_1 output =>
      split
      case h_1 fault fails =>
        rw [parseAll_outlines check] at fails
        exact Or.inr ⟨_, rfl, .printing asked resolved collected check (path?_eq_none_iff.mp output) fails⟩
      case h_2 => exact Or.inl ⟨_, rfl⟩
    case h_2 p output =>
      split
      case h_1 f write =>
        exact Or.inr ⟨_, rfl, .output asked resolved collected check (path?_eq_some_iff.mp output) write⟩
      case h_2 => exact Or.inl ⟨_, rfl⟩

/-- Every course of a run ends with a code that is returned or with an error that is not handled. -/
theorem Course.ending (h : Course a disk host stdin frames r) :
    (∃ code, r.ending = .returned code) ∨ ∃ e, r.ending = .escaped e ∧ Escapes a disk host stdin frames e := by
  cases h with
  | nothing => exact Or.inl ⟨_, rfl⟩
  | options asked resolve =>
    rcases resolve_error_iff.mp resolve with unconfigured | ⟨config, d, configured, refused, rfl⟩
    · cases unconfigured with
      | file place present lacks => exact Or.inr ⟨_, rfl, .config asked place present lacks⟩
      | host place present holds fails => exact Or.inr ⟨_, rfl, .reading asked place present holds fails⟩
      | @document _ _ f place present holds able parse =>
        -- A long integer is the one fault of a document that is not reported as an invalid configuration.
        cases f with
        | longInteger => exact Or.inr ⟨_, rfl, .integer asked place present holds able parse⟩
        | invalid => exact Or.inl ⟨_, rfl⟩
    · have bad := firstBad_of_error refused
      unfold ConfigError.ofDepth
      split
      case h_1 fault fails => exact Or.inr ⟨_, rfl, .showing asked configured bad fails⟩
      case h_2 able =>
        split
        case isTrue long =>
          exact Or.inr ⟨_, rfl, .value asked configured bad able ((Setting.isLong_iff _).mp long)⟩
        case isFalse => exact Or.inl ⟨_, rfl⟩
  | input asked resolved unread =>
    obtain ⟨p, input, file, lacks⟩ := unread
    unfold inputReport
    split
    case h_1 =>
      cases lacks with
      | unreadable read => exact Or.inr ⟨_, rfl, .input asked resolved input file read⟩
    case h_2 => exact Or.inl ⟨_, rfl⟩
  | work asked resolved collected => exact deliver_ending asked resolved collected

end BarTemplate.Command
