import BarTemplate.Editor
import BarTemplate.Proofs.Batch
import BarTemplate.Proofs.Lines

/-!
# Diagnostics and reports agree

Main statement: an editor shows for a document the errors that a run reports for a file with that document as its
content (`Editor.diagnose_reported`). The two number lines and columns differently and cut the document at different
times, but a report and a diagnostic tell the same of an error, and a line has one error at most, on the line itself
(`position_line_of_parse`).
-/

namespace BarTemplate

open Command

variable {frames : Int} {o : Options}

/-! ## What a report tells -/

/-- What a report tells: a message, and a place in a file. -/
structure Complaint where
  message : Text
  filename : Text
  line : Int
  column : Int
  deriving DecidableEq

/-- The first two lines of a report. -/
def Complaint.written (c : Complaint) : Text :=
  "error: " ++ c.message ++ "\n" ++ Text.spaces ((Text.ofInt c.line).length + 1) ++ "--> " ++ c.filename ++ ":" ++
    Text.ofInt c.line ++ ":" ++ Text.ofInt c.column ++ "\n"

/-- What the report of an error in a source tells. -/
def Complaint.of (s : Source) (e : SyntaxError) : Complaint :=
  ⟨e.message, s.filename, e.position.line + s.line - 1, e.position.column⟩

/-- The rest of a report: the line of the source, with a caret under the place of the error. -/
def excerpt (s : Source) (e : SyntaxError) : Text :=
  let number := Text.ofInt (e.position.line + s.line - 1)
  let gutter := Text.spaces (number.length + 1) ++ "|"
  gutter ++ "\n" ++ number ++ " | " ++ e.sourceLine ++ "\n" ++ gutter ++ " " ++
    Text.spaces (e.position.column - 1).toNat ++ "^" ++ "\n"

/-- A report is the complaint on its first line and the excerpt below it. -/
theorem report_eq (s : Source) (e : SyntaxError) :
    e.report s.filename s.line ++ ['\n'] = (Complaint.of s e).written ++ excerpt s e := by
  have feed : ("\n" : Text) = ['\n'] := rfl
  unfold SyntaxError.report Complaint.written Complaint.of excerpt Text.joinWith
  simp only [List.intercalate_cons_cons, List.intercalate_singleton, List.append_assoc, feed]

/-- The complaints of a batch. -/
def Command.Options.complaints (o : Options) (frames : Int) (ss : List Source) : List Complaint :=
  (o.failed frames ss).map fun (s, e) => .of s e

/-- What is told of a source that does not parse is its complaint, with an excerpt. -/
theorem verdict_of_failed {ss : List Source} {s : Source} {e : SyntaxError} (h : (s, e) ∈ o.failed frames ss) :
    o.verdict frames s = (Complaint.of s e).written ++ excerpt s e := by
  rw [verdict_of_error (mem_failed.mp h).2]
  exact report_eq s e

/-! ## Errors in lines -/

/-- An error in a text without line feeds is on its first line. -/
theorem position_line_of_parse {requested : Int} {t : Text} {e : SyntaxError} (ht : '\n' ∉ t)
    (h : parse frames requested t = .error e) : e.position.line = 1 := by
  obtain ⟨f, -, rfl⟩ := parseUnder_error_iff.mp h
  have before : '\n' ∉ t.take (t.length - f.rest.length) := fun hm => ht (List.mem_of_mem_take hm)
  have none : (t.take (t.length - f.rest.length)).count '\n' = 0 := List.count_eq_zero.mpr before
  simp [SyntaxError.ofFailure, Position.ofOffset, none]

namespace Editor

variable {T : Text}

/-- A diagnostic of an error in a line of a document is on that line. -/
theorem ofError_of_line {i : Nat} {t : Text} {e : SyntaxError} (hi : (Text.lines T)[i]? = some t)
    (he : parse frames Nesting.defaultDepth t = .error e) :
    Diagnostic.ofError (i + 1) e =
      ⟨i, e.position.column - 1, i, e.position.column, e.message, errorSeverity, programName⟩ := by
  have within := Text.break_not_mem_lines T t (List.mem_of_getElem? hi)
  have line := position_line_of_parse within.1 he
  have number : ((i + 1 : Nat) : Int) - 1 + e.position.line - 1 = i := by omega
  have column : e.position.column - 1 + 1 = e.position.column := by omega
  unfold Diagnostic.ofError
  rw [number, column]

/-- The diagnostics of a document are those of its lines that are not blank and do not parse. -/
theorem mem_diagnose {d : Diagnostic} :
    d ∈ diagnose frames T ↔ ∃ (i : Nat) (t : Text) (e : SyntaxError), (Text.lines T)[i]? = some t ∧
      isBlankLine t = false ∧ parse frames Nesting.defaultDepth t = .error e ∧
      d = ⟨i, e.position.column - 1, i, e.position.column, e.message, errorSeverity, programName⟩ := by
  unfold diagnose
  rw [List.mem_filterMap]
  constructor
  · rintro ⟨⟨n, t⟩, hm, h⟩
    obtain ⟨i, rfl, hi, blank⟩ := mem_templateLines.mp hm
    cases he : parse frames Nesting.defaultDepth t with
    | ok => simp [he] at h
    | error e =>
      simp only [he, Option.some.injEq] at h
      exact ⟨i, t, e, hi, blank, he, by rw [← h, ofError_of_line hi he]⟩
  · rintro ⟨i, t, e, hi, blank, he, rfl⟩
    refine ⟨(i + 1, t), mem_templateLines.mpr ⟨i, rfl, hi, blank⟩, ?_⟩
    simp only [he]
    rw [ofError_of_line hi he]

/-- A diagnostic is on the line of the file that its template stands on, counted from zero. -/
theorem line_ofError {n : Nat} {t : Text} {e : SyntaxError} (hm : (n, t) ∈ templateLines T)
    (he : parse frames Nesting.defaultDepth t = .error e) : (Diagnostic.ofError n e).line + 1 = n := by
  obtain ⟨i, rfl, hi, -⟩ := mem_templateLines.mp hm
  rw [ofError_of_line hi he]
  rfl

/-- Diagnostics come in the order of the lines, and no line has two. -/
theorem diagnose_sorted (frames : Int) (T : Text) :
    (diagnose frames T).Pairwise fun d d' => d.line < d'.line := by
  unfold diagnose
  rw [List.pairwise_filterMap]
  refine List.Pairwise.imp_of_mem ?_ (templateLines_sorted T)
  rintro ⟨n, t⟩ ⟨m, u⟩ ht hu lt d hd d' hd'
  cases he : parse frames Nesting.defaultDepth t with
  | ok => simp [he] at hd
  | error e =>
    cases he' : parse frames Nesting.defaultDepth u with
    | ok => simp [he'] at hd'
    | error e' =>
      simp only [he, Option.some.injEq] at hd
      simp only [he', Option.some.injEq] at hd'
      have first := line_ofError ht he
      have second := line_ofError hu he'
      subst hd hd'
      omega

/-- What the diagnostics of a document tell, with lines and columns counted from one, is what the reports of a run on a
file with that content tell. -/
theorem diagnose_eq_complaints (frames : Int) (hd : o.maxDepth = Nesting.defaultDepth) (filename T : Text) :
    (diagnose frames T).map (fun d => (d.line + 1, d.character + 1, d.endCharacter, d.message)) =
      (o.complaints frames (Source.ofDocument filename T)).map fun c => (c.line, c.column, c.column, c.message) := by
  unfold diagnose Options.complaints Options.failed Source.ofDocument
  rw [List.map_filterMap, List.map_map, List.map_filterMap, List.filterMap_map, hd]
  congr 1
  funext ⟨n, t⟩
  simp only [Function.comp_apply]
  cases parse frames Nesting.defaultDepth t with
  | ok => rfl
  | error e =>
    have line : (n : Int) - 1 + e.position.line - 1 + 1 = e.position.line + n - 1 := by omega
    have column : e.position.column - 1 + 1 = e.position.column := by omega
    simp only [Option.map_some, Function.comp_apply, Diagnostic.ofError, Complaint.of, line, column]

/-- An editor and a run agree on every document: the reports on the error stream of a run with the document as its only
input tell what the diagnostics tell, in the same order. There is one diagnostic for each line that is not blank and
does not parse, and the lines ascend. -/
theorem diagnose_reported (frames : Int) (T : Text) (o : Options) (disk : Disk) (stdin : Text) (p : Path)
    (input : o.input = some p) (file : p ≠ standardInput) (content : disk.readText p = .ok T)
    (alone : o.templates = []) (depth : o.maxDepth = Nesting.defaultDepth) :
    ∃ ss, o.sources disk stdin = .ok ss ∧
      (o.parseAll frames ss).stderr = (ss.flatMap fun s => o.records frames s ++ o.verdict frames s) ∧
      (∀ s e, (s, e) ∈ o.failed frames ss → o.verdict frames s = (Complaint.of s e).written ++ excerpt s e) ∧
      (diagnose frames T).map (fun d => (d.line + 1, d.character + 1, d.endCharacter, d.message)) =
        (o.complaints frames ss).map (fun c => (c.line, c.column, c.column, c.message)) ∧
      (∀ d, d ∈ diagnose frames T ↔ ∃ (i : Nat) (t : Text) (e : SyntaxError), (Text.lines T)[i]? = some t ∧
        isBlankLine t = false ∧ parse frames Nesting.defaultDepth t = .error e ∧
        d = ⟨i, e.position.column - 1, i, e.position.column, e.message, errorSeverity, programName⟩) ∧
      (diagnose frames T).Pairwise (fun d d' => d.line < d'.line) ∧
      (o.complaints frames ss).Pairwise fun c c' => c.line < c'.line := by
  have sources : o.sources disk stdin = .ok (Source.ofDocument p.shown T) := by
    unfold Options.sources inputSources
    rw [input, alone]
    simp only [file, if_false, content]
    rw [Source.ofDocument_withFeeds, Source.ofTemplates, List.zipIdx_nil, List.map_nil, List.append_nil]
  have agree := diagnose_eq_complaints frames depth p.shown T
  have sorted : (o.complaints frames (Source.ofDocument p.shown T)).Pairwise fun c c' => c.line < c'.line := by
    have lines : (diagnose frames T).map (fun d => d.line + 1) =
        (o.complaints frames (Source.ofDocument p.shown T)).map Complaint.line := by
      simpa [Function.comp_def] using congrArg (List.map Prod.fst) agree
    rw [← List.pairwise_map (f := Complaint.line) (R := (· < ·)), ← lines, List.pairwise_map]
    exact (diagnose_sorted frames T).imp fun h => Int.add_lt_add_right h 1
  exact ⟨_, sources, parseAll_stderr _, fun s e h => verdict_of_failed h, agree, fun d => mem_diagnose,
    diagnose_sorted frames T, sorted⟩

/-- A dollar sign on the first line of a document is shown and reported. -/
theorem dollar_reported :
    ∃ ss, ({ Options.plain [] with input := some { parts := [['b']] } }).sources
        { read := fun _ => .ok [0x24, 0x0D, 0x0D, 0x0A, 0x61], writeFault := fun _ => none } [] = .ok ss ∧
      (∃ message, ⟨0, 1, 0, 2, message, 1, "statusfmt"⟩ ∈ diagnose 1000 ['$', '\r', '\r', '\n', 'a']) ∧
      (diagnose 1000 ['$', '\r', '\r', '\n', 'a']).map
          (fun d => (d.line + 1, d.character + 1, d.endCharacter, d.message)) =
        ((Options.plain []).complaints 1000 ss).map fun c => (c.line, c.column, c.column, c.message) := by
  obtain ⟨ss, sources, -, -, agree, told, -⟩ := diagnose_reported 1000 ['$', '\r', '\r', '\n', 'a']
    { Options.plain [] with input := some { parts := [['b']] } }
    { read := fun _ => .ok [0x24, 0x0D, 0x0D, 0x0A, 0x61], writeFault := fun _ => none } [] { parts := [['b']] }
    rfl (by decide) rfl rfl rfl
  exact ⟨ss, sources, ⟨_, (told _).mpr ⟨0, ['$'], _, rfl, rfl, parse_dollar, rfl⟩⟩, agree⟩

end Editor

end BarTemplate
