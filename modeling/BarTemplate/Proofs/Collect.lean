import BarTemplate.Proofs.Lines
import BarTemplate.Proofs.Options

/-!
# The sources of a run

A run works on the lines of its input that are not blank, each under the name of the input and its number, and then on
the templates of its command line, which are numbered apart (`Collected`). Main statements: these are the sources that
the program collects (`sources_ok_iff`), and it collects none exactly if the input is a file whose text cannot be had
(`sources_error_iff`).
-/

namespace BarTemplate

/-! ## Sources of lines -/

/-- The sources that lines give, the first of which has the number `n`: each line that is not blank, and so has a
character that is no white space, is one under its number. -/
inductive LinesGive (filename : Text) : Nat → List Text → List Source → Prop where
  | none (n : Nat) : LinesGive filename n [] []
  | blank {n : Nat} {l : Text} {ls : List Text} {ss : List Source} (blank : ∀ c ∈ l, Unicode.isBlank c = true)
      (rest : LinesGive filename (n + 1) ls ss) : LinesGive filename n (l :: ls) ss
  | template {n : Nat} {l : Text} {ls : List Text} {ss : List Source} {c : Char} (letter : c ∈ l)
      (text : Unicode.isBlank c = false) (rest : LinesGive filename (n + 1) ls ss) :
      LinesGive filename n (l :: ls) ({ filename, line := n, text := l } :: ss)

/-- The sources that the templates of a command line give: each template is one, under its number, on a line of its
own. -/
def TemplatesGive (templates : List (Option Text)) (ss : List Source) : Prop :=
  ss.length = templates.length ∧ ∀ i t, templates[i]? = some t →
    ss[i]? = some (⟨"<template " ++ Text.ofNat (i + 1) ++ ">", 1, t.getD [], t.isNone⟩ : Source)

variable {filename : Text} {ss : List Source}

/-- The sources that lines give are those of the numbered lines that are not blank. -/
theorem linesGive_iff_zipIdx {n : Nat} {ls : List Text} : LinesGive filename n ls ss ↔
    ss = ((ls.zipIdx n).filterMap fun (t, number) => if isBlankLine t then none else some (number, t)).map
      fun (number, t) => { filename, line := number, text := t } := by
  induction ls generalizing n ss with
  | nil =>
    constructor
    · rintro ⟨⟩
      rfl
    · rintro rfl
      exact .none n
  | cons l ls ih =>
    rw [List.zipIdx_cons, List.filterMap_cons]
    cases hl : isBlankLine l with
    | true =>
      have blank : ∀ c ∈ l, Unicode.isBlank c = true := List.all_eq_true.mp hl
      simp only [hl, if_true]
      rw [← ih]
      constructor
      · intro h
        rcases h with - | ⟨-, rest⟩ | ⟨letter, text, -⟩
        · exact rest
        · cases (blank _ letter).symm.trans text
      · exact .blank blank
    | false =>
      obtain ⟨c, letter, text⟩ := List.all_eq_false.mp hl
      simp only [hl, Bool.false_eq_true, if_false, List.map_cons]
      constructor
      · intro h
        rcases h with - | ⟨blank, -⟩ | ⟨-, -, rest⟩
        · exact absurd (blank c letter) text
        · rw [ih.mp rest]
      · rintro rfl
        exact .template letter (Bool.eq_false_iff.mpr text) (ih.mpr rfl)

/-- The sources in a document are those that its lines give, counted from one. -/
theorem linesGive_iff {document : Text} :
    LinesGive filename 1 (Text.lines document) ss ↔ ss = Source.ofDocument filename document :=
  linesGive_iff_zipIdx

/-- The sources that are given one by one are those that the templates give. -/
theorem templatesGive_iff {templates : List (Option Text)} :
    TemplatesGive templates ss ↔ ss = Source.ofTemplates templates := by
  have length : (Source.ofTemplates templates).length = templates.length := by simp [Source.ofTemplates]
  have get : ∀ i, (Source.ofTemplates templates)[i]? = templates[i]?.map fun t =>
      (⟨"<template " ++ Text.ofNat (i + 1) ++ ">", 1, t.getD [], t.isNone⟩ : Source) := by
    intro i
    rw [Source.ofTemplates, List.getElem?_map, List.getElem?_zipIdx, Option.map_map, Nat.add_comm 1 i]
    rfl
  constructor
  · intro h
    obtain ⟨hlength, hget⟩ := h
    refine List.ext_getElem? fun i => ?_
    rw [get]
    cases ht : templates[i]? with
    | none =>
      have outside : ss.length ≤ i := hlength ▸ List.getElem?_eq_none_iff.mp ht
      rw [List.getElem?_eq_none_iff.mpr outside]
      rfl
    | some t => exact hget i t ht
  · rintro rfl
    refine ⟨length, fun i t ht => ?_⟩
    rw [get, ht]
    rfl

namespace Command

variable {a : Arguments} {disk : Disk} {stdin : Text} {e : ReadError}

/-! ## Sources of a run -/

/-- The sources in the input of a run: none without an input, or else what the lines of the standard input or of a file
give. -/
inductive FromInput (a : Arguments) (disk : Disk) (stdin : Text) : List Source → Prop where
  | none (input : NamesNothing a.input) : FromInput a disk stdin []
  | stdin {ss : List Source} (input : Names a.input standardInput)
      (lines : LinesGive "<stdin>" 1 (Text.lines stdin) ss) : FromInput a disk stdin ss
  | file {p : Path} {document : Text} {ss : List Source} (input : Names a.input p) (file : p ≠ standardInput)
      (holds : disk.Holds p document) (lines : LinesGive p.shown 1 (Text.lines document) ss) : FromInput a disk stdin ss

/-- The sources of a run: those in its input, and then the templates of its command line. -/
def Collected (a : Arguments) (disk : Disk) (stdin : Text) (ss : List Source) : Prop :=
  ∃ lines templates, FromInput a disk stdin lines ∧ TemplatesGive a.templates templates ∧ ss = lines ++ templates

/-- The input of a run is a file, and its text cannot be had. -/
def Unread (a : Arguments) (disk : Disk) (e : ReadError) : Prop :=
  ∃ p, Names a.input p ∧ p ≠ standardInput ∧ disk.Lacks p e

/-- The sources in the input are read exactly if they are there. -/
theorem inputSources_ok_iff : inputSources (path? a.input) disk stdin = .ok ss ↔ FromInput a disk stdin ss := by
  constructor
  · intro h
    unfold inputSources at h
    split at h
    case h_1 input =>
      cases h
      exact .none (path?_eq_none_iff.mp input)
    case h_2 p input =>
      have named := path?_eq_some_iff.mp input
      split at h
      case isTrue hyphen =>
        cases h
        exact .stdin (hyphen ▸ named) (linesGive_iff.mpr rfl)
      case isFalse file =>
        split at h
        case h_1 => cases h
        case h_2 document read =>
          cases h
          -- The breaks of a file are read as LFs, which changes none of its lines.
          rw [Source.ofDocument_withFeeds]
          exact .file named file (Disk.readText_ok_iff.mp read) (linesGive_iff.mpr rfl)
  · intro h
    rcases h with input | ⟨input, lines⟩ | ⟨input, file, holds, lines⟩
    · rw [path?_eq_none_iff.mpr input]
      rfl
    · rw [path?_eq_some_iff.mpr input, linesGive_iff.mp lines]
      rfl
    · rw [path?_eq_some_iff.mpr input, linesGive_iff.mp lines]
      simp only [inputSources, file, if_false, Disk.readText_ok_iff.mpr holds, Source.ofDocument_withFeeds]

/-- The input is not read exactly if it is a file whose text cannot be had. -/
theorem inputSources_error_iff (stdin : Text) :
    inputSources (path? a.input) disk stdin = .error e ↔ Unread a disk e := by
  constructor
  · intro h
    unfold inputSources at h
    split at h
    case h_1 => cases h
    case h_2 p input =>
      split at h
      case isTrue => cases h
      case isFalse file =>
        split at h
        case h_1 read =>
          cases h
          exact ⟨p, path?_eq_some_iff.mp input, file, Disk.readText_error_iff.mp read⟩
        case h_2 => cases h
  · intro h
    obtain ⟨p, input, file, lacks⟩ := h
    rw [path?_eq_some_iff.mpr input]
    simp only [inputSources, file, if_false, Disk.readText_error_iff.mpr lacks]

/-- The program collects the sources of a run, in order. -/
theorem sources_ok_iff (depth : Int) : (a.optionsAt depth).sources disk stdin = .ok ss ↔ Collected a disk stdin ss := by
  have given : (a.optionsAt depth).input = path? a.input := rfl
  unfold Options.sources
  rw [given]
  constructor
  · intro h
    split at h
    case h_1 => cases h
    case h_2 lines read =>
      cases h
      exact ⟨lines, _, inputSources_ok_iff.mp read, templatesGive_iff.mpr rfl, rfl⟩
  · intro h
    obtain ⟨lines, templates, input, give, rfl⟩ := h
    rw [inputSources_ok_iff.mpr input, templatesGive_iff.mp give]
    rfl

/-- The program collects no sources exactly if the text of the input cannot be had. -/
theorem sources_error_iff (depth : Int) (stdin : Text) :
    (a.optionsAt depth).sources disk stdin = .error e ↔ Unread a disk e := by
  rw [← inputSources_error_iff stdin]
  unfold Options.sources
  have given : (a.optionsAt depth).input = path? a.input := rfl
  rw [given]
  cases inputSources (path? a.input) disk stdin <;> simp

/-- A run has one list of sources. -/
theorem Collected.unique {ss' : List Source} (h : Collected a disk stdin ss) (h' : Collected a disk stdin ss') :
    ss = ss' := by
  have both := ((sources_ok_iff 0).mpr h).symm.trans ((sources_ok_iff 0).mpr h')
  exact Except.ok.inj both

end Command

end BarTemplate
