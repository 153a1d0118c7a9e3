import BarTemplate.Proofs.Run

/-!
# The operand of a run

Main statement: what a run takes its templates from (`operand_read`). The operand names the standard input if it is a
hyphen in any spelling of a path (`NamesStandardInput`), nothing if it is empty, and a file otherwise. That an operand
other than a bare hyphen always names a file is false: the empty one is taken for none, and a hyphen behind a point and
a slash for the standard input (`operands_without_file`).
-/

namespace BarTemplate

variable {t : Text}

/-! ## Spellings of paths -/

namespace Path

/-- The pieces of a path are those between its strokes. -/
theorem pieces_eq_cutAt (t : Text) : pieces t = Text.cutAt '/' t := by
  induction t with
  | nil => rfl
  | cons c t ih => rw [pieces, Text.cutAt, ih]

/-- A path has no root if it does not begin with a stroke. -/
theorem rootOf_eq_nil_iff : rootOf t = [] ↔ t.head? ≠ some '/' := by
  cases t with
  | nil => simp [rootOf]
  | cons c t =>
    by_cases hc : c = '/'
    · subst hc
      simp only [rootOf, List.takeWhile_cons, decide_true, if_true, List.length_cons, List.head?_cons, ne_eq,
        not_true, iff_false]
      split <;> simp_all
    · simp [rootOf, hc]

end Path

namespace Command

/-- A text that names the standard input: a hyphen as its only part, with empty parts and single points around it. -/
def NamesStandardInput (t : Text) : Prop :=
  t.head? ≠ some '/' ∧ ∃ before after, t = Text.joinWith ['/'] (before ++ ['-'] :: after) ∧
    ∀ p ∈ before ++ after, p = [] ∨ p = ['.']

/-- The parts of a path are a hyphen alone if that is the only piece of the text that counts. -/
theorem parts_eq_hyphen_iff : (Path.ofText t).parts = [['-']] ↔ ∃ before after,
    Path.pieces t = before ++ ['-'] :: after ∧ ∀ p ∈ before ++ after, p = [] ∨ p = ['.'] := by
  have dropped : ∀ p : Text, ¬ decide (p ≠ [] ∧ p ≠ ['.']) = true ↔ p = [] ∨ p = ['.'] := by
    intro p
    rw [decide_eq_true_eq, Decidable.not_and_iff_not_or_not, Decidable.not_not, Decidable.not_not]
  have parts : (Path.ofText t).parts = (Path.pieces t).filter fun p => p ≠ [] ∧ p ≠ ['.'] := rfl
  rw [parts, List.filter_eq_cons_iff]
  constructor
  · rintro ⟨before, after, pieces, hbefore, -, hafter⟩
    refine ⟨before, after, pieces, fun p hp => (dropped p).mp ?_⟩
    exact (List.mem_append.mp hp).elim (hbefore p) (List.filter_eq_nil_iff.mp hafter p)
  · rintro ⟨before, after, pieces, around⟩
    refine ⟨before, after, pieces, fun p hp => ?_, rfl, List.filter_eq_nil_iff.mpr fun p hp => ?_⟩
    · exact (dropped p).mpr (around p (List.mem_append_left _ hp))
    · exact (dropped p).mpr (around p (List.mem_append_right _ hp))

/-- The path of a text is that of the standard input exactly if the text names it. -/
theorem ofText_eq_standardInput_iff : Path.ofText t = standardInput ↔ NamesStandardInput t := by
  have fields : Path.ofText t = standardInput ↔ Path.rootOf t = [] ∧ (Path.ofText t).parts = [['-']] := by
    rw [Path.mk.injEq]
    exact Iff.rfl
  rw [fields, Path.rootOf_eq_nil_iff, parts_eq_hyphen_iff, NamesStandardInput, Path.pieces_eq_cutAt]
  refine and_congr_right fun _ => exists_congr fun before => exists_congr fun after => and_congr_left fun around => ?_
  have clean : ∀ p ∈ before ++ ['-'] :: after, '/' ∉ p := by
    intro p hp
    have cases : p = ['-'] ∨ p = [] ∨ p = ['.'] := by
      simp only [List.mem_append, List.mem_cons] at hp around
      rcases hp with hp | hp | hp
      · exact Or.inr (around p (Or.inl hp))
      · exact Or.inl hp
      · exact Or.inr (around p (Or.inr hp))
    rcases cases with rfl | rfl | rfl <;> decide
  constructor
  · intro pieces
    rw [← pieces, Text.joinWith_cutAt]
  · rintro rfl
    exact Text.cutAt_joinWith (by simp) clean

variable {a : Arguments} {disk : Disk} {host : Host} {stdin : Text} {frames : Int}

/-! ## What is read -/

/-- The sources that an operand gives: none if it is absent or empty, and otherwise the lines of the standard input or
of the file that it names. -/
inductive Reads (disk : Disk) (stdin : Text) : Option Text → List Source → Prop where
  | absent : Reads disk stdin none []
  | empty : Reads disk stdin (some []) []
  | stdin {t : Text} (names : NamesStandardInput t) : Reads disk stdin (some t) (Source.ofDocument "<stdin>" stdin)
  | file {t document : Text} (nonempty : t ≠ []) (other : ¬ NamesStandardInput t)
      (read : disk.readText (.ofText t) = .ok document) :
      Reads disk stdin (some t) (Source.ofDocument (Path.ofText t).shown document)

/-- The sources in the input of a run are those that its operand gives. -/
theorem FromInput.reads {ss : List Source} (h : FromInput a disk stdin ss) : Reads disk stdin a.input ss := by
  cases h with
  | none input =>
    rcases input with input | input <;> rw [input]
    · exact .absent
    · exact .empty
  | stdin input lines =>
    obtain ⟨t, given, -, ht⟩ := input
    rw [given, linesGive_iff.mp lines]
    exact .stdin (ofText_eq_standardInput_iff.mp ht.symm)
  | file input file holds lines =>
    obtain ⟨t, given, nonempty, rfl⟩ := input
    rw [given, linesGive_iff.mp lines]
    exact .file nonempty (fun names => file (ofText_eq_standardInput_iff.mpr names)) (Disk.readText_ok_iff.mpr holds)

/-- Without an operand that names it, the standard input has no part in a run. -/
theorem run_stdin (h : ∀ t, a.input = some t → ¬ NamesStandardInput t) (stdin' : Text) :
    a.run disk stdin' frames host = a.run disk stdin frames host := by
  have file : ∀ p, path? a.input = some p → p ≠ standardInput := by
    rintro p hp rfl
    obtain ⟨t, given, -, ht⟩ := path?_eq_some_iff.mp hp
    exact h t given (ofText_eq_standardInput_iff.mp ht.symm)
  have input : inputSources (path? a.input) disk stdin' = inputSources (path? a.input) disk stdin := by
    unfold inputSources
    cases hp : path? a.input with
    | none => rfl
    | some p => simp only [if_neg (file p hp)]
  have sources : ∀ depth, (a.optionsAt depth).sources disk stdin' = (a.optionsAt depth).sources disk stdin := by
    intro depth
    have given : (a.optionsAt depth).input = path? a.input := rfl
    unfold Options.sources
    rw [given, input]
  unfold Arguments.run
  cases resolve : a.resolve disk host with
  | error e => rfl
  | ok o =>
    obtain ⟨depth, -, rfl⟩ := resolve_ok_iff.mp resolve
    simp only [sources]

/-! ## The operand decides -/

/-- What a run reads is decided by its operand. The standard input matters only where the operand names it. A run that
returns another code than two has something to read or a template on its command line, or an empty operand; it works on
what its operand gives, and then on the templates of the command line. If there is nothing but an empty operand, it
returns zero and works on nothing. -/
theorem operand_read (words : List Text) (disk : Disk) (stdin : Text) (frames : Int) (host : Host) (a : Arguments)
    (accepted : Arguments.ofWords words = .ok a) :
    ((∀ t, a.input = some t → ¬ NamesStandardInput t) →
      ∀ stdin', run words disk stdin' frames host = run words disk stdin frames host) ∧
      ∀ code, (run words disk stdin frames host).ending = .returned code → code ≠ 2 →
        ∃ depth ss, Reads disk stdin a.input ss ∧
          Delivered a frames depth (ss ++ Source.ofTemplates a.templates) code (run words disk stdin frames host) ∧
          (a.templates = [] → a.input = some [] ∧ ss = [] ∧ code = 0 ∨ ∃ t, a.input = some t ∧
            (NamesStandardInput t ∨ ∃ document, disk.readText (.ofText t) = .ok document)) := by
  have same : ∀ stdin', run words disk stdin' frames host = a.run disk stdin' frames host := by
    intro stdin'
    unfold run
    rw [accepted]
  simp only [same]
  refine ⟨fun other stdin' => run_stdin other stdin', fun code returned unusable => ?_⟩
  rcases run_delivered returned with ⟨-, two, -⟩ | ⟨allowed, depth, _, ⟨-, -, ss, _, input, give, rfl⟩, delivered⟩
  · exact absurd two unusable
  · rw [templatesGive_iff.mp give] at delivered
    have reads := input.reads
    clear input
    refine ⟨depth, ss, reads, delivered, fun none => ?_⟩
    have asked : a.input ≠ .none := fun absent => allowed (.nothing absent none)
    rw [none] at delivered
    generalize a.input = operand at reads asked
    cases reads with
    | absent => exact absurd rfl asked
    | empty => exact Or.inl ⟨rfl, rfl, delivered.passes.mpr nofun⟩
    | stdin names => exact Or.inr ⟨_, rfl, Or.inl names⟩
    | file _ _ read => exact Or.inr ⟨_, rfl, Or.inr ⟨_, read⟩⟩

/-- The template in a file that the operand names is what the run works on, whatever stands on the standard input. -/
theorem run_of_file :
    (run [['f']] (singleFile ['f'] [0x78]) ['$'] 1000).ending = .returned 0 ∧
      run [['f']] (singleFile ['f'] [0x78]) [] 1000 = run [['f']] (singleFile ['f'] [0x78]) ['$'] 1000 ∧
      ∃ depth ss, Reads (singleFile ['f'] [0x78]) ['$'] (some ['f']) ss ∧
        Delivered { input := some ['f'] } 1000 depth (ss ++ []) 0 (run [['f']] (singleFile ['f'] [0x78]) ['$'] 1000) := by
  have accepted : Arguments.ofWords [['f']] = .ok { input := some ['f'] } := rfl
  have delivers : run [['f']] (singleFile ['f'] [0x78]) ['$'] 1000 =
      ({ Options.plain [] with input := some { parts := [['f']] } } : Options).deliver (singleFile ['f'] [0x78]) {}
        (({ Options.plain [] with input := some { parts := [['f']] } } : Options).parseAll 1000
          [⟨['f'], 1, ['x'], false⟩]) := rfl
  have returned : (run [['f']] (singleFile ['f'] [0x78]) ['$'] 1000).ending = .returned 0 := by
    rw [delivers]
    simp [Options.deliver, Options.plain, Options.parseAll, Options.parseOne, Batch.append, Batch.code, parse_letter]
  have file : ∀ t, some ['f'] = some t → ¬ NamesStandardInput t := by
    rintro t ⟨⟩ names
    exact absurd (ofText_eq_standardInput_iff.mpr names) (by decide)
  obtain ⟨quiet, works⟩ := operand_read _ (singleFile ['f'] [0x78]) ['$'] 1000 {} _ accepted
  obtain ⟨depth, ss, reads, delivered, -⟩ := works 0 returned (by decide)
  exact ⟨returned, quiet file [], depth, ss, reads, delivered⟩

/-- An operand other than a bare hyphen need not name a file, nor be refused: with no file on the disk, a run with an
empty operand returns zero, and so does a run whose operand is a hyphen behind a point and a slash. -/
theorem operands_without_file :
    (run [[]] emptyDisk [] 1000).ending = .returned 0 ∧
      (run [['.', '/', '-']] emptyDisk [] 1000).ending = .returned 0 ∧
      NamesStandardInput ['.', '/', '-'] :=
  ⟨rfl, rfl, by decide, [['.']], [], rfl, by decide⟩

end Command

end BarTemplate
