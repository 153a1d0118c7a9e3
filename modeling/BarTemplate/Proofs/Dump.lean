import BarTemplate.Proofs.Batch
import BarTemplate.Proofs.Outline

/-!
# The output is unambiguous

Main statement: the output that a batch of sources comes to tells which of them have parsed, and to what
(`dump_unambiguous`). A heading stands on the level of a template and ends the outline before it, so that it is never
taken for a node.
-/

namespace BarTemplate.Command

variable {frames : Int} {o : Options} {ss : List Source}

/-- The line of a heading. -/
def heading (s : Source) : OutlineLine :=
  ⟨0, "# " ++ (s.filename ++ ':' :: Text.ofInt s.line)⟩

/-- The lines of an output. -/
def outputLines (ps : List (Source × Template)) : List OutlineLine :=
  ps.flatMap fun (s, t) => heading s :: Outline.ofTemplate 0 t

/-- What an output tells of a source that has parsed. -/
def entry (p : Source × Template) : Text × Int × Template :=
  (p.1.filename, p.1.line, p.2)

/-- A heading tells its file name and line number. The name may have colons in it, but the number has none. -/
theorem heading_inj {s s' : Source} (h : heading s = heading s') : s.filename = s'.filename ∧ s.line = s'.line := by
  have number : ∀ i : Int, ':' ∉ Text.ofInt i := fun i hi => by
    rcases mem_ofInt hi with h | h <;> exact absurd h (by decide)
  have label : s.filename ++ ':' :: Text.ofInt s.line = s'.filename ++ ':' :: Text.ofInt s'.line :=
    List.append_cancel_left (congrArg OutlineLine.label h)
  obtain ⟨filename, line⟩ := append_cons_inj_right (number s.line) (number s'.line) label
  exact ⟨filename, Text.ofInt_inj line⟩

/-- A heading is a clean line if the file name has no newline in it. -/
theorem clean_heading {s : Source} (h : '\n' ∉ s.filename) : (heading s).Clean := by
  have number : '\n' ∉ Text.ofInt s.line := fun hi => by
    rcases mem_ofInt hi with h | h <;> exact absurd h (by decide)
  exact Outline.clean_of_append (by decide) (by simp [h, number])

/-- What is written for a source is the line of its heading and those of its outline. -/
theorem headed_eq (s : Source) (t : Template) :
    "# " ++ s.filename ++ ":" ++ Text.ofInt s.line ++ "\n" ++ t.outline =
      (heading s :: Outline.ofTemplate 0 t).flatMap OutlineLine.written := by
  simp [heading, OutlineLine.written, Text.spaces, Template.outline]

/-- A dump is its lines, written one after another. -/
theorem outputLines_written (ps : List (Source × Template)) :
    dump ps = (outputLines ps).flatMap OutlineLine.written := by
  unfold dump outputLines
  rw [List.flatMap_assoc]
  exact congrArg ps.flatMap (funext fun p => headed_eq p.1 p.2)

/-- A heading ends the outline before it, since nothing else is on the outermost level. -/
theorem shallower_outputLines (ps : List (Source × Template)) : Outline.Shallower 1 (outputLines ps) := by
  cases ps with
  | nil => exact Outline.shallower_nil
  | cons p ps => exact Outline.shallower_cons.mpr Nat.zero_lt_one

/-- The lines of a dump tell what it is a dump of, one source after another. -/
theorem outputLines_inj : ∀ {ps qs : List (Source × Template)},
    (∀ p ∈ ps, p.2.WellFormed) → (∀ q ∈ qs, q.2.WellFormed) →
    outputLines ps = outputLines qs → ps.map entry = qs.map entry
  | [], [], _, _, _ => rfl
  | [], q :: qs, _, _, h => by cases h
  | p :: ps, [], _, _, h => by cases h
  | p :: ps, q :: qs, hp, hq, h => by
    rw [List.forall_mem_cons] at hp hq
    obtain ⟨first, rest⟩ := List.cons.inj h
    obtain ⟨filename, line⟩ := heading_inj first
    obtain ⟨template, others⟩ :=
      Outline.ofTemplate_inj hp.1 hq.1 (shallower_outputLines ps) (shallower_outputLines qs) rest
    rw [List.map_cons, List.map_cons, outputLines_inj hp.2 hq.2 others]
    unfold entry
    rw [filename, line, template]

/-- A template that a source parses to is well formed. -/
theorem wellFormed_of_parse {requested : Int} {s : Text} {t : Template} (h : parse frames requested s = .ok t) :
    t.WellFormed :=
  (parseUnder_ok_iff.mp h).1.wellFormed

/-- All lines of a dump are clean. -/
theorem clean_outputLines {o : Options} (hs : ∀ s ∈ ss, '\n' ∉ s.filename) :
    ∀ l ∈ outputLines (o.parsed frames ss), l.Clean := by
  intro l hl
  obtain ⟨⟨s, t⟩, hp, hl⟩ := List.mem_flatMap.mp hl
  obtain ⟨member, parsed⟩ := mem_parsed.mp hp
  rcases List.mem_cons.mp hl with rfl | hl
  · exact clean_heading (hs s member)
  · exact Outline.clean_ofTemplate (wellFormed_of_parse parsed) l hl

/-- The output of a batch tells the sources that have parsed and their templates, in order. The outline of a template
tells the template. -/
theorem dump_unambiguous :
    (∀ (frames frames' : Int) (o o' : Options) (ss ss' : List Source), o.check = false → o'.check = false →
        (∀ s ∈ ss, '\n' ∉ s.filename) → (∀ s ∈ ss', '\n' ∉ s.filename) →
        (o.parseAll frames ss).outlines = (o'.parseAll frames' ss').outlines →
        (o.parsed frames ss).map entry = (o'.parsed frames' ss').map entry) ∧
      ∀ (frames frames' requested requested' : Int) (s s' : Text) (t t' : Template),
        parse frames requested s = .ok t → parse frames' requested' s' = .ok t' → t.outline = t'.outline → t = t' := by
  constructor
  · intro frames frames' o o' ss ss' check check' hs hs' h
    rw [parseAll_outlines check, parseAll_outlines check', outputLines_written, outputLines_written] at h
    have lines := written_inj (clean_outputLines hs) (clean_outputLines hs') h
    exact outputLines_inj (fun p hp => wellFormed_of_parse (mem_parsed.mp hp).2)
      (fun q hq => wellFormed_of_parse (mem_parsed.mp hq).2) lines
  · intro frames frames' requested requested' s s' t t' ht ht' h
    exact Template.outline_inj (wellFormed_of_parse ht) (wellFormed_of_parse ht') h

/-- The output does not tell whether a character is escaped, which makes no difference to the template. -/
theorem dump_of_escape :
    ∃ t, parse 1000 Nesting.defaultDepth ['x'] = .ok t ∧ parse 1000 Nesting.defaultDepth ['\\', 'x'] = .ok t ∧
      (Options.plain []).parsed 1000 [⟨['a'], 1, ['x'], false⟩] ≠ [] ∧
      ((Options.plain []).parsed 1000 [⟨['a'], 1, ['x'], false⟩]).map entry =
        ((Options.plain []).parsed 1000 [⟨['a'], 1, ['\\', 'x'], false⟩]).map entry := by
  obtain ⟨bare, escaped⟩ := parse_letter
  have one : (Options.plain []).parsed 1000 [⟨['a'], 1, ['x'], false⟩] =
      [(⟨['a'], 1, ['x'], false⟩, [[.text ['x']]])] := by
    simp [Options.parsed, Options.plain, bare]
  have same : ((Options.plain []).parseAll 1000 [⟨['a'], 1, ['x'], false⟩]).outlines =
      ((Options.plain []).parseAll 1000 [⟨['a'], 1, ['\\', 'x'], false⟩]).outlines := by
    rw [parseAll_outlines rfl, parseAll_outlines rfl]
    simp [Options.parsed, Options.plain, bare, escaped, dump]
  obtain ⟨outputs, outlines⟩ := dump_unambiguous
  have templates := outlines 1000 1000 Nesting.defaultDepth Nesting.defaultDepth _ _ _ _ bare escaped rfl
  refine ⟨_, bare, templates ▸ escaped, by rw [one]; exact List.cons_ne_nil _ _, ?_⟩
  exact outputs 1000 1000 _ _ _ _ rfl rfl (by decide) (by decide) same

end BarTemplate.Command
