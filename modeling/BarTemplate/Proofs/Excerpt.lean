import BarTemplate.Proofs.Lines
import BarTemplate.Proofs.Numeral
import BarTemplate.SyntaxError

/-!
# Positions and reports

Main statement: the position of an offset names the line that the offset is on and the place in it, and a report shows
that line with a caret under that place (`position_and_report`). Every offset of a source has lines above it, a part of
its line on its left and one on its right, and more below (`Around`); the position, the lines of the source and the rows
of a report are told by these.
-/

namespace BarTemplate

namespace Text

variable {l t : Text} {ls : List Text}

/-! ## Lines that end at LF -/

/-- An LF ends the first line. -/
theorem feedLines_append_feed (h : '\n' ∉ l) (t : Text) : feedLines (l ++ '\n' :: t) = l :: feedLines t := by
  rw [feedLines_eq_cutAt, feedLines_eq_cutAt, cutAt_append h]

/-- A text without an LF is one line. -/
theorem feedLines_of_not_mem (h : '\n' ∉ l) : feedLines l = [l] := by
  rw [feedLines_eq_cutAt, cutAt_of_not_mem h]

/-- Lines that end in an LF each are cut off one by one. -/
theorem feedLines_unlines (h : ∀ l ∈ ls, '\n' ∉ l) (t : Text) : feedLines (unlines ls ++ t) = ls ++ feedLines t := by
  induction ls with
  | nil => rfl
  | cons l ls ih =>
    obtain ⟨hl, hls⟩ := List.forall_mem_cons.mp h
    have whole : unlines (l :: ls) ++ t = l ++ '\n' :: (unlines ls ++ t) := by simp [unlines]
    rw [whole, feedLines_append_feed hl, ih hls]
    rfl

/-- A text is lines that end in an LF each, and what stands behind the last LF. -/
theorem exists_unlines (t : Text) : ∃ ls w, t = unlines ls ++ w ∧ (∀ l ∈ ls, '\n' ∉ l) ∧ '\n' ∉ w := by
  induction t with
  | nil => exact ⟨[], [], rfl, nofun, nofun⟩
  | cons c t ih =>
    obtain ⟨ls, w, rfl, hls, hw⟩ := ih
    by_cases hc : c = '\n'
    · exact ⟨[] :: ls, w, by simp [unlines, hc], by simpa using hls, hw⟩
    · cases ls with
      | nil => exact ⟨[], c :: w, rfl, nofun, by simp [Ne.symm hc, hw]⟩
      | cons l ls => exact ⟨(c :: l) :: ls, w, by simp [unlines], by simpa [Ne.symm hc] using hls, hw⟩

/-- A text is its first line and what stands below. -/
theorem exists_line (t : Text) : ∃ l below, t = l ++ below ∧ '\n' ∉ l ∧ ∀ d ∈ below.head?, d = '\n' := by
  induction t with
  | nil => exact ⟨[], [], rfl, nofun, nofun⟩
  | cons c t ih =>
    obtain ⟨l, below, rfl, hl, feed⟩ := ih
    by_cases hc : c = '\n'
    · exact ⟨[], c :: (l ++ below), rfl, nofun, fun d hd => Option.some.inj hd ▸ hc⟩
    · exact ⟨c :: l, below, rfl, by simp [Ne.symm hc, hl], feed⟩

/-- The first line of a text is the first of its lines. -/
theorem feedLines_head (hl : '\n' ∉ l) (feed : ∀ d ∈ t.head?, d = '\n') : ∃ more, feedLines (l ++ t) = l :: more := by
  cases t with
  | nil => exact ⟨[], by rw [List.append_nil, feedLines_of_not_mem hl]⟩
  | cons c t =>
    obtain rfl : c = '\n' := feed c rfl
    exact ⟨feedLines t, feedLines_append_feed hl t⟩

/-! ## Where lines begin -/

/-- The offset at which a line begins: the lengths of the lines before it, and one LF for each of them. -/
def lineOffset (ls : List Text) (i : Nat) : Nat :=
  ((ls.take i).map fun l => l.length + 1).foldr (· + ·) 0

theorem lineOffset_cons (l : Text) (ls : List Text) (i : Nat) :
    lineOffset (l :: ls) (i + 1) = l.length + 1 + lineOffset ls i :=
  rfl

/-- The offset of the line after some lines is the length of these, with their LFs. -/
theorem lineOffset_length_append (ls ms : List Text) : lineOffset (ls ++ ms) ls.length = (unlines ls).length := by
  induction ls with
  | nil => simp [lineOffset, unlines]
  | cons l ls ih =>
    rw [List.cons_append, List.length_cons, lineOffset_cons, ih]
    simp [unlines]
    omega

/-- A line ends before a later one begins. -/
theorem lineOffset_lt {i j : Nat} (h : ls[i]? = some l) (hij : i < j) : lineOffset ls i + l.length < lineOffset ls j := by
  induction ls generalizing i j with
  | nil => cases h
  | cons m ls ih =>
    cases j with
    | zero => cases hij
    | succ j =>
      rw [lineOffset_cons]
      cases i with
      | zero =>
        obtain rfl := Option.some.inj h
        have begins : lineOffset (m :: ls) 0 = 0 := rfl
        omega
      | succ i =>
        have later := ih h (Nat.lt_of_succ_lt_succ hij)
        rw [lineOffset_cons]
        omega

end Text

open Text

variable {source left right below line line' : Text} {above : List Text} {o o' i i' c c' : Nat}

/-! ## The surroundings of a place -/

/-- A place in a source: the lines above it, the parts of its line before it and from it on, and what stands below. -/
structure Around (source : Text) (o : Nat) (above : List Text) (left right below : Text) : Prop where
  whole : source = unlines above ++ (left ++ (right ++ below))
  offset : o = (unlines above).length + left.length
  above_clean : ∀ l ∈ above, '\n' ∉ l
  left_clean : '\n' ∉ left
  right_clean : '\n' ∉ right
  below_feed : ∀ d ∈ below.head?, d = '\n'

/-- Every offset within a source is a place in it. -/
theorem exists_around (h : o ≤ source.length) : ∃ above left right below, Around source o above left right below := by
  obtain ⟨above, left, before, above_clean, left_clean⟩ := exists_unlines (source.take o)
  obtain ⟨right, below, after, right_clean, below_feed⟩ := exists_line (source.drop o)
  have whole : source = unlines above ++ (left ++ (right ++ below)) := by
    rw [← after, ← List.append_assoc, ← before, List.take_append_drop]
  have offset : o = (unlines above).length + left.length := by
    rw [← List.length_append, ← before, List.length_take, Nat.min_eq_left h]
  exact ⟨above, left, right, below, whole, offset, above_clean, left_clean, right_clean, below_feed⟩

/-- Lines without an LF in them, each ended by one, have as many LFs as there are lines. -/
theorem count_unlines (h : ∀ l ∈ above, '\n' ∉ l) : (unlines above).count '\n' = above.length := by
  induction above with
  | nil => rfl
  | cons l above ih =>
    obtain ⟨hl, habove⟩ := List.forall_mem_cons.mp h
    have split : unlines (l :: above) = l ++ '\n' :: unlines above := by simp [unlines]
    rw [split, List.count_append, List.count_eq_zero.mpr hl, List.count_cons_self, ih habove]
    simp

/-- Behind lines that end in an LF each, the last line begins where they end. -/
theorem lineStart_unlines (hl : '\n' ∉ left) : lineStart (unlines above ++ left) = (unlines above).length := by
  have plain : ∀ c ∈ left.reverse, decide (c ≠ '\n') = true := by
    intro c hc
    rw [decide_eq_true_eq]
    rintro rfl
    exact hl (List.mem_reverse.mp hc)
  have stop : (unlines above).reverse.takeWhile (fun c => decide (c ≠ '\n')) = [] := by
    rcases List.eq_nil_or_concat above with rfl | ⟨init, l, rfl⟩ <;> simp [unlines]
  unfold lineStart
  rw [List.reverse_append, List.takeWhile_append_of_pos plain, stop, List.append_nil, List.length_reverse,
    List.length_append, Nat.add_sub_cancel]

namespace Around

/-- The position of a place tells the number of lines above it and of characters before it on its line. -/
theorem position (h : Around source o above left right below) :
    Position.ofOffset source o = ⟨above.length + 1, left.length + 1, o⟩ := by
  have before : source.take o = unlines above ++ left := by
    rw [h.whole, ← List.append_assoc, h.offset, ← List.length_append, List.take_left]
  have feeds : (unlines above ++ left).count '\n' = above.length := by
    rw [List.count_append, count_unlines h.above_clean, List.count_eq_zero.mpr h.left_clean, Nat.add_zero]
  have start : lineStart (unlines above ++ left) = (unlines above).length := lineStart_unlines h.left_clean
  have offset := h.offset
  have column : (o : Int) - (unlines above).length + 1 = left.length + 1 := by omega
  simp only [Position.ofOffset, before, feeds, start, column]

/-- The lines of the source are those above the place, its own, and more. -/
theorem lines (h : Around source o above left right below) :
    ∃ more, feedLines source = above ++ (left ++ right) :: more := by
  have clean : '\n' ∉ left ++ right := fun hm => (List.mem_append.mp hm).elim h.left_clean h.right_clean
  obtain ⟨more, hmore⟩ := feedLines_head clean h.below_feed
  refine ⟨more, ?_⟩
  rw [h.whole, feedLines_unlines h.above_clean, ← List.append_assoc, hmore]

/-- The line of a place. -/
theorem getElem?_lines (h : Around source o above left right below) :
    (feedLines source)[above.length]? = some (left ++ right) := by
  obtain ⟨more, lines⟩ := h.lines
  rw [lines, List.getElem?_append_right (Nat.le_refl _), Nat.sub_self, List.getElem?_cons_zero]

/-- The offset at which the line of a place begins. -/
theorem lineOffset (h : Around source o above left right below) :
    Text.lineOffset (feedLines source) above.length = (unlines above).length := by
  obtain ⟨more, lines⟩ := h.lines
  rw [lines, lineOffset_length_append]

/-- From there on the source has the line of the place, and then what stands below. -/
theorem drop_lineOffset (h : Around source o above left right below) :
    source.drop (Text.lineOffset (feedLines source) above.length) = left ++ right ++ below := by
  rw [h.lineOffset, h.whole, List.drop_left, List.append_assoc]

end Around

/-! ## Positions -/

/-- The position of an offset names the line that holds it and its column in that, both counted from one. -/
structure Located (source : Text) (o i c : Nat) (line : Text) : Prop where
  position : Position.ofOffset source o = ⟨i + 1, c + 1, o⟩
  line_at : (feedLines source)[i]? = some line
  column_le : c ≤ line.length
  offset : o = lineOffset (feedLines source) i + c
  line_here : line <+: source.drop (lineOffset (feedLines source) i)

/-- Every offset in a source is in one of its lines. -/
theorem exists_located (h : o ≤ source.length) : ∃ i c line, Located source o i c line := by
  obtain ⟨above, left, right, below, around⟩ := exists_around h
  refine ⟨above.length, left.length, left ++ right, around.position, around.getElem?_lines, by simp, ?_, ?_⟩
  · rw [around.lineOffset]
    exact around.offset
  · rw [around.drop_lineOffset]
    exact List.prefix_append _ _

/-- One position comes before another on an earlier line, or on the same line in an earlier column. -/
def Position.Precedes (p q : Position) : Prop :=
  p.line < q.line ∨ p.line = q.line ∧ p.column < q.column

/-- Offsets are in the order of their lines and columns. -/
theorem Located.lt_iff (h : Located source o i c line) (h' : Located source o' i' c' line') :
    o < o' ↔ i < i' ∨ i = i' ∧ c < c' := by
  have offset := h.offset
  have offset' := h'.offset
  have column := h.column_le
  have column' := h'.column_le
  rcases Nat.lt_trichotomy i i' with lt | rfl | gt
  · have before := lineOffset_lt h.line_at lt
    omega
  · omega
  · have before := lineOffset_lt h'.line_at gt
    omega

/-- Positions are ordered by line, and on one line by column. -/
theorem Located.precedes_iff (h : Located source o i c line) (h' : Located source o' i' c' line') :
    (Position.ofOffset source o).Precedes (Position.ofOffset source o') ↔ i < i' ∨ i = i' ∧ c < c' := by
  rw [h.position, h'.position]
  unfold Position.Precedes
  simp only
  omega

/-! ## Reports -/

/-- A text is what is left of it without CRs at its end, and these. -/
theorem trim_returns (t : Text) : ∃ n, t = (t.reverse.dropWhile (· = '\r')).reverse ++ List.replicate n '\r' ∧
    (t.reverse.dropWhile (· = '\r')).reverse.getLast? ≠ some '\r' := by
  have returns : ∀ d ∈ t.reverse.takeWhile (· = '\r'), d = '\r' := by
    intro d hd
    simpa using List.all_eq_true.mp List.all_takeWhile d hd
  refine ⟨(t.reverse.takeWhile (· = '\r')).length, ?_, ?_⟩
  · rw [← List.reverse_replicate, ← List.eq_replicate_of_mem returns, ← List.reverse_append, List.takeWhile_append_dropWhile,
      List.reverse_reverse]
  · rw [List.getLast?_reverse]
    intro last
    have stop := List.head?_dropWhile_not (fun d => decide (d = '\r')) t.reverse
    rw [last] at stop
    simp at stop

/-- What a report shows of a line of the source. -/
theorem sourceLine_of_line {e : SyntaxError} (he : e.position.line = i + 1)
    (hl : (feedLines e.source)[i]? = some line) :
    ∃ n, line = e.sourceLine ++ List.replicate n '\r' ∧ e.sourceLine.getLast? ≠ some '\r' := by
  have number : (e.position.line - 1).toNat = i := by omega
  have shown : e.sourceLine = (line.reverse.dropWhile (· = '\r')).reverse := by
    unfold SyntaxError.sourceLine
    rw [if_neg (by omega), number, hl]
    rfl
  rw [shown]
  exact trim_returns line

theorem feed_not_mem_ofInt (n : Int) : '\n' ∉ ofInt n := by
  intro h
  rcases mem_ofInt h with h | h <;> exact absurd h (by decide)

theorem feed_not_mem_spaces (n : Nat) : '\n' ∉ spaces n := by
  simp [spaces]

/-- A report has five lines: the message, the place, and the line of the source between the bars of a gutter. -/
theorem feedLines_report {e : SyntaxError} {filename : Text} (hm : '\n' ∉ e.message) (hf : '\n' ∉ filename)
    (hl : '\n' ∉ e.sourceLine) (firstLine : Int) :
    feedLines (e.report filename firstLine) = [
      "error: " ++ e.message,
      spaces ((ofInt (e.position.line + firstLine - 1)).length + 1) ++ "--> " ++ filename ++ ":" ++
        ofInt (e.position.line + firstLine - 1) ++ ":" ++ ofInt e.position.column,
      spaces ((ofInt (e.position.line + firstLine - 1)).length + 1) ++ "|",
      ofInt (e.position.line + firstLine - 1) ++ " | " ++ e.sourceLine,
      spaces ((ofInt (e.position.line + firstLine - 1)).length + 1) ++ "|" ++ " " ++
        spaces (e.position.column - 1).toNat ++ "^"] := by
  unfold SyntaxError.report
  rw [feedLines_eq_cutAt]
  refine cutAt_joinWith (by simp) ?_
  simp [hm, hf, hl, feed_not_mem_ofInt, feed_not_mem_spaces]

/-- What stands before the caret of a report: a gutter as wide as the number of a line, and a space for every character
that is before the place. -/
def beforeCaret (number : Text) (c : Nat) : Text :=
  spaces (number.length + 1) ++ "|" ++ " " ++ spaces c

/-- A report shows a place in a source: the number of its line, the line without the CRs at its end, and below it a
caret, at the index of what stands at the place if that is shown. For a place among those CRs or at the end of the line,
the caret stands behind what is shown, where the source would go on. -/
structure Pointed (source : Text) (o i c : Nat) (line number shown : Text) : Prop where
  trimmed : ∃ n, line = shown ++ List.replicate n '\r'
  trimmed_all : shown.getLast? ≠ some '\r'
  under : (∃ d ∈ line.drop c, d ≠ '\r') →
    (number ++ " | " ++ shown)[(beforeCaret number c).length]? = source[o]?
  behind : (∀ d ∈ line.drop c, d = '\r') → (number ++ " | " ++ shown).length ≤ (beforeCaret number c).length
  within : (number ++ " | " ++ source.drop (lineOffset (feedLines source) i))[(beforeCaret number c).length]? = source[o]?

/-- The caret is as far behind its gutter as the place is behind the beginning of its line. -/
theorem length_beforeCaret (number : Text) (c : Nat) :
    (beforeCaret number c).length = (number ++ (" | " : Text)).length + c := by
  have bar : (" | " : Text).length = 3 := rfl
  have half : ("|" : Text).length + (" " : Text).length = 2 := rfl
  simp only [beforeCaret, spaces, List.length_append, List.length_replicate, bar]
  omega

/-- The caret is as far from the margin as the character that it points at. -/
theorem getElem?_above_caret (number t : Text) (c : Nat) :
    (number ++ " | " ++ t)[(beforeCaret number c).length]? = t[c]? := by
  rw [length_beforeCaret, List.getElem?_append_right (Nat.le_add_right _ _), Nat.add_sub_cancel_left]

/-- Something else than CRs follows on a line exactly where the line is shown. -/
theorem shown_iff {shown : Text} {n : Nat} (last : shown.getLast? ≠ some '\r') :
    (∃ d ∈ (shown ++ List.replicate n '\r').drop c, d ≠ '\r') ↔ c < shown.length := by
  rw [List.drop_append]
  constructor
  · rintro ⟨d, hd, hne⟩
    refine Nat.lt_of_not_le fun past => ?_
    rw [List.drop_of_length_le past, List.nil_append] at hd
    exact hne (List.eq_of_mem_replicate (List.mem_of_mem_drop hd))
  · intro before
    have final : (shown.drop c).getLast? = shown.getLast? := by
      rw [List.getLast?_drop, if_neg (Nat.not_le_of_lt before)]
    cases hd : shown.getLast? with
    | none =>
      rw [List.getLast?_eq_none_iff.mp hd] at before
      cases before
    | some d =>
      rw [hd] at final last
      refine ⟨d, List.mem_append_left _ (List.mem_of_getLast? final), ?_⟩
      rintro rfl
      exact last rfl

/-- A report points at the place: the CRs that it leaves out stand at the end of the line, behind everything that it
shows. -/
theorem Located.pointed (h : Located source o i c line) {number shown : Text} {n : Nat}
    (trimmed : line = shown ++ List.replicate n '\r') (last : shown.getLast? ≠ some '\r') :
    Pointed source o i c line number shown := by
  have place : (source.drop (lineOffset (feedLines source) i))[c]? = source[o]? := by
    rw [List.getElem?_drop, ← h.offset]
  refine ⟨⟨n, trimmed⟩, last, fun visible => ?_, fun hidden => ?_, ?_⟩
  · rw [trimmed, shown_iff last] at visible
    obtain ⟨rest, here⟩ := h.line_here
    rw [getElem?_above_caret, ← place, ← here, trimmed, List.append_assoc, List.getElem?_append_left visible]
  · have past : ¬ c < shown.length := by
      rw [← shown_iff last, ← trimmed]
      rintro ⟨d, hd, hne⟩
      exact hne (hidden d hd)
    rw [length_beforeCaret, List.length_append]
    omega
  · rw [getElem?_above_caret, place]

/-- The position of an offset names the line that holds the offset, among those that end at LF, and the column in it;
the offset is the lengths of the lines before it, with their LFs, and of what stands before it on its line. So positions
tell offsets apart and come in their order. The report of an error there has five lines, and its caret is under the
place. -/
theorem position_and_report (source : Text) :
    (∀ o ≤ source.length, ∃ i c line, Located source o i c line ∧
      ∀ (e : SyntaxError) (filename : Text) (firstLine : Int), e.source = source →
        e.position = .ofOffset source o → '\n' ∉ e.message → '\n' ∉ filename →
        ∃ number shown : Text, number = ofInt (e.position.line + firstLine - 1) ∧
          Pointed source o i c line number shown ∧
          feedLines (e.report filename firstLine) = [
            "error: " ++ e.message,
            spaces (number.length + 1) ++ "--> " ++ filename ++ ":" ++ number ++ ":" ++ ofInt e.position.column,
            spaces (number.length + 1) ++ "|",
            number ++ " | " ++ shown,
            beforeCaret number c ++ "^"]) ∧
      ∀ o o', o ≤ source.length → o' ≤ source.length →
        (o < o' ↔ (Position.ofOffset source o).Precedes (Position.ofOffset source o')) ∧
        ((Position.ofOffset source o).line = (Position.ofOffset source o').line →
          (Position.ofOffset source o).column = (Position.ofOffset source o').column → o = o') := by
  constructor
  · intro o ho
    obtain ⟨i, c, line, located⟩ := exists_located ho
    refine ⟨i, c, line, located, ?_⟩
    rintro e filename firstLine rfl position message file
    rw [located.position] at position
    have column : e.position.column = c + 1 := congrArg Position.column position
    have before : (e.position.column - 1).toNat = c := by omega
    obtain ⟨n, trimmed, last⟩ := sourceLine_of_line (congrArg Position.line position) located.line_at
    have clean : '\n' ∉ e.sourceLine := by
      have whole := not_mem_cutAt '\n' e.source line (feedLines_eq_cutAt _ ▸ List.mem_of_getElem? located.line_at)
      rw [trimmed] at whole
      exact fun hm => whole (List.mem_append_left _ hm)
    have rows := feedLines_report message file clean firstLine
    rw [before] at rows
    exact ⟨_, e.sourceLine, rfl, located.pointed trimmed last, rows⟩
  · intro o o' ho ho'
    obtain ⟨i, c, line, located⟩ := exists_located ho
    obtain ⟨i', c', line', located'⟩ := exists_located ho'
    refine ⟨(located.lt_iff located').trans (located.precedes_iff located').symm, ?_⟩
    rw [located.position, located'.position]
    intro sameLine sameColumn
    have line_eq : (i : Int) + 1 = i' + 1 := sameLine
    have column_eq : (c : Int) + 1 = c' + 1 := sameColumn
    obtain rfl : i = i' := by omega
    obtain rfl : c = c' := by omega
    rw [located.offset, located'.offset]

/-- An error at the dollar sign that begins the second line of a source, in a file that has two lines before the source.
-/
theorem report_of_dollar :
    ∃ number shown : Text, number = ['4'] ∧ Pointed ['x', '\n', '$', '\r'] 2 1 0 ['$', '\r'] number shown ∧
      feedLines (SyntaxError.report ⟨.general ['m'], ⟨2, 1, 2⟩, ['x', '\n', '$', '\r']⟩ ['f'] 3) = [
        "error: " ++ (['m'] : Text), spaces (number.length + 1) ++ "--> " ++ ['f'] ++ ":" ++ number ++ ":" ++ ['1'],
        spaces (number.length + 1) ++ "|", number ++ " | " ++ shown, beforeCaret number 0 ++ "^"] := by
  obtain ⟨i, c, line, located, reports⟩ := (position_and_report ['x', '\n', '$', '\r']).1 2 (by decide)
  have position : (⟨2, 1, 2⟩ : Position) = ⟨i + 1, c + 1, 2⟩ := located.position
  obtain ⟨row, column, -⟩ := Position.mk.inj position
  obtain rfl : i = 1 := by omega
  obtain rfl : c = 0 := by omega
  obtain rfl : ['$', '\r'] = line := Option.some.inj located.line_at
  exact reports ⟨.general ['m'], ⟨2, 1, 2⟩, ['x', '\n', '$', '\r']⟩ ['f'] 3 rfl rfl (by decide) (by decide)

end BarTemplate
