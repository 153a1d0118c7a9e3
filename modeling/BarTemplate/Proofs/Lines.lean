import BarTemplate.Command.Sources

/-!
# Lines of a text

Main statements: the lines of a text are what stands between the line feeds after all its breaks have been made LF
(`Text.joinWith_lines`, `Text.break_not_mem_lines`), and that leaves the lines as they are (`Text.lines_withFeeds`). To
cut at one character is the inverse of joining with it (`Text.cutAt_joinWith`, `Text.joinWith_cutAt`). The template
lines of a document are the lines that are not blank, each once and in order (`mem_templateLines`,
`templateLines_sorted`).
-/

namespace BarTemplate

namespace Text

variable {c : Char} {t l : Text}

/-! ## One step of the cut -/

theorem lines_feed (t : Text) : lines ('\n' :: t) = [] :: lines t := by
  simp [lines]

/-- A CR and an LF after it end one line. -/
theorem lines_return_feed (t : Text) : lines ('\r' :: '\n' :: t) = [] :: lines t :=
  rfl

/-- A CR alone ends a line. -/
theorem lines_return (h : t.head? ≠ some '\n') : lines ('\r' :: t) = [] :: lines t := by
  rw [lines]
  rintro u rfl
  exact h rfl

/-- Every other character belongs to the first line. -/
theorem lines_cons (hr : c ≠ '\r') (hn : c ≠ '\n') (t : Text) : lines (c :: t) = growFirst c (lines t) := by
  rw [lines]
  · exact fun _ h => absurd h hr
  · exact hr
  · exact hn

/-! ## Breaks -/

/-- Making every line break an LF does not move any break. -/
theorem lines_withFeeds (t : Text) : lines t.withFeeds = lines t := by
  fun_induction withFeeds t with
  | case1 => rfl
  | case2 rest ih => rw [lines_feed, lines_return_feed, ih]
  | case3 rest h ih =>
    have alone : rest.head? ≠ some '\n' := by
      cases rest with
      | nil => simp
      | cons d rest =>
        intro hd
        exact h rest (by rw [Option.some.inj hd])
    rw [lines_feed, lines_return alone, ih]
  | case4 c rest _ hr ih =>
    by_cases hn : c = '\n'
    · rw [hn, lines_feed, lines_feed, ih]
    · rw [lines_cons hr hn, lines_cons hr hn, ih]

theorem mem_growFirst {ls : List Text} (h : l ∈ growFirst c ls) : l = [c] ∨ (∃ m ∈ ls, l = c :: m) ∨ l ∈ ls := by
  cases ls with
  | nil => exact Or.inl (List.mem_singleton.mp h)
  | cons m ls =>
    rcases List.mem_cons.mp h with rfl | h
    · exact Or.inr (Or.inl ⟨m, List.mem_cons_self, rfl⟩)
    · exact Or.inr (Or.inr (List.mem_cons_of_mem m h))

/-- A line ends before the next break. -/
theorem break_not_mem_lines (t : Text) : ∀ l ∈ lines t, '\n' ∉ l ∧ '\r' ∉ l := by
  have empty : ∀ {ls : List Text}, (∀ l ∈ ls, '\n' ∉ l ∧ '\r' ∉ l) → ∀ l ∈ [] :: ls, '\n' ∉ l ∧ '\r' ∉ l := by
    intro ls h l hl
    rcases List.mem_cons.mp hl with rfl | hl
    · simp
    · exact h l hl
  fun_induction lines t with
  | case1 => simp
  | case2 rest ih => exact empty ih
  | case3 rest _ ih => exact empty ih
  | case4 rest ih => exact empty ih
  | case5 c rest _ hr hn ih =>
    intro l hl
    rcases mem_growFirst hl with rfl | ⟨m, hm, rfl⟩ | hl
    · simp [Ne.symm hr, Ne.symm hn]
    · have := ih m hm
      simp_all [eq_comm]
    · exact ih l hl

theorem joinWith_cons_of_ne_nil {s : Char} {ls : List Text} (h : ls ≠ []) (l : Text) :
    joinWith [s] (l :: ls) = l ++ s :: joinWith [s] ls := by
  cases ls with
  | nil => exact absurd rfl h
  | cons m ls => simp [joinWith, List.intercalate_cons_cons]

/-- A character put before the first line is put before the lines joined together. -/
theorem joinWith_growFirst (s c : Char) (ls : List Text) :
    joinWith [s] (growFirst c ls) = c :: joinWith [s] ls := by
  cases ls with
  | nil => rfl
  | cons m ls =>
    cases ls with
    | nil => rfl
    | cons m' ls => simp [growFirst, joinWith, List.intercalate_cons_cons]

/-- Even the empty text has a line. -/
theorem lines_ne_nil (t : Text) : lines t ≠ [] := by
  fun_cases lines t with
  | case5 c rest =>
    cases lines rest <;> exact List.cons_ne_nil _ _
  | _ => exact List.cons_ne_nil _ _

/-- With line feeds between them, the lines are the whole text. -/
theorem joinWith_lines (t : Text) : joinWith ['\n'] (lines t) = t.withFeeds := by
  have next : ∀ u : Text, joinWith ['\n'] ([] :: lines u) = '\n' :: joinWith ['\n'] (lines u) := fun u =>
    joinWith_cons_of_ne_nil (lines_ne_nil u) []
  rw [← lines_withFeeds]
  fun_induction withFeeds t with
  | case1 => rfl
  | case2 rest ih => rw [lines_feed, next, ih]
  | case3 rest _ ih => rw [lines_feed, next, ih]
  | case4 c rest _ hr ih =>
    by_cases hn : c = '\n'
    · rw [hn, lines_feed, next, ih]
    · rw [lines_cons hr hn, joinWith_growFirst, ih]

/-! ## Cuts at one character -/

/-- The pieces of a text between the occurrences of a character. -/
def cutAt (s : Char) : Text → List Text
  | [] => [[]]
  | c :: t => if c = s then [] :: cutAt s t else growFirst c (cutAt s t)

variable {s : Char} {ls : List Text}

/-- The lines that end at LF only are the pieces between the LFs. -/
theorem feedLines_eq_cutAt (t : Text) : feedLines t = cutAt '\n' t := by
  fun_induction feedLines t with
  | case1 => rfl
  | case2 t ih => rw [cutAt, if_pos rfl, ih]
  | case3 c t h ih => rw [cutAt, if_neg h, ih]

/-- A piece ends at the first occurrence of the character. -/
theorem cutAt_append (h : s ∉ l) (t : Text) : cutAt s (l ++ s :: t) = l :: cutAt s t := by
  induction l with
  | nil => rw [List.nil_append, cutAt, if_pos rfl]
  | cons c l ih =>
    rw [List.cons_append, cutAt, if_neg (List.ne_of_not_mem_cons h).symm, ih (List.not_mem_of_not_mem_cons h)]
    rfl

/-- A text without the character is in one piece. -/
theorem cutAt_of_not_mem (h : s ∉ l) : cutAt s l = [l] := by
  induction l with
  | nil => rfl
  | cons c l ih =>
    rw [cutAt, if_neg (List.ne_of_not_mem_cons h).symm, ih (List.not_mem_of_not_mem_cons h)]
    rfl

/-- Pieces without the character are what the text with it between them is cut into. -/
theorem cutAt_joinWith (hne : ls ≠ []) (h : ∀ l ∈ ls, s ∉ l) : cutAt s (joinWith [s] ls) = ls := by
  induction ls with
  | nil => exact absurd rfl hne
  | cons l ls ih =>
    obtain ⟨hl, hls⟩ := List.forall_mem_cons.mp h
    cases ls with
    | nil => simpa [joinWith] using cutAt_of_not_mem hl
    | cons m ls => rw [joinWith_cons_of_ne_nil (by simp), cutAt_append hl, ih (by simp) hls]

theorem cutAt_ne_nil (s : Char) (t : Text) : cutAt s t ≠ [] := by
  cases t with
  | nil => exact List.cons_ne_nil _ _
  | cons c t =>
    rw [cutAt]
    split
    · exact List.cons_ne_nil _ _
    · cases cutAt s t <;> exact List.cons_ne_nil _ _

/-- With the character between them, the pieces are the whole text. -/
theorem joinWith_cutAt (s : Char) (t : Text) : joinWith [s] (cutAt s t) = t := by
  induction t with
  | nil => rfl
  | cons c t ih =>
    rw [cutAt]
    split
    case isTrue hc => rw [joinWith_cons_of_ne_nil (cutAt_ne_nil s t), ih, hc, List.nil_append]
    case isFalse => rw [joinWith_growFirst, ih]

/-- A piece does not hold the character. -/
theorem not_mem_cutAt (s : Char) (t : Text) : ∀ l ∈ cutAt s t, s ∉ l := by
  induction t with
  | nil => simp [cutAt]
  | cons c t ih =>
    intro l hl
    rw [cutAt] at hl
    split at hl
    case isTrue =>
      rcases List.mem_cons.mp hl with rfl | hl
      · exact List.not_mem_nil
      · exact ih l hl
    case isFalse hc =>
      rcases mem_growFirst hl with rfl | ⟨m, hm, rfl⟩ | hl
      · simpa using Ne.symm hc
      · exact List.not_mem_cons_of_ne_of_not_mem (Ne.symm hc) (ih m hm)
      · exact ih l hl

end Text

/-! ## Template lines -/

variable {T t : Text} {n : Nat}

/-- A document has the same sources after its line breaks have been made LF. -/
theorem Source.ofDocument_withFeeds (filename T : Text) :
    Source.ofDocument filename T.withFeeds = Source.ofDocument filename T := by
  unfold Source.ofDocument templateLines
  rw [Text.lines_withFeeds]

/-- The template lines are the lines that are not blank, with their numbers. -/
theorem mem_templateLines :
    (n, t) ∈ templateLines T ↔ ∃ i, n = i + 1 ∧ (Text.lines T)[i]? = some t ∧ isBlankLine t = false := by
  unfold templateLines
  rw [List.mem_filterMap]
  constructor
  · rintro ⟨⟨u, m⟩, hm, h⟩
    obtain ⟨le, hu⟩ := List.mem_zipIdx_iff_le_and_getElem?_sub.mp hm
    simp only [Option.ite_none_left_eq_some, Bool.not_eq_true, Option.some.injEq, Prod.mk.injEq] at h
    obtain ⟨blank, rfl, rfl⟩ := h
    exact ⟨m - 1, (Nat.sub_add_cancel le).symm, hu, blank⟩
  · rintro ⟨i, rfl, hi, blank⟩
    refine ⟨(t, i + 1), List.mem_zipIdx_iff_le_and_getElem?_sub.mpr ⟨Nat.le_add_left 1 i, hi⟩, ?_⟩
    simp [blank]

/-- The lines that hold templates come in the order of their numbers, and no number comes twice. -/
theorem templateLines_sorted (T : Text) : (templateLines T).Pairwise fun x y => x.1 < y.1 := by
  have numbers : ((Text.lines T).zipIdx 1).Pairwise fun x y => x.2 < y.2 := by
    rw [← List.pairwise_map (f := Prod.snd) (R := (· < ·)), List.zipIdx_map_snd]
    exact List.pairwise_lt_range' 1
  refine List.Pairwise.filterMap _ (fun x y lt a ha b hb => ?_) numbers
  simp only [Option.ite_none_left_eq_some, Option.some.injEq] at ha hb
  rw [← ha.2, ← hb.2]
  exact lt

end BarTemplate
