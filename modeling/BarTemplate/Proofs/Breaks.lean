import BarTemplate.Proofs.Lines

/-!
# Line breaks

Main statement: cutting a text into lines loses nothing, and cuts nowhere but at LF, CRLF and CR
(`Text.lines_lossless`). The lines and the breaks between them are the text, and there is one such cut only
(`CutBy.unique`); a pair of CR and LF is one break (`length_lines`); and the lines of two texts with an LF between them
are the lines of both, where a CR before the LF belongs to the break (`lines_append_feed`).
-/

namespace BarTemplate.Text

variable {t u l : Text} {ls : List Text}

/-! ## Cuts -/

theorem head_ne_feed (h : ∀ u : Text, t = '\n' :: u → False) : t.head? ≠ some '\n' := by
  intro hd
  obtain ⟨u, rfl⟩ := List.head?_eq_some_iff.mp hd
  exact h u rfl

/-- A line break: LF, CRLF or CR. -/
inductive Break where
  | feed
  | returnFeed
  | carriageReturn
  deriving DecidableEq, Repr

/-- The code points of a line break. -/
def Break.text : Break → Text
  | .feed => ['\n']
  | .returnFeed => ['\r', '\n']
  | .carriageReturn => ['\r']

variable {b : Break} {bs : List Break}

/-- Lines with breaks between them, as one text. -/
def joinBreaks : List Text → List Break → Text
  | l :: ls, b :: bs => l ++ b.text ++ joinBreaks ls bs
  | ls, _ => ls.flatten

/-- A text is cut into lines by breaks: a break stands between every two lines, together they are the text, and a CR and
an LF with nothing between them are no two breaks. -/
structure CutBy (t : Text) (ls : List Text) (bs : List Break) : Prop where
  between : ls.length = bs.length + 1
  whole : joinBreaks ls bs = t
  pairs : ∀ i, bs[i]? = some .carriageReturn → ls[i + 1]? = some [] → bs[i + 1]? ≠ some .feed

/-- A single line has no break. -/
theorem cutBy_last : CutBy t [l] bs ↔ bs = [] ∧ l = t := by
  constructor
  · rintro ⟨between, whole, -⟩
    obtain rfl : bs = [] := List.eq_nil_of_length_eq_zero (by simpa using between.symm)
    exact ⟨rfl, by simpa [joinBreaks] using whole⟩
  · rintro ⟨rfl, rfl⟩
    exact ⟨rfl, by simp [joinBreaks], by simp⟩

/-- After a line and a break, the rest of a text is cut by the rest. -/
theorem cutBy_cons : CutBy t (l :: ls) (b :: bs) ↔ ∃ u, l ++ b.text ++ u = t ∧ CutBy u ls bs ∧
    (b = .carriageReturn → ls.head? = some [] → bs.head? ≠ some .feed) := by
  constructor
  · rintro ⟨between, whole, pairs⟩
    refine ⟨_, whole, ⟨by simpa using between, rfl, fun i => pairs (i + 1)⟩, fun hb => ?_⟩
    have first := pairs 0 (by rw [hb, List.getElem?_cons_zero])
    simpa [List.head?_eq_getElem?] using first
  · rintro ⟨u, whole, ⟨between, rfl, pairs⟩, first⟩
    refine ⟨by simp [between], whole, fun i => ?_⟩
    cases i with
    | zero => simpa [List.head?_eq_getElem?] using first
    | succ i => exact pairs i

/-- A cut is one line without breaks, or a line, a break and a cut of the rest. -/
theorem CutBy.cases (h : CutBy t ls bs) : (ls = [t] ∧ bs = []) ∨ ∃ l ls' b bs' u, ls = l :: ls' ∧ bs = b :: bs' ∧
    l ++ b.text ++ u = t ∧ CutBy u ls' bs' ∧ (b = .carriageReturn → ls'.head? = some [] → bs'.head? ≠ some .feed) := by
  cases ls with
  | nil => cases h.between
  | cons l ls =>
    cases bs with
    | nil =>
      obtain rfl : ls = [] := List.eq_nil_of_length_eq_zero (by simpa using h.between)
      obtain ⟨-, rfl⟩ := cutBy_last.mp h
      exact Or.inl ⟨rfl, rfl⟩
    | cons b bs =>
      obtain ⟨u, whole, rest, pairs⟩ := cutBy_cons.mp h
      exact Or.inr ⟨l, ls, b, bs, u, rfl, rfl, whole, rest, pairs⟩

/-- A character that belongs to no break goes to the first line. -/
theorem CutBy.growFirst (h : CutBy t ls bs) (c : Char) : CutBy (c :: t) (growFirst c ls) bs := by
  rcases h.cases with ⟨rfl, rfl⟩ | ⟨l, ls, b, bs, u, rfl, rfl, rfl, rest, pairs⟩
  · exact cutBy_last.mpr ⟨rfl, rfl⟩
  · exact cutBy_cons.mpr ⟨u, rfl, rest, pairs⟩

/-- A cut of a text that begins with a character of a break has an empty first line, and then a break. -/
theorem CutBy.break_first {c : Char} (hc : c = '\n' ∨ c = '\r') (h : CutBy (c :: t) ls bs)
    (clean : ∀ l ∈ ls, '\n' ∉ l ∧ '\r' ∉ l) : ∃ ls' b bs' u, ls = [] :: ls' ∧ bs = b :: bs' ∧ b.text ++ u = c :: t ∧
      CutBy u ls' bs' ∧ (b = .carriageReturn → ls'.head? = some [] → bs'.head? ≠ some .feed) := by
  rcases h.cases with ⟨rfl, rfl⟩ | ⟨l, ls, b, bs, u, rfl, rfl, whole, rest, pairs⟩
  · have only := clean _ List.mem_cons_self
    rcases hc with rfl | rfl <;> simp at only
  · cases l with
    | nil => exact ⟨ls, b, bs, u, rfl, rfl, whole, rest, pairs⟩
    | cons d l =>
      have first := clean _ List.mem_cons_self
      obtain rfl : d = c := (List.cons.inj whole).1
      rcases hc with rfl | rfl <;> simp at first

/-- A cut of a text that begins with another character has that in its first line. -/
theorem CutBy.char_first {c : Char} (hn : c ≠ '\n') (hr : c ≠ '\r') (h : CutBy (c :: t) ls bs) :
    ∃ l ls', ls = (c :: l) :: ls' ∧ CutBy t (l :: ls') bs := by
  rcases h.cases with ⟨rfl, rfl⟩ | ⟨l, ls, b, bs, u, rfl, rfl, whole, rest, pairs⟩
  · exact ⟨t, [], rfl, cutBy_last.mpr ⟨rfl, rfl⟩⟩
  · cases l with
    | nil => cases b <;> simp [Break.text, Ne.symm hn, Ne.symm hr] at whole
    | cons d l =>
      obtain ⟨rfl, rfl⟩ := List.cons.inj whole
      exact ⟨l, ls, rfl, cutBy_cons.mpr ⟨u, rfl, rest, pairs⟩⟩

/-! ## The cut into lines -/

/-- The line breaks of a text, in order. A CR and an LF after it are one. -/
def breaks : Text → List Break
  | [] => []
  | '\r' :: '\n' :: rest => .returnFeed :: breaks rest
  | '\r' :: rest => .carriageReturn :: breaks rest
  | '\n' :: rest => .feed :: breaks rest
  | _ :: rest => breaks rest

/-- The breaks of a text cut it into its lines. -/
theorem cutBy_lines (t : Text) : CutBy t (lines t) (breaks t) := by
  fun_induction breaks t with
  | case1 => exact cutBy_last.mpr ⟨rfl, rfl⟩
  | case2 rest ih => exact cutBy_cons.mpr ⟨rest, rfl, ih, nofun⟩
  | case3 rest h ih =>
    rw [lines_return (head_ne_feed h)]
    refine cutBy_cons.mpr ⟨rest, rfl, ih, fun _ hl hb => head_ne_feed h ?_⟩
    -- Otherwise the rest is its first line, which is empty, its first break, which is an LF, and more.
    rcases ih.cases with ⟨-, hbs⟩ | ⟨l, ls, b, bs, u, hls, hbs, rfl, -, -⟩
    · rw [hbs] at hb
      cases hb
    · rw [hls] at hl
      rw [hbs] at hb
      cases hl
      cases hb
      rfl
  | case4 rest ih =>
    rw [lines_feed]
    exact cutBy_cons.mpr ⟨rest, rfl, ih, nofun⟩
  | case5 c rest _ hr hn ih =>
    rw [lines_cons hr hn]
    exact ih.growFirst c

/-- There is no other cut into lines that hold no character of a break. -/
theorem CutBy.unique (h : CutBy t ls bs) (clean : ∀ l ∈ ls, '\n' ∉ l ∧ '\r' ∉ l) : ls = lines t ∧ bs = breaks t := by
  fun_induction breaks t generalizing ls bs with
  | case1 =>
    rcases h.cases with ⟨rfl, rfl⟩ | ⟨l, ls, b, bs, u, rfl, rfl, whole, -, -⟩
    · exact ⟨rfl, rfl⟩
    · cases b <;> simp [Break.text] at whole
  | case2 rest ih =>
    obtain ⟨ls, b, bs, u, rfl, rfl, whole, cut, pairs⟩ := h.break_first (Or.inr rfl) clean
    have more := (List.forall_mem_cons.mp clean).2
    cases b with
    | feed => cases whole
    | returnFeed =>
      cases whole
      obtain ⟨rfl, rfl⟩ := ih cut more
      exact ⟨rfl, rfl⟩
    | carriageReturn =>
      -- The LF after the CR would be the next break, and only an empty line between the two.
      cases whole
      obtain ⟨ls, b, bs, u, rfl, rfl, whole, -, -⟩ := cut.break_first (Or.inl rfl) more
      cases b with
      | feed => exact absurd rfl (pairs rfl rfl)
      | returnFeed => cases whole
      | carriageReturn => cases whole
  | case3 rest alone ih =>
    obtain ⟨ls, b, bs, u, rfl, rfl, whole, cut, -⟩ := h.break_first (Or.inr rfl) clean
    cases b with
    | feed => cases whole
    | returnFeed =>
      cases whole
      exact absurd rfl (alone u)
    | carriageReturn =>
      cases whole
      obtain ⟨rfl, rfl⟩ := ih cut (List.forall_mem_cons.mp clean).2
      rw [lines_return (head_ne_feed alone)]
      exact ⟨rfl, rfl⟩
  | case4 rest ih =>
    obtain ⟨ls, b, bs, u, rfl, rfl, whole, cut, -⟩ := h.break_first (Or.inl rfl) clean
    cases b with
    | feed =>
      cases whole
      obtain ⟨rfl, rfl⟩ := ih cut (List.forall_mem_cons.mp clean).2
      rw [lines_feed]
      exact ⟨rfl, rfl⟩
    | returnFeed => cases whole
    | carriageReturn => cases whole
  | case5 c rest _ hr hn ih =>
    obtain ⟨l, ls, rfl, cut⟩ := h.char_first hn hr
    obtain ⟨⟨first, firstReturn⟩, more⟩ := List.forall_mem_cons.mp clean
    have tail : '\n' ∉ l ∧ '\r' ∉ l :=
      ⟨fun hl => first (List.mem_cons_of_mem c hl), fun hl => firstReturn (List.mem_cons_of_mem c hl)⟩
    obtain ⟨hls, hbs⟩ := ih cut (List.forall_mem_cons.mpr ⟨tail, more⟩)
    rw [lines_cons hr hn, ← hls]
    exact ⟨rfl, hbs⟩

/-! ## The number of lines -/

/-- The number of places where a CR stands right before an LF. -/
def returnFeeds (t : Text) : Nat :=
  (t.zip t.tail).count ('\r', '\n')

/-- One character more is one CRLF more if it is a CR before an LF. -/
theorem returnFeeds_cons (c : Char) (t : Text) :
    returnFeeds (c :: t) = returnFeeds t + if c = '\r' ∧ t.head? = some '\n' then 1 else 0 := by
  unfold returnFeeds
  cases t with
  | nil => simp
  | cons d t => simp [List.count_cons]

theorem length_growFirst (c : Char) (h : ls ≠ []) : (growFirst c ls).length = ls.length := by
  cases ls with
  | nil => exact absurd rfl h
  | cons l ls => rfl

/-- There is one line more than breaks. -/
theorem length_lines (t : Text) : (lines t).length + returnFeeds t = t.count '\n' + t.count '\r' + 1 := by
  fun_induction lines t with
  | case1 => rfl
  | case2 rest ih =>
    simp [returnFeeds_cons]
    omega
  | case3 rest alone ih =>
    simp [returnFeeds_cons, head_ne_feed alone]
    omega
  | case4 rest ih =>
    simp [returnFeeds_cons]
    omega
  | case5 c rest _ hr hn ih =>
    have notReturn : c ≠ '\r' := hr
    have notFeed : c ≠ '\n' := hn
    rw [length_growFirst c (lines_ne_nil rest), returnFeeds_cons, List.count_cons_of_ne notFeed,
      List.count_cons_of_ne notReturn, if_neg fun h => notReturn h.1]
    exact ih

/-! ## Translated breaks -/

/-- A text with LF in the place of every CRLF. -/
def pairsToFeeds : Text → Text
  | [] => []
  | '\r' :: '\n' :: rest => '\n' :: pairsToFeeds rest
  | c :: rest => c :: pairsToFeeds rest

/-- To make every CRLF an LF and then every CR that is left is to do both at once. -/
theorem withFeeds_eq (t : Text) : (pairsToFeeds t).map (fun c => if c = '\r' then '\n' else c) = t.withFeeds := by
  fun_induction withFeeds t with
  | case1 => rfl
  | case2 rest ih => simp [pairsToFeeds, ih]
  | case3 rest alone ih =>
    rw [pairsToFeeds]
    · simp [ih]
    · exact fun u _ => alone u
  | case4 c rest _ hr ih =>
    rw [pairsToFeeds]
    · rw [List.map_cons, ih, if_neg hr]
    · exact fun u hc => absurd hc hr

/-! ## Texts joined by an LF -/

/-- A text without the CR at its end, if there is one. -/
def dropReturn (t : Text) : Text :=
  if t.getLast? = some '\r' then t.dropLast else t

/-- Only a CR at the very end is dropped. -/
theorem dropReturn_cons {c : Char} (h : c ≠ '\r' ∨ t ≠ []) : dropReturn (c :: t) = c :: dropReturn t := by
  unfold dropReturn
  cases t with
  | nil =>
    have hc : c ≠ '\r' := h.resolve_right fun hne => hne rfl
    simp [hc]
  | cons d t =>
    rw [List.getLast?_cons_cons, List.dropLast_cons_cons]
    split <;> rfl

theorem head_dropReturn_ne_feed (h : t.head? ≠ some '\n') : (dropReturn t).head? ≠ some '\n' := by
  cases t with
  | nil => simp [dropReturn]
  | cons c t =>
    by_cases hc : c ≠ '\r' ∨ t ≠ []
    · rw [dropReturn_cons hc]
      exact h
    · obtain ⟨hr, ht⟩ := not_or.mp hc
      obtain rfl : c = '\r' := Decidable.not_not.mp hr
      obtain rfl : t = [] := Decidable.not_not.mp ht
      simp [dropReturn]

theorem growFirst_append (c : Char) (h : ls ≠ []) (ms : List Text) :
    growFirst c (ls ++ ms) = growFirst c ls ++ ms := by
  cases ls with
  | nil => exact absurd rfl h
  | cons l ls => rfl

/-- An LF between two texts is a break, and a CR before it belongs to the break. -/
theorem lines_append_feed (t u : Text) : lines (t ++ '\n' :: u) = lines (dropReturn t) ++ lines u := by
  fun_induction lines t with
  | case1 => exact lines_feed u
  | case2 rest ih =>
    rw [dropReturn_cons (Or.inr (by simp)), dropReturn_cons (Or.inl (by decide))]
    exact congrArg ([] :: ·) ih
  | case3 rest alone ih =>
    cases rest with
    | nil => rfl
    | cons d rest =>
      have head : (d :: rest).head? ≠ some '\n' := head_ne_feed alone
      have joined : (d :: rest ++ '\n' :: u).head? ≠ some '\n' := head
      rw [dropReturn_cons (Or.inr (by simp)), lines_return (head_dropReturn_ne_feed head), List.cons_append,
        lines_return joined, ih]
      rfl
  | case4 rest ih =>
    rw [dropReturn_cons (Or.inl (by decide)), lines_feed, List.cons_append, lines_feed, ih]
    rfl
  | case5 c rest _ hr hn ih =>
    rw [dropReturn_cons (Or.inl hr), lines_cons hr hn, List.cons_append, lines_cons hr hn, ih,
      growFirst_append c (lines_ne_nil _)]

/-- The lines of a text hold no character of a break, and there is one list of breaks that cuts the text into them and
one only, which no other lines of this kind have. There is one line more than LFs and CRs, with a CRLF counted once. The
lines stay as they are when the breaks are made LF, and an LF between two texts is a break that joins their lines. -/
theorem lines_lossless (t : Text) :
    (∀ l ∈ lines t, '\n' ∉ l ∧ '\r' ∉ l) ∧
      (∃ bs, CutBy t (lines t) bs ∧
        ∀ ls bs', (∀ l ∈ ls, '\n' ∉ l ∧ '\r' ∉ l) → CutBy t ls bs' → ls = lines t ∧ bs' = bs) ∧
      (lines t).length + (t.zip t.tail).count ('\r', '\n') = t.count '\n' + t.count '\r' + 1 ∧
      lines ((pairsToFeeds t).map fun c => if c = '\r' then '\n' else c) = lines t ∧
      ∀ u : Text, lines (t ++ '\n' :: u) =
        (if t.getLast? = some '\r' then lines t.dropLast else lines t) ++ lines u := by
  refine ⟨break_not_mem_lines t, ⟨breaks t, cutBy_lines t, fun ls bs clean cut => cut.unique clean⟩, length_lines t, ?_, ?_⟩
  · rw [withFeeds_eq, lines_withFeeds]
  · intro u
    rw [lines_append_feed, dropReturn, apply_ite lines]

/-- Between two letters, CR CR LF are a CR and a CRLF with an empty line between them, and cannot be two CRs and an LF.
-/
theorem lines_of_returns :
    lines ['a', '\r', '\r', '\n', 'b'] = [['a'], [], ['b']] ∧ ∀ ls bs, (∀ l ∈ ls, '\n' ∉ l ∧ '\r' ∉ l) →
      CutBy ['a', '\r', '\r', '\n', 'b'] ls bs → ls = [['a'], [], ['b']] ∧ bs = [.carriageReturn, .returnFeed] := by
  obtain ⟨-, ⟨bs, -, only⟩, -⟩ := lines_lossless ['a', '\r', '\r', '\n', 'b']
  have lines : lines ['a', '\r', '\r', '\n', 'b'] = [['a'], [], ['b']] := rfl
  have cut : CutBy ['a', '\r', '\r', '\n', 'b'] [['a'], [], ['b']] [.carriageReturn, .returnFeed] :=
    cutBy_cons.mpr ⟨_, rfl, cutBy_cons.mpr ⟨_, rfl, cutBy_last.mpr ⟨rfl, rfl⟩, nofun⟩, fun _ _ => by simp⟩
  obtain ⟨-, rfl⟩ := only _ _ (by simp) cut
  rw [lines] at only
  exact ⟨lines, only⟩

end BarTemplate.Text
