import BarTemplate.Proofs.Quoted
import BarTemplate.Proofs.Source
import BarTemplate.Template.Outline

/-!
# Outlines are unambiguous

Main statement: two well-formed templates with the same outline are equal (`Template.outline_inj`). The text of an
outline gives its lines back, since no label has a line break or begins with a space (`written_inj`). The lines give the
nodes back: a node reaches to the next line that is not deeper than its first one (`Shallower`), and its kind can be
told from its first letter, or from where it stands.
-/

namespace BarTemplate

variable {a b r s : Text} {c : Char}

/-! ## Cutting a text at a character -/

/-- A character that is in neither of two texts ends both at the same place. -/
theorem append_cons_inj (ha : c ∉ a) (hb : c ∉ b) (h : a ++ c :: r = b ++ c :: s) : a = b ∧ r = s := by
  have cut : ∀ {t u : Text}, c ∉ t →
      (t ++ c :: u).takeWhile (· ≠ c) = t ∧ (t ++ c :: u).dropWhile (· ≠ c) = c :: u := by
    intro t u ht
    refine Grammar.span_iff.mpr ⟨rfl, fun d hd => ?_, Grammar.stopsAt_cons.mpr (by simp)⟩
    have : d ≠ c := fun e => ht (e ▸ hd)
    simpa using this
  have first := (cut (u := r) ha).1
  have rest := (cut (u := r) ha).2
  rw [h] at first rest
  rw [(cut hb).1] at first
  rw [(cut hb).2] at rest
  exact ⟨first.symm, (List.cons.inj rest).2.symm⟩

/-- A character that is in neither of two ends begins both at the same place. -/
theorem append_cons_inj_right (hr : c ∉ r) (hs : c ∉ s) (h : a ++ c :: r = b ++ c :: s) : a = b ∧ r = s := by
  have reversed := congrArg List.reverse h
  simp only [List.reverse_append, List.reverse_cons, List.append_assoc, List.singleton_append] at reversed
  obtain ⟨ends, starts⟩ := append_cons_inj (by simpa using hr) (by simpa using hs) reversed
  exact ⟨List.reverse_inj.mp starts, List.reverse_inj.mp ends⟩

/-! ## Lines and their text -/

/-- A label that keeps to its line and does not look like indentation. -/
def OutlineLine.Clean (l : OutlineLine) : Prop :=
  '\n' ∉ l.label ∧ l.label.head? ≠ some ' '

/-- Clean lines can be told apart at the beginning of a text, with what follows them: the spaces give the level, and the
newline ends the label. -/
theorem OutlineLine.written_append_inj {l m : OutlineLine} (hl : l.Clean) (hm : m.Clean)
    (h : l.written ++ r = m.written ++ s) : l = m ∧ r = s := by
  have cut : ∀ {l : OutlineLine} {r : Text}, l.Clean →
      (l.written ++ r).takeWhile (· = ' ') = Text.spaces (2 * l.level) ∧
      (l.written ++ r).dropWhile (· = ' ') = l.label ++ '\n' :: r := by
    intro l r hl
    refine Grammar.span_iff.mpr ⟨by simp [OutlineLine.written], fun d hd => ?_, ?_⟩
    · simpa using List.eq_of_mem_replicate hd
    · cases hx : l.label with
      | nil => exact Grammar.stopsAt_cons.mpr (by decide)
      | cons d t =>
        have : d ≠ ' ' := by
          rintro rfl
          exact hl.2 (by rw [hx]; rfl)
        exact Grammar.stopsAt_cons.mpr (by simpa using this)
  have indentation := congrArg (List.takeWhile (· = ' ')) h
  have labels := congrArg (List.dropWhile (· = ' ')) h
  rw [(cut hl).1, (cut hm).1] at indentation
  rw [(cut hl).2, (cut hm).2] at labels
  have level : l.level = m.level := by
    have : 2 * l.level = 2 * m.level := by simpa [Text.spaces] using congrArg List.length indentation
    omega
  obtain ⟨label, rest⟩ := append_cons_inj hl.1 hm.1 labels
  cases l
  cases m
  exact ⟨(OutlineLine.mk.injEq ..).mpr ⟨level, label⟩, rest⟩

/-- The text of clean lines gives the lines back. -/
theorem written_inj : ∀ {ls ms : List OutlineLine}, (∀ l ∈ ls, l.Clean) → (∀ m ∈ ms, m.Clean) →
    ls.flatMap OutlineLine.written = ms.flatMap OutlineLine.written → ls = ms
  | [], [], _, _, _ => rfl
  | [], m :: ms, _, _, h => by simp [OutlineLine.written] at h
  | l :: ls, [], _, _, h => by simp [OutlineLine.written] at h
  | l :: ls, m :: ms, hl, hm, h => by
    rw [List.forall_mem_cons] at hl hm
    rw [List.flatMap_cons, List.flatMap_cons] at h
    obtain ⟨rfl, rest⟩ := OutlineLine.written_append_inj hl.1 hm.1 h
    rw [written_inj hl.2 hm.2 rest]

/-! ## Lines and their nodes -/

namespace Outline

variable {level : Nat} {ls ms : List OutlineLine}

/-- Lines that do not begin at a level or deeper. -/
def Shallower (level : Nat) (ls : List OutlineLine) : Prop :=
  ∀ l ∈ ls.head?, l.level < level

theorem shallower_nil : Shallower level [] := by
  intro l hl
  cases hl

theorem shallower_cons {l : OutlineLine} : Shallower level (l :: ls) ↔ l.level < level := by
  simp [Shallower]

/-- A line on a level does not begin lines that are shallower than it. -/
theorem Shallower.ne_cons {l : OutlineLine} (h : Shallower l.level ls) (hls : ls = l :: ms) : False := by
  rw [hls] at h
  exact Nat.lt_irrefl _ (shallower_cons.mp h)

/-- Shallower than a level is shallower than every deeper one. -/
theorem Shallower.deeper {level' : Nat} (h : Shallower level ls) (le : level ≤ level') : Shallower level' ls :=
  fun l hl => Nat.lt_of_lt_of_le (h l hl) le

/-- A character outside the characters of names. -/
theorem not_mem_of_isName {w : Text} (h : IsName w) (hc : isNameChar c = false ∧ Unicode.isMark c = false) : c ∉ w := by
  cases w with
  | nil => cases h
  | cons d w =>
    obtain ⟨first, more⟩ := h
    intro hm
    rcases List.mem_cons.mp hm with rfl | hm
    · rw [hc.1] at first
      cases first
    · rcases more c hm with h | h
      · rw [hc.1] at h
        cases h
      · rw [hc.2] at h
        cases h

theorem level_ofArgument (level : Nat) (x : Argument) : (ofArgument level x).level = level := by
  unfold ofArgument
  split <;> rfl

/-- How the line of an argument with a value reads. -/
theorem ofArgument_valued (k v : Text) :
    ofArgument level { key := k, value := some v } = ⟨level, "Arg " ++ (k ++ '=' :: Quoted.encode v)⟩ := by
  simp [ofArgument]

/-- The key of an argument ends at the first equals sign of its line, or with the line. -/
theorem ofArgument_inj : ∀ {x y : Argument}, '=' ∉ x.key → '=' ∉ y.key → ofArgument level x = ofArgument level y → x = y
  | ⟨k, none⟩, ⟨k', none⟩, _, _, h => by
    have keys : k = k' := List.append_cancel_left (congrArg OutlineLine.label h)
    rw [keys]
  | ⟨k, none⟩, ⟨k', some v⟩, hx, _, h => by
    rw [ofArgument_valued] at h
    have keys : k = k' ++ '=' :: Quoted.encode v := List.append_cancel_left (congrArg OutlineLine.label h)
    exact absurd (by rw [keys]; simp) hx
  | ⟨k, some v⟩, ⟨k', none⟩, _, hy, h => by
    rw [ofArgument_valued] at h
    have keys : k ++ '=' :: Quoted.encode v = k' := List.append_cancel_left (congrArg OutlineLine.label h)
    exact absurd (by rw [← keys]; simp) hy
  | ⟨k, some v⟩, ⟨k', some v'⟩, hx, hy, h => by
    rw [ofArgument_valued, ofArgument_valued] at h
    obtain ⟨rfl, values⟩ := append_cons_inj hx hy (List.append_cancel_left (congrArg OutlineLine.label h))
    obtain ⟨rfl, -⟩ := Quoted.encode_append_inj (congrArg (· ++ []) values)
    rfl

/-- Arguments go on for as long as the lines are on their level. -/
theorem ofArguments_inj : ∀ {xs ys : List Argument}, (∀ x ∈ xs, '=' ∉ x.key) → (∀ y ∈ ys, '=' ∉ y.key) →
    Shallower level ls → Shallower level ms →
    xs.map (ofArgument level) ++ ls = ys.map (ofArgument level) ++ ms → xs = ys ∧ ls = ms
  | [], [], _, _, _, _, h => ⟨rfl, h⟩
  | [], y :: ys, _, _, hl, _, h => by
    rw [← level_ofArgument level y] at hl
    exact (hl.ne_cons h).elim
  | x :: xs, [], _, _, _, hm, h => by
    rw [← level_ofArgument level x] at hm
    exact (hm.ne_cons h.symm).elim
  | x :: xs, y :: ys, hx, hy, hl, hm, h => by
    rw [List.forall_mem_cons] at hx hy
    obtain ⟨first, rest⟩ := List.cons.inj h
    obtain ⟨rfl, hr⟩ := ofArguments_inj hx.2 hy.2 hl hm rest
    rw [ofArgument_inj hx.1 hy.1 first]
    exact ⟨rfl, hr⟩

/-- A name has no equals sign in it, so the first one in the line of an argument ends its key. -/
theorem equals_not_mem_key {xs : List Argument} (h : ∀ x ∈ xs, x.WellFormed) : ∀ x ∈ xs, '=' ∉ x.key :=
  fun x hx => not_mem_of_isName (h x hx).1 (by decide)

/-- The lines of a formatter tell it, and where they end. -/
theorem ofFormatter_inj {f g : Formatter} (hf : f.WellFormed) (hg : g.WellFormed) (hl : Shallower (level + 1) ls)
    (hm : Shallower (level + 1) ms) (h : ofFormatter level f ++ ls = ofFormatter level g ++ ms) : f = g ∧ ls = ms := by
  obtain ⟨first, rest⟩ := List.cons.inj h
  have name : f.name = g.name := List.append_cancel_left (congrArg OutlineLine.label first)
  obtain ⟨arguments, hr⟩ := ofArguments_inj (equals_not_mem_key hf.2) (equals_not_mem_key hg.2) hl hm rest
  exact ⟨(Formatter.mk.injEq ..).mpr ⟨name, arguments⟩, hr⟩

/-- A formatter is there if the next line is deeper than the placeholder. -/
theorem ofPlaceholder_inj {p q : Placeholder} (hp : p.WellFormed) (hq : q.WellFormed) (hl : Shallower (level + 1) ls)
    (hm : Shallower (level + 1) ms) (h : ofPlaceholder level p ++ ls = ofPlaceholder level q ++ ms) :
    p = q ∧ ls = ms := by
  obtain ⟨first, rest⟩ := List.cons.inj h
  have name : p.name = q.name := List.append_cancel_left (congrArg OutlineLine.label first)
  obtain ⟨n, f⟩ := p
  obtain ⟨n', g⟩ := q
  cases name
  match f, g with
  | none, none => exact ⟨rfl, rest⟩
  | none, some g => exact (Shallower.ne_cons hl rest).elim
  | some f, none => exact (Shallower.ne_cons hm rest.symm).elim
  | some f, some g =>
    obtain ⟨rfl, hr⟩ := ofFormatter_inj (hp.2 f rfl) (hq.2 g rfl) (hl.deeper (by omega)) (hm.deeper (by omega)) rest
    exact ⟨rfl, hr⟩

/-- The first letter of the line of a token, which tells its kind. -/
def initial : Token → Char
  | .text _ => 'T'
  | .placeholder _ => 'P'
  | .icon _ => 'I'
  | .group _ => 'R'

/-- A token begins with a line on its level. -/
theorem ofToken_eq_cons (level : Nat) (t : Token) :
    ∃ label below, ofToken level t = ⟨level, initial t :: label⟩ :: below := by
  cases t <;> exact ⟨_, _, rfl⟩

/-- Tokens with the same first line are of the same kind. -/
theorem initial_eq {t u : Token} (h : ofToken level t ++ ls = ofToken level u ++ ms) : initial t = initial u := by
  obtain ⟨label, below, ht⟩ := ofToken_eq_cons level t
  obtain ⟨label', below', hu⟩ := ofToken_eq_cons level u
  rw [ht, hu] at h
  exact (List.cons.inj (congrArg OutlineLine.label (List.cons.inj h).1)).1

/-- The lines of tokens begin on their own level, which is shallower than anything inside a token. -/
theorem shallower_ofTokens {ts : List Token} (h : Shallower (level + 1) ls) :
    Shallower (level + 1) (ofTokens level ts ++ ls) := by
  cases ts with
  | nil => exact h
  | cons t ts =>
    obtain ⟨label, below, ht⟩ := ofToken_eq_cons level t
    rw [ofTokens, ht]
    exact shallower_cons.mpr (Nat.lt_succ_self level)

/-- The lines of alternatives begin on their own level, which is shallower than anything inside an alternative. -/
theorem shallower_ofAlternatives {n : Nat} {as : List (List Token)} (h : Shallower (level + 1) ls) :
    Shallower (level + 1) (ofAlternatives level n as ++ ls) := by
  cases as with
  | nil => exact h
  | cons a as => exact shallower_cons.mpr (Nat.lt_succ_self level)

mutual

/-- A token goes on for as long as the lines are deeper than its first one. -/
theorem ofToken_inj {level : Nat} {ls ms : List OutlineLine} (hl : Shallower (level + 1) ls)
    (hm : Shallower (level + 1) ms) :
    ∀ {t u : Token}, t.WellFormed → u.WellFormed → ofToken level t ++ ls = ofToken level u ++ ms → t = u ∧ ls = ms
  | .text v, u, _, _, h => by
    have kind := initial_eq h
    cases u with
    | text w =>
      obtain ⟨first, rest⟩ := List.cons.inj h
      have label : "Text(" ++ (Quoted.encode v ++ [')']) = "Text(" ++ (Quoted.encode w ++ [')']) := by
        simpa using congrArg OutlineLine.label first
      obtain ⟨rfl, -⟩ := Quoted.encode_append_inj (List.append_cancel_left label)
      exact ⟨rfl, rest⟩
    | _ => simp [initial] at kind
  | .placeholder p, u, ht, hu, h => by
    have kind := initial_eq h
    cases u with
    | placeholder q =>
      obtain ⟨rfl, rest⟩ := ofPlaceholder_inj ht hu hl hm h
      exact ⟨rfl, rest⟩
    | _ => simp [initial] at kind
  | .icon n, u, _, _, h => by
    have kind := initial_eq h
    cases u with
    | icon m =>
      obtain ⟨first, rest⟩ := List.cons.inj h
      have name : n = m := List.append_cancel_left (congrArg OutlineLine.label first)
      exact ⟨congrArg Token.icon name, rest⟩
    | _ => simp [initial] at kind
  | .group as, u, ht, hu, h => by
    have kind := initial_eq h
    cases u with
    | group bs =>
      have inner := (List.cons.inj (List.cons.inj h).2).2
      obtain ⟨rfl, rest⟩ := ofAlternatives_inj (hl.deeper (by omega)) (hm.deeper (by omega)) ht.2 hu.2 inner
      exact ⟨rfl, rest⟩
    | _ => simp [initial] at kind

/-- Tokens go on for as long as the lines are on their level or deeper. -/
theorem ofTokens_inj {level : Nat} {ls ms : List OutlineLine} (hl : Shallower level ls) (hm : Shallower level ms) :
    ∀ {ts us : List Token}, Token.WellFormedAlternative ts → Token.WellFormedAlternative us →
      ofTokens level ts ++ ls = ofTokens level us ++ ms → ts = us ∧ ls = ms
  | [], [], _, _, h => ⟨rfl, h⟩
  | [], u :: us, _, _, h => by
    obtain ⟨label, below, hu⟩ := ofToken_eq_cons level u
    rw [ofTokens, ofTokens, hu] at h
    exact (Shallower.ne_cons hl h).elim
  | t :: ts, [], _, _, h => by
    obtain ⟨label, below, ht⟩ := ofToken_eq_cons level t
    rw [ofTokens, ofTokens, ht] at h
    exact (Shallower.ne_cons hm h.symm).elim
  | t :: ts, u :: us, ht, hu, h => by
    rw [ofTokens, ofTokens, List.append_assoc, List.append_assoc] at h
    obtain ⟨rfl, rest⟩ := ofToken_inj (shallower_ofTokens (hl.deeper (by omega)))
      (shallower_ofTokens (hm.deeper (by omega))) ht.1 hu.1 h
    obtain ⟨rfl, hr⟩ := ofTokens_inj hl hm ht.2.2 hu.2.2 rest
    exact ⟨rfl, hr⟩

/-- Alternatives go on for as long as the lines are on their level or deeper. -/
theorem ofAlternatives_inj {level n : Nat} {ls ms : List OutlineLine} (hl : Shallower level ls)
    (hm : Shallower level ms) :
    ∀ {as bs : List (List Token)}, Token.WellFormedTemplate as → Token.WellFormedTemplate bs →
      ofAlternatives level n as ++ ls = ofAlternatives level n bs ++ ms → as = bs ∧ ls = ms
  | [], [], _, _, h => ⟨rfl, h⟩
  | [], b :: bs, _, _, h => (Shallower.ne_cons hl h).elim
  | a :: as, [], _, _, h => (Shallower.ne_cons hm h.symm).elim
  | a :: as, b :: bs, ha, hb, h => by
    simp only [ofAlternatives, List.cons_append, List.append_assoc] at h
    have inner := (List.cons.inj h).2
    obtain ⟨rfl, rest⟩ := ofTokens_inj (shallower_ofAlternatives (hl.deeper (by omega)))
      (shallower_ofAlternatives (hm.deeper (by omega))) ha.1 hb.1 inner
    obtain ⟨rfl, hr⟩ := ofAlternatives_inj hl hm ha.2 hb.2 rest
    exact ⟨rfl, hr⟩

end

/-- The lines of a template tell it, and where they end. -/
theorem ofTemplate_inj {t u : Template} (ht : t.WellFormed) (hu : u.WellFormed) (hl : Shallower (level + 1) ls)
    (hm : Shallower (level + 1) ms) (h : ofTemplate level t ++ ls = ofTemplate level u ++ ms) : t = u ∧ ls = ms :=
  ofAlternatives_inj hl hm ht.2 hu.2 (List.cons.inj h).2

/-! ## The lines of an outline are clean -/

theorem clean_of_words {level : Nat} {words : Text} (h : '\n' ∉ words ∧ words.head? ≠ some ' ') :
    OutlineLine.Clean ⟨level, words⟩ :=
  h

/-- A label that begins with fixed words is clean if they and what follows them are. -/
theorem clean_of_append {level : Nat} {words t : Text} (h : words ≠ [] ∧ words.head? ≠ some ' ' ∧ '\n' ∉ words)
    (ht : '\n' ∉ t) : OutlineLine.Clean ⟨level, words ++ t⟩ := by
  obtain ⟨nonempty, first, inner⟩ := h
  refine ⟨fun hn => ?_, ?_⟩
  · rcases List.mem_append.mp hn with hn | hn
    · exact inner hn
    · exact ht hn
  · cases words with
    | nil => exact absurd rfl nonempty
    | cons c words => exact first

/-- No name has a newline in it. -/
theorem newline_not_mem_of_isName {w : Text} (h : IsName w) : '\n' ∉ w :=
  not_mem_of_isName h (by decide)

/-- The line of a well-formed argument is clean: the newlines of its value are escaped. -/
theorem clean_ofArgument {x : Argument} (h : x.WellFormed) : (ofArgument level x).Clean := by
  have key := newline_not_mem_of_isName h.1
  obtain ⟨k, v⟩ := x
  cases v with
  | none => exact clean_of_append (by decide) key
  | some v =>
    have value := Quoted.newline_not_mem_encode v
    rw [ofArgument_valued]
    exact clean_of_append (by decide) (by simp_all)

/-- So are the lines of a well-formed formatter. -/
theorem clean_ofFormatter {f : Formatter} (h : f.WellFormed) : ∀ l ∈ ofFormatter level f, l.Clean := by
  intro l hl
  rcases List.mem_cons.mp hl with rfl | hl
  · exact clean_of_append (by decide) (newline_not_mem_of_isName h.1)
  · obtain ⟨x, hx, rfl⟩ := List.mem_map.mp hl
    exact clean_ofArgument (h.2 x hx)

/-- So are the lines of a well-formed placeholder. -/
theorem clean_ofPlaceholder {p : Placeholder} (h : p.WellFormed) : ∀ l ∈ ofPlaceholder level p, l.Clean := by
  intro l hl
  rcases List.mem_cons.mp hl with rfl | hl
  · exact clean_of_append (by decide) (newline_not_mem_of_isName h.1)
  · obtain ⟨n, f⟩ := p
    cases f with
    | none => cases hl
    | some f => exact clean_ofFormatter (h.2 f rfl) l hl

mutual

/-- So are the lines of a well-formed token, on every level. -/
theorem clean_ofToken : ∀ {t : Token} {level : Nat}, t.WellFormed → ∀ l ∈ ofToken level t, l.Clean
  | .text v, _, _, l, hl => by
    have value := Quoted.newline_not_mem_encode v
    rw [ofToken, List.append_assoc, List.mem_singleton] at hl
    rw [hl]
    exact clean_of_append (by decide) (by simpa using value)
  | .placeholder _, _, h, l, hl => clean_ofPlaceholder h l hl
  | .icon _, _, h, l, hl => by
    rw [ofToken, List.mem_singleton] at hl
    rw [hl]
    exact clean_of_append (by decide) (newline_not_mem_of_isName h)
  | .group _, _, h, l, hl => by
    rcases List.mem_cons.mp hl with rfl | hl
    · exact clean_of_words (by decide)
    rcases List.mem_cons.mp hl with rfl | hl
    · exact clean_of_words (by decide)
    · exact clean_ofAlternatives h.2 l hl

theorem clean_ofTokens : ∀ {ts : List Token} {level : Nat}, Token.WellFormedAlternative ts →
    ∀ l ∈ ofTokens level ts, l.Clean
  | [], _, _, l, hl => by cases hl
  | t :: ts, _, h, l, hl => by
    rcases List.mem_append.mp hl with hl | hl
    · exact clean_ofToken h.1 l hl
    · exact clean_ofTokens h.2.2 l hl

theorem clean_ofAlternatives : ∀ {as : List (List Token)} {level n : Nat}, Token.WellFormedTemplate as →
    ∀ l ∈ ofAlternatives level n as, l.Clean
  | [], _, _, _, l, hl => by cases hl
  | a :: as, _, n, h, l, hl => by
    have number : '\n' ∉ Text.ofNat n := fun hn => absurd (isDigit_of_mem_ofNat hn) (by decide)
    rcases List.mem_cons.mp hl with rfl | hl
    · exact clean_of_append (by decide) number
    rcases List.mem_append.mp hl with hl | hl
    · exact clean_ofTokens h.1 l hl
    · exact clean_ofAlternatives h.2 l hl

end

/-- The outline of a well-formed template has clean lines only. -/
theorem clean_ofTemplate {t : Template} (h : t.WellFormed) : ∀ l ∈ ofTemplate level t, l.Clean := by
  intro l hl
  rcases List.mem_cons.mp hl with rfl | hl
  · exact clean_of_words (by decide)
  · exact clean_ofAlternatives h.2 l hl

end Outline

/-- No two well-formed templates have the same outline. -/
theorem Template.outline_inj {t u : Template} (ht : t.WellFormed) (hu : u.WellFormed) (h : t.outline = u.outline) :
    t = u := by
  have lines := written_inj (Outline.clean_ofTemplate ht) (Outline.clean_ofTemplate hu) h
  have same : Outline.ofTemplate 0 t ++ [] = Outline.ofTemplate 0 u ++ [] := congrArg (· ++ []) lines
  exact (Outline.ofTemplate_inj ht hu Outline.shallower_nil Outline.shallower_nil same).1

end BarTemplate
