import BarTemplate.Proofs.Template

/-!
# What a part of a source depends on

What stands at the beginning of a text, up to a rest, depends on one character of the rest at most. It stays where it is
if another rest comes into the place (`StandsFor`): one with the same first character, or one that ends whatever can
end. The statements are made for every part of a template, from words (`WordAt.settled`) to templates
(`TemplateAt.settled`).
-/

namespace BarTemplate.Grammar

open Production (quote iconMarker)

variable {Z : Text → Prop} {p : Char → Bool} {s r r' w v x t : Text}

/-! ## Rests that stand for others -/

/-- A rest may come into the place of another one: it has a property, or both begin with the same character. -/
def StandsFor (Z : Text → Prop) (r r' : Text) : Prop :=
  Z r' ∨ r ≠ [] ∧ r'.head? = r.head?

/-- A rest may replace another that begins with the same character. -/
theorem StandsFor.of_cons {c : Char} {t t' : Text} : StandsFor Z (c :: t) (c :: t') :=
  Or.inr ⟨by simp, rfl⟩

/-- Behind something that has been taken every rest may change. -/
theorem StandsFor.of_ne_nil (hx : x ≠ []) : StandsFor Z (x ++ r) (x ++ r') := by
  cases x with
  | nil => exact absurd rfl hx
  | cons c x => exact .of_cons

/-- What may stand for a rest may stand for it after a common beginning. -/
theorem StandsFor.append (h : StandsFor Z r r') : StandsFor Z (x ++ r) (x ++ r') := by
  by_cases hx : x = []
  · rw [hx]
    exact h
  · exact .of_ne_nil hx

/-- A weaker condition on the new rest admits more of them. -/
theorem StandsFor.imp {Y : Text → Prop} (h : StandsFor Z r r') (hY : ∀ z, Z z → Y z) : StandsFor Y r r' :=
  h.imp_left (hY r')

/-- Where a word stops depends on the first character of the rest only. -/
theorem stopsAt_of_head (h : r'.head? = r.head?) (hr : StopsAt p r) : StopsAt p r' := by
  unfold StopsAt
  rw [h]
  exact hr

/-- So does whether a given character comes next. -/
theorem notAt_of_head_eq {c : Char} (h : r'.head? = r.head?) (hr : NotAt c r) : NotAt c r' := by
  unfold NotAt
  rw [h]
  exact hr

/-- A word that stops before one rest stops before every rest that may replace it. -/
theorem StandsFor.stopsAt (h : StandsFor Z r r') (hZ : ∀ z, Z z → StopsAt p z) (hr : StopsAt p r) : StopsAt p r' := by
  rcases h with hz | ⟨-, head⟩
  · exact hZ r' hz
  · exact stopsAt_of_head head hr

/-- A character absent before one rest is absent before every rest that may replace it. -/
theorem StandsFor.notAt {c : Char} (h : StandsFor Z r r') (hZ : ∀ z, Z z → NotAt c z) (hr : NotAt c r) :
    NotAt c r' := by
  rcases h with hz | ⟨-, head⟩
  · exact hZ r' hz
  · exact notAt_of_head_eq head hr

/-! ## Rests that end what can end -/

/-- A rest that ends an argument: it begins with the closing parenthesis. -/
def EndsArgument (z : Text) : Prop :=
  z.head? = some ')'

/-- A rest that ends an alternative: a bar, a closing brace or nothing. -/
def EndsAlternative (z : Text) : Prop :=
  ∀ c ∈ z.head?, c = '|' ∨ c = '}'

/-- A rest that ends a template: a closing brace or nothing. -/
def EndsTemplate (z : Text) : Prop :=
  ∀ c ∈ z.head?, c = '}'

/-- What ends a template ends its last alternative. -/
theorem EndsTemplate.endsAlternative {z : Text} (h : EndsTemplate z) : EndsAlternative z :=
  fun c hc => Or.inr (h c hc)

/-- The closing parenthesis ends every run of characters that it is not part of. -/
theorem EndsArgument.stopsAt {z : Text} (h : EndsArgument z) (hp : p ')' = false) : StopsAt p z := by
  intro c hc
  rw [h, Option.mem_some_iff] at hc
  exact hc ▸ hp

/-- A bar and a closing brace end every run of characters that they are not part of. -/
theorem EndsAlternative.stopsAt {z : Text} (h : EndsAlternative z) (hb : p '|' = false) (hc : p '}' = false) :
    StopsAt p z := by
  intro c hz
  rcases h c hz with rfl | rfl
  · exact hb
  · exact hc

/-- An alternative ends before nothing but a bar, a closing brace or the end of the source. -/
theorem EndsAlternative.notAt {z : Text} {c : Char} (h : EndsAlternative z) (hb : c ≠ '|') (hc : c ≠ '}') : NotAt c z :=
  fun hz => (h c hz).elim hb hc

/-- A rest that ends a token: literal text does not go on, so that it begins with what begins or ends a token, or is
nothing. -/
def EndsToken (z : Text) : Prop :=
  StopsAt (fun c => isPlain c || c == escapeChar) z

/-- What ends an alternative ends its last token. -/
theorem EndsAlternative.endsToken {z : Text} (h : EndsAlternative z) : EndsToken z :=
  h.stopsAt (by decide) (by decide)

/-- What begins or ends a token ends every name. -/
theorem EndsToken.stopsAt_name {z : Text} (h : EndsToken z) :
    StopsAt (fun d => isNameChar d || Unicode.isMark d) z := by
  intro c hc
  rcases not_literal_iff.mp (h c hc) with rfl | rfl | rfl | rfl | rfl <;> decide

/-- A bar and a closing brace end every name. -/
theorem EndsAlternative.stopsAt_name {z : Text} (h : EndsAlternative z) :
    StopsAt (fun d => isNameChar d || Unicode.isMark d) z :=
  h.endsToken.stopsAt_name

/-- No ordinary character of a literal comes where a token ends. -/
theorem EndsToken.notAt {z : Text} {c : Char} (h : EndsToken z) (hc : isPlain c = true) : NotAt c z := by
  intro hz
  have literal : (isPlain c || c == escapeChar) = false := h c hz
  rw [hc] at literal
  cases literal

/-! ## Lexemes -/

/-- Something is taken from the beginning of a text, and the same is taken before every rest that may stand for the one
there. -/
def Settled (Z : Text → Prop) (At : Text → Text → Prop) (s r : Text) : Prop :=
  ∃ x, s = x ++ r ∧ x ≠ [] ∧ ∀ r', StandsFor Z r r' → At (x ++ r') r'

/-- What is left of a settled reading is an end of the text it started from. -/
theorem Settled.suffix {At : Text → Text → Prop} (h : Settled Z At s r) : r <:+ s := by
  obtain ⟨x, rfl, -⟩ := h
  exact List.suffix_append x r

/-- What is taken for a word is the word itself. -/
theorem WordAt.settled (h : WordAt p s w r) (hZ : ∀ z, Z z → StopsAt (fun d => p d || Unicode.isMark d) z) :
    s = w ++ r ∧ w ≠ [] ∧ ∀ r', StandsFor Z r r' → WordAt p (w ++ r') w r' := by
  obtain ⟨first, more, stop⟩ := h
  exact ⟨rfl, by simp, fun _ hr => .word first more (hr.stopsAt hZ stop)⟩

/-- The rest after a word is an end of the text. -/
theorem WordAt.suffix (h : WordAt p s w r) : r <:+ s := by
  cases h
  exact List.suffix_append _ r

/-- White space is skipped the same before every rest that may follow an argument. -/
theorem GapAt.settled (h : GapAt s r) : ∃ g, s = g ++ r ∧ ∀ r', StandsFor EndsArgument r r' → GapAt (g ++ r') r' := by
  obtain ⟨all, stop⟩ := h
  exact ⟨_, rfl, fun _ hr => .gap all (hr.stopsAt (fun z hz => hz.stopsAt (by decide)) stop)⟩

/-- The rest after white space is an end of the text. -/
theorem GapAt.suffix (h : GapAt s r) : r <:+ s := by
  cases h
  exact List.suffix_append _ r

/-- A value is read the same before every rest that may follow an argument. A bare one needs that, since it runs on as
far as it can; a quoted one ends at its quote. -/
theorem ValueAt.settled (h : ValueAt s v r) : Settled EndsArgument (ValueAt · v ·) s r := by
  cases h with
  | bare word =>
    obtain ⟨rfl, hv, word'⟩ := word.settled (fun z (hz : EndsArgument z) => hz.stopsAt (by decide))
    exact ⟨_, rfl, hv, fun r' hr => .bare (word' r' hr)⟩
  | quoted inner =>
    refine ⟨quote :: v ++ [quote], by simp, by simp, fun r' _ => ?_⟩
    rw [List.append_assoc]
    exact .quoted inner

/-! ## Placeholders, formatters and icons -/

/-- An argument is read the same before every rest that may follow one. -/
theorem ArgumentAt.settled {a : Argument} (h : ArgumentAt s a r) : Settled EndsArgument (ArgumentAt · a ·) s r := by
  cases h with
  | bare key colon =>
    obtain ⟨rfl, hk, key'⟩ := key.settled (fun z (hz : EndsArgument z) => hz.stopsAt (by decide))
    refine ⟨_, rfl, hk, fun r' hr => .bare (key' r' hr) (hr.notAt (fun z hz => ?_) colon)⟩
    rw [NotAt, hz]
    decide
  | @valued k _ _ _ key value =>
    obtain ⟨rfl, hk, key'⟩ := key.settled (fun z (hz : EndsArgument z) => hz.stopsAt (by decide))
    obtain ⟨x, rfl, -, value'⟩ := value.settled
    refine ⟨k ++ ':' :: x, by simp, by simp, fun r' hr => ?_⟩
    rw [List.append_assoc]
    exact .valued (key' _ .of_cons) (value' r' hr)

/-- The arguments after the first one end with their closing parenthesis, whatever follows it. -/
theorem FurtherAt.settled {as : List Argument} (h : FurtherAt s as r) :
    Settled (fun _ => True) (FurtherAt · as ·) s r := by
  induction h with
  | close gap =>
    obtain ⟨g, rfl, gap'⟩ := gap.settled
    refine ⟨g ++ [')'], by simp, by simp, fun r' _ => ?_⟩
    rw [List.append_assoc]
    exact .close (gap' _ .of_cons)
  | further before after argument _ ih =>
    obtain ⟨g, rfl, before'⟩ := before.settled
    obtain ⟨g', rfl, after'⟩ := after.settled
    obtain ⟨x, rfl, hx, argument'⟩ := argument.settled
    obtain ⟨y, rfl, hy, further'⟩ := ih
    refine ⟨g ++ ',' :: (g' ++ (x ++ y)), by simp, by simp, fun r' hr => ?_⟩
    have source : g ++ ',' :: (g' ++ (x ++ y)) ++ r' = g ++ ',' :: (g' ++ (x ++ (y ++ r'))) := by simp
    rw [source]
    exact .further (before' _ .of_cons) (after' _ (.of_ne_nil hx)) (argument' _ (.of_ne_nil hy)) (further' r' hr)

/-- An argument list closes itself with a parenthesis, so it is read the same before any rest at all. -/
theorem ArgumentsAt.settled {as : List Argument} (h : ArgumentsAt s as r) :
    Settled (fun _ => True) (ArgumentsAt · as ·) s r := by
  cases h with
  | empty gap =>
    obtain ⟨g, rfl, gap'⟩ := gap.settled
    refine ⟨'(' :: g ++ [')'], by simp, by simp, fun r' _ => ?_⟩
    rw [List.append_assoc]
    exact .empty (gap' _ .of_cons)
  | first gap argument further =>
    obtain ⟨g, rfl, gap'⟩ := gap.settled
    obtain ⟨x, rfl, hx, argument'⟩ := argument.settled
    obtain ⟨y, rfl, hy, further'⟩ := further.settled
    refine ⟨'(' :: (g ++ (x ++ y)), by simp, by simp, fun r' hr => ?_⟩
    have source : '(' :: (g ++ (x ++ y)) ++ r' = '(' :: (g ++ (x ++ (y ++ r'))) := by simp
    rw [source]
    exact .first (gap' _ (.of_ne_nil hx)) (argument' _ (.of_ne_nil hy)) (further' r' hr)

/-- A formatter is read the same before every rest that may follow a token. -/
theorem FormatterAt.settled {f : Formatter} (h : FormatterAt s f r) :
    Settled EndsToken (FormatterAt · f ·) s r := by
  cases h with
  | bare name stop =>
    obtain ⟨rfl, -, name'⟩ := name.settled fun _ => EndsToken.stopsAt_name
    refine ⟨'.' :: _, rfl, by simp, fun r' hr => .bare (name' r' hr) ?_⟩
    exact hr.notAt (fun z hz => hz.notAt (by decide)) stop
  | @applied _ n _ _ _ name arguments =>
    obtain ⟨rfl, -, name'⟩ := name.settled fun _ => EndsToken.stopsAt_name
    obtain ⟨x, rfl, hx, arguments'⟩ := arguments.settled
    refine ⟨'.' :: (n ++ x), by simp, by simp, fun r' _ => ?_⟩
    rw [List.cons_append, List.append_assoc]
    exact .applied (name' _ (.of_ne_nil hx)) (arguments' r' (Or.inl trivial))

/-- A placeholder is read the same before every rest that may follow a token. -/
theorem PlaceholderAt.settled {a : Placeholder} (h : PlaceholderAt s a r) :
    Settled EndsToken (PlaceholderAt · a ·) s r := by
  cases h with
  | bare name stop =>
    obtain ⟨rfl, -, name'⟩ := name.settled fun _ => EndsToken.stopsAt_name
    refine ⟨'$' :: _, rfl, by simp, fun r' hr => .bare (name' r' hr) ?_⟩
    exact hr.notAt (fun z hz => hz.notAt (by decide)) stop
  | @formatted _ n _ _ _ name formatter =>
    obtain ⟨rfl, -, name'⟩ := name.settled fun _ => EndsToken.stopsAt_name
    obtain ⟨x, rfl, hx, formatter'⟩ := formatter.settled
    refine ⟨'$' :: (n ++ x), by simp, by simp, fun r' hr => ?_⟩
    rw [List.cons_append, List.append_assoc]
    exact .formatted (name' _ (.of_ne_nil hx)) (formatter' r' hr)

/-! ## Tokens, alternatives and templates -/

/-- A literal is read the same before every rest that does not carry it on. One that spells out something has taken a
character. -/
theorem LiteralAt.settled (h : LiteralAt s v r) :
    ∃ x, s = x ++ r ∧ (v ≠ [] → x ≠ []) ∧
      ∀ r', StopsAt (fun c => isPlain c || c == escapeChar) r' → LiteralAt (x ++ r') v r' := by
  induction h with
  | stop => exact ⟨[], rfl, id, fun _ stop => .stop stop⟩
  | @plain c _ _ _ plain _ ih =>
    obtain ⟨x, rfl, -, literal⟩ := ih
    exact ⟨c :: x, rfl, by simp, fun r' stop => .plain plain (literal r' stop)⟩
  | @escaped c _ _ _ _ ih =>
    obtain ⟨x, rfl, -, literal⟩ := ih
    exact ⟨escapeChar :: c :: x, rfl, by simp, fun r' stop => .escaped (literal r' stop)⟩

mutual

/-- A token is read the same before every rest that may follow one. Literal text would run on into any other. -/
theorem TokenAt.settled : ∀ {s r : Text} {t : Token}, TokenAt s t r → Settled EndsToken (TokenAt · t ·) s r
  | _, _, _, .text literal nonempty => by
    obtain ⟨x, rfl, hx, literal'⟩ := literal.settled
    refine ⟨x, rfl, hx nonempty, fun r' hr => .text (literal' r' ?_) nonempty⟩
    exact hr.stopsAt (fun _ hz => hz) literal.stop_rest
  | _, _, _, .placeholder placeholder => by
    obtain ⟨x, rfl, hx, placeholder'⟩ := placeholder.settled
    exact ⟨x, rfl, hx, fun r' hr => .placeholder (placeholder' r' hr)⟩
  | _, _, _, @TokenAt.icon _ n _ name => by
    obtain ⟨rfl, -, name'⟩ := name.settled fun _ => EndsToken.stopsAt_name
    refine ⟨'^' :: iconMarker ++ n, by simp, by simp, fun r' hr => ?_⟩
    rw [List.append_assoc]
    exact .icon (name' r' hr)
  | _, _, _, .group template => by
    obtain ⟨x, rfl, template'⟩ := TemplateAt.settled template
    refine ⟨'{' :: x ++ ['}'], by simp, by simp, fun r' _ => ?_⟩
    rw [List.append_assoc]
    exact .group (template' ('}' :: r') .of_cons)

/-- An alternative is read the same before a bar, a closing brace and the end of the source. -/
theorem AlternativeAt.settled : ∀ {s r : Text} {as : List Token}, AlternativeAt s as r →
    ∃ x, s = x ++ r ∧ ∀ r', StandsFor EndsAlternative r r' → AlternativeAt (x ++ r') as r'
  | _, _, _, .stop stop => by
    refine ⟨[], rfl, fun r' hr => .stop ?_⟩
    rcases hr with hr | ⟨-, head⟩
    · exact hr
    · rw [List.nil_append, head]
      exact stop
  | _, _, _, .token token rest => by
    obtain ⟨x, rfl, -, token'⟩ := TokenAt.settled token
    obtain ⟨y, rfl, rest'⟩ := AlternativeAt.settled rest
    refine ⟨x ++ y, by simp, fun r' hr => ?_⟩
    rw [List.append_assoc]
    exact .token (token' _ (hr.imp fun _ hz => hz.endsToken).append) (rest' r' hr)

/-- A template is read the same before a closing brace and the end of the source. -/
theorem TemplateAt.settled : ∀ {s r : Text} {as : List (List Token)}, TemplateAt s as r →
    ∃ x, s = x ++ r ∧ ∀ r', StandsFor EndsTemplate r r' → TemplateAt (x ++ r') as r'
  | _, _, _, .last alternative stop => by
    obtain ⟨x, rfl, alternative'⟩ := AlternativeAt.settled alternative
    refine ⟨x, rfl, fun r' hr => .last (alternative' r' (hr.imp fun _ hz => hz.endsAlternative)) ?_⟩
    exact hr.notAt (fun z hz h => absurd (hz _ h) (by decide)) stop
  | _, _, _, .bar alternative rest => by
    obtain ⟨x, rfl, alternative'⟩ := AlternativeAt.settled alternative
    obtain ⟨y, rfl, rest'⟩ := TemplateAt.settled rest
    refine ⟨x ++ '|' :: y, by simp, fun r' hr => ?_⟩
    rw [List.append_assoc]
    exact .bar (alternative' _ .of_cons) (rest' r' hr)

end

end BarTemplate.Grammar
