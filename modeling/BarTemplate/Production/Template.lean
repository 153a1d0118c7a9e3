import BarTemplate.Production.Formatter

/-!
# Templates in braces and in whole

A template is alternatives with bars between them, an alternative is as many tokens as follow, and a template in braces
is a token. Every level of braces uses up some of the room for nesting; where none is left, an opening brace is a
failure at the brace.
-/

namespace BarTemplate.Production

open Committed

/-- A token, given how a nested template is read. -/
def token (nested : Reader Template) : Reader Token :=
  (text.map .text).orElse <| (placeholder.map .placeholder).orElse <| (icon.map .icon).orElse <| nested.map .group

/-- An alternative: as many tokens as follow. -/
def alternative (nested : Reader Template) : Committed Alternative :=
  many (token nested)

/-- A template: an alternative, and one more after every bar. -/
def template (nested : Reader Template) : Committed Template := do
  let first ← alternative nested
  let more ← many (.lead '|' (alternative nested))
  return first :: more

/-- No template in braces: an opening brace is one level too many. -/
def noGroup : Reader Template where
  read s :=
    match s with
    | [] => .absent
    | c :: r => if c = '{' then .failed ⟨.tooDeep, c :: r⟩ else .absent
  advances {s a r} h := by
    split at h
    · cases h
    · split at h <;> cases h
  within {s f} h := by
    split at h
    · cases h
    · split at h
      · cases h; exact ⟨List.suffix_refl _, List.suffix_refl _⟩
      · cases h

/-- A template in braces, with room for so many levels of braces. -/
def group : Nat → Reader Template
  | 0 => noGroup
  | room + 1 => .delay fun _ => .lead '{' do
    let t ← template (group room)
    expect '}'
    return t

/-- A template that ends where the source ends. -/
def whole (room : Nat) : Committed Template where
  read s :=
    match (template (group room)).read s with
    | .error f => .error f
    | .ok (t, []) => .ok (t, [])
    | .ok (_, r) => .error ⟨.trailing, r⟩
  onward {s a r} h := by
    split at h
    · cases h
    · cases h; exact List.nil_suffix
    · cases h
  within {s f} h := by
    split at h
    · next hf => cases h; exact (template (group room)).within hf
    · cases h
    · next t r _ ht =>
      cases h
      exact ⟨(template (group room)).onward ht, (template (group room)).onward ht⟩

end BarTemplate.Production
