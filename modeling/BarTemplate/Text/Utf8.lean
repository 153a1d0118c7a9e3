import BarTemplate.Text.Basic

/-!
# UTF-8

Decoding of bytes to text, with the first fault exactly located. A sequence is refused at its first byte if that byte
starts none, or at the first continuation byte outside its range; the range of the second byte rules out overlong forms,
surrogates and code points beyond U+10FFFF. The refused bytes are the lead byte and the continuation bytes that were
accepted after it.
-/

namespace BarTemplate.Utf8

/-- Why bytes are not UTF-8. -/
inductive Reason where
  | startByte
  | continuationByte
  | endOfData
  deriving DecidableEq, Repr

/-- The first place at which bytes are not UTF-8: a run of bytes, of which `lead` is the first. -/
structure Fault where
  lead : UInt8
  start : Nat
  length : Nat
  reason : Reason
  deriving DecidableEq, Repr

/-- The wording of a reason. -/
def Reason.message : Reason → Text
  | .startByte => "invalid start byte"
  | .continuationByte => "invalid continuation byte"
  | .endOfData => "unexpected end of data"

/-- A fault in words: one byte is shown, several are named by their positions. -/
def Fault.message (f : Fault) : Text :=
  let place : Text :=
    if f.length = 1 then "byte 0x" ++ Text.hex 2 f.lead.toNat ++ " in position " ++ Text.ofNat f.start
    else "bytes in position " ++ Text.ofNat f.start ++ "-" ++ Text.ofNat (f.start + f.length - 1)
  "'utf-8' codec can't decode " ++ place ++ ": " ++ f.reason.message

/-- A sequence whose lead byte has been read: what has been gathered, and what is still to come. The next byte has to
lie between `low` and `high`, and `more` bytes follow it. -/
structure Pending where
  lead : UInt8
  start : Nat
  taken : Nat
  code : Nat
  low : Nat
  high : Nat
  more : Nat

/-- The sequence that a byte beyond ASCII starts at a position, if it starts any. -/
def Pending.ofLead (position : Nat) (b : UInt8) : Option Pending :=
  let n := b.toNat
  let begin (code low high more : Nat) : Option Pending := some ⟨b, position, 1, code, low, high, more⟩
  if n < 0xC2 then none
  else if n < 0xE0 then begin (n - 0xC0) 0x80 0xBF 0
  else if n < 0xF0 then
    begin (n - 0xE0) (if n = 0xE0 then 0xA0 else 0x80) (if n = 0xED then 0x9F else 0xBF) 1
  else if n < 0xF5 then
    begin (n - 0xF0) (if n = 0xF0 then 0x90 else 0x80) (if n = 0xF4 then 0x8F else 0xBF) 2
  else none

/-- The fault of a sequence that cannot go on. -/
def Pending.fault (p : Pending) (reason : Reason) : Fault :=
  ⟨p.lead, p.start, p.taken, reason⟩

/-- Decodes the bytes that stand at a position, inside a sequence or between two. -/
def decodeFrom (position : Nat) : Option Pending → List UInt8 → Except Fault Text
  | none, [] => .ok []
  | some p, [] => .error (p.fault .endOfData)
  | none, b :: rest =>
    if b.toNat < 0x80 then
      (decodeFrom (position + 1) none rest).map (Char.ofNat b.toNat :: ·)
    else
      match Pending.ofLead position b with
      | none => .error ⟨b, position, 1, .startByte⟩
      | some p => decodeFrom (position + 1) (some p) rest
  | some p, b :: rest =>
    if p.low ≤ b.toNat ∧ b.toNat ≤ p.high then
      let code := p.code * 64 + b.toNat % 64
      match p.more with
      | 0 => (decodeFrom (position + 1) none rest).map (Char.ofNat code :: ·)
      | more + 1 =>
        decodeFrom (position + 1) (some ⟨p.lead, p.start, p.taken + 1, code, 0x80, 0xBF, more⟩) rest
    else
      .error (p.fault .continuationByte)

/-- The text that bytes encode, or the first fault in them. -/
def decode (bytes : List UInt8) : Except Fault Text :=
  decodeFrom 0 none bytes

end BarTemplate.Utf8
