import BarTemplate.Text.Basic

/-!
# Lines

Two ways to cut a text into lines. Template files and editor documents break at LF, at CRLF and at CR (`Text.lines`); a
template by itself breaks at LF only (`Text.feedLines`). Other line separators of Unicode are ordinary code points. Both
cuts have one piece more than breaks, so that the empty text is one empty line.
-/

namespace BarTemplate.Text

/-- Puts a code point in front of the first line. -/
def growFirst (c : Char) : List Text → List Text
  | [] => [[c]]
  | line :: rest => (c :: line) :: rest

/-- The lines of a text that breaks at LF, at CRLF and at CR. -/
def lines : Text → List Text
  | [] => [[]]
  | '\r' :: '\n' :: rest => [] :: lines rest
  | '\r' :: rest => [] :: lines rest
  | '\n' :: rest => [] :: lines rest
  | c :: rest => growFirst c (lines rest)

/-- A text with LF in the place of every CRLF and of every other CR. -/
def withFeeds : Text → Text
  | [] => []
  | '\r' :: '\n' :: rest => '\n' :: withFeeds rest
  | '\r' :: rest => '\n' :: withFeeds rest
  | c :: rest => c :: withFeeds rest

/-- The lines of a text that breaks at LF only. -/
def feedLines : Text → List Text
  | [] => [[]]
  | '\n' :: rest => [] :: feedLines rest
  | c :: rest => growFirst c (feedLines rest)

end BarTemplate.Text
