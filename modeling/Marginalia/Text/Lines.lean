import Marginalia.Text.Basic

/-!
# Lines

A line ends after a line feed.  `segments` cuts a text into lines that keep
their ending, so that they concatenate to the text; `lines` drops the ending,
which is a line feed with at most one carriage return before it.
-/

namespace Marginalia.Text

/-- The lines of a text, each with its line feed. -/
def segments (text : Text) : List Text :=
  text.foldr attach []
where
  /-- Put one character in front of the lines that follow it. -/
  attach (c : Char) : List Text → List Text
    | [] => [[c]]
    | line :: more => if c == '\n' then [c] :: line :: more else (c :: line) :: more

/-- A line without its ending. -/
def withoutEnding (segment : Text) : Text :=
  match segment.reverse with
  | '\n' :: '\r' :: body => body.reverse
  | '\n' :: body => body.reverse
  | _ => segment

/-- The lines of a text, without their endings. -/
def lines (text : Text) : List Text :=
  text.segments.map withoutEnding

/-- The texts of a list, one line each. -/
def joinLines (texts : List Text) : Text :=
  List.intercalate ['\n'] texts

end Marginalia.Text
