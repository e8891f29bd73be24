/-
Lines of a text and of a byte stream. A line ends at a line feed, and a carriage return just before
the line feed belongs to the terminator. What follows the last line feed is a line too, unless it is
empty, and keeps its carriage returns.

Text and bytes are cut by the same function, which is why reading a file line by line and reading
its whole text see the same lines. What readers of files consume is a list of lines in which a line
that could not be read stands as its error.
-/
import CrawlFilter.Text.Utf8

namespace CrawlFilter

/-- the sequence without its last item, if that item is `x` -/
def withoutLast {α : Type} [DecidableEq α] (x : α) (l : List α) : List α :=
  if l.getLast? = some x then l.dropLast else l

namespace Lines

variable {α : Type} [DecidableEq α]

/-- lines without their line feeds, each with whether a line feed ended it -/
def cut (lf : α) : List α → List (List α × Bool)
  | [] => []
  | x :: xs =>
    if x = lf then ([], true) :: cut lf xs
    else match cut lf xs with
      | [] => [([x], false)]
      | (l, ended) :: ls => (x :: l, ended) :: ls

/-- the content of a line: a carriage return is dropped where a line feed followed -/
def content (cr : α) : List α × Bool → List α
  | (l, true) => withoutLast cr l
  | (l, false) => l

end Lines

/-- the lines of a text -/
def Text.lines (t : Text) : List Text :=
  (Lines.cut '\n' t).map (Lines.content '\r')

/-! ## Lines that are read -/

/-- why something could not be read -/
inductive ReadError where
  /-- there is no such file -/
  | missing
  /-- reading is not permitted -/
  | denied
  /-- a file was to be used as a directory -/
  | notDirectory
  /-- a directory was to be read as a file -/
  | directory
  /-- a name is longer than a name may be -/
  | nameTooLong
  /-- a name holds the character that would end it -/
  | nulInName
  /-- the bytes are not UTF-8 -/
  | notUtf8
  deriving DecidableEq, Repr

def ReadError.message : ReadError → Text
  | .missing => "No such file or directory (os error 2)".toList
  | .denied => "Permission denied (os error 13)".toList
  | .notDirectory => "Not a directory (os error 20)".toList
  | .directory => "Is a directory (os error 21)".toList
  | .nameTooLong => "File name too long (os error 36)".toList
  | .nulInName => "file name contained an unexpected NUL byte".toList
  | .notUtf8 => "stream did not contain valid UTF-8".toList

/-- the lines that a reader meets, in order, each a text or the error in its place -/
abbrev Input := List (Except ReadError Text)

namespace Input

/-- all lines of a text -/
def ofText (t : Text) : Input :=
  t.lines.map .ok

/-- all lines of a byte stream; each line is decoded on its own -/
def ofBytes (b : Bytes) : Input :=
  (Lines.cut 10 b).map fun l =>
    match Utf8.decode? (Lines.content 13 l) with
    | some t => .ok t
    | none => .error .notUtf8

end Input

end CrawlFilter
