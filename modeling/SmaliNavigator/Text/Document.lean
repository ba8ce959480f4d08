import SmaliNavigator.Text.Bytes
import SmaliNavigator.Text.Blank
import SmaliNavigator.Text.Position

/-!
Documents: a text with its table of lines. Only a line feed ends a line. A carriage return in front
of it is part of the line but not of what `lineText` shows.

Offsets count the bytes of the whole document, positions give a line and a byte column;
`positionAt` and `offsetAt` go from one to the other, and what lies outside of a line or of the
document is moved to the end of that line or of the document.
-/

set_option autoImplicit false

namespace SmaliNavigator

open Text

/-- A line of a document: the offset that it starts at and the document from there on. -/
structure Line where
  start : Nat
  tail : List Char
  deriving DecidableEq, Repr

namespace Line

def following (offset : Nat) : List Char → List Line
  | [] => []
  | c :: cs =>
    if c = '\n' then ⟨offset + c.utf8Size,cs⟩ :: following (offset + c.utf8Size) cs
    else following (offset + c.utf8Size) cs

/-- The lines of a text. There is always a first one. -/
def table (cs : List Char) : List Line :=
  ⟨0,cs⟩ :: following 0 cs

def content (l : Line) : List Char :=
  l.tail.takeWhile (· ≠ '\n')

def stop (l : Line) : Nat :=
  l.start + byteCount l.content

end Line

structure Document where
  chars : List Char
  lines : List Line := Line.table chars
  size : Nat := byteCount chars
  lines_eq : lines = Line.table chars := by rfl
  size_eq : size = byteCount chars := by rfl
  deriving DecidableEq, Repr

namespace Document

def ofChars (cs : List Char) : Document := { chars := cs }

def ofString (s : String) : Document := ofChars s.toList

def text (d : Document) : String := String.ofList d.chars

def lineCount (d : Document) : Nat := d.lines.length

def lineOf (d : Document) (offset : Nat) : Nat :=
  d.lines.countP (·.start ≤ offset) - 1

/-- The offset that a line starts at, the end of the document for a line that is not there. -/
def lineStart (d : Document) (line : Nat) : Nat :=
  match d.lines[line]? with
  | some l => l.start
  | none => d.size

def lineStop (d : Document) (line : Nat) : Nat :=
  match d.lines[line]? with
  | some l => l.stop
  | none => d.size

def positionAt (d : Document) (offset : Nat) : Position :=
  let offset := min offset d.size
  ⟨d.lineOf offset,offset - d.lineStart (d.lineOf offset)⟩

/-- How many offsets there are: those of 64 bits. No text in memory is longer than that; here one could
be, and then there are as many as it needs. -/
def offsetCount (d : Document) : Nat := max UInt64.size (d.size + 1)

/-- The offset of a position; what is behind the end of a line counts as its end. The sum wraps around
where a column is so large that there is no offset for it. -/
def offsetAt (d : Document) (p : Position) : Nat :=
  match d.lines[p.line]? with
  | some l => min ((l.start + p.col) % d.offsetCount) l.stop
  | none => d.size

def lineText (d : Document) (line : Nat) : List Char :=
  match d.lines[line]? with
  | some l => dropEndWhile (· == '\r') l.content
  | none => []

def lineSpan (d : Document) (line : Nat) : Span :=
  .within line 0 (byteCount (d.lineText line))

def spanOf (d : Document) (start stop : Nat) : Span :=
  ⟨d.positionAt start,d.positionAt stop⟩

def wholeSpan (d : Document) : Span :=
  d.spanOf 0 d.size

/-- The characters between two offsets, none where one of them cuts a character. -/
def charsBetween (d : Document) (start stop : Nat) : List Char :=
  match takeBytes? start d.chars with
  | none => []
  | some _ => (takeBytes? (stop - start) (dropBytes start d.chars)).getD []

/-- The text of a span. A span that ends before it starts is empty, and so is one that cuts a
character. -/
def slice (d : Document) (s : Span) : String :=
  let start := d.offsetAt s.start
  String.ofList (d.charsBetween start (max (d.offsetAt s.stop) start))

end Document

end SmaliNavigator
