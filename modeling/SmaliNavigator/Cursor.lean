import SmaliNavigator.Diagnostic
import SmaliNavigator.Text.Document

/-!
Reading a document from a place onwards. A cursor only ever moves forward, by whole characters:
every movement is an `advance`.

The reader of a token or a type first skips white space, and here white space is blank, tab, line
feed, vertical tab, form feed and carriage return, and nothing else.
-/

set_option autoImplicit false

namespace SmaliNavigator

open Text

def isSpace (c : Char) : Bool :=
  c == ' ' || c == '\t' || c == '\n' || c == '\r' || c == '\x0b' || c == '\x0c'

def isInlineSpace (c : Char) : Bool :=
  c == ' ' || c == '\t' || c == '\x0b' || c == '\x0c'

/-- A place in a document and the text from there on. -/
structure Cursor where
  document : Document
  offset : Nat
  rest : List Char
  deriving DecidableEq, Repr

namespace Cursor

def start (d : Document) : Cursor := ⟨d,0,d.chars⟩

/-- The cursor at a position, moved to the end of the line or of the document where the position
is outside. -/
def atPosition (d : Document) (p : Position) : Cursor :=
  match d.lines[p.line]? with
  | some l =>
    let col := min p.col (byteCount l.content)
    ⟨d,l.start + col,dropBytes col l.tail⟩
  | none => ⟨d,d.size,[]⟩

def atOffset (d : Document) (offset : Nat) : Cursor :=
  atPosition d (d.positionAt offset)

def advance (c : Cursor) (n : Nat) : Cursor :=
  { c with offset := c.offset + byteCount (c.rest.take n), rest := c.rest.drop n }

@[simp] theorem document_advance (c : Cursor) (n : Nat) : (c.advance n).document = c.document := rfl

@[simp] theorem rest_advance (c : Cursor) (n : Nat) : (c.advance n).rest = c.rest.drop n := rfl

@[simp] theorem advance_zero (c : Cursor) : c.advance 0 = c := by
  simp [advance]

@[simp] theorem advance_advance (c : Cursor) (m n : Nat) :
    (c.advance m).advance n = c.advance (m + n) := by
  simp [advance, List.take_add, Nat.add_assoc]

def position (c : Cursor) : Position := c.document.positionAt c.offset

def line (c : Cursor) : Nat := c.position.line

def atEnd (c : Cursor) : Bool := c.rest.isEmpty

def spanTo (c d : Cursor) : Span := ⟨c.position,d.position⟩

def run (c : Cursor) (p : Char → Bool) : Nat :=
  (c.rest.takeWhile p).length

def skipWhile (c : Cursor) (p : Char → Bool) : Cursor :=
  c.advance (c.run p)

def skipSpace (c : Cursor) : Cursor := c.skipWhile isSpace

def skipInlineSpace (c : Cursor) : Cursor := c.skipWhile isInlineSpace

def skipLine (c : Cursor) : Cursor :=
  c.advance (c.run (· ≠ '\n') + 1)

def literal? (c : Cursor) (literal : String) : Option Cursor :=
  if literal.toList.isPrefixOf c.rest then some (c.advance literal.toList.length) else none

def expect? (c : Cursor) (literal : String) : Option Cursor :=
  c.skipSpace.literal? literal

def expectOnLine? (c : Cursor) (literal : String) : Option Cursor :=
  c.skipInlineSpace.literal? literal

def token (c : Cursor) (n : Nat) : Token :=
  ⟨String.ofList (c.rest.take n),c.spanTo (c.advance n)⟩

/-- Reads the next characters that are not white space; an empty token at the end. -/
def readToken (c : Cursor) : Token × Cursor :=
  let c := c.skipSpace
  let n := c.run (fun x => !isSpace x)
  (c.token n,c.advance n)

def peekToken (c : Cursor) : Token := c.readToken.1

def readRestOfLine (c : Cursor) : Token × Cursor :=
  let c := c.skipInlineSpace
  let n := (trimEnd (c.rest.takeWhile (· ≠ '\n'))).length
  (c.token n,c.advance n)

def moveTo (c : Cursor) (offset : Nat) : Cursor :=
  atOffset c.document offset

end Cursor

/-- A reader may fail, and leaves the cursor somewhere even then. -/
abbrev Reader (α : Type) : Type := ExceptT Diagnostic (StateM Cursor) α

namespace Reader

variable {α : Type}

def of (f : Cursor → Except Diagnostic α × Cursor) : Reader α := f

def total (f : Cursor → α × Cursor) : Reader α :=
  of fun c => (.ok (f c).1,(f c).2)

def read (r : Reader α) (c : Cursor) : Except Diagnostic α × Cursor := r c

@[simp] theorem read_of (f : Cursor → Except Diagnostic α × Cursor) (c : Cursor) :
    (of f).read c = f c := rfl

@[simp] theorem read_pure (a : α) (c : Cursor) : (pure a : Reader α).read c = (.ok a,c) := rfl

theorem read_bind {β : Type} (r : Reader α) (f : α → Reader β) (c : Cursor) :
    (r >>= f).read c = match r.read c with
      | (.ok a,d) => (f a).read d
      | (.error e,d) => (.error e,d) := by
  change (ExceptT.bind r f).run c = _
  simp only [ExceptT.bind, ExceptT.mk, StateT.bind, bind, read, ExceptT.run]
  rcases r c with ⟨_ | a,d⟩ <;> rfl

def value (r : Reader α) (c : Cursor) : Except Diagnostic α := (r.read c).1

def asks (f : Cursor → α) : Reader α :=
  total fun c => (f c,c)

/-- Fails with a fault that the reader's place gives the span of. -/
def fail (f : Cursor → Span) (fault : Fault) : Reader α :=
  of fun c => (.error ⟨f c,fault⟩,c)

/-- Reads up to a separator of the same line and moves behind it; the token is without it. -/
def tokenUntil (separator : Char) : Reader Token := of fun c =>
  let c := c.skipSpace
  let line := c.rest.takeWhile (· ≠ '\n')
  if line.contains separator then
    let n := c.run (· ≠ separator)
    (.ok (c.token n),c.advance (n + 1))
  else
    (.error ⟨c.spanTo (c.advance line.length),.missingSeparator separator⟩,c)

end Reader

end SmaliNavigator
