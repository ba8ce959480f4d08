import SmaliNavigator.Cursor
import SmaliNavigator.Text.Bytes

/-!
Reading a document by byte offsets. A text is cut at byte counts, and there is no outcome where a cut
falls inside a character or behind the end. A loop goes on for as long as its step says so, and one
that never stops has no outcome either.
-/

set_option autoImplicit false

namespace SmaliNavigator

open Text

namespace Text

/-- The text between two byte counts, `none` where one of them is inside a character or behind the
end, and where the second one comes first. -/
def cut? (cs : List Char) (start stop : Nat) : Option (List Char) :=
  if start ≤ stop then
    (takeBytes? start cs).bind fun before => takeBytes? (stop - start) (cs.drop before.length)
  else none

end Text

/-- Reading from an offset of a document, `none` where a text cannot be cut and where a loop never
ends. A reading may fail as readers do, and then leaves the offset somewhere. -/
abbrev Slicer (α : Type) : Type := ExceptT Diagnostic (StateT Nat (ReaderT Document Option)) α

namespace Slicer

variable {α β : Type}

def of (f : Document → Nat → Option (Except Diagnostic α × Nat)) : Slicer α :=
  fun offset d => f d offset

def readFrom (s : Slicer α) (d : Document) (offset : Nat) : Option (Except Diagnostic α × Nat) :=
  s offset d

@[simp] theorem readFrom_of (f : Document → Nat → Option (Except Diagnostic α × Nat)) (d : Document)
    (offset : Nat) : (of f).readFrom d offset = f d offset := rfl

@[simp] theorem readFrom_pure (a : α) (d : Document) (offset : Nat) :
    (pure a : Slicer α).readFrom d offset = some (.ok a,offset) := rfl

theorem readFrom_bind (s : Slicer α) (f : α → Slicer β) (d : Document) (offset : Nat) :
    (s >>= f).readFrom d offset = match s.readFrom d offset with
      | some (.ok a,offset) => (f a).readFrom d offset
      | some (.error x,offset) => some (.error x,offset)
      | none => none := by
  change (ExceptT.bind s f).run offset d = _
  simp only [ExceptT.bind, ExceptT.mk, StateT.bind, ReaderT.bind, bind, Option.bind, readFrom,
    ExceptT.run]
  rcases s offset d with _ | ⟨_ | a,o⟩ <;> rfl

def asks (f : Document → Nat → α) : Slicer α := of fun d offset => some (.ok (f d offset),offset)

def offset : Slicer Nat := asks fun _ offset => offset

def position : Slicer Position := asks fun d offset => d.positionAt offset

def spanBetween (start stop : Nat) : Slicer Span := asks fun d _ => d.spanOf start stop

def spanFrom (start : Nat) : Slicer Span := asks fun d offset => d.spanOf start offset

def moveTo (offset : Nat) : Slicer Unit := of fun _ _ => some (.ok (),offset)

def moveBy (n : Nat) : Slicer Unit := of fun _ offset => some (.ok (),offset + n)

def fail (x : Diagnostic) : Slicer α := of fun _ offset => some (.error x,offset)

def cut (cs : List Char) (start stop : Nat) : Slicer (List Char) :=
  of fun _ offset => (cut? cs start stop).map fun text => (.ok text,offset)

def between (start stop : Nat) : Slicer (List Char) := do
  cut (← asks fun d _ => d.chars) start stop

def rest : Slicer (List Char) := do
  between (← offset) (← asks fun d _ => d.size)

def collect (step : Slicer (Option α)) : Slicer (List α) := do
  let some a ← step | return []
  return a :: (← step |>.collect)
partial_fixpoint

@[simp] theorem readFrom_asks (f : Document → Nat → α) (d : Document) (offset : Nat) :
    (asks f).readFrom d offset = some (.ok (f d offset),offset) := rfl

@[simp] theorem readFrom_offset (d : Document) (o : Nat) :
    offset.readFrom d o = some (.ok o,o) := rfl

@[simp] theorem readFrom_position (d : Document) (offset : Nat) :
    position.readFrom d offset = some (.ok (d.positionAt offset),offset) := rfl

@[simp] theorem readFrom_spanBetween (start stop : Nat) (d : Document) (offset : Nat) :
    (spanBetween start stop).readFrom d offset = some (.ok (d.spanOf start stop),offset) := rfl

@[simp] theorem readFrom_spanFrom (start : Nat) (d : Document) (offset : Nat) :
    (spanFrom start).readFrom d offset = some (.ok (d.spanOf start offset),offset) := rfl

@[simp] theorem readFrom_moveTo (o : Nat) (d : Document) (offset : Nat) :
    (moveTo o).readFrom d offset = some (.ok (),o) := rfl

@[simp] theorem readFrom_moveBy (n : Nat) (d : Document) (offset : Nat) :
    (moveBy n).readFrom d offset = some (.ok (),offset + n) := rfl

@[simp] theorem readFrom_fail (x : Diagnostic) (d : Document) (offset : Nat) :
    (fail x : Slicer α).readFrom d offset = some (.error x,offset) := rfl

theorem readFrom_collect (step : Slicer (Option α)) (d : Document) (offset : Nat) :
    (collect step).readFrom d offset = match step.readFrom d offset with
      | some (.ok (some a),offset) =>
        (collect step >>= fun as => pure (a :: as)).readFrom d offset
      | some (.ok none,offset) => some (.ok [],offset)
      | some (.error x,offset) => some (.error x,offset)
      | none => none := by
  conv => lhs; rw [collect, readFrom_bind]
  rcases step.readFrom d offset with _ | ⟨_ | _ | a,o⟩ <;> rfl

/-! ### The scanner -/

def skipWhile (p : Char → Bool) : Slicer Unit := do
  moveBy (byteCount ((← rest).takeWhile p))

def skipSpace : Slicer Unit := skipWhile isSpace

def skipInlineSpace : Slicer Unit := skipWhile isInlineSpace

def skipLine : Slicer Unit := do
  let text ← rest
  if text.contains '\n' then moveBy (byteCount (text.takeWhile (· ≠ '\n')) + 1)
  else moveTo (← asks fun d _ => d.size)

/-- Moves behind a literal that comes next after characters of a kind. Where it does not, the offset
is what it was. -/
def expectBehind (p : Char → Bool) (literal : String) : Slicer Bool := do
  let saved ← offset
  skipWhile p
  if literal.toList.isPrefixOf (← rest) then
    moveBy (byteCount literal.toList)
    return true
  else
    moveTo saved
    return false

def expect (literal : String) : Slicer Bool := expectBehind isSpace literal

def expectOnLine (literal : String) : Slicer Bool := expectBehind isInlineSpace literal

def peekChar : Slicer (Option Char) := do
  return (← rest).head?

def readToken : Slicer Token := do
  skipSpace
  let start ← offset
  skipWhile fun x => !isSpace x
  return ⟨String.ofList (← between start (← offset)),← spanFrom start⟩

def peekToken : Slicer Token := do
  let saved ← offset
  let token ← readToken
  moveTo saved
  return token

def tokenUntil (separator : Char) : Slicer Token := do
  skipSpace
  let start ← offset
  let text ← rest
  let eol := byteCount (text.takeWhile (· ≠ '\n'))
  let line ← cut text 0 eol
  if line.contains separator then
    let stop := byteCount (line.takeWhile (· ≠ separator))
    moveBy stop
    let span ← spanFrom start
    let name ← cut text 0 stop
    moveBy separator.utf8Size
    return ⟨String.ofList name,span⟩
  else
    fail ⟨← spanBetween start (start + eol),.missingSeparator separator⟩

def restOfLine : Slicer Token := do
  skipInlineSpace
  let start ← offset
  let text ← rest
  let line ← cut text 0 (byteCount (text.takeWhile (· ≠ '\n')))
  moveBy (byteCount (trimEnd line))
  return ⟨String.ofList (trimEnd line),← spanFrom start⟩

end Slicer

end SmaliNavigator
