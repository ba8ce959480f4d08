import SmaliNavigator.Config
import SmaliNavigator.Failure
import SmaliNavigator.Path
import SmaliNavigator.Text.Quoted

/-!
Globs. `*` and `?` stand for any characters, `**` between slashes for any directories, `[…]` for one
of some characters and `{a,b}` for one of some globs. What is matched are the bytes of a path as it
is written, and a `?` or a class is one byte.
-/

set_option autoImplicit false

namespace SmaliNavigator

structure GlobStyle where
  /-- Whether `*` and `?` stand for slashes too. -/
  crossesSlashes : Bool
  /-- Whether a bracket that nothing closes is an ordinary character, and all brackets behind it. -/
  takesOpenClass : Bool
  deriving DecidableEq, Repr

def GlobStyle.settings : GlobStyle := ⟨true,false⟩

def GlobStyle.ignoreFiles : GlobStyle := ⟨false,true⟩

inductive GlobToken where
  | literal (c : Char)
  | one
  | many
  /-- `**/` at the start: any directories, or none. -/
  | leadingDirs
  /-- `/**` at the end: anything below. -/
  | trailingDirs
  /-- `/**/`: any directories in between, or none. -/
  | innerDirs
  | oneOf (negated : Bool) (ranges : List (Char × Char))
  | choice (globs : List (List GlobToken))
  deriving Repr

namespace Glob

/-- The state of reading a glob: the globs under way, each of them with its last token first. The
innermost comes first, and `opened` says for each open brace how many were there before it. -/
structure Reading where
  branches : List (List GlobToken)
  opened : List Nat
  /-- Whether brackets are ordinary characters, since there was one that nothing closes. -/
  plainBrackets : Bool
  deriving Repr

namespace Reading

def start : Reading := ⟨[[]],[],false⟩

def push (r : Reading) (t : GlobToken) : Reading :=
  match r.branches with
  | [] => { r with branches := [[t]] }
  | b :: bs => { r with branches := (t :: b) :: bs }

def replace (r : Reading) (f : GlobToken → GlobToken) : Reading :=
  match r.branches with
  | (t :: b) :: bs => { r with branches := (f t :: b) :: bs }
  | _ => r

def openBrace (r : Reading) : Reading :=
  { r with branches := [] :: r.branches, opened := r.branches.length :: r.opened }

def comma (r : Reading) : Reading :=
  if r.opened.isEmpty then r.push (.literal ',') else { r with branches := [] :: r.branches }

def closeBrace? (r : Reading) : Option Reading :=
  match r.opened with
  | [] => none
  | n :: opened =>
    let inner := r.branches.take (r.branches.length - n)
    let outer := r.branches.drop (r.branches.length - n)
    let r := { r with branches := outer, opened }
    some (r.push (.choice (inner.map List.reverse).reverse))

def isNested (r : Reading) : Bool := 2 ≤ r.branches.length

end Reading

/-- The ranges of a class, the last one first, with a character more. `isRange` says that a dash
came before it. -/
def addToRanges (isRange : Bool) (c : Char) : List (Char × Char) →
    Except GlobFault (List (Char × Char))
  | (a,b) :: rs =>
    if isRange then if c < a then .error (.badRange a c) else .ok ((a,c) :: rs)
    else .ok ((c,c) :: (a,b) :: rs)
  | [] => .ok [(c,c)]

def readClass (isFirst isRange : Bool) (ranges : List (Char × Char)) : List Char →
    Except GlobFault (List (Char × Char) × List Char)
  | [] => .error .openClass
  | c :: cs =>
    if c = ']' ∧ ¬isFirst then
      .ok ((if isRange then ('-','-') :: ranges else ranges).reverse,cs)
    else if c = '-' ∧ ¬isFirst ∧ ¬isRange then readClass false true ranges cs
    else if c = ']' ∧ isFirst then readClass false false ((']',']') :: ranges) cs
    else do readClass false false (← addToRanges isRange c ranges) cs

/-- Two stars. They stand for directories only where nothing but slashes is beside them. Gives the
reading and what is left behind. -/
def readStars (r : Reading) (before? : Option Char) (cs : List Char) : Reading × List Char :=
  let plain := ((r.push .many).push .many,cs)
  let isEmpty := (r.branches.head?.getD []).isEmpty
  if isEmpty then
    match cs with
    | [] => (r.push .leadingDirs,[])
    | '/' :: rest => (r.push .leadingDirs,rest)
    | _ => plain
  else if before? ≠ some '/' ∧ ¬(r.isNested ∧ (before? = some ',' ∨ before? = some '\x7b')) then
    plain
  else
    let keep (t : GlobToken) : GlobToken → GlobToken := fun last =>
      match last with
      | .leadingDirs => .leadingDirs
      | .trailingDirs => .trailingDirs
      | _ => t
    match cs with
    | [] => (r.replace (keep .trailingDirs),[])
    | '/' :: rest => (r.replace (keep .innerDirs),rest)
    | c :: _ =>
      if r.isNested ∧ (c = ',' ∨ c = '\x7d') then (r.replace (keep .trailingDirs),cs) else plain

def readTokens (style : GlobStyle) : (fuel : Nat) → Reading → (before? : Option Char) →
    List Char → Except GlobFault Reading
  | 0, r, _, _ => .ok r
  | _, r, _, [] => .ok r
  | fuel + 1, r, before?, c :: cs =>
    match c with
    | '?' => readTokens style fuel (r.push .one) (some c) cs
    | '*' =>
      match cs with
      | '*' :: cs =>
        let (r,rest) := readStars r before? cs
        let before? := if rest.length < cs.length then some '/' else some '*'
        readTokens style fuel r before? rest
      | _ => readTokens style fuel (r.push .many) (some c) cs
    | '[' =>
      let (negated,inner) := match cs with
        | '!' :: rest | '^' :: rest => (true,rest)
        | _ => (false,cs)
      let literal := r.push (.literal c)
      if r.plainBrackets then readTokens style fuel literal (some c) cs
      else match readClass true false [] inner with
      | .ok (ranges,rest) => readTokens style fuel (r.push (.oneOf negated ranges)) (some ']') rest
      | .error e =>
        if e = .openClass ∧ style.takesOpenClass then
          readTokens style fuel { literal with plainBrackets := true } (some c) cs
        else .error e
    | '\x7b' => readTokens style fuel r.openBrace (some c) cs
    | '\x7d' =>
      match r.closeBrace? with
      | some r => readTokens style fuel r (some c) cs
      | none => .error .closedTooOften
    | ',' => readTokens style fuel r.comma (some c) cs
    | '\\' =>
      match cs with
      | [] => .error .danglingEscape
      | e :: rest => readTokens style fuel (r.push (.literal e)) (some e) rest
    | c => readTokens style fuel (r.push (.literal c)) (some c) cs

def readAll (style : GlobStyle) (glob : String) : Except GlobFault (List GlobToken) := do
  let cs := glob.toList
  let r ← readTokens style cs.length .start none cs
  match r.branches with
  | [b] => return b.reverse
  | _ => .error .closedTooSeldom

mutual

def isVoid : GlobToken → Bool
  | .choice gs => allVoid gs
  | _ => false

def isVoidSeq : List GlobToken → Bool
  | [] => true
  | t :: ts => isVoid t && isVoidSeq ts

def allVoid : List (List GlobToken) → Bool
  | [] => true
  | g :: gs => isVoidSeq g && allVoid gs

end

/-- The ranges of bytes that a range of characters lets in: the last byte of the first character to
the first byte of the last one, and the other bytes of the two. -/
def byteRanges (r : Char × Char) : List (UInt8 × UInt8) :=
  let bytesOf := fun (c : Char) => Text.encodeUtf8 [c]
  let single := fun (b : UInt8) => (b,b)
  if r.1 = r.2 then (bytesOf r.1).map single
  else
    let low := bytesOf r.1
    let high := bytesOf r.2
    low.dropLast.map single ++ [(low.getLastD 0,high.headD 0)] ++ high.tail.map single

def isInClass (negated : Bool) (ranges : List (Char × Char)) (b : UInt8) : Bool :=
  (ranges.flatMap byteRanges).any (fun r => r.1 ≤ b && b ≤ r.2) != negated

/-- The places of a path that are reached: a mark in front of each byte, and one at the end. -/
abbrev Marks : Type := List Bool

namespace Marks

def start (bytes : List UInt8) : Marks := true :: bytes.map fun _ => false

def none (marks : Marks) : Marks := marks.map fun _ => false

def union (a b : Marks) : Marks := List.zipWith (· || ·) a b

def step (p : UInt8 → Bool) (bytes : List UInt8) (marks : Marks) : Marks :=
  false :: List.zipWith (fun m b => m && p b) marks bytes

/-- The places behind any number of bytes of a kind; `carried` says that the first one is reached
from further on the left. -/
def spread (p : UInt8 → Bool) (carried : Bool) : List UInt8 → Marks → Marks
  | b :: bytes, m :: marks => (carried || m) :: spread p ((carried || m) && p b) bytes marks
  | [], m :: marks => (carried || m) :: marks
  | _, [] => []

def isSlash (b : UInt8) : Bool := b == Path.slash

def behindSlash (bytes : List UInt8) (marks : Marks) : Marks := step isSlash bytes marks

def onward (bytes : List UInt8) (marks : Marks) : Marks := spread (fun _ => true) false bytes marks

end Marks

mutual

def reach (style : GlobStyle) (bytes : List UInt8) : GlobToken → Marks → Marks
  | .literal c, marks =>
    (Text.encodeUtf8 [c]).foldl (fun marks b => Marks.step (· == b) bytes marks) marks
  | .one, marks => Marks.step (fun b => style.crossesSlashes || !Marks.isSlash b) bytes marks
  | .many, marks =>
    Marks.spread (fun b => style.crossesSlashes || !Marks.isSlash b) false bytes marks
  | .leadingDirs, marks =>
    Marks.union marks (Marks.behindSlash bytes (Marks.onward bytes marks))
  | .trailingDirs, marks => Marks.onward bytes (Marks.behindSlash bytes marks)
  | .innerDirs, marks =>
    let below := Marks.behindSlash bytes marks
    Marks.union below (Marks.behindSlash bytes (Marks.onward bytes below))
  | .oneOf negated ranges, marks => Marks.step (isInClass negated ranges) bytes marks
  | .choice gs, marks => if allVoid gs then marks else reachAny style bytes gs marks

def reachSeq (style : GlobStyle) (bytes : List UInt8) : List GlobToken → Marks → Marks
  | [], marks => marks
  | t :: ts, marks => reachSeq style bytes ts (reach style bytes t marks)

def reachAny (style : GlobStyle) (bytes : List UInt8) : List (List GlobToken) → Marks → Marks
  | [], marks => marks.none
  | g :: gs, marks =>
    if isVoidSeq g then reachAny style bytes gs marks
    else Marks.union (reachSeq style bytes g marks) (reachAny style bytes gs marks)

end

def isLiteral : GlobToken → Bool
  | .literal _ => true
  | _ => false

def isLiteralOf (c : Char) : GlobToken → Bool
  | .literal d => c == d
  | _ => false

/-- Whether a glob asks for the name of a file, which two dots are not. Of the globs that end with a
dot, those do that look at the name or its extension alone; the others are a text, or end in one. -/
def asksForName (style : GlobStyle) (ts : List GlobToken) : Bool :=
  let (isDeep,rest) := match ts with
    | .leadingDirs :: rest => (true,rest)
    | _ => (false,ts)
  ts.getLast?.any (isLiteralOf '.') &&
    if rest.all isLiteral then isDeep && !rest.any (isLiteralOf '/')
    else match rest with
      | .many :: ending =>
        ending.length == 1 || !(style.crossesSlashes && ending.all isLiteral)
      | _ => true

end Glob

structure Glob where
  style : GlobStyle
  tokens : List GlobToken
  deriving Repr

namespace Glob

def ofString (style : GlobStyle) (glob : String) : Except GlobFault Glob := do
  return ⟨style,← readAll style glob⟩

/-- Whether the tokens fit the whole of a path. Directories alone fit every path. -/
def fits (g : Glob) (bytes : List UInt8) : Bool :=
  match g.tokens with
  | [.leadingDirs] => true
  | ts => (reachSeq g.style bytes ts (Marks.start bytes)).getLast?.getD false

def isMatch (g : Glob) (p : Path) : Bool :=
  g.fits p.bytes &&
    !(asksForName g.style g.tokens && p.pieces.getLast? = some [Path.dot, Path.dot])

end Glob

structure PathFilter where
  included : List Glob
  excluded : List Glob
  deriving Repr

namespace PathFilter

def globs (setting : String) (patterns : List String) : Except Failure (List Glob) :=
  patterns.mapM fun p =>
    match Glob.ofString .settings p with
    | .ok g => .ok g
    | .error e => .error (.config ("invalid " ++ setting ++ " glob " ++ Text.quoted p ++
        ": error parsing glob '" ++ p ++ "': " ++ e.message))

def ofConfig (c : Config) : Except Failure PathFilter := do
  return ⟨← globs "include" c.included,← globs "exclude" c.excluded⟩

def isMatch (f : PathFilter) (p : Path) : Bool :=
  f.included.any (·.isMatch p) && !f.excluded.any (·.isMatch p)

end PathFilter

end SmaliNavigator
