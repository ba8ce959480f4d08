import SmaliNavigator.Descriptor
import SmaliNavigator.Text.Bytes
import SmaliNavigator.Text.WordChar

/-!
The shapes of symbols in a line of code. A pattern takes a text and gives what is left of it behind
the symbol that it starts with. All patterns here are deterministic: no symbol of a kind is the
start of another one of that kind, or the longest one is meant.
-/

set_option autoImplicit false

namespace SmaliNavigator

open Text

/-- What is left of a text behind a symbol at its start, if there is one. -/
abbrev Pattern : Type := List Char → Option (List Char)

namespace Pattern

def literal (s : String) : Pattern := fun cs =>
  if s.toList.isPrefixOf cs then some (cs.drop s.toList.length) else none

def some1 (p : Char → Bool) : Pattern := fun cs =>
  match cs with
  | [] => none
  | c :: rest => if p c then some (rest.dropWhile p) else none

def seq (p q : Pattern) : Pattern := fun cs => (p cs).bind q

def alt (p q : Pattern) : Pattern := fun cs => (p cs).or (q cs)

def manyUpTo (p : Pattern) : (fuel : Nat) → Pattern
  | 0, cs => some cs
  | fuel + 1, cs =>
    match p cs with
    | none => some cs
    | some rest => manyUpTo p fuel rest

/-- A pattern as often as it fits. Each time it takes up a character of the text at least. -/
def many (p : Pattern) : Pattern := fun cs => manyUpTo p cs.length cs

def isMemberNameChar (c : Char) : Bool :=
  isWordChar c || c == '$' || c == '-'

def isClassNameChar (c : Char) : Bool :=
  isWordChar c || c == '$' || c == '/' || c == '-'

def isLabelChar (c : Char) : Bool :=
  isWordChar c || c == '$'

/-- `Lpackage/Name;` -/
def className : Pattern :=
  (literal "L").seq ((some1 isClassNameChar).seq (literal ";"))

def primitiveCode : Pattern := fun cs =>
  match cs with
  | [] => none
  | c :: rest => if (Primitive.ofCode? c).isSome then some rest else none

def dimensions : Pattern := fun cs => some (cs.dropWhile (· == '['))

def owner : Pattern := dimensions.seq className

def type : Pattern := dimensions.seq (primitiveCode.alt className)

def fieldReference : Pattern :=
  owner.seq ((literal "->").seq ((some1 isMemberNameChar).seq ((literal ":").seq type)))

def methodName : Pattern :=
  (some1 isMemberNameChar).alt ((literal "<init>").alt (literal "<clinit>"))

def methodReference : Pattern :=
  owner.seq ((literal "->").seq (methodName.seq
    ((literal "(").seq ((many type).seq ((literal ")").seq type)))))

/-- What follows the opening quote of a string literal. A backslash takes the next character with
it, but not a line feed. -/
def stringTail : Pattern
  | [] => none
  | [c] => if c = '"' then some [] else none
  | c :: d :: rest =>
    if c = '"' then some (d :: rest)
    else if c = '\\' then if d = '\n' then none else stringTail rest
    else stringTail (d :: rest)

def stringLiteral : Pattern := fun cs =>
  match cs with
  | [] => none
  | c :: rest => if c = '"' then stringTail rest else none

def label : Pattern := (literal ":").seq (some1 isLabelChar)

end Pattern

structure Match where
  start : Nat
  stop : Nat
  chars : List Char
  deriving DecidableEq, Repr

namespace Match

def text (m : Match) : String := String.ofList m.chars

def covers (m : Match) (col : Nat) : Bool :=
  m.start ≤ col && col < m.stop

def span (m : Match) (line : Nat) : Span := .within line m.start m.stop

end Match

namespace Pattern

/-- The matches in a text that starts at column `col`, after `skip` characters that an earlier match
has taken. -/
def findFrom (p : Pattern) (skip col : Nat) : List Char → List Match
  | [] => []
  | c :: cs =>
    match skip with
    | n + 1 => findFrom p n (col + c.utf8Size) cs
    | 0 =>
      match p (c :: cs) with
      | none => findFrom p 0 (col + c.utf8Size) cs
      | some rest =>
        let taken := (c :: cs).take ((c :: cs).length - rest.length)
        ⟨col,col + byteCount taken,taken⟩ ::
          findFrom p (taken.length - 1) (col + c.utf8Size) cs

/-- The matches in a line from left to right, none inside of another. -/
def findAll (p : Pattern) (cs : List Char) : List Match :=
  findFrom p 0 0 cs

def findFirst? (p : Pattern) (cs : List Char) : Option Match :=
  (p.findAll cs).head?

def matchAt? (p : Pattern) (cs : List Char) (col : Nat) : Option Match :=
  (p.findAll cs).find? (·.covers col)

end Pattern

end SmaliNavigator
