import SmaliNavigator.Text.Search

/-!
The way that the path of a URI describes. Single dots stay where they are and double dots go back,
but not over a letter with a colon, as some systems start their paths with.
-/

set_option autoImplicit false

namespace SmaliNavigator.Walk

open Text

/-- Whether a piece is a letter with a colon or a bar. -/
def isDrive (piece : List Char) : Bool :=
  match piece with
  | [a, b] => a.isAlpha && (b == ':' || b == '|')
  | _ => false

/-- Whether a piece is one that double dots do not take away. -/
def staysBehind (piece : List Char) : Bool :=
  isDrive (piece.take 2) && (piece.length == 2 || piece[2]? == some '\\')

def isDot (piece : List Char) : Bool :=
  [".", "%2e"].contains (String.ofList (piece.map Char.toLower))

def isDots (piece : List Char) : Bool :=
  ["..", ".%2e", "%2e.", "%2e%2e"].contains (String.ofList (piece.map Char.toLower))

structure Place where
  pieces : List (List Char)
  isOnDrive : Bool
  deriving DecidableEq, Repr

def next (isFile : Bool) (p : Place) (piece : List Char) : Place :=
  if isDots piece then
    if p.pieces.getLast?.any staysBehind then p else { p with pieces := p.pieces.dropLast }
  else if isDot piece then p
  else
    match isFile && p.pieces.isEmpty && isDrive piece, piece with
    | true, letter :: _ => ⟨[[letter, ':']],true⟩
    | _, _ => { p with pieces := p.pieces ++ [piece] }

/-- Goes along a path. Dots at the end of it lead to a directory, as a slash does. -/
def along (isFile : Bool) (pieces : List (List Char)) : Place :=
  let p := pieces.foldl (next isFile) ⟨[],false⟩
  let endsInDots := pieces.getLast?.any fun piece => isDots piece || isDot piece
  let p := if endsInDots then { p with pieces := p.pieces ++ [[]] } else p
  if isFile then
    let kept := p.pieces.dropWhile List.isEmpty
    { p with pieces := if kept.isEmpty then [[]] else kept }
  else p

end SmaliNavigator.Walk
