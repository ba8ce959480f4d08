import SmaliNavigator.Path
import SmaliNavigator.Text.Blank
import SmaliNavigator.Uri.Host
import SmaliNavigator.Uri.Walk

/-!
URIs and the paths of files that they stand for.
-/

set_option autoImplicit false

namespace SmaliNavigator

open Text

structure Uri where
  host? : Option UriHost
  /-- The pieces of the path between its slashes, as they are written; none where the path is not
  made of such. -/
  pieces? : Option (List (List Char))
  deriving DecidableEq, Repr

namespace Uri

def ofPath? (p : Path) : Option String :=
  match p.key with
  | .root :: rest =>
    let names := rest.map fun
      | .name n => Escaped.encode n
      | .up => ['.', '.']
      | _ => []
    some ("file://" ++ if names.isEmpty then "/"
      else String.ofList (names.flatMap ('/' :: ·)))
  | _ => none

/-- Whether bytes end with a drive, which is a directory. -/
def endsWithDrive (bytes : List UInt8) : Bool :=
  match bytes.reverse with
  | sign :: letter :: _ :: _ =>
    Walk.isDrive [Char.ofNat letter.toNat, Char.ofNat sign.toNat]
  | _ => false

def path? (u : Uri) : Option Path := do
  let pieces ← u.pieces?
  if u.host?.all (· == UriHost.here) then
    let bytes := pieces.flatMap fun piece => Path.slash :: Escaped.decode piece
    return ⟨if endsWithDrive bytes then bytes ++ [Path.slash] else bytes⟩
  else none

/-! Reading. -/

def specialSchemes : List String := ["http", "https", "ws", "wss", "ftp", "file"]

def isSchemeChar (c : Char) : Bool :=
  c.isAlphanum || c == '+' || c == '-' || c == '.'

def readScheme? (cs : List Char) : Option (String × List Char) :=
  let name := cs.takeWhile isSchemeChar
  match cs.drop name.length with
  | ':' :: rest =>
    if name.head?.any Char.isAlpha then some (String.ofList (name.map Char.toLower),rest)
    else none
  | _ => none

def isSlash (special : Bool) (c : Char) : Bool := c == '/' || special && c == '\\'

def endsAuthority (special : Bool) (c : Char) : Bool :=
  isSlash special c || c == '?' || c == '#'

def readPieces (special : Bool) (cs : List Char) : List (List Char) :=
  splitWhere (isSlash special) (cs.takeWhile fun c => c != '?' && c != '#')

def withoutSlash (special : Bool) (cs : List Char) : List Char :=
  match cs with
  | c :: rest => if isSlash special c then rest else cs
  | [] => []

/-- Splits off who asks for something at a host. Says whether that names anybody. -/
def readUser (special : Bool) (cs : List Char) : Except UriFault (Bool × List Char) :=
  let authority := cs.takeWhile (!endsAuthority special ·)
  if authority.contains '@' then
    let host := afterLast '@' authority
    let user := authority.take (authority.length - host.length - 1)
    let rest := cs.drop (user.length + 1)
    if user.isEmpty ∧ rest.head?.any (endsAuthority special) then .error .emptyHost
    else .ok (!user.isEmpty && user != [':'],rest)
  else .ok (false,cs)

def hostText (special inBrackets : Bool) : List Char → List Char
  | [] => []
  | c :: cs =>
    if endsAuthority special c || c == ':' && !inBrackets then []
    else c :: hostText special (c == '[' || inBrackets && c != ']') cs

def readPort (cs : List Char) : Except UriFault (List Char) :=
  let digits := cs.takeWhile Char.isDigit
  let rest := cs.drop digits.length
  if 65535 < digits.foldl (fun n c => 10 * n + (c.toNat - '0'.toNat)) 0 then .error .badPort
  else if rest.head?.all (endsAuthority true) then .ok rest
  else .error .badPort

def readHost (special : Bool) (cs : List Char) : Except UriFault (Option UriHost × List Char) := do
  let text := hostText special false cs
  let rest := cs.drop text.length
  if text.isEmpty then
    if special || rest.head? == some ':' then .error .emptyHost else .ok (none,rest)
  else
    let host ← if special then UriHost.ofDomain text else UriHost.ofText text
    match rest with
    | ':' :: rest => return (some host,← readPort rest)
    | _ => return (some host,rest)

def readPlace (special : Bool) (cs : List Char) : Except UriFault Uri := do
  let (hasUser,rest) ← readUser special cs
  let (host?,rest) ← readHost special rest
  if hasUser && host?.isNone then .error .emptyHost
  else
    let isBare := !special && rest.head?.all fun c => c == '?' || c == '#'
    let pieces := (Walk.along false (readPieces special (withoutSlash special rest))).pieces
    return ⟨host?,if isBare then none else some pieces⟩

/-- Reads what follows the scheme `file`. The name of this computer says nothing there, and neither
does another one before a drive. -/
def readFile (cs : List Char) : Except UriFault Uri := do
  let onlyPath (cs : List Char) : Uri := ⟨none,(Walk.along true (readPieces true cs)).pieces⟩
  match cs with
  | a :: b :: rest =>
    if isSlash true a && isSlash true b then
      let authority := rest.takeWhile (!endsAuthority true ·)
      if authority.isEmpty || Walk.isDrive authority then return onlyPath rest
      else
        let host ← UriHost.ofDomain authority
        let path := rest.drop authority.length
        if host = UriHost.here then return onlyPath path
        else
          let place := Walk.along true (readPieces true (withoutSlash true path))
          return ⟨if place.isOnDrive then none else some host,place.pieces⟩
    else return onlyPath (withoutSlash true cs)
  | _ => return onlyPath (withoutSlash true cs)

/-- Reads a URI that says its scheme. Blanks around it, and line breaks and tabs in it, do not
count. -/
def ofString (s : String) : Except UriFault Uri :=
  let cs := dropEndWhile (·.toNat ≤ 0x20) (s.toList.dropWhile (·.toNat ≤ 0x20))
  let cs := cs.filter fun c => c != '\t' && c != '\n' && c != '\r'
  match readScheme? cs with
  | none => .error .noScheme
  | some (scheme,rest) =>
    if scheme = "file" then readFile rest
    else if specialSchemes.contains scheme then readPlace true (rest.dropWhile (isSlash true))
    else
      match rest with
      | '/' :: '/' :: place => readPlace false place
      | '/' :: path => .ok ⟨none,(Walk.along false (readPieces false path)).pieces⟩
      | _ => .ok ⟨none,none⟩

end Uri

end SmaliNavigator
