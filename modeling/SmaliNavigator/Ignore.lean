import SmaliNavigator.Glob
import SmaliNavigator.Text.Blank

/-!
Ignore files. Each line is a glob for entries below the directory of the file. An exclamation mark
takes entries in again, a slash at the end is for directories only, and a glob with any other slash
starts at the directory of the file, whereas one without holds at every depth below it. Of the lines
that fit an entry the last one counts.
-/

set_option autoImplicit false

namespace SmaliNavigator

structure IgnoreRule where
  glob : Glob
  /-- Whether the line takes entries in again. -/
  keeps : Bool
  onlyDirectories : Bool
  deriving Repr

namespace IgnoreRule

/-- The line without blanks at its end; a blank behind a backslash stays. -/
def trimLine (line : List Char) : List Char :=
  if "\\ ".toList.isSuffixOf line then line else Text.trimEnd line

/-- Splits the signs at the start of a line off: whether it takes entries in, and whether its glob
starts at the directory of the file. -/
def readSigns : List Char → Bool × Bool × List Char
  | '\\' :: '!' :: cs => (false,false,'!' :: cs)
  | '\\' :: '#' :: cs => (false,false,'#' :: cs)
  | '!' :: '/' :: cs => (true,true,cs)
  | '!' :: cs => (true,false,cs)
  | '/' :: cs => (false,true,cs)
  | cs => (false,false,cs)

def readSlash (cs : List Char) : Bool × List Char :=
  if cs.getLast? = some '/' then
    let cs := cs.dropLast
    (true,if cs.getLast? = some '\\' then cs.dropLast else cs)
  else (false,cs)

def globText (anchored : Bool) (cs : List Char) : List Char :=
  let atAnyDepth := !anchored && !cs.contains '/' && cs != "**".toList
  let cs := if atAnyDepth then "**/".toList ++ cs else cs
  if "/**".toList.isSuffixOf cs then cs ++ "/*".toList else cs

def ofLine? (line : List Char) : Option IgnoreRule :=
  if line.head? = some '#' then none
  else
    let line := trimLine line
    if line.isEmpty then none
    else
      let (keeps,anchored,cs) := readSigns line
      let (onlyDirectories,cs) := readSlash cs
      match Glob.ofString .ignoreFiles (String.ofList (globText anchored cs)) with
      | .ok glob => some ⟨glob,keeps,onlyDirectories⟩
      | .error _ => none

end IgnoreRule

abbrev IgnoreFile : Type := List IgnoreRule

namespace IgnoreFile

def fileName : String := ".ignore"

/-- The lines of a text. One carriage return goes with the line feed that it stands before. -/
def lines (cs : List Char) : List (List Char) :=
  let pieces := Text.splitWhere (· == '\n') cs
  let ended := pieces.dropLast.map fun line =>
    if line.getLast? = some '\r' then line.dropLast else line
  ended ++ (pieces.getLast?.filter (!·.isEmpty)).toList

def ofString (s : String) : IgnoreFile :=
  (lines (s.toList.dropWhile (· = '\ufeff'))).filterMap IgnoreRule.ofLine?

/-- Whether the file takes an entry in or leaves it out; nothing if it does not speak of it. -/
def verdict? (rules : IgnoreFile) (entry : Path) (isDirectory : Bool) : Option Bool :=
  let fits := fun (r : IgnoreRule) =>
    (isDirectory || !r.onlyDirectories) && r.glob.isMatch entry
  (rules.reverse.find? fits).map (·.keeps)

end IgnoreFile

end SmaliNavigator
