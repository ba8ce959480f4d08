import SmaliNavigator.Query
import SmaliNavigator.Text.Search

/-!
Where the text of a project has a symbol. A symbol is found as a text, but not inside of a longer
name that goes on to the left of it.
-/

set_option autoImplicit false

namespace SmaliNavigator

open Text

/-- A character that makes a symbol behind it part of a longer one. -/
def continuesSymbol (c : Char) : Bool :=
  isAlphanumeric c || c == '_' || c == '$' || c == '/' || c == '-'

/-- The byte offsets of a symbol in a text that starts at `offset` behind the character `before?`.
Occurrences do not overlap; `skip` characters belong to the last one. -/
def symbolOffsetsFrom (symbol : List Char) (before? : Option Char) (skip offset : Nat) :
    List Char → List Nat
  | [] => []
  | c :: cs =>
    match skip with
    | n + 1 => symbolOffsetsFrom symbol (some c) n (offset + c.utf8Size) cs
    | 0 =>
      if symbol.isPrefixOf (c :: cs) then
        let later := symbolOffsetsFrom symbol (some c) (symbol.length - 1) (offset + c.utf8Size) cs
        if before?.any continuesSymbol then later else offset :: later
      else symbolOffsetsFrom symbol (some c) 0 (offset + c.utf8Size) cs

def symbolOffsets (symbol text : List Char) : List Nat :=
  if symbol.isEmpty then [] else symbolOffsetsFrom symbol none 0 0 text

def symbolLocations (symbol : String) (file : Path) (d : Document) : List Location :=
  (symbolOffsets symbol.toList d.chars).map fun o =>
    ⟨file,d.spanOf o (o + symbol.utf8ByteSize)⟩

abbrev Occurrences : Type := List (String × List Location)

/-- Symbols with locations as occurrences; of a symbol that comes more than once the last ones
count. -/
def Occurrences.ofPairs : List (String × List Location) → Occurrences
  | [] => []
  | (symbol,ls) :: pairs =>
    let later := ofPairs pairs
    if later.any (·.1 == symbol) then later else (symbol,ls) :: later

def occurrencesIn (symbols : List String) (files : List (Path × Document)) : Occurrences :=
  symbols.eraseDups.map fun s => (s,files.flatMap fun (f,d) => symbolLocations s f d)

namespace Query

def readTexts : List Path → Query (List (Path × Document))
  | [] => return []
  | f :: fs => do
    if ← isCalledOff then return []
    let d? ← sourceOf? f
    return (d?.toList.map fun d => (f,d)) ++ (← readTexts fs)

def findOccurrences (symbols : List String) : Query Occurrences := do
  waitReady
  return occurrencesIn symbols (← readTexts (← getIndex).knownFiles)

end Query

end SmaliNavigator
