import SmaliNavigator.Json
import SmaliNavigator.Navigation.Hover
import SmaliNavigator.Navigation.Rename
import SmaliNavigator.Navigation.Symbols
import SmaliNavigator.Text.Units
import SmaliNavigator.Uri

/-!
What the server knows, in the form that editors take it. They count columns in UTF-16 units, so that
a span needs the text of its file to be shown.
-/

set_option autoImplicit false

namespace SmaliNavigator

def Document.unitPosition (d : Document) (p : Position) : Position :=
  ⟨p.line,d.unitCol p.line p.col⟩

def Document.unitSpan (d : Document) (s : Span) : Span :=
  ⟨d.unitPosition s.start,d.unitPosition s.stop⟩

def Document.bytePosition (d : Document) (p : Position) : Position :=
  ⟨p.line,d.byteCol p.line p.col⟩

namespace Answer

def object (members : List (String × Option Json)) : Json :=
  .obj (members.filterMap fun (name,v?) => v?.map fun v => (name,v))

def position (p : Position) : Json :=
  .obj [("line",.ofNat p.line), ("character",.ofNat p.col)]

def span (s : Span) : Json :=
  .obj [("start",position s.start), ("end",position s.stop)]

structure Place where
  uri : String
  span : Span
  deriving DecidableEq, Repr

def place (p : Place) : Json :=
  .obj [("uri",.str p.uri), ("range",span p.span)]

abbrev Texts : Type := PathMap Document

/-- Adds the texts of files to those that are there. A file without a text stays out. -/
def read : List Path → Texts → Query Texts
  | [], texts => return texts
  | f :: fs, texts => do
    if texts.contains f then read fs texts
    else
      match ← Query.document? f with
      | some d => read fs (texts.insert f d)
      | none => read fs texts

def placeOf? (texts : Texts) (l : Location) : Option Place := do
  return ⟨← Uri.ofPath? l.file,(← texts.get? l.file).unitSpan l.span⟩

def places (ls : List Location) : Query (List Place) := do
  let texts ← read (ls.map (·.file)) ∅
  return ls.filterMap (placeOf? texts)

def definitions (ls : List Location) : Query Json := do
  match ← places ls with
  | [] => return .null
  | [p] => return place p
  | ps => return .arr (ps.map place)

def references (ls : List Location) : Query Json := do
  if ls.isEmpty then return .null
  else return .arr ((← places ls).map place)

def hover (file : Path) (h : HoverInfo) : Query Json := do
  let texts ← read [file] ∅
  let value := "```java\n" ++ h.contents ++ "\n```"
  return object [
    ("contents",some (.obj [("kind",.str "markdown"), ("value",.str value)])),
    ("range",(texts.get? file).map fun d => span (d.unitSpan h.span))]

def textEdit (d : Document) (e : TextEdit) : Json :=
  .obj [("range",span (d.unitSpan e.span)), ("newText",.str e.text)]

def fileEdits (texts : Texts) (r : RenameEdits) : List (String × List Json) :=
  r.edits.toList.filterMap fun (f,es) => do
    return (← Uri.ofPath? f,es.map (textEdit (← texts.get? f)))

def fileMove? (move : Path × Path) : Option Json := do
  return .obj [("kind",.str "rename"), ("oldUri",.str (← Uri.ofPath? move.1)),
    ("newUri",.str (← Uri.ofPath? move.2))]

def documentChange (edits : String × List Json) : Json :=
  .obj [("textDocument",.obj [("uri",.str edits.1), ("version",.null)]),
    ("edits",.arr edits.2)]

/-- The edits of a rename. Where files move, the edits come first, in the order of the URIs as they
are written. -/
def edits (r : RenameEdits) : Query Json := do
  let texts ← read (r.edits.toList.map (·.1)) ∅
  let changes := fileEdits texts r
  if r.moves.isEmpty then
    return .obj [("changes",.obj (changes.map fun (uri,es) => (uri,.arr es)))]
  else
    let inOrder := changes.mergeSort fun a b => (compare (Json.quote a.1) (Json.quote b.1)).isLE
    return .obj [("documentChanges",
      .arr (inOrder.map documentChange ++ r.moves.filterMap fileMove?))]

def symbolKind : SymbolKind → Json
  | .classType => .int 5
  | .method => .int 6
  | .field => .int 8
  | .constructorMethod => .int 9
  | .interfaceType => .int 11

def outlineItem (d : Document) (o : OutlineItem) (members : List Json) : Json :=
  object [
    ("name",some (.str o.name)),
    ("detail",o.detail?.map .str),
    ("kind",some (symbolKind o.kind)),
    ("range",some (span (d.unitSpan o.span))),
    ("selectionRange",some (span (d.unitSpan o.selection))),
    ("children",if members.isEmpty then none else some (.arr members))]

def outline (c : Class) : Json :=
  let members := c.outline.members.map fun m => outlineItem c.document m []
  .arr [outlineItem c.document c.outline.root members]

def symbolHit? (texts : Texts) (h : SymbolHit) : Option Json := do
  let p ← placeOf? texts h.location
  return object [
    ("name",some (.str h.name)),
    ("kind",some (symbolKind h.kind)),
    ("location",some (place p)),
    ("containerName",h.container?.map .str)]

def symbolHits (hs : List SymbolHit) : Query Json := do
  let texts ← read (hs.map (·.location.file)) ∅
  return .arr (hs.filterMap (symbolHit? texts))

def severity : Severity → Json
  | .error => .int 1
  | .warning => .int 2
  | .information => .int 3
  | .hint => .int 4

/-- A diagnostic; where the text of its file is not known, its columns stay as they are. -/
def diagnostic (text? : Option Document) (d : Diagnostic) : Json :=
  .obj [
    ("range",span ((text?.map fun t => t.unitSpan d.span).getD d.span)),
    ("severity",severity d.severity),
    ("source",.str "smaliscope"),
    ("message",.str d.message)]

end Answer

end SmaliNavigator
