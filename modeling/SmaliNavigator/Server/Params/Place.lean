import SmaliNavigator.Server.Params.Form
import SmaliNavigator.Text.Position

/-!
The forms of places in documents, and the members that requests take in from elsewhere.
-/

set_option autoImplicit false

namespace SmaliNavigator.Form

open Params Params.Fields

def position : Form Position :=
  record "Position" (Position.mk <$> need "line" nat32 <*> need "character" nat32)

def range : Form Span :=
  record "Range" (Span.mk <$> need "start" position <*> need "end" position)

def document : Form Uri :=
  record "TextDocumentIdentifier" (need "uri" uri)

def location : Form (Uri × Span) :=
  record "Location" (Prod.mk <$> need "uri" uri <*> need "range" range)

def placeFields : Fields (Uri × Position) :=
  Prod.mk <$> need "textDocument" document <*> need "position" position

def place : Borrowed (Uri × Position) := .ofFields placeFields

def token : Check := choice "NumberOrString" [check int32, check text]

/-- The token of a request that tells how far its work is. -/
def progress : Borrowed Unit := .ofFields (mayHave "workDoneToken" token)

/-- The token of a request that gives its results bit by bit. -/
def partly : Borrowed Unit := .ofFields (mayHave "partialResultToken" token)

def tokens : Borrowed Unit := progress *> partly

end SmaliNavigator.Form
