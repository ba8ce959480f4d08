import SmaliNavigator.Text.Position
import SmaliNavigator.Text.Search

/-!
What can be wrong with a file. A `Fault` is the cause; its kind, its severity and its wording follow
from it.
-/

set_option autoImplicit false

namespace SmaliNavigator

inductive Severity where
  | error | warning | information | hint
  deriving DecidableEq, Repr

def Severity.label : Severity → String
  | error => "Error"
  | warning => "Warning"
  | information => "Information"
  | hint => "Hint"

inductive DiagnosticKind where
  | malformed
  | unterminated
  /-- A class that more than one file declares. -/
  | conflict
  /-- A failure that the text is not to blame for. -/
  | internal
  deriving DecidableEq, Repr

namespace DiagnosticKind

def label : DiagnosticKind → String
  | malformed => "Syntax"
  | unterminated => "Unterminated"
  | conflict => "Conflict"
  | internal => "Internal"

def severity : DiagnosticKind → Severity
  | malformed | unterminated => .error
  | conflict => .warning
  | internal => .hint

/-- Whether a file with such a diagnostic has no class. -/
def isFatal (k : DiagnosticKind) : Bool :=
  k != conflict

end DiagnosticKind

inductive Fault where
  | missingKeyword (keyword : String)
  | notAClassName (found : String)
  | missingSeparator (separator : Char)
  | emptyClassName (raw : String)
  | openClassName
  | unknownType (code : Char)
  | missingType
  | openParameters
  | openMethod
  | openAnnotationBlock
  | ownerNotAClass (raw : String)
  | missingArrow (raw : String)
  | declaredTwice (readable : String) (others : List String)
  | nothingToFallBackOn (version : Option Int) (file : String)
  deriving DecidableEq, Repr

namespace Fault

def kind : Fault → DiagnosticKind
  | openMethod | openAnnotationBlock => .unterminated
  | declaredTwice _ _ => .conflict
  | ownerNotAClass _ | missingArrow _ | nothingToFallBackOn _ _ => .internal
  | _ => .malformed

def cause : Fault → String
  | missingKeyword k => "Expect \"" ++ k ++ "\" here, the file may not be a standard smali file."
  | notAClassName found => "Class name must be a class descriptor, found " ++ found
  | missingSeparator c => "expected '" ++ String.singleton c ++ "' before the end of the line"
  | emptyClassName raw => "Malformed class descriptor: " ++ raw
  | openClassName => "Unterminated class descriptor, expected ';'"
  | unknownType c => "Unknown type identifier: " ++ String.singleton c
  | missingType => "Expected a type descriptor, found the end of the file"
  | openParameters => "Unterminated parameter list, expected ')'"
  | openMethod => "Can not find \".end method\" pair"
  | openAnnotationBlock => "Can not find \".end annotation\" pair"
  | ownerNotAClass raw => "member owner " ++ raw ++ " is not a class"
  | missingArrow raw => "expected \"->\" after " ++ raw
  | declaredTwice readable others =>
    "Class " ++ readable ++ " is also declared in " ++ Text.joinWith ", " others
  | nothingToFallBackOn version file =>
    let written := match version with
      | some v => "Some(" ++ toString v ++ ")"
      | none => "None"
    "stale version " ++ written ++ " of " ++ file ++ " has nothing to fall back on"

def message (f : Fault) : String :=
  match f.kind with
  | .internal => "Parse error: " ++ f.cause ++ ", please report this file."
  | _ => f.cause

end Fault

structure Diagnostic where
  span : Span
  fault : Fault
  deriving DecidableEq, Repr

namespace Diagnostic

def kind (d : Diagnostic) : DiagnosticKind := d.fault.kind
def severity (d : Diagnostic) : Severity := d.kind.severity
def message (d : Diagnostic) : String := d.fault.message
def isFatal (d : Diagnostic) : Bool := d.kind.isFatal
def isConflict (d : Diagnostic) : Bool := d.kind == .conflict

def render (d : Diagnostic) : String :=
  d.message ++ " (" ++ d.span.render ++ ")"

end Diagnostic

end SmaliNavigator
