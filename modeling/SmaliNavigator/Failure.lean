/-!
What can go wrong apart from the text of a file: reading it, the configuration, and a rename that is
refused.
-/

set_option autoImplicit false

namespace SmaliNavigator

inductive GlobFault where
  | openClass
  | badRange (first last : Char)
  | closedTooOften
  | closedTooSeldom
  | danglingEscape
  deriving DecidableEq, Repr

def GlobFault.message : GlobFault → String
  | openClass => "unclosed character class; missing ']'"
  | badRange a b =>
    "invalid range; '" ++ String.singleton a ++ "' > '" ++ String.singleton b ++ "'"
  | closedTooOften =>
    "unopened alternate group; missing '\x7b' (maybe escape '\x7d' with '[\x7d]'?)"
  | closedTooSeldom =>
    "unclosed alternate group; missing '\x7d' (maybe escape '\x7b' with '[\x7b]'?)"
  | danglingEscape => "dangling '\\'"

/-- Why a symbol is not renamed. -/
inductive Refusal where
  | nothingHere
  | stringLiteral
  | invalidName (name : String)
  | primitive (readable : String)
  | notDeclared (readable : String)
  | constructorName
  | doesNotParse (file : String)
  deriving DecidableEq, Repr

def Refusal.message : Refusal → String
  | nothingHere => "Nothing that can be renamed here"
  | stringLiteral => "String literals cannot be renamed"
  | invalidName name => "\"" ++ name ++ "\" is not a valid name"
  | primitive readable => readable ++ " is a primitive type"
  | notDeclared readable => readable ++ " is not declared in this project"
  | constructorName => "Constructors are renamed with their class"
  | doesNotParse file => file ++ " does not parse"

inductive Failure where
  | io (reason : String)
  | json
  | config (reason : String)
  | rename (refusal : Refusal)
  | internal (reason : String)
  deriving DecidableEq, Repr

def Failure.message : Failure → String
  | io reason => "I/O error: " ++ reason
  | json => "JSON serialization/deserialization error: "
  | config reason => "Invalid configuration: " ++ reason
  | rename refusal => "Cannot rename: " ++ refusal.message
  | internal reason => "Internal error: " ++ reason

end SmaliNavigator
