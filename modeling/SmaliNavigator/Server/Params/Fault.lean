import SmaliNavigator.Json
import SmaliNavigator.Text.Quoted

/-!
Why parameters cannot be used, and how the client is told of it.
-/

set_option autoImplicit false

namespace SmaliNavigator

/-- What is wrong with parameters, in which a value was found that is not of the wanted form. -/
inductive ParamsFault where
  | missing
  | unexpected (params : Json)
  | missingMember (name : String)
  | wrongKind (found : Json) (wanted : String)
  | wrongValue (found : Json) (wanted : String)
  | wrongLength (length : Nat) (wanted : String)
  | unknownWord (word : String) (words : List String)
  | noChoice (name : String)
  deriving Repr

namespace ParamsFault

def ticked (s : String) : String := "\x60" ++ s ++ "\x60"

def describe : Json → String
  | .null => "null"
  | .bool b => "boolean " ++ ticked (if b then "true" else "false")
  | .number (.whole n) => "integer " ++ ticked (toString n)
  | .number (.float x) => "floating point " ++ ticked (Json.Number.renderFloat x)
  | .str s => "string " ++ Text.quoted s
  | .halfPair => "string \"\""
  | .arr _ => "sequence"
  | .obj _ => "map"

def choiceOf (words : List String) : String :=
  match words.map ticked with
  | [] => "nothing"
  | [a] => a
  | [a, b] => a ++ " or " ++ b
  | many => "one of " ++ Text.joinWith ", " many

def counted (n : Nat) (thing : String) : String :=
  toString n ++ " " ++ thing ++ (if n = 1 then "" else "s")

def message : ParamsFault → String
  | missing => "Missing params field"
  | unexpected params => "Unexpected params: " ++ params.render
  | missingMember name => "missing field " ++ ticked name
  | wrongKind found wanted => "invalid type: " ++ describe found ++ ", expected " ++ wanted
  | wrongValue found wanted => "invalid value: " ++ describe found ++ ", expected " ++ wanted
  | wrongLength length wanted => "invalid length " ++ toString length ++ ", expected " ++ wanted
  | unknownWord word words =>
    "unknown variant " ++ ticked word ++ ", expected " ++ choiceOf words
  | noChoice name => "data did not match any variant of untagged enum " ++ name

end ParamsFault

end SmaliNavigator
