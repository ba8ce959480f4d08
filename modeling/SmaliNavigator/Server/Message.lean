import SmaliNavigator.Json

/-!
What a client and the server tell each other. A request wants a reply and a notification none; both
have the name of a method and perhaps parameters.
-/

set_option autoImplicit false

namespace SmaliNavigator

structure Message where
  method : String
  params? : Option Json
  isRequest : Bool
  deriving Repr

inductive RequestFault where
  | notReady
  | invalid
  | unknownMethod
  | badParams (reason : String)
  deriving DecidableEq, Repr

namespace RequestFault

def code : RequestFault → Int
  | notReady => -32002
  | invalid => -32600
  | unknownMethod => -32601
  | badParams _ => -32602

def message : RequestFault → String
  | notReady => "Server not initialized"
  | invalid => "Invalid request"
  | unknownMethod => "Method not found"
  | badParams reason => reason

end RequestFault

inductive Reply where
  | silence
  | result (value : Json)
  | refusal (fault : RequestFault)
  /-- The server has ended. -/
  | gone
  deriving Repr

end SmaliNavigator
