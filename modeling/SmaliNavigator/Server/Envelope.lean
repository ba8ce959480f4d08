import SmaliNavigator.Json.Reader
import SmaliNavigator.Server

/-!
Messages as they go over a stream: objects in JSON, each behind a line with its length in bytes. A
request has an id, and its reply has the same one.
-/

set_option autoImplicit false

namespace SmaliNavigator

structure Envelope where
  id? : Option Json
  message : Message
  deriving Repr

namespace Envelope

/-- Reads a message. What names no method, as a reply of the client, is none. -/
def ofString? (s : String) : Option Envelope := do
  let j ← Json.ofString? s
  let method ← (← j.get? "method").str?
  let id? := j.get? "id"
  return ⟨id?,⟨method,j.get? "params",id?.isSome⟩⟩

def envelope (members : List (String × Json)) : Json :=
  .obj (("jsonrpc",.str "2.0") :: members)

def ofReply? (id : Json) : Reply → Option Json
  | .silence | .gone => none
  | .result v => some (envelope [("id",id), ("result",v)])
  | .refusal f => some (envelope [("id",id),
      ("error",.obj [("code",.int f.code), ("message",.str f.message)])])

def notification (method : String) (params : Json) : Json :=
  envelope [("method",.str method), ("params",params)]

def request (id : Nat) (method : String) (params : Json) : Json :=
  envelope [("id",.ofNat id), ("method",.str method), ("params",params)]

def lengthHeader : String := "Content-Length: "

def frame (j : Json) : String :=
  let body := j.render
  lengthHeader ++ toString body.utf8ByteSize ++ "\r\n\r\n" ++ body

def length? (line : String) : Option Nat :=
  if lengthHeader.toList.isPrefixOf line.toList then
    (String.ofList ((line.toList.drop lengthHeader.length).filter Char.isDigit)).toNat?
  else none

end Envelope

namespace Message

def questioned : Server.Question → List Uri
  | .hover uri _ | .definition uri _ | .references uri _ _ | .rename uri _ _ | .outline uri => [uri]
  | .symbols _ => []

def noticed : Server.Notice → List Uri
  | .started => []
  | .opened e => [e.uri]
  | .changed e? => (e?.map (·.uri)).toList
  | .saved uri | .closed uri => [uri]
  | .diskChanged changes => changes.map (·.1)

def paths (m : Message) : List Path :=
  let read {α : Type} (form : Form α) : Option α := (Params.ofMessage form m).toOption
  let root? := if m.method = "initialize" then (read Form.root).join else none
  let question? := (Server.Question.form? m.method).bind read
  let notice? := (Server.Notice.form? m.method).bind read
  let uris := ((question?.map questioned).getD []) ++ ((notice?.map noticed).getD [])
  root?.toList ++ uris.filterMap Uri.path?

end Message

end SmaliNavigator
