import Audience.Flaw
import Audience.Json.Reader
import Audience.Status

/-!
# Messages to and from the backend

A call asks the backend for something; the reply is a response with a status
and a payload, or no response at all.
-/

namespace Audience

/-- A call to the backend. -/
structure Call where
  method : String
  /-- The path that the backend sees, percent-decoded. -/
  path : String
  body : Option Json
  /-- The credentials sent along. -/
  authorization : Option String
  /-- The instance that the caller belongs to. -/
  instanceId : Option String
  deriving Repr, Inhabited

/-- What a message carries. -/
inductive Payload where
  | empty
  | json (json : Json)
  | text (text : String)
  deriving Repr, Inhabited

namespace Payload

/-- The JSON value of a payload, if it has one. -/
def json? : Payload → Option Json
  | empty => none
  | json value => some value
  | text body => (Json.readSent body).toOption

/-- The payload has no content. -/
def isEmpty : Payload → Bool
  | empty => true
  | json _ => false
  | text body => body == ""

end Payload

/-- The outcome of a call. -/
inductive Reply where
  | response (status : Int) (payload : Payload)
  /-- The backend took too long. -/
  | timeout
  /-- The backend was not reached, for the named cause. -/
  | unreachable (cause : String)
  deriving Repr, Inhabited

namespace Reply

/-- The causes that mean that the backend took too long. -/
def slowCauses : List String :=
  ["ConnectTimeout", "ReadTimeout", "WriteTimeout", "PoolTimeout"]

/-- A call that failed for the named cause. -/
def ofCause (cause : String) : Reply :=
  if slowCauses.contains cause then timeout else unreachable cause

/-- A reply that can be sent. -/
def ensureSendable : Reply → Except Misuse Unit
  | response _ (.json json) => json.ensureSendable
  | _ => .ok ()

/-- The keys under which an error body may carry its message. -/
def messageKeys : List String := ["message", "error", "detail"]

/-- The first nonempty text under one of several keys. -/
def firstText? (fields : Fields) : List String → Option String
  | [] => none
  | key :: keys =>
      match Fields.getD key fields with
      | .str text => if text = "" then firstText? fields keys else some text
      | _ => firstText? fields keys

/-- The message of an unsuccessful response: from its body, else the phrase of
its status. -/
def errorMessage (status : Int) (payload : Payload) : String :=
  let found :=
    match payload.json? with
    | some (.obj fields) => firstText? fields messageKeys
    | _ => none
  match found, Status.phrase? status with
  | some message, _ => message
  | none, some phrase => phrase
  | none, none => "Request failed with status " ++ toString status

end Reply
end Audience
