import Audience.Address.Basic
import Audience.Backend.Message
import Audience.Json.Writer
import Audience.Reading
import Audience.Trace

/-!
# Requests

A request to the service: its method, its address, the headers and the text of
the body.  The body is read as JSON when its content type says so.
-/

namespace Audience

/-- A request.  Header names are lower case. -/
structure Request where
  method : String
  /-- The address, with the host that the request names. -/
  address : Address
  headers : List (String × String)
  body : String
  deriving Repr, Inhabited

namespace Request

/-- A header as it is sent: its name and its value have only ASCII. -/
def header (given : String × Json) : Except Misuse (String × String) :=
  if !Text.isAscii given.1 then .error .notEncodable
  else
    match given.2 with
    | .str value =>
        if Text.isAscii value then .ok (given.1.toLower, value)
        else .error .notEncodable
    | _ => .error .wrongType

/-- The name of the header that says what the body is. -/
def typeHeader : String := "content-type"

/-- The body that carries a payload, and the headers with its content type. -/
def withPayload (headers : List (String × String)) :
    Payload → Except Misuse (List (String × String) × String)
  | .empty => .ok (headers, "")
  | .text text =>
      if Text.isEncodable text then .ok (headers, text)
      else .error .notEncodable
  | .json json => do
      json.ensureSendable
      let typed := (Keyed.get? typeHeader headers).isSome
      return (if typed then headers
        else headers ++ [(typeHeader, "application/json")], json.write)

/-- A character that has no place in the name of a host. -/
def endsHost (char : Char) : Bool :=
  "/?#@\\ ".toList.contains char

/-- The host that a request names, which may differ from where it goes. -/
def namedHost (address : Address) (headers : List (String × String)) :
    String :=
  match Keyed.get? "host" headers with
  | some host => if host.toList.any endsHost then address.host else host
  | none => address.host

/-- A request to an address at a service. -/
def ofAddress (service : Address) (method text : String) (given : Fields)
    (payload : Payload) : Except Misuse Request := do
  let address ← service.resolve text
  let headers ← given.mapM header
  let (headers, body) ← withPayload headers payload
  return { method := Text.upper method
           address := { address with host := namedHost address headers }
           headers
           body }

/-- The value of a header. -/
def header? (name : String) (request : Request) : Option String :=
  Keyed.get? name request.headers

/-- An identifier from a header, or a fresh one. -/
def identifier (name fresh : String) (request : Request) : String :=
  match request.header? name with
  | some value => if value = "" then fresh else value
  | none => fresh

/-- The identifiers that a request is handled under: its own, or fresh ones. -/
def trace (fresh : String) (request : Request) : Trace :=
  { correlation := request.identifier "x-correlation-id" fresh
    request := request.identifier "x-request-id" fresh }

/-- Decode a name or a value of a query, where a plus is a space. -/
def decodeParameter (chars : List Char) : String :=
  String.ofList
    (Address.decode (chars.map fun char => if char == '+' then ' ' else char))

/-- The name and the value of a parameter. -/
def nameAndValue (parameter : List Char) : String × String :=
  (decodeParameter (parameter.takeWhile (· != '=')),
    decodeParameter ((parameter.dropWhile (· != '=')).drop 1))

/-- The last value of a parameter of the query. -/
def parameter? (name : String) (request : Request) : Option String :=
  Keyed.get? name ((Text.split '&' request.address.query).map nameAndValue).reverse

/-- A flag in the query, false when it is missing. -/
def flag (name : String) (request : Request) : Reading Bool :=
  match request.parameter? name with
  | some value => ((Reading.flag (.str value)).inside name).inside "query"
  | none => .value false

/-- A content type without its parameters. -/
def mediaType (contentType : String) : List Char :=
  Text.trim
    (Decimal.lower (contentType.toList.takeWhile (· != ';')))

/-- JSON is sent as `application/json` or as a type that is built on it. -/
def isJsonType (contentType : String) : Bool :=
  let media := mediaType contentType
  media.count '/' == 1 && media.takeWhile (· != '/') == "application".toList &&
    (let subtype := (media.dropWhile (· != '/')).drop 1
     subtype == "json".toList || "+json".toList.isSuffixOf subtype)

/-- The body is JSON. -/
def hasJson (request : Request) : Bool :=
  match request.header? typeHeader with
  | some contentType => isJsonType contentType
  | none => false

/-- Read the body as an object.  A body without a value, though it is said to
be JSON, is misused. -/
def readBody (read : Fields → Reading α) (request : Request) : Reading α :=
  let reading : Reading α :=
    if request.body = "" then Reading.fail .missing
    else if request.hasJson then
      match Json.readSent request.body with
      | .error (.notJson offset) =>
          (Reading.fail .notJson).inside (toString offset)
      | .error .unreadable => .misused .badValue
      | .ok (.obj fields) => read fields
      | .ok _ => Reading.fail .notBody
    else Reading.fail .notBody
  reading.inside "body"

end Request
end Audience
