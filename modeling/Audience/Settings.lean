import Audience.Segment.Page

/-!
# Settings

The settings of the service, read from environment variables and from values
given directly, which win.
-/

namespace Audience

/-- The settings of the service. -/
structure Settings where
  baseAddress : String
  token : Option String
  instanceId : Option String
  timeoutSeconds : Double
  temperature : Double
  includeContext : Bool
  fallbackTitle : String
  pageSize : Int
  orderBy : String
  order : SortOrder
  frontend : String
  environment : String
  debug : Bool
  deriving Repr, Inhabited

namespace Settings

/-- One tenth. -/
private def tenth : Double := Decimal.toDouble false 1 (-1)

/-- The settings when nothing is said. -/
def standard : Settings :=
  { baseAddress := "http://localhost:3000/api"
    token := none
    instanceId := none
    timeoutSeconds := Double.ofInt 30
    temperature := tenth
    includeContext := true
    fallbackTitle := "AI Filter"
    pageSize := 25
    orderBy := "createdAt"
    order := .descending
    frontend := "http://localhost:5173"
    environment := "development"
    debug := true }

/-- An address never ends in a slash. -/
def readAddress : Reader String
  | .str text =>
      .value (String.ofList
        (text.toList.reverse.dropWhile (· == '/')).reverse)
  | json => if json.isFull then .misused .noMember else Reading.text json

/-- A double is positive; a NaN passes. -/
def isPositive (number : Double) : Bool :=
  match number.compare .zero with
  | some .gt => true
  | some _ => false
  | none => true

/-- A double lies between zero and one. -/
def isUnit (number : Double) : Bool :=
  match number.compare .zero, number.compare (Double.ofInt 1) with
  | some .lt, _ => false
  | _, some .gt => false
  | some _, some _ => true
  | _, _ => false

/-- The names of all settings. -/
def names : List String :=
  [ "CRM_API_BASE_URL", "CRM_API_TOKEN", "CRM_INSTANCE_ID",
    "REQUEST_TIMEOUT_SECONDS", "GENERATIVE_TEMPERATURE",
    "GENERATIVE_INCLUDE_CONTEXT", "AI_FILTER_FALLBACK_TITLE",
    "DEFAULT_PAGE_SIZE", "DEFAULT_ORDER_BY", "DEFAULT_ORDER", "FRONTEND_URL",
    "ENVIRONMENT", "DEBUG" ]

/-- Read the known settings. -/
def readKnown (fields : Fields) : Reading Settings :=
  Settings.mk
    <$> Reading.optional ["CRM_API_BASE_URL"] standard.baseAddress readAddress
      fields
    <*> Reading.optional ["CRM_API_TOKEN"] none
      (Reading.nullable Reading.text) fields
    <*> Reading.optional ["CRM_INSTANCE_ID"] none
      (Reading.nullable Reading.text) fields
    <*> Reading.optional ["REQUEST_TIMEOUT_SECONDS"] standard.timeoutSeconds
      (Reading.ensure isPositive "REQUEST_TIMEOUT_SECONDS must be positive"
        Reading.double) fields
    <*> Reading.optional ["GENERATIVE_TEMPERATURE"] standard.temperature
      (Reading.ensure isUnit "GENERATIVE_TEMPERATURE must be between 0 and 1"
        Reading.double) fields
    <*> Reading.optional ["GENERATIVE_INCLUDE_CONTEXT"]
      standard.includeContext Reading.flag fields
    <*> Reading.optional ["AI_FILTER_FALLBACK_TITLE"] standard.fallbackTitle
      Reading.text fields
    <*> Reading.optional ["DEFAULT_PAGE_SIZE"] standard.pageSize
      (Reading.ensure (fun size => decide (1 ≤ size) && decide (size ≤ 500))
        "DEFAULT_PAGE_SIZE must be between 1 and 500" Reading.integer) fields
    <*> Reading.optional ["DEFAULT_ORDER_BY"] standard.orderBy Reading.text
      fields
    <*> Reading.optional ["DEFAULT_ORDER"] standard.order
      (fun json => .value (SortOrder.ofJson json)) fields
    <*> Reading.optional ["FRONTEND_URL"] standard.frontend Reading.text
      fields
    <*> Reading.optional ["ENVIRONMENT"] standard.environment Reading.text
      fields
    <*> Reading.optional ["DEBUG"] standard.debug Reading.flag fields

/-- Refuse every key that is not the name of a setting. -/
def refuseUnknown : Fields → Reading Unit
  | [] => .value ()
  | (name, _) :: rest =>
      let here : Reading Unit :=
        if names.contains name then .value ()
        else (Reading.fail .unexpected).inside name
      Reading.both (here.map fun _ rest => rest) (refuseUnknown rest)

/-- The settings of an environment and of values given directly. -/
def read (environment given : Fields) : Reading Settings :=
  Reading.both ((readKnown (given ++ environment)).map fun settings _ => settings)
    (refuseUnknown given)

/-- The settings as an object. -/
def toJson (settings : Settings) : Json :=
  .obj
    [ ("CRM_API_BASE_URL", .str settings.baseAddress),
      ("CRM_API_TOKEN", Json.ofText? settings.token),
      ("CRM_INSTANCE_ID", Json.ofText? settings.instanceId),
      ("REQUEST_TIMEOUT_SECONDS", .double settings.timeoutSeconds),
      ("GENERATIVE_TEMPERATURE", .double settings.temperature),
      ("GENERATIVE_INCLUDE_CONTEXT", .bool settings.includeContext),
      ("AI_FILTER_FALLBACK_TITLE", .str settings.fallbackTitle),
      ("DEFAULT_PAGE_SIZE", .int settings.pageSize),
      ("DEFAULT_ORDER_BY", .str settings.orderBy),
      ("DEFAULT_ORDER", .str settings.order.text),
      ("FRONTEND_URL", .str settings.frontend),
      ("ENVIRONMENT", .str settings.environment),
      ("DEBUG", .bool settings.debug) ]

/-- The service runs in production. -/
def isProduction (settings : Settings) : Bool :=
  settings.environment == "production"

/-- The documentation is served outside production. -/
def servesDocs (settings : Settings) : Bool :=
  !settings.isProduction

/-- The level of the log. -/
def logLevel (settings : Settings) : String :=
  if settings.debug then "DEBUG" else "INFO"

/-- The page on which tables start. -/
def firstPage (settings : Settings) : Page :=
  { number := 1, size := settings.pageSize, orderBy := settings.orderBy,
    order := settings.order }

/-- The origins that may call the service from a browser. -/
def allowedOrigins (settings : Settings) : List String :=
  [settings.frontend, "http://localhost:5173", "http://localhost:3000"]

end Settings
end Audience
