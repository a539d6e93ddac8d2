import Audience.Address.Path

/-!
# Routes of the backend

What the backend offers for an event.
-/

namespace Audience

/-- What a call is about. -/
inductive Route where
  | filters
  | segments
  | generative
  | savedSegments
  | suggestTitle
  | savedSegment (identifier : String)
  deriving DecidableEq, Repr, Inhabited

namespace Route

/-- The name of a route. -/
def name : Route → String
  | filters => "filters"
  | segments => "segments"
  | generative => "generative"
  | savedSegments => "saved-segments"
  | suggestTitle => "suggest-title"
  | savedSegment _ => "saved-segment"

/-- The route below an event. -/
def ofParts? : List String → Option Route
  | ["filters"] => some filters
  | ["segments"] => some segments
  | ["segments", "generative"] => some generative
  | ["saved-segments"] => some savedSegments
  | ["saved-segments", "suggest-title"] => some suggestTitle
  | ["saved-segments", identifier] =>
      if identifier = "" then none else some (savedSegment identifier)
  | _ => none

/-- The event and the route of a path. -/
def ofPath? (path : String) : Option (String × Route) :=
  match (Address.segments path.toList).map String.ofList with
  | "" :: "api" :: "events" :: event :: "crm" :: rest =>
      if event = "" then none else (ofParts? rest).map fun route => (event, route)
  | _ => none

/-- The key under which a method and a route are known. -/
def key (method : String) (route : Route) : String :=
  method ++ " " ++ route.name

end Route
end Audience
