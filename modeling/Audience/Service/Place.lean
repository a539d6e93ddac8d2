import Audience.Address.Path

/-!
# Places of the service

What the paths of the service stand for.
-/

namespace Audience

/-- What a path stands for. -/
inductive Place where
  | root
  | health
  | ai (event : String)
  | prompt (event : String)
  | previous (event segment : String)
  | refine (event : String)
  | page (event : String)
  | savedSegments (event : String)
  | savedSegment (event segment : String)
  | manual (event : String)
  deriving DecidableEq, Repr, Inhabited

namespace Place

/-- The place below an event. -/
def ofParts? (event : String) : List String → Option Place
  | ["ai"] => some (ai event)
  | ["ai", "prompt"] => some (prompt event)
  | ["ai", "previous", segment] =>
      if segment = "" then none else some (previous event segment)
  | ["ai", "refine"] => some (refine event)
  | ["ai", "pagination"] => some (page event)
  | ["ai", "saved-segments"] => some (savedSegments event)
  | ["ai", "saved-segments", segment] =>
      if segment = "" then none else some (savedSegment event segment)
  | ["filters", "manual"] => some (manual event)
  | _ => none

/-- The place of exactly this path. -/
def ofChars? (path : List Char) : Option Place :=
  match (Address.segments path).map String.ofList with
  | ["", ""] => some root
  | ["", "health"] => some health
  | "" :: "api" :: "v2" :: "events" :: event :: "crm" :: rest =>
      if event = "" then none else ofParts? event rest
  | _ => none

/-- The place of a path.  One end of line after it does not count, unless it
belongs to an identifier. -/
def ofPath? (path : String) : Option Place :=
  let chars := path.toList
  (ofChars? chars).or <|
    if chars.getLast? == some '\n' then ofChars? chars.dropLast else none

/-- The path without slashes at its end, if it has any there. -/
def withoutSlashes? (path : String) : Option String :=
  let chars := path.toList
  let stripped := (chars.reverse.dropWhile (· == '/')).reverse
  if path = "/" ∨ stripped.length = chars.length then none
  else some (String.ofList stripped)

end Place
end Audience
