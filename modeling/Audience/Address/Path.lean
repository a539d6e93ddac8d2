import Audience.Text.Split

/-!
# Paths

The path of an address is a list of segments with slashes between them.  The
segment `.` stands for nothing, and `..` takes back the segment before it.
-/

namespace Audience
namespace Address

/-- The segments of a path. -/
def segments (path : List Char) : List (List Char) :=
  Text.split '/' path

/-- Resolve the segments `.` and `..`, given those already resolved, last
first. -/
def resolveSegments : List (List Char) → List (List Char) → List (List Char)
  | resolved, [] => resolved.reverse
  | resolved, segment :: more =>
      if segment = ['.'] then resolveSegments resolved more
      else if segment = ['.', '.'] then
        if resolved = [] ∨ resolved = [[]] then resolveSegments resolved more
        else resolveSegments resolved.tail more
      else resolveSegments (segment :: resolved) more

/-- Resolve dot segments in a path. -/
def resolveDots (path : List Char) : List Char :=
  Text.join '/' (resolveSegments [] (segments path))

/-- How a character of a decoded path is written where a question mark, a hash
or a backslash would be misread. -/
def unmistakable : Char → List Char
  | '?' => "%3F".toList
  | '#' => "%23".toList
  | '\\' => "%5C".toList
  | char => [char]

/-- A decoded path as part of a full address: unless it is empty, it begins
with a slash. -/
def placed (path : String) : List Char :=
  match path.toList.flatMap unmistakable with
  | [] => []
  | '/' :: rest => '/' :: rest
  | chars => '/' :: chars

/-- A tabulator or the end of a line. -/
def isBreak (char : Char) : Bool :=
  char == '\t' || char == '\r' || char == '\n'

/-- A decoded path as it is reported: without tabulators and ends of lines. -/
def reported (path : String) : String :=
  String.ofList ((placed path).filter fun char => !isBreak char)

end Address
end Audience
