import Audience.Json.Literal
import Audience.Text.Blank

/-!
# Titles

A suggested title is stripped of code fences and quotes, put on one line and
cut to a maximal length.
-/

namespace Audience
namespace Title

/-- The greatest number of characters in a title. -/
def maxLength : Nat := 80

/-- The mark of a code fence. -/
def fence : List Char := ['`', '`', '`']

/-- An ASCII letter. -/
def isLetter (char : Char) : Bool :=
  ('a' ≤ char && char ≤ 'z') || ('A' ≤ char && char ≤ 'Z')

/-- Drop an opening fence with its language and the end of its line. -/
def dropOpeningFence (chars : List Char) : List Char :=
  if fence.isPrefixOf chars then
    match (chars.drop 3).dropWhile isLetter with
    | '\n' :: rest => rest
    | rest => rest
  else chars

/-- Drop a closing fence. -/
def dropClosingFence (chars : List Char) : List Char :=
  if fence.isSuffixOf chars then chars.take (chars.length - 3) else chars

/-- Cut a text that is too long. -/
def cut (chars : List Char) : List Char :=
  if maxLength < chars.length then Text.trim (chars.take maxLength) else chars

/-- A title without fences and quotes, on one line and not too long. -/
def normalizeChars (chars : List Char) : List Char :=
  let unfenced :=
    Text.trim (dropClosingFence (dropOpeningFence (Text.trim chars)))
  let unquoted :=
    Text.trimBy (· == '\'') (Text.trimBy (· == '"') unfenced)
  cut (Text.oneLine unquoted)

/-- A normalized title. -/
def normalize (title : String) : String :=
  String.ofList (normalizeChars title.toList)

/-- Any value as a title; what is not full has none. -/
def ofJson (json : Json) : String :=
  if json.isFull then normalize json.plainText else ""

end Title
end Audience
