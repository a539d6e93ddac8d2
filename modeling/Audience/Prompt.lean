import Audience.Flaw
import Audience.Text.Blank

/-!
# Prompts

Two prompts that differ only in blanks ask for the same thing.
-/

namespace Audience
namespace Prompt

/-- A prompt with single spaces between words and none at the ends. -/
def canonical (prompt : String) : String :=
  String.ofList (Text.oneLine prompt.toList)

/-- Two prompts are the same up to blanks. -/
def sameWords (first second : String) : Bool :=
  canonical first == canonical second

/-- Any value as a prompt: what is not full is empty, and only a text has a
canonical form. -/
def ofJson (json : Json) : Except Misuse String :=
  match json with
  | .str text => .ok (canonical text)
  | _ => if json.isFull then .error .wrongType else .ok ""

end Prompt

end Audience
