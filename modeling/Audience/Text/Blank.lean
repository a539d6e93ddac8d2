/-!
# Blank characters, trimming and one-line text

Which characters separate words, and the functions on character lists built on
that: trimming, and replacing each run of blanks by a single space.
-/

namespace Audience
namespace Text

/-- The characters with the Unicode property `White_Space`. -/
def isWhite (char : Char) : Bool :=
  let code := char.toNat
  (0x09 ≤ code && code ≤ 0x0D) || code == 0x20 || code == 0x85 ||
    code == 0xA0 || code == 0x1680 || (0x2000 ≤ code && code ≤ 0x200A) ||
    code == 0x2028 || code == 0x2029 || code == 0x202F || code == 0x205F ||
    code == 0x3000

/-- The characters that separate words: white space and the four information
separators `U+001C` to `U+001F`. -/
def isBlank (char : Char) : Bool :=
  isWhite char || (0x1C ≤ char.toNat && char.toNat ≤ 0x1F)

/-- Drop the characters satisfying a predicate from both ends. -/
def trimBy (drop : Char → Bool) (chars : List Char) : List Char :=
  ((chars.dropWhile drop).reverse.dropWhile drop).reverse

/-- Drop blanks from both ends. -/
def trim (chars : List Char) : List Char :=
  trimBy isBlank chars

/-- Replace each run of blanks by one space; `inRun` says that the space for
the current run has been written. -/
def collapseFrom (inRun : Bool) : List Char → List Char
  | [] => []
  | char :: rest =>
      if isBlank char then
        if inRun then collapseFrom true rest
        else ' ' :: collapseFrom true rest
      else char :: collapseFrom false rest

/-- Replace each run of blanks by one space. -/
def collapse (chars : List Char) : List Char :=
  collapseFrom false chars

/-- One line with single spaces between words and none at the ends. -/
def oneLine (chars : List Char) : List Char :=
  trim (collapse chars)

/-- Nothing but blanks. -/
def isBlankText (text : String) : Bool :=
  text.toList.all isBlank

/-- Drop blanks from both ends of a string. -/
def trimmed (text : String) : String :=
  String.ofList (trim text.toList)

end Text
end Audience
