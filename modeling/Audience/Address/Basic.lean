import Audience.Address.Host
import Audience.Address.Path
import Audience.Flaw
import Audience.Text.Base64
import Audience.Text.Digit

/-!
# Addresses

What is called is named by an address: the scheme, the host, the path on it and
the query.  A text may be a full address, or a reference that is read below the
address of a service.
-/

namespace Audience

/-- An address, with its path decoded. -/
structure Address where
  scheme : String
  /-- The host, with its number if it has an unusual one. -/
  host : String
  path : String
  /-- The query as it is written, without its mark. -/
  query : List Char
  /-- The name and the password that the address carries. -/
  credentials : Option (String × String)
  deriving Repr, Inhabited

namespace Address

/-- The address of a service. -/
def ofService (scheme host path : String) : Address :=
  { scheme, host, path, query := [], credentials := none }

/-- A control character has no place in an address. -/
def isControl (char : Char) : Bool :=
  char.toNat < 0x20 || char.toNat == 0x7F

/-- The greatest length of an address, and of a part of it. -/
def maxLength : Nat := 65536

/-- A text as far as an address is written out in it, with path and query
escaped. -/
structure Reference where
  scheme : List Char
  user : List Char
  host : List Char
  number : Option Int
  path : List Char
  query : Option (List Char)
  deriving Repr, Inhabited

namespace Reference

/-- A character of a scheme after its first letter. -/
def isSchemeChar (char : Char) : Bool :=
  char.isAlphanum || char == '+' || char == '.' || char == '-'

/-- Split the scheme off, which may be empty. -/
def splitScheme (chars : List Char) : List Char × List Char :=
  let scheme := chars.takeWhile isSchemeChar
  match chars.dropWhile isSchemeChar with
  | ':' :: rest =>
      if scheme.isEmpty || (scheme.headD ' ').isAlpha then (scheme, rest)
      else ([], chars)
  | _ => ([], chars)

/-- A mark that ends the authority of an address. -/
def endsAuthority (char : Char) : Bool :=
  char == '/' || char == '?' || char == '#'

/-- A mark that ends the path of an address. -/
def endsPath (char : Char) : Bool :=
  char == '?' || char == '#'

/-- Split the authority off, which two slashes announce. -/
def splitAuthority : List Char → List Char × List Char
  | '/' :: '/' :: rest =>
      (rest.takeWhile fun char => !endsAuthority char,
        rest.dropWhile fun char => !endsAuthority char)
  | chars => ([], chars)

/-- What stands before the last of a mark, if it occurs, and what stands after
it. -/
def splitAtLast (mark : Char) (chars : List Char) : List Char × List Char :=
  let after := (chars.reverse.takeWhile (· != mark)).reverse
  (chars.take (chars.length - after.length - 1), after)

/-- Split an authority into its host and the number after it. -/
def splitNumber (chars : List Char) : List Char × List Char :=
  let bracketed := chars.head? == some '[' && chars.contains ']'
  let host :=
    if bracketed then (splitAtLast ']' chars).1 ++ [']']
    else chars.takeWhile (· != ':')
  match chars.drop host.length with
  | ':' :: number => (host, number)
  | number => (host, number)

/-- The number that goes without saying. -/
def usualNumber (scheme : List Char) : Option Int :=
  match String.ofList scheme with
  | "ftp" => some 21
  | "http" => some 80
  | "https" => some 443
  | "ws" => some 80
  | "wss" => some 443
  | _ => none

/-- The number after a host, unless it is missing or the usual one. -/
def number? (scheme chars : List Char) : Except Misuse (Option Int) :=
  if chars.isEmpty then .ok none
  else
    match Text.integer? chars with
    | none => .error .badAddress
    | some number =>
        .ok (if usualNumber scheme = some number then none else some number)

/-- The query, if its mark is there. -/
def query? (chars : List Char) : Option (List Char) :=
  match (chars.dropWhile fun char => !endsPath char) with
  | '?' :: rest => some (rest.takeWhile (· != '#'))
  | _ => none

/-- A path that nothing stands before begins neither with two slashes nor with
a colon. -/
def isAmbiguous (path : List Char) : Bool :=
  path.take 2 == ['/', '/'] || path.head? == some ':'

/-- Take a text apart. -/
def parse (text : String) : Except Misuse Reference := do
  let chars := text.toList
  if maxLength < chars.length || chars.any isControl then throw .badAddress
  let (scheme, rest) := splitScheme chars
  let (authority, rest) := splitAuthority rest
  let (user, place) := splitAtLast '@' authority
  let (hostChars, numberChars) := splitNumber place
  let some host := if hostChars.isEmpty then some [] else Host.read? hostChars
    | throw .badAddress
  let number ← number? scheme numberChars
  let path := rest.takeWhile fun char => !endsPath char
  let placed := !scheme.isEmpty || !user.isEmpty || !host.isEmpty ||
    number.isSome
  if !placed && isAmbiguous path then throw .badAddress
  if !Text.isEncodable text then throw .notEncodable
  let path := if placed then resolveDots path else path
  return { scheme := scheme.map Char.toLower
           user
           host
           number
           path := encode isPathChar path
           query := (query? rest).map (encode isQueryChar) }

/-- A full address names a scheme and a host. -/
def isFull (reference : Reference) : Bool :=
  !reference.scheme.isEmpty && !reference.host.isEmpty

/-- The host with its number. -/
def hostText (reference : Reference) : String :=
  String.ofList (Host.text reference.host) ++
    (match reference.number with
      | some number => ":" ++ toString number
      | none => "")

/-- The name and the password, if there is either. -/
def credentials (reference : Reference) : Option (String × String) :=
  let name := decode (reference.user.takeWhile (· != ':'))
  let password := decode ((reference.user.dropWhile (· != ':')).drop 1)
  if name.isEmpty && password.isEmpty then none
  else some (String.ofList name, String.ofList password)

end Reference

/-- An escaped path as it is seen at its end; it is never empty. -/
def seenPath (path : List Char) : String :=
  String.ofList (decode (if path.isEmpty then ['/'] else path))

/-- The address that a text means: a full address itself, anything else below
the address of a service. -/
def resolve (service : Address) (text : String) : Except Misuse Address := do
  let reference ← Reference.parse text
  let query := reference.query.getD []
  if reference.isFull then
    return { scheme := String.ofList reference.scheme
             host := reference.hostText
             path := seenPath reference.path
             query
             credentials := reference.credentials }
  else
    let below := reference.path.dropWhile (· == '/')
    let path := service.path.toList ++ '/' :: below
    if maxLength < path.length || maxLength < query.length then
      throw .badAddress
    return { service with path := seenPath (resolveDots path), query }

/-- The credentials of an address as they are sent. -/
def authorization? (address : Address) : Option String :=
  address.credentials.map fun (name, password) =>
    let bytes := (name ++ ":" ++ password).toList.flatMap Text.encodeChar
    "Basic " ++ String.ofList (Text.base64 bytes)

/-- The address of a decoded path on the same host, as a redirect names it. -/
def redirectTo (address : Address) (path : String) : String :=
  let query :=
    if address.query.isEmpty then [] else '?' :: address.query
  String.ofList <| encode isTargetChar <|
    address.scheme.toList ++ "://".toList ++ address.host.toList ++
      placed path ++ query

end Address
end Audience
