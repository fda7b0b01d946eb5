import ChannelGate.Url.Host

set_option autoImplicit false

namespace ChannelGate

/-- The parts of a URL as they are written, with their escapes; only the path is kept without its
dot segments. -/
structure Url where
  scheme : String
  username : List Char
  password : Option (List Char)
  host : Host
  port : Option Nat
  path : List Char
  query : Option (List Char)
  deriving DecidableEq

/-- How the rest of a URL is read, which its scheme says. -/
inductive UrlKind where
  /-- A host has to come, and a backslash is a slash. -/
  | wellKnown
  | file
  | plain
  deriving DecidableEq

namespace Url

def kindOf (scheme : String) : UrlKind :=
  if scheme ∈ ["http", "https", "ws", "wss", "ftp"] then .wellKnown
  else if scheme = "file" then .file
  else .plain

/-- A text without what is ignored in URLs: control characters and blanks at both ends, tabs and
line breaks everywhere. -/
def clean (text : List Char) : List Char :=
  let control (c : Char) : Bool := c ≤ ' '
  ((text.dropWhile control).reverse.dropWhile control).reverse.filter
    fun c => c ≠ '\t' ∧ c ≠ '\n' ∧ c ≠ '\r'

def isSchemeChar (c : Char) : Bool := c.isAlphanum || c = '+' || c = '-' || c = '.'

/-- The scheme in small letters, and what follows its colon. -/
def scheme? (text : List Char) : Option (String × List Char) :=
  let scheme := text.takeWhile isSchemeChar
  match scheme, text.dropWhile isSchemeChar with
  | first :: _, ':' :: rest =>
    if first.isAlpha then some (String.ofList (scheme.map Char.toLower), rest) else none
  | _, _ => none

def endsAuthority (kind : UrlKind) (c : Char) : Bool :=
  c = '/' || c = '?' || c = '#' || (kind ≠ .plain && c = '\\')

def endsPath (c : Char) : Bool := c = '?' || c = '#'

/-- One dot, which may be escaped. -/
def isDot (segment : List Char) : Bool :=
  segment.map Char.toLower ∈ [['.'], ['%', '2', 'e']]

def isTwoDots (segment : List Char) : Bool :=
  segment.map Char.toLower ∈
    ["..".toList, ".%2e".toList, "%2e.".toList, "%2e%2e".toList]

/-- The segments of a path without its dot segments, the last one first: one dot stays where it is,
two dots go up. -/
def resolve (above : List (List Char)) : List (List Char) → List (List Char)
  | [] => above
  | [last] =>
    if isTwoDots last then [] :: above.drop 1
    else if isDot last then [] :: above
    else last :: above
  | segment :: rest =>
    if isTwoDots segment then resolve (above.drop 1) rest
    else if isDot segment then resolve above rest
    else resolve (segment :: above) rest

def pathOf (kind : UrlKind) (text : List Char) : List Char :=
  let written := text.takeWhile fun c => !endsPath c
  let unified := if kind = .plain then written else written.map fun c => if c = '\\' then '/' else c
  if unified.isEmpty && kind = .plain then []
  else
    let segments := (if unified.head? = some '/' then unified.drop 1 else unified).splitOn '/'
    (resolve [] segments).reverse.flatMap ('/' :: ·)

def queryOf (text : List Char) : Option (List Char) :=
  match text.dropWhile fun c => !endsPath c with
  | '?' :: rest => some (rest.takeWhile (· ≠ '#'))
  | _ => none

def lastAt? (text : List Char) : Option (List Char × List Char) :=
  match text.reverse.dropWhile (· ≠ '@') with
  | [] => none
  | _ :: before => some (before.reverse, (text.reverse.takeWhile (· ≠ '@')).reverse)

/-- The user name and the password of what stands before the `@`; an empty password is none. -/
def userOf (text : List Char) : List Char × Option (List Char) :=
  match text.dropWhile (· ≠ ':') with
  | _ :: c :: password => (text.takeWhile (· ≠ ':'), some (c :: password))
  | _ => (text.takeWhile (· ≠ ':'), none)

/-- The length of the host at the front of an authority: it ends at a colon outside of square
brackets. -/
def hostLength : Bool → List Char → Nat
  | _, [] => 0
  | inside, c :: rest =>
    if c = ':' ∧ inside = false then 0
    else hostLength ((inside || c = '[') && c ≠ ']') rest + 1

/-- The port that may follow the host, and what comes after it: a backslash ends it as well. -/
def portOf (text : List Char) : Except UrlError (Option Nat × List Char) :=
  match text with
  | ':' :: rest =>
    let digits := rest.takeWhile Host.isDecimal
    let after := rest.drop digits.length
    if 65535 < Host.valueIn 10 digits ∨ (after ≠ [] ∧ after.head? ≠ some '\\') then
      .error .invalidPort
    else .ok (if digits.isEmpty then none else some (Host.valueIn 10 digits), after)
  | rest => .ok (none, rest)

def readAuthority (kind : UrlKind) (scheme : String) (text : List Char) : Except UrlError Url := do
  let authority := text.takeWhile fun c => !endsAuthority kind c
  let rest := text.drop authority.length
  let (user, place) := (lastAt? authority).getD ([], authority)
  if user.isEmpty ∧ place.length < authority.length ∧ place.isEmpty ∧ rest ≠ [] then
    throw .emptyHost
  let (username, password) := userOf user
  let written := place.take (hostLength false place)
  let host ← if kind = .plain then Host.readPlain written else
    if written.isEmpty then throw .emptyHost else Host.readDomain written
  let afterHost := place.drop written.length
  if host = .missing ∧ afterHost ≠ [] then throw .emptyHost
  let (port, more) ← portOf afterHost
  if host = .missing ∧ (username ≠ [] ∨ password.isSome) then throw .emptyHost
  let rest := more ++ rest
  return ⟨scheme, username, password, host, port, pathOf kind rest, queryOf rest⟩

def withoutAuthority (scheme : String) (host : Host) (path : List Char) (text : List Char) : Url :=
  ⟨scheme, [], none, host, none, path, queryOf text⟩

def isSlash (c : Char) : Bool := c = '/' || c = '\\'

/-- A letter with a colon or a bar, as drives are named. -/
def isDrive (text : List Char) : Bool :=
  match text with
  | [letter, mark] => letter.isAlpha && (mark = ':' || mark = '|')
  | _ => false

def readFile (scheme : String) (text : List Char) : Except UrlError Url := do
  match text with
  | first :: second :: rest =>
    if isSlash first && isSlash second then
      let written := rest.takeWhile fun c => !endsAuthority .file c
      if written.isEmpty || isDrive written then
        return withoutAuthority scheme .missing (pathOf .file rest) rest
      let host ← Host.readDomain written
      let rest := rest.drop written.length
      return withoutAuthority scheme (if host = .name "localhost".toList then .missing else host)
        (pathOf .file rest) rest
    else return withoutAuthority scheme .missing (pathOf .file text) text
  | text => return withoutAuthority scheme .missing (pathOf .file text) text

def readRest (scheme : String) (text : List Char) : Except UrlError Url :=
  match kindOf scheme with
  | .wellKnown => readAuthority .wellKnown scheme (text.dropWhile isSlash)
  | .file => readFile scheme text
  | .plain =>
    match text with
    | '/' :: '/' :: rest => readAuthority .plain scheme rest
    | '/' :: _ => .ok (withoutAuthority scheme .missing (pathOf .plain text) text)
    | text =>
      .ok (withoutAuthority scheme .missing (text.takeWhile fun c => !endsPath c) text)

def parse (text : String) : Except UrlError Url :=
  match scheme? (clean text.toList) with
  | some (scheme, rest) => readRest scheme rest
  | none => .error .relative

/-- A field of a form as written, with its escapes read. -/
def formText (text : List Char) : String :=
  Utf8.toStringLossy
    (Percent.decodeLenient (Utf8.encode (text.map fun c => if c = '+' then ' ' else c)))

def queryPairs (url : Url) : List (String × String) :=
  ((url.query.getD []).splitOn '&').filterMap fun pair =>
    if pair.isEmpty then none
    else some (formText (pair.takeWhile (· ≠ '=')), formText ((pair.dropWhile (· ≠ '=')).drop 1))

def queryValue? (url : Url) (name : String) : Option String :=
  url.queryPairs.reverse.lookup name

end Url

end ChannelGate
