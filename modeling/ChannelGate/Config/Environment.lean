import ChannelGate.Disk
import ChannelGate.Text.Alphanumeric
import ChannelGate.Text.Blank
import ChannelGate.Text.Utf8

set_option autoImplicit false

namespace ChannelGate

/-- Variables with the bytes of their values, in the order in which they were set. -/
abbrev Environment := List (String × List UInt8)

namespace Environment

/-- The value of a variable; bytes that are no text count as no value. -/
def value? (environment : Environment) (name : String) : Option String :=
  (environment.lookup name).bind Utf8.toString?

def set (environment : Environment) (name value : String) : Environment :=
  (name, Utf8.ofString value) :: environment

/-- What is being read inside a value. -/
inductive Mode where
  | plain
  | singleQuoted
  | doubleQuoted
  | escaped (quoted : Bool)
  /-- A reference, with its name so far: letters and digits of any script. -/
  | reference (quoted : Bool) (name : List Char)
  /-- A reference between braces. -/
  | bracedReference (quoted : Bool) (name : List Char)
  /-- Only blanks or a comment may follow. -/
  | ending

def Mode.base (quoted : Bool) : Mode := if quoted then .doubleQuoted else .plain

def escaped? (c : Char) : Option Char :=
  if c = 'n' then some '\n' else if "\\'\"$ ".toList.contains c then some c else none

/-- The text of a value from here on. `lookup` gives the values of references. -/
def readValue (lookup : String → List Char) : Mode → List Char → Option (List Char)
  | .plain, [] => some []
  | .ending, [] => some []
  | .escaped false, [] => some []
  | .reference false name, [] => some (lookup (String.ofList name))
  | _, [] => none
  | .ending, c :: rest =>
    if c = ' ' ∨ c = '\t' then readValue lookup .ending rest
    else if c = '#' then some []
    else none
  | .escaped quoted, c :: rest => do
    let value ← escaped? c
    (readValue lookup (.base quoted) rest).map (value :: ·)
  | .singleQuoted, c :: rest =>
    if c = '\'' then readValue lookup .plain rest
    else (readValue lookup .singleQuoted rest).map (c :: ·)
  | .reference quoted name, c :: rest =>
    if Alphanumeric.isAlphanumeric c then readValue lookup (.reference quoted (name ++ [c])) rest
    else if c = '\x7b' ∧ name.isEmpty then readValue lookup (.bracedReference quoted []) rest
    else if c = '$' then
      (readValue lookup (.reference quoted []) rest).map (lookup (String.ofList name) ++ ·)
    else
      (readValue lookup (.base quoted) rest).map (lookup (String.ofList name) ++ c :: ·)
  | .bracedReference quoted name, c :: rest =>
    if c = '\x7d' then
      (readValue lookup (.base quoted) rest).map (lookup (String.ofList name) ++ ·)
    else readValue lookup (.bracedReference quoted (name ++ [c])) rest
  | .doubleQuoted, c :: rest =>
    if c = '$' then readValue lookup (.reference true []) rest
    else if c = '"' then readValue lookup .plain rest
    else if c = '\\' then readValue lookup (.escaped true) rest
    else (readValue lookup .doubleQuoted rest).map (c :: ·)
  | .plain, c :: rest =>
    if c = '$' then readValue lookup (.reference false []) rest
    else if c = '\'' then readValue lookup .singleQuoted rest
    else if c = '"' then readValue lookup .doubleQuoted rest
    else if c = '\\' then readValue lookup (.escaped false) rest
    else if c = ' ' ∨ c = '\t' then readValue lookup .ending rest
    else (readValue lookup .plain rest).map (c :: ·)

/-- The name at the front of a text, and the rest without blanks in front. A name is letters,
digits, underscores and dots of ASCII, and its first character is a letter or an underscore. -/
def readName? (text : List Char) : Option (List Char × List Char) :=
  let isNameChar (c : Char) : Bool := c.isAlphanum || c = '_' || c = '.'
  match text with
  | [] => none
  | c :: _ =>
    if c.isAlpha || c = '_' then
      some (text.takeWhile isNameChar, Blank.trimStart (text.dropWhile isNameChar))
    else none

def afterEquals? (text : List Char) : Option (List Char) :=
  match text with
  | '=' :: rest => some rest
  | _ => none

/-- The name and the value as written of a line; the word `export` may stand in front. -/
def assignment? (line : List Char) : Option (List Char × List Char) := do
  let (name, rest) ← readName? line
  match afterEquals? rest with
  | some value => return (name, Blank.trimStart value)
  | none =>
    if name = "export".toList then
      let (name, rest) ← readName? rest
      return (name, Blank.trimStart (← afterEquals? rest))
    else none

/-- The lines of a text; a carriage return in front of a line feed belongs to it. -/
def linesOf (content : List UInt8) : List (List UInt8) :=
  let lines := content.splitOn 10
  let lines := if lines.getLast? = some [] then lines.dropLast else lines
  lines.map fun line => if line.getLast? = some 13 then line.dropLast else line

abbrev Known := List (String × String)

/-- What a reference stands for: the value of the variable, or else what the file said before. -/
def referred (environment : Environment) (known : Known) (name : String) : List Char :=
  (((environment.value? name).orElse fun _ => known.lookup name).getD "").toList

/-- The name and value of a line, nothing for a line without either, or no answer for a line that
cannot be read. -/
def readLine? (environment : Environment) (known : Known) (line : List UInt8) :
    Option (Option (String × String)) := do
  let text := Blank.trimStart (Blank.trimEnd (← Utf8.decode? line))
  if text.isEmpty || text.head? = some '#' then return none
  let (name, written) ← assignment? text
  if written.isEmpty || written.head? = some '#' then return some (String.ofList name, "")
  let value ← readValue (referred environment known) .plain written
  return some (String.ofList name, String.ofList value)

/-- Fills in the variables of lines, up to the first one that cannot be read. A variable that has a
value keeps it. -/
def fillLines (environment : Environment) (known : Known) : List (List UInt8) → Environment
  | [] => environment
  | line :: rest =>
    match readLine? environment known line with
    | none => environment
    | some none => fillLines environment known rest
    | some (some (name, value)) =>
      let filled :=
        if (environment.value? name).isSome then environment else environment.set name value
      fillLines filled ((name, value) :: known) rest

def fileName : String := ".env"

/-- Fills in the variables of the file in the working directory, or in the nearest directory above it
that has one, if it can be opened. -/
def load (environment : Environment) (disk : Disk) : Environment :=
  match disk.nearestFile? fileName disk.home.reverse with
  | some (.readable content) => fillLines environment [] (linesOf content)
  | _ => environment

end Environment

end ChannelGate
