import ChannelGate.Number.Digits
import ChannelGate.Number.Shortest
import ChannelGate.StreamStore.Fault
import ChannelGate.Text.Blank
import ChannelGate.Text.Quoted
import ChannelGate.Text.Utf8

set_option autoImplicit false

namespace ChannelGate.Resp

/-- How a verbatim text is marked up. -/
inductive Markup where
  | text
  | markdown
  | other (name : String)
  deriving DecidableEq

def Markup.ofName (name : String) : Markup :=
  if name = "txt" then .text else if name = "mkd" then .markdown else .other name

def Markup.shown : Markup → String
  | .text => "Text"
  | .markdown => "Markdown"
  | .other name => "Unknown(" ++ Quoted.quote name ++ ")"

/-- Why a store refused: a code and perhaps more. -/
structure Refusal where
  code : String
  detail : Option String
  deriving DecidableEq

inductive Reply where
  | absent
  | number (value : Int)
  | bytes (value : List UInt8)
  | array (items : List Reply)
  /-- A message that no command asked for. -/
  | push (kind : String) (items : List Reply)
  | okay
  | text (value : String)
  /-- Keys and values by turns. -/
  | map (items : List Reply)
  /-- A reply with notes on it, keys and values by turns. -/
  | noted (reply : Reply) (notes : List Reply)
  | set (items : List Reply)
  | double (value : Number.Binary64)
  | boolean (value : Bool)
  | verbatim (markup : Markup) (value : String)
  | bigNumber (value : Int)
  | refused (refusal : Refusal)

def splitLine? : List UInt8 → Option (List UInt8 × List UInt8)
  | [] => none
  | 13 :: 10 :: rest => some ([], rest)
  | b :: rest => (splitLine? rest).map fun (line, rest) => (b :: line, rest)

def readLine : Reading (List Char) := do
  let (line, rest) ← Reading.need (splitLine? (← get))
  set rest
  return Utf8.decodeLossy line

/-- Reads what a line says, where `noun` is the word for it. -/
def readLineAs {α : Type} (noun : String) (make : List Char → Option α) : Reading α := do
  let place ← get
  Reading.expect place ("Expected " ++ noun ++ ", got garbage") (make (← readLine))

def trimmed (line : List Char) : List Char := Blank.trimEnd (Blank.trimStart line)

def readNumber : Reading Int :=
  readLineAs "integer" fun line => Number.readInt? Number.signedBound (trimmed line)

def readDouble : Reading Number.Binary64 := do
  let place ← get
  let line := trimmed (← readLine)
  Reading.expect place
    (if line.isEmpty then "cannot parse float from empty string" else "invalid float literal")
    (Number.Binary64.ofText? (String.ofList line))

/-- A byte as it is shown where it should not stand. -/
def shownByte (byte : UInt8) : String := "`" ++ toString byte.toNat ++ "`"

/-- Reads a number of bytes that a line end follows. -/
def takeBytes (size : Nat) : Reading (List UInt8) := do
  let bytes ← get
  match bytes.drop size with
  | 13 :: 10 :: rest =>
    set rest
    return bytes.take size
  | 13 :: other :: rest =>
    Reading.fail (.surprise (rest.length + 1) [shownByte other] (some "lf newline"))
  | [13] => throw .incomplete
  | other :: rest =>
    Reading.fail (.surprise (rest.length + 1) [shownByte other] (some "crlf newline"))
  | [] => throw .incomplete

/-- The code and the detail of a refusal, with a blank between them. -/
def Refusal.ofLine (line : List Char) : Refusal :=
  ⟨String.ofList (line.takeWhile (· ≠ ' ')),
    match line.dropWhile (· ≠ ' ') with
    | [] => none
    | _ :: detail => some (String.ofList detail)⟩

/-- Digits, with marks between them that do not count. -/
def readLongDigits? (text : List Char) : Option Nat :=
  if text.isEmpty || text.head? = some '_' then none
  else (text.filter (· ≠ '_')).foldlM (fun value c => (Number.digit? c).map (10 * value + ·)) 0

/-- A number of any size with an optional sign. -/
def readLong? : List Char → Option Int
  | '-' :: rest => (readLongDigits? rest).map fun n => -(n : Int)
  | '+' :: rest => (readLongDigits? rest).map Int.ofNat
  | text => (readLongDigits? text).map Int.ofNat

/-- A verbatim text, with its markup and a colon in front. -/
def verbatim? (text : List Char) : Option Reply :=
  match text.dropWhile (· ≠ ':') with
  | [] => none
  | _ :: value =>
    some (.verbatim (.ofName (String.ofList (text.takeWhile (· ≠ ':')))) (String.ofList value))

def boolean? (line : List Char) : Option Bool :=
  if line = ['t'] then some true else if line = ['f'] then some false else none

def push? : List Reply → Option Reply
  | .bytes kind :: items => (Utf8.toString? kind).map fun kind => .push kind items
  | .text kind :: items => some (.push kind items)
  | _ => none

def maxDepth : Nat := 100

/-- A size as it is counted: a negative one counts down from the greatest number of 64 bits. -/
def unsignedSize (size : Int) : Nat := (size % Number.unsignedBound).toNat

/-- Reads a size, and what has that size; a negative size stands for no value. -/
def readSized? {α : Type} (read : Nat → Reading α) : Reading (Option α) := do
  let size ← readNumber
  if size < 0 then return none
  return some (← read size.toNat)

def readBlob : Reading (List Char) := do
  return Utf8.decodeLossy (← takeBytes (unsignedSize (← readNumber)))

/-- Says that a kind of reply does not come here, once it is certain that a byte follows. -/
def refuseKind {α : Type} (what : String) : Reading α := do
  match ← get with
  | [] => throw .incomplete
  | next :: rest => Reading.fail (.surprise (rest.length + 1) [shownByte next, what] none)

/-- Reads a reply that stands in `depth` others. Every reply takes a byte at least, so as much
`fuel` as there are bytes is enough. -/
def readFrom : Nat → Nat → Reading Reply
  | 0, _ => throw .incomplete
  | fuel + 1, depth => do
    let many (n : Nat) : Reading (List Reply) := Reading.many (readFrom fuel (depth + 1)) n
    match ← get with
    | [] => throw .incomplete
    | kind :: place =>
      set place
      match Char.ofNat kind.toNat with
      | '+' =>
        let line ← readLine
        return if line = ['O', 'K'] then .okay else .text (String.ofList line)
      | '-' => return .refused (.ofLine (← readLine))
      | ':' => return .number (← readNumber)
      | '$' => return ((← readSized? takeBytes).map .bytes).getD .absent
      | '*' =>
        if maxDepth ≤ depth then refuseKind "Maximum recursion depth exceeded"
        return ((← readSized? many).map .array).getD .absent
      | '%' =>
        let size := unsignedSize (← readNumber)
        return .map (← many (unsignedSize (2 * size)))
      | '|' =>
        let size := unsignedSize (← readNumber)
        let items ← many (unsignedSize (2 * size + 1))
        return .noted (items.getLast?.getD .absent) items.dropLast
      | '~' => return ((← readSized? many).map .set).getD .absent
      | '_' =>
        let _ ← readLine
        return .absent
      | ',' => return .double (← readDouble)
      | '#' => return .boolean (← readLineAs "boolean" boolean?)
      | '!' => return .refused (.ofLine (← readBlob))
      | '=' =>
        Reading.expect place "parse error when decoding verbatim string"
          (verbatim? (← readBlob))
      | '(' => return .bigNumber (← readLineAs "bigint" readLong?)
      | '>' =>
        let size ← readNumber
        if size ≤ 0 then return .push "" []
        let place ← get
        Reading.expect place "parse error when decoding push" (push? (← many size.toNat))
      | _ => refuseKind (shownByte kind)

def Reply.first (input : List UInt8) : Except Stop (Reply × List UInt8) :=
  (readFrom input.length 0).run input

/-- The kinds of messages that answer a command all the same. -/
def answeringKinds : List String :=
  ["unsubscribe", "punsubscribe", "sunsubscribe", "subscribe", "psubscribe", "ssubscribe"]

def Reply.answers : Reply → Bool
  | .push kind _ => answeringKinds.contains kind
  | _ => true

/-- The first reply that answers a command, and what is left after it; or what is wrong. There is
none if it has not come as a whole yet. Every reply takes a byte at least, so as much `fuel` as
there are bytes is enough. -/
def Reply.answer? : Nat → List UInt8 → Except String (Option (Reply × List UInt8))
  | 0, _ => .ok none
  | fuel + 1, input =>
    match Reply.first input with
    | .error .incomplete => .ok none
    | .error (.wrong fault) => .error (fault.text input.length)
    | .ok (reply, rest) => if reply.answers then .ok (some (reply, rest)) else answer? fuel rest

/-- What is left of bytes after the replies in them, which nobody asked for; nothing if there is
something wrong in them. -/
def Reply.discard? : Nat → List UInt8 → Option (List UInt8)
  | 0, input => some input
  | fuel + 1, input =>
    match Reply.first input with
    | .error .incomplete => some input
    | .error (.wrong _) => none
    | .ok (_, rest) => discard? fuel rest

def refusalKinds : List (String × String) :=
  [("ERR", "ResponseError"), ("EXECABORT", "ExecAbortError"), ("LOADING", "BusyLoadingError"),
    ("NOSCRIPT", "NoScriptError"), ("MOVED", "Moved"), ("ASK", "Ask"), ("TRYAGAIN", "TryAgain"),
    ("CLUSTERDOWN", "ClusterDown"), ("CROSSSLOT", "CrossSlot"), ("MASTERDOWN", "MasterDown"),
    ("READONLY", "ReadOnly"), ("NOTBUSY", "NotBusy")]

def Refusal.message (refusal : Refusal) : String :=
  match refusalKinds.lookup refusal.code, refusal.detail with
  | some kind, some detail => "An error was signalled by the server - " ++ kind ++ ": " ++ detail
  | some kind, none => "An error was signalled by the server- " ++ kind
  | none, some detail => refusal.code ++ ": " ++ detail
  | none, none => refusal.code ++ ": Unknown extension error encountered"

def pushKinds : List (String × String) :=
  [("invalidate", "Invalidate"), ("message", "Message"), ("pmessage", "PMessage"),
    ("smessage", "SMessage"), ("unsubscribe", "Unsubscribe"), ("punsubscribe", "PUnsubscribe"),
    ("sunsubscribe", "SUnsubscribe"), ("subscribe", "Subscribe"), ("psubscribe", "PSubscribe"),
    ("ssubscribe", "SSubscribe")]

def shownKind (kind : String) : String :=
  (pushKinds.lookup kind).getD ("Other(" ++ Quoted.quote kind ++ ")")

def bracketed (items : List String) : String := "[" ++ String.intercalate ", " items ++ "]"

def pairs : List String → List String
  | key :: value :: rest => ("(" ++ key ++ ", " ++ value ++ ")") :: pairs rest
  | _ => []

/-- Bytes as they are shown: a text between quotes if they are one. -/
def shownBytes (value : List UInt8) : String :=
  match Utf8.toString? value with
  | some text => "bulk-string('" ++ Quoted.quote text ++ "')"
  | none => "binary-data(" ++ bracketed (value.map fun b => toString b.toNat) ++ ")"

mutual

def Reply.shown : Reply → String
  | .absent => "nil"
  | .number value => "int(" ++ toString value ++ ")"
  | .bytes value => shownBytes value
  | .array items => "array(" ++ bracketed (shownAll items) ++ ")"
  | .push kind items => "push(" ++ shownKind kind ++ ", " ++ bracketed (shownAll items) ++ ")"
  | .okay => "ok"
  | .text value => "simple-string(" ++ Quoted.quote value ++ ")"
  | .map items => "map(" ++ bracketed (pairs (shownAll items)) ++ ")"
  | .noted reply _ => "attribute(" ++ reply.shown ++ ")"
  | .set items => "set(" ++ bracketed (shownAll items) ++ ")"
  | .double value => "double(" ++ Number.Layout.exact.text value ++ ")"
  | .boolean value => "boolean(" ++ (if value then "true" else "false") ++ ")"
  | .verbatim markup value => "verbatim-string(" ++ markup.shown ++ "," ++ Quoted.quote value ++ ")"
  | .bigNumber value => "big-number(" ++ toString value ++ ")"
  | .refused refusal => "Server error: " ++ refusal.message

def shownAll : List Reply → List String
  | [] => []
  | reply :: rest => reply.shown :: shownAll rest

end

mutual

/-- The refusals in a reply, in the order in which they are found: those of a reply before those of
the notes on it. -/
def Reply.refusals : Reply → List Refusal
  | .refused refusal => [refusal]
  | .array items => allRefusals items
  | .push _ items => allRefusals items
  | .map items => allRefusals items
  | .set items => allRefusals items
  | .noted reply notes => reply.refusals ++ allRefusals notes
  | _ => []

def allRefusals : List Reply → List Refusal
  | [] => []
  | reply :: rest => reply.refusals ++ allRefusals rest

end

def Reply.bare : Reply → Reply
  | .noted reply _ => reply
  | reply => reply

/-- The text of a reply that has one, or what is wrong with it. -/
def Reply.plainText? : Reply → Except String String
  | .bytes value =>
    match Utf8.toString? value with
    | some decoded => .ok decoded
    | none => .error "Invalid UTF-8- TypeError"
  | .okay => .ok "OK"
  | .text value => .ok value
  | .verbatim _ value => .ok value
  | .double value => .ok (Number.Layout.plain.text value)
  | .number value => .ok (toString value)
  | reply =>
    .error ("Response was of incompatible type - TypeError: \"Response type not string " ++
      "compatible.\" (response was " ++ reply.shown ++ ")")

/-- The text of a reply, or what is wrong with it. A refusal anywhere in it comes first. -/
def Reply.text? (reply : Reply) : Except String String :=
  match reply.refusals.head? with
  | some refusal => .error refusal.message
  | none => reply.bare.plainText?

end ChannelGate.Resp
