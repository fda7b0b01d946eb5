import ChannelGate.Yaml.Scalar

set_option autoImplicit false

namespace ChannelGate.Yaml

inductive Token where
  | documentStart
  | documentEnd
  | blockSequence
  | blockMapping
  | blockEnd
  | blockEntry
  | key
  | value
  | flowSequence
  | flowSequenceEnd
  | flowMapping
  | flowMappingEnd
  | flowEntry
  | scalar (quoted : Bool) (text : String)
  deriving DecidableEq

/-- A place where a key may start: the number of tokens before it, its line, its column and the
bytes before it in the line, and whether nothing but a key may stand there. -/
structure KeyPlace where
  number : Nat
  line : Nat
  column : Nat
  offset : Nat
  needed : Bool
  deriving DecidableEq

/-- The tokens read so far and what is left: the columns of the open blocks, the innermost first;
for every open flow collection and for the block around them the place where a key may start; and
whether a key may start next. -/
structure Scan where
  tokens : List Token
  cursor : Cursor
  blocks : List Nat
  outer : List (Option KeyPlace)
  place : Option KeyPlace
  keyAllowed : Bool

namespace Scan

def start (text : List Char) : Scan := ⟨[], .start text, [], [], none, true⟩

def inFlow (scan : Scan) : Bool := !scan.outer.isEmpty

def push (scan : Scan) (token : Token) : Scan := { scan with tokens := scan.tokens ++ [token] }

def skip (scan : Scan) (count : Nat) : Scan := { scan with cursor := scan.cursor.skip count }

/-- The column left of which plain scalars end. -/
def margin (scan : Scan) : Nat :=
  match scan.blocks with
  | [] => 0
  | column :: _ => column + 1

def opensAt (scan : Scan) (column : Nat) : Bool :=
  match scan.blocks with
  | [] => true
  | inner :: _ => inner < column

/-- Opens a block at a column right of the innermost block; its token is put in at `number`. -/
def openBlock (scan : Scan) (column number : Nat) (token : Token) : Scan :=
  if scan.inFlow || !scan.opensAt column then scan
  else { scan with blocks := column :: scan.blocks, tokens := scan.tokens.insertIdx number token }

def closeBlocks (scan : Scan) (column : Nat) : Scan :=
  if scan.inFlow then scan
  else
    { scan with
      blocks := scan.blocks.dropWhile (column < ·)
      tokens := scan.tokens ++ (scan.blocks.takeWhile (column < ·)).map fun _ => .blockEnd }

def closeAllBlocks (scan : Scan) : Scan :=
  if scan.inFlow then scan
  else { scan with blocks := [], tokens := scan.tokens ++ scan.blocks.map fun _ => .blockEnd }

/-- Forgets where a key may start; fails if one had to. -/
def dropPlace? (scan : Scan) : Option Scan :=
  if scan.place.any KeyPlace.needed then none else some { scan with place := none }

/-- A key may start here, if one may start at all. -/
def markPlace? (scan : Scan) : Option Scan := do
  if !scan.keyAllowed then return scan
  let needed := !scan.inFlow && scan.blocks.head? = some scan.cursor.column
  let scan ← scan.dropPlace?
  let cursor := scan.cursor
  return { scan with
    place := some ⟨scan.tokens.length, cursor.line, cursor.column, cursor.offset, needed⟩ }

/-- A key is over at the end of its line and after 1024 bytes. -/
def isOver (cursor : Cursor) (place : KeyPlace) : Bool :=
  place.line < cursor.line || place.offset + 1024 < cursor.offset

def dropOver? (scan : Scan) : Option Scan :=
  let late (place : Option KeyPlace) : Bool := place.any (isOver scan.cursor)
  if (scan.place :: scan.outer).any fun place => late place && place.any KeyPlace.needed then none
  else
    some { scan with
      place := if late scan.place then none else scan.place
      outer := scan.outer.map fun place => if late place then none else place }

/-- Moves on to the next token, over spaces, comments, line ends and byte order marks at the start
of a line. A new line outside of flow collections allows a key. -/
def toNext : Nat → Scan → Scan
  | 0, scan => scan
  | fuel + 1, scan =>
    let cursor := scan.cursor.skipOrderMark.skipSpaces (scan.inFlow || !scan.keyAllowed)
    let cursor := cursor.skipComment
    if cursor.rest.head?.any isBreak then
      toNext fuel
        { scan with cursor := cursor.skipBreak, keyAllowed := !scan.inFlow || scan.keyAllowed }
    else { scan with cursor := cursor }

def documentMark? (scan : Scan) (token : Token) : Option Scan := do
  let scan ← scan.closeAllBlocks.dropPlace?
  return { scan with keyAllowed := false }.push token |>.skip 3

def flowStart? (scan : Scan) (token : Token) : Option Scan := do
  let scan ← scan.markPlace?
  return { scan with outer := scan.place :: scan.outer, place := none, keyAllowed := true }.push
    token |>.skip 1

def flowEnd? (scan : Scan) (token : Token) : Option Scan := do
  let scan ← scan.dropPlace?
  let scan := match scan.outer with
    | [] => scan
    | place :: outer => { scan with place := place, outer := outer }
  return { scan with keyAllowed := false }.push token |>.skip 1

def flowEntry? (scan : Scan) : Option Scan := do
  let scan ← scan.dropPlace?
  return { scan with keyAllowed := true }.push .flowEntry |>.skip 1

def blockEntry? (scan : Scan) : Option Scan := do
  if !scan.inFlow && !scan.keyAllowed then none
  let scan ← (scan.openBlock scan.cursor.column scan.tokens.length .blockSequence).dropPlace?
  return { scan with keyAllowed := true }.push .blockEntry |>.skip 1

def key? (scan : Scan) : Option Scan := do
  if !scan.inFlow && !scan.keyAllowed then none
  let scan ← (scan.openBlock scan.cursor.column scan.tokens.length .blockMapping).dropPlace?
  return { scan with keyAllowed := !scan.inFlow }.push .key |>.skip 1

/-- The value of a key comes; the key starts at the place that was remembered. -/
def value? (scan : Scan) : Option Scan :=
  match scan.place with
  | some place =>
    let scan := { scan with tokens := scan.tokens.insertIdx place.number .key }
    let scan := scan.openBlock place.column place.number .blockMapping
    some ({ scan with place := none, keyAllowed := false }.push .value |>.skip 1)
  | none =>
    if !scan.inFlow && !scan.keyAllowed then none
    else
      let scan := scan.openBlock scan.cursor.column scan.tokens.length .blockMapping
      some ({ scan with keyAllowed := !scan.inFlow }.push .value |>.skip 1)

def quoted? (scan : Scan) (double : Bool) : Option Scan := do
  let scan ← scan.markPlace?
  let (text, cursor) ← Quote.read? double scan.cursor
  return { scan with cursor := cursor, keyAllowed := false }.push (.scalar true (.ofList text))

/-- A plain scalar comes; if a line ends after it, a key may follow. -/
def plain? (scan : Scan) : Option Scan := do
  let scan ← scan.markPlace?
  let (text, broken, cursor) ← Plain.read? scan.inFlow scan.margin scan.cursor
  return { scan with cursor := cursor, keyAllowed := broken }.push (.scalar false (.ofList text))

def isMark (c : Char) : Bool :=
  "-?:,[]\x7b\x7d#&*!|>'\"%@`".toList.contains c

def startsPlain (scan : Scan) : Bool :=
  match scan.cursor.rest with
  | [] => false
  | c :: rest =>
    (!isMark c && !isSpace c) || (c = '-' && !rest.head?.any isSpace) ||
      (!scan.inFlow && (c = '?' || c = ':') && !scan.cursor.endsWordAt 1)

def token? (scan : Scan) : Option Scan :=
  let here (c : Char) : Bool := scan.cursor.rest.head? = some c
  let alone : Bool := scan.cursor.endsWordAt 1
  if scan.cursor.column = 0 ∧ here '%' = true then none
  else if scan.cursor.isAtDocumentMark then
    scan.documentMark? (if here '-' then .documentStart else .documentEnd)
  else if here '[' then scan.flowStart? .flowSequence
  else if here '\x7b' then scan.flowStart? .flowMapping
  else if here ']' then scan.flowEnd? .flowSequenceEnd
  else if here '\x7d' then scan.flowEnd? .flowMappingEnd
  else if here ',' then scan.flowEntry?
  else if here '-' && alone then scan.blockEntry?
  else if here '?' && (scan.inFlow || alone) then scan.key?
  else if here ':' && (scan.inFlow || alone) then scan.value?
  else if here '\'' then scan.quoted? false
  else if here '"' then scan.quoted? true
  else if scan.startsPlain then scan.plain?
  else none

def run? : Nat → Scan → Option (List Token)
  | 0, _ => none
  | fuel + 1, scan => do
    let scan ← (toNext (scan.cursor.rest.length + 1) scan).dropOver?
    let scan := scan.closeBlocks scan.cursor.column
    if scan.cursor.rest.isEmpty then
      return (← scan.closeAllBlocks.dropPlace?).tokens
    run? fuel (← scan.token?)

end Scan

def Token.scan? (text : List Char) : Option (List Token) :=
  if text.all isAllowed then Scan.run? (text.length + 1) (.start text) else none

end ChannelGate.Yaml
