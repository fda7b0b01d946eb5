set_option autoImplicit false

namespace ChannelGate.Yaml

def isAllowed (c : Char) : Bool :=
  let v := c.toNat
  v = 0x9 || v = 0xA || v = 0xD || (0x20 ≤ v && v ≤ 0x7E) || v = 0x85 || (0xA0 ≤ v && v ≤ 0xFFFD) ||
    0x10000 ≤ v

def isBreak (c : Char) : Bool := c = '\n' || c = '\u2028' || c = '\u2029'

def isSpace (c : Char) : Bool := c = ' ' || c = '\t'

/-- Writes every carriage return, line feed, pair of both and next line character as one line
feed. -/
def unifyBreaks : List Char → List Char
  | [] => []
  | '\r' :: '\n' :: rest => '\n' :: unifyBreaks rest
  | c :: rest => (if c = '\r' || c = '\u0085' then '\n' else c) :: unifyBreaks rest

/-- What is left of a text, and where it is; `offset` counts the bytes of the line before it. -/
structure Cursor where
  rest : List Char
  line : Nat
  column : Nat
  offset : Nat
  deriving DecidableEq

namespace Cursor

def start (text : List Char) : Cursor := ⟨unifyBreaks text, 0, 0, 0⟩

def skip (cursor : Cursor) (count : Nat) : Cursor :=
  { cursor with
    rest := cursor.rest.drop count
    column := cursor.column + count
    offset := (cursor.rest.take count).foldl (fun offset c => offset + c.utf8Size) cursor.offset }

def skipBreak (cursor : Cursor) : Cursor := ⟨cursor.rest.drop 1, cursor.line + 1, 0, 0⟩

/-- The position after the byte order mark that stands here, if one starts the line. It takes a
column of its own. -/
def skipOrderMark (cursor : Cursor) : Cursor :=
  if cursor.column = 0 ∧ cursor.rest.head? = some '\uFEFF' then cursor.skip 1 else cursor

/-- The text has a space, a line break or its end after `count` characters. -/
def endsWordAt (cursor : Cursor) (count : Nat) : Bool :=
  match cursor.rest.drop count with
  | [] => true
  | c :: _ => isSpace c || isBreak c

/-- A document starts or ends here: three equal marks at the start of a line. -/
def isAtDocumentMark (cursor : Cursor) : Bool :=
  cursor.column = 0 && cursor.endsWordAt 3 &&
    (['-', '-', '-'].isPrefixOf cursor.rest || ['.', '.', '.'].isPrefixOf cursor.rest)

/-- The position after the spaces that stand here; tabs count where they are allowed. -/
def skipSpaces (tabs : Bool) (cursor : Cursor) : Cursor :=
  cursor.skip (cursor.rest.takeWhile fun c => c = ' ' || (tabs && c = '\t')).length

def skipComment (cursor : Cursor) : Cursor :=
  if cursor.rest.head? = some '#' then
    cursor.skip (cursor.rest.takeWhile fun c => !isBreak c).length
  else cursor

end Cursor

/-- White space inside a scalar: the spaces of the first line, and the line breaks, if any. -/
structure Gap where
  spaces : List Char
  breaks : List Char
  deriving DecidableEq

namespace Gap

def isBroken (gap : Gap) : Bool := !gap.breaks.isEmpty

/-- What is left of the white space: a single line feed becomes a blank, of several the first one
goes away, and spaces around line breaks go away. -/
def fold (gap : Gap) : List Char :=
  match gap.breaks with
  | [] => gap.spaces
  | ['\n'] => [' ']
  | '\n' :: more => more
  | breaks => breaks

/-- The white space from here on, with the position after it. A tab that stands left of column
`margin` in front of a line is refused. -/
def read? (margin : Nat) : Nat → Cursor → Gap → Option (Gap × Cursor)
  | 0, cursor, gap => some (gap, cursor)
  | fuel + 1, cursor, gap =>
    match cursor.rest with
    | [] => some (gap, cursor)
    | c :: _ =>
      if isSpace c then
        if gap.isBroken then
          if c = '\t' ∧ cursor.column < margin then none
          else read? margin fuel (cursor.skip 1) gap
        else read? margin fuel (cursor.skip 1) { gap with spaces := gap.spaces ++ [c] }
      else if isBreak c then
        read? margin fuel cursor.skipBreak { gap with breaks := gap.breaks ++ [c] }
      else some (gap, cursor)

end Gap

end ChannelGate.Yaml
