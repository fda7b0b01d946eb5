import ChannelGate.Yaml.Cursor

set_option autoImplicit false

namespace ChannelGate.Yaml

namespace Plain

def isFlowMark (c : Char) : Bool := c = ',' || c = '[' || c = ']' || c = '\x7b' || c = '\x7d'

/-- The characters of one word. Inside a flow collection its marks end the word, and a colon right
in front of a mark is refused. -/
def word? (flow : Bool) : List Char → Option (List Char)
  | [] => some []
  | ':' :: rest =>
    match rest with
    | [] => some []
    | next :: _ =>
      if isSpace next || isBreak next then some []
      else if flow && (isFlowMark next || next = '?') then none
      else (word? flow rest).map (':' :: ·)
  | c :: rest =>
    if isSpace c || isBreak c || (flow && isFlowMark c) then some []
    else (word? flow rest).map (c :: ·)

/-- The words from here on, each with the white space in front of it. Outside of flow collections a
word left of column `margin` does not belong to the scalar. -/
def words? (flow : Bool) (margin : Nat) :
    Nat → Cursor → Gap → Option (List Char × Gap × Cursor)
  | 0, cursor, gap => some ([], gap, cursor)
  | fuel + 1, cursor, gap => do
    if cursor.isAtDocumentMark || cursor.rest.head? = some '#' then
      return ([], gap, cursor)
    let word ← word? flow cursor.rest
    if word.isEmpty then return ([], gap, cursor)
    let after := cursor.skip word.length
    let (next, after) ← Gap.read? margin after.rest.length after ⟨[], []⟩
    let text := gap.fold ++ word
    if (next.spaces.isEmpty && !next.isBroken) || (!flow && decide (after.column < margin)) then
      return (text, next, after)
    let (more, last, after) ← words? flow margin fuel after next
    return (text ++ more, last, after)

/-- The plain scalar that starts here: its text, whether white space with a line break follows it,
and the position after that white space. -/
def read? (flow : Bool) (margin : Nat) (cursor : Cursor) : Option (List Char × Bool × Cursor) := do
  let (text, gap, after) ← words? flow margin (cursor.rest.length + 1) cursor ⟨[], []⟩
  return (text, gap.isBroken, after)

end Plain

namespace Quote

def hexNumber? (digits : List Char) : Option Nat :=
  digits.foldlM (fun value c =>
    if '0' ≤ c ∧ c ≤ '9' then some (16 * value + (c.toNat - '0'.toNat))
    else if 'a' ≤ c ∧ c ≤ 'f' then some (16 * value + (c.toNat - 'a'.toNat + 10))
    else if 'A' ≤ c ∧ c ≤ 'F' then some (16 * value + (c.toNat - 'A'.toNat + 10))
    else none) 0

def numbered? (count : Nat) (text : List Char) : Option Char := do
  if text.length < count then none
  let value ← hexNumber? (text.take count)
  if value.isValidChar then some (.ofNat value) else none

/-- The character that an escape stands for, and the length of the escape without its backslash. -/
def escaped? : List Char → Option (Char × Nat)
  | '0' :: _ => some ('\x00', 1)
  | 'a' :: _ => some ('\x07', 1)
  | 'b' :: _ => some ('\x08', 1)
  | 't' :: _ => some ('\t', 1)
  | '\t' :: _ => some ('\t', 1)
  | 'n' :: _ => some ('\n', 1)
  | 'v' :: _ => some ('\x0b', 1)
  | 'f' :: _ => some ('\x0c', 1)
  | 'r' :: _ => some ('\r', 1)
  | 'e' :: _ => some ('\x1b', 1)
  | ' ' :: _ => some (' ', 1)
  | '"' :: _ => some ('"', 1)
  | '/' :: _ => some ('/', 1)
  | '\\' :: _ => some ('\\', 1)
  | 'N' :: _ => some ('\u0085', 1)
  | '_' :: _ => some ('\u00a0', 1)
  | 'L' :: _ => some ('\u2028', 1)
  | 'P' :: _ => some ('\u2029', 1)
  | 'x' :: rest => (numbered? 2 rest).map (·, 3)
  | 'u' :: rest => (numbered? 4 rest).map (·, 5)
  | 'U' :: rest => (numbered? 8 rest).map (·, 9)
  | _ => none

/-- The text up to the closing quote. An escaped line break joins its lines without a blank. -/
def text? (double : Bool) : Nat → Cursor → Option (List Char × Cursor)
  | 0, _ => none
  | fuel + 1, cursor =>
    if cursor.isAtDocumentMark then none
    else
      match cursor.rest with
      | [] => none
      | '"' :: _ =>
        if double then some ([], cursor.skip 1)
        else (text? double fuel (cursor.skip 1)).map (.map ('"' :: ·) id)
      | '\'' :: rest =>
        if double then (text? double fuel (cursor.skip 1)).map (.map ('\'' :: ·) id)
        else if rest.head? = some '\'' then
          (text? double fuel (cursor.skip 2)).map (.map ('\'' :: ·) id)
        else some ([], cursor.skip 1)
      | c :: rest =>
        if isSpace c || isBreak c then do
          let (gap, after) ← Gap.read? 0 cursor.rest.length cursor ⟨[], []⟩
          (text? double fuel after).map (.map (gap.fold ++ ·) id)
        else if c = '\\' ∧ double = true then
          if rest.head?.any isBreak then do
            let (gap, after) ← Gap.read? 0 cursor.rest.length (cursor.skip 1) ⟨[], []⟩
            (text? double fuel after).map (.map (gap.breaks.drop 1 ++ ·) id)
          else do
            let (value, length) ← escaped? rest
            (text? double fuel (cursor.skip (1 + length))).map (.map (value :: ·) id)
        else (text? double fuel (cursor.skip 1)).map (.map (c :: ·) id)

/-- The quoted scalar whose opening quote stands here, and the position after it. -/
def read? (double : Bool) (cursor : Cursor) : Option (List Char × Cursor) :=
  text? double (cursor.rest.length + 1) (cursor.skip 1)

end Quote

end ChannelGate.Yaml
