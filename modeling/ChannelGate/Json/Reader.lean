import ChannelGate.Json.Basic
import ChannelGate.Number.Digits

set_option autoImplicit false

namespace ChannelGate.Json

def isBlank (c : Char) : Bool := c = ' ' || c = '\n' || c = '\r' || c = '\t'

def skipBlank (text : List Char) : List Char := text.dropWhile isBlank

/-- A part of a string literal: a character, or the number of an escape. -/
inductive Piece where
  | char (c : Char)
  | unit (value : Nat)

def hexValue? (c : Char) : Option Nat :=
  if '0' ≤ c ∧ c ≤ '9' then some (c.toNat - 48)
  else if 'a' ≤ c ∧ c ≤ 'f' then some (c.toNat - 87)
  else if 'A' ≤ c ∧ c ≤ 'F' then some (c.toNat - 55)
  else none

def hexFour? (a b c d : Char) : Option Nat := do
  let a ← hexValue? a
  let b ← hexValue? b
  let c ← hexValue? c
  let d ← hexValue? d
  return ((a * 16 + b) * 16 + c) * 16 + d

def unescape? : Char → Option Char
  | '"' => some '"'
  | '\\' => some '\\'
  | '/' => some '/'
  | 'b' => some '\x08'
  | 'f' => some '\x0c'
  | 'n' => some '\n'
  | 'r' => some '\r'
  | 't' => some '\t'
  | _ => none

/-- Reads a string literal after its opening quote. -/
def stringTail? : List Char → Option (List Piece × List Char)
  | [] => none
  | '"' :: rest => some ([], rest)
  | '\\' :: 'u' :: a :: b :: c :: d :: rest => do
    let value ← hexFour? a b c d
    let (pieces, rest) ← stringTail? rest
    return (.unit value :: pieces, rest)
  | '\\' :: e :: rest => do
    let c ← unescape? e
    let (pieces, rest) ← stringTail? rest
    return (.char c :: pieces, rest)
  | c :: rest =>
    if c = '\\' ∨ c.toNat < 0x20 then none
    else do
      let (pieces, rest) ← stringTail? rest
      return (.char c :: pieces, rest)

/-- The first half of a character beyond the first 65536. -/
def isHigh (value : Nat) : Bool := 0xD800 ≤ value && value < 0xDC00

def isLow (value : Nat) : Bool := 0xDC00 ≤ value && value < 0xE000

/-- The text of the pieces of a literal, if no half of a character stands alone. -/
def join? : List Piece → Option (List Char)
  | [] => some []
  | .char c :: rest => (join? rest).map (c :: ·)
  | .unit high :: .unit low :: rest =>
    if isHigh high then
      if isLow low then
        (join? rest).map (Char.ofNat (0x10000 + (high - 0xD800) * 0x400 + (low - 0xDC00)) :: ·)
      else none
    else if isLow high then none
    else (join? (.unit low :: rest)).map (Char.ofNat high :: ·)
  | .unit value :: rest =>
    if isHigh value || isLow value then none else (join? rest).map (Char.ofNat value :: ·)

def ofPieces (pieces : List Piece) : Json :=
  match join? pieces with
  | some text => .string (String.ofList text)
  | none => .broken

def spanDigits (text : List Char) : List Char × List Char :=
  (text.takeWhile Char.isDigit, text.dropWhile Char.isDigit)

def fraction? : List Char → Option (List Char × List Char)
  | '.' :: rest =>
    let (digits, rest) := spanDigits rest
    if digits.isEmpty then none else some ('.' :: digits, rest)
  | text => some ([], text)

def exponent? : List Char → Option (List Char × List Char)
  | [] => some ([], [])
  | mark :: rest =>
    if mark = 'e' ∨ mark = 'E' then
      let (sign, rest) := match rest with
        | '+' :: rest => (['+'], rest)
        | '-' :: rest => (['-'], rest)
        | rest => ([], rest)
      let (digits, rest) := spanDigits rest
      if digits.isEmpty then none else some (mark :: sign ++ digits, rest)
    else some ([], mark :: rest)

def digitsValue (digits : List Char) : Nat :=
  digits.foldl (fun value c => value * 10 + (c.toNat - 48)) 0

/-- Reads a number: no zero before other digits, and no sign but a minus. -/
def number? (text : List Char) : Option (Json × List Char) := do
  let (negative, unsigned) := match text with
    | '-' :: rest => (true, rest)
    | rest => (false, rest)
  let (whole, rest) := spanDigits unsigned
  if whole.isEmpty ∨ (whole.head? = some '0' ∧ whole.length ≠ 1) then none
  else
    let (fraction, rest) ← fraction? rest
    let (exponent, rest) ← exponent? rest
    let sign := if negative then ['-'] else []
    if fraction.isEmpty ∧ exponent.isEmpty ∧ ¬(negative ∧ digitsValue whole = 0) then
      return (.integer (if negative then -(digitsValue whole : Int) else digitsValue whole), rest)
    else return (.decimal (String.ofList (sign ++ whole ++ fraction ++ exponent)), rest)

def key? (text : List Char) : Option (List Piece × List Char) :=
  match skipBlank text with
  | '"' :: rest => do
    let (pieces, rest) ← stringTail? rest
    match skipBlank rest with
    | ':' :: rest => return (pieces, rest)
    | _ => none
  | _ => none

/-- The object with these members, each with the literal of its key. -/
def ofMembers (members : List (List Piece × Json)) : Json :=
  match members.mapM fun (key, value) => (join? key).map fun key => (String.ofList key, value) with
  | some members => .object members
  | none => .broken

mutual

/-- Reads a value; `depth` bounds the nesting. -/
def value? (depth : Nat) (text : List Char) : Option (Json × List Char) :=
  match depth with
  | 0 => none
  | depth + 1 =>
    match skipBlank text with
    | 'n' :: 'u' :: 'l' :: 'l' :: rest => some (.null, rest)
    | 't' :: 'r' :: 'u' :: 'e' :: rest => some (.bool true, rest)
    | 'f' :: 'a' :: 'l' :: 's' :: 'e' :: rest => some (.bool false, rest)
    | '"' :: rest => (stringTail? rest).map fun (pieces, rest) => (ofPieces pieces, rest)
    | '[' :: rest =>
      match skipBlank rest with
      | ']' :: rest => some (.array [], rest)
      | rest => (items? depth rest).map fun (items, rest) => (.array items, rest)
    | '\x7b' :: rest =>
      match skipBlank rest with
      | '\x7d' :: rest => some (.object [], rest)
      | rest => (members? depth rest).map fun (members, rest) => (ofMembers members, rest)
    | rest => number? rest

def items? (depth : Nat) (text : List Char) : Option (List Json × List Char) :=
  match depth with
  | 0 => none
  | depth + 1 => do
    let (item, rest) ← value? depth text
    match skipBlank rest with
    | ',' :: rest => do
      let (more, rest) ← items? depth rest
      return (item :: more, rest)
    | ']' :: rest => return ([item], rest)
    | _ => none

def members? (depth : Nat) (text : List Char) :
    Option (List (List Piece × Json) × List Char) :=
  match depth with
  | 0 => none
  | depth + 1 => do
    let (key, rest) ← key? text
    let (value, rest) ← value? depth rest
    match skipBlank rest with
    | ',' :: rest => do
      let (more, rest) ← members? depth rest
      return ((key, value) :: more, rest)
    | '\x7d' :: rest => return ([(key, value)], rest)
    | _ => none

end

/-- Reads a whole text. Every level of nesting and every item takes a character, so the length of
the text bounds the depth. -/
def read? (text : String) : Option Json := do
  let (value, rest) ← value? (2 * text.length + 2) text.toList
  if (skipBlank rest).isEmpty then some value else none

end ChannelGate.Json
