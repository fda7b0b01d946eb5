import ChannelGate.Domain.Basic
import ChannelGate.Text.Percent

set_option autoImplicit false

namespace ChannelGate

inductive UrlError where
  | relative
  | emptyHost
  | invalidPort
  | invalidIpv4
  | invalidIpv6
  | invalidDomainCharacter
  | invalidInternationalName
  deriving DecidableEq

def UrlError.message : UrlError → String
  | .relative => "relative URL without a base"
  | .emptyHost => "empty host"
  | .invalidPort => "invalid port number"
  | .invalidIpv4 => "invalid IPv4 address"
  | .invalidIpv6 => "invalid IPv6 address"
  | .invalidDomainCharacter => "invalid domain character"
  | .invalidInternationalName => "invalid international domain name"

inductive Host where
  | missing
  | name (text : List Char)
  | address
  deriving DecidableEq

namespace Host

def isDecimal (c : Char) : Bool := '0' ≤ c && c ≤ '9'

def isHexadecimal (c : Char) : Bool :=
  isDecimal c || ('a' ≤ c && c ≤ 'f') || ('A' ≤ c && c ≤ 'F')

def digitValue (c : Char) : Nat :=
  if isDecimal c then c.toNat - '0'.toNat else c.toLower.toNat - 'a'.toNat + 10

def valueIn (base : Nat) (digits : List Char) : Nat :=
  digits.foldl (fun value c => base * value + digitValue c) 0

/-- A number of a dotted address: hexadecimal after `0x`, octal after another zero, else decimal. -/
def dottedNumber? (text : List Char) : Option Nat :=
  match text with
  | [] => none
  | ['0'] => some 0
  | '0' :: c :: digits =>
    if c = 'x' ∨ c = 'X' then
      if digits.all isHexadecimal then some (valueIn 16 digits) else none
    else if (c :: digits).all fun c => '0' ≤ c && c ≤ '7' then some (valueIn 8 (c :: digits))
    else none
  | digits => if digits.all isDecimal then some (valueIn 10 digits) else none

/-- The parts of a dotted text; a dot at its end begins no part. -/
def dottedParts (text : List Char) : List (List Char) :=
  let parts := text.splitOn '.'
  if 1 < parts.length ∧ parts.getLast? = some [] then parts.dropLast else parts

/-- The last part is a number, so the text has to be an address. -/
def endsInNumber (text : List Char) : Bool :=
  match (dottedParts text).getLast? with
  | none => false
  | some [] => false
  | some last => last.all isDecimal || (dottedNumber? last).isSome

/-- An address of four bytes; the last number of fewer than four fills the bytes that are left. -/
def isIpv4 (text : List Char) : Bool :=
  let parts := dottedParts text
  match parts.mapM dottedNumber? with
  | none => false
  | some numbers =>
    parts.length ≤ 4 && numbers.dropLast.all (· < 256) &&
      decide (numbers.getLastD 0 < Nat.pow 256 (5 - parts.length))

/-- Four numbers of one byte each, without zeros in front. -/
def isPlainIpv4 (text : List Char) : Bool :=
  let parts := text.splitOn '.'
  parts.length = 4 && parts.all fun part =>
    !part.isEmpty && part.all isDecimal && (part = ['0'] || part.head? ≠ some '0') &&
      valueIn 10 part < 256

/-- Reads the pieces of an address of eight pieces, after `count` of them; a double colon, which
stands once at most, makes up for missing ones. -/
def ipv6Pieces : Nat → Nat → Bool → List Char → Bool
  | 0, _, _, _ => false
  | fuel + 1, count, compressed, text =>
    match text with
    | [] => compressed || count = 8
    | c :: rest =>
      if count = 8 then false
      else if c = ':' then !compressed && ipv6Pieces fuel (count + 1) true rest
      else
        let digits := (text.takeWhile isHexadecimal).take 4
        match text.drop digits.length with
        | [] => ipv6Pieces fuel (count + 1) compressed []
        | ':' :: more =>
          !digits.isEmpty && !more.isEmpty && ipv6Pieces fuel (count + 1) compressed more
        | '.' :: _ =>
          !digits.isEmpty && decide (count ≤ 6) && isPlainIpv4 text &&
            (compressed || count = 6)
        | _ => false

def isIpv6 (text : List Char) : Bool :=
  match text with
  | ':' :: ':' :: rest => ipv6Pieces (rest.length + 1) 1 true rest
  | ':' :: _ => false
  | text => decide (2 ≤ text.length) && ipv6Pieces (text.length + 1) 0 false text

/-- The host between square brackets, if the text starts with one. -/
def bracketed? (text : List Char) : Option (Except UrlError Host) :=
  match text with
  | '[' :: rest =>
    some (if rest.getLast? = some ']' ∧ isIpv6 rest.dropLast = true then .ok .address
      else .error .invalidIpv6)
  | _ => none

/-- A character that no plain host has. -/
def isForbidden (c : Char) : Bool :=
  c = '\x00' || c = '\t' || c = '\n' || c = '\r' || " #/:<>?@[\\]^|".toList.contains c

def readPlain (text : List Char) : Except UrlError Host :=
  match bracketed? text with
  | some host => host
  | none =>
    if text.any isForbidden then .error .invalidDomainCharacter
    else if text.isEmpty then .ok .missing
    else .ok (.name text)

/-- A host that is a domain or an address. -/
def readDomain (text : List Char) : Except UrlError Host :=
  match bracketed? text with
  | some host => host
  | none =>
    match (Utf8.decode? (Percent.decodeLenient (Utf8.encode text))).bind Domain.plain? with
    | none => .error .invalidInternationalName
    | some domain =>
      if domain.isEmpty then .error .emptyHost
      else if endsInNumber domain then if isIpv4 domain then .ok .address else .error .invalidIpv4
      else .ok (.name domain)

end Host

end ChannelGate
