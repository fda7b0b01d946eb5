import ChannelGate.Text.Utf8

set_option autoImplicit false

namespace ChannelGate.Percent

def hexValue? (b : UInt8) : Option Nat :=
  let v := b.toNat
  if 0x30 ≤ v ∧ v ≤ 0x39 then some (v - 0x30)
  else if 0x41 ≤ v ∧ v ≤ 0x46 then some (v - 0x41 + 10)
  else if 0x61 ≤ v ∧ v ≤ 0x66 then some (v - 0x61 + 10)
  else none

def escaped? (high low : UInt8) : Option UInt8 := do
  let x ← hexValue? high
  let y ← hexValue? low
  return .ofNat (16 * x + y)

def isHexDigit (b : UInt8) : Bool := (hexValue? b).isSome

/-- Two hexadecimal digits follow every `%`. An escape is passed over as a whole, every other byte
on its own. -/
def isWellEscaped : List UInt8 → Bool
  | [] => true
  | b :: rest =>
    if b = 0x25 then
      match rest with
      | high :: low :: tail => isHexDigit high && isHexDigit low && isWellEscaped tail
      | _ => false
    else isWellEscaped rest

/-- Replaces every escape by its byte and keeps all other bytes, also a `%` that starts none. -/
def decodeLenient : List UInt8 → List UInt8
  | [] => []
  | b :: rest =>
    if b = 0x25 then
      match rest with
      | high :: low :: tail =>
        match escaped? high low with
        | some byte => byte :: decodeLenient tail
        | none => b :: decodeLenient (high :: low :: tail)
      | [only] => [b, only]
      | [] => [b]
    else b :: decodeLenient rest

/-- The text that a text stands for in which every `%` starts an escape. -/
def decodeText? (text : List Char) : Option (List Char) :=
  let bytes := Utf8.encode text
  if isWellEscaped bytes then Utf8.decode? (decodeLenient bytes) else none

end ChannelGate.Percent
