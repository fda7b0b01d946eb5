set_option autoImplicit false

namespace ChannelGate.Domain.Punycode

/-- Digits count to 36: first letters, then decimal digits. -/
def digit? (c : Char) : Option Nat :=
  if 'a' ≤ c ∧ c ≤ 'z' then some (c.toNat - 'a'.toNat)
  else if '0' ≤ c ∧ c ≤ '9' then some (c.toNat - '0'.toNat + 26)
  else none

/-- The threshold of the digit at a place, where places are counted by 36: a smaller digit is the
last one. -/
def threshold (bias place : Nat) : Nat :=
  if place ≤ bias then 1 else if bias + 26 ≤ place then 26 else place - bias

/-- How often a number is divided by 35 until it is small, counted by 36, and what is left. -/
def scaleDown (place delta : Nat) : Nat × Nat :=
  if 455 < delta then scaleDown (place + 36) (delta / 35) else (place, delta)
termination_by delta
decreasing_by exact Nat.div_lt_self (by omega) (by omega)

/-- The bias after an insertion into a label that has `length` letters then. -/
def adapt (delta length : Nat) (first : Bool) : Nat :=
  let damped := if first then delta / 700 else delta / 2
  let (place, small) := scaleDown 0 (damped + damped / length)
  place + 36 * small / (small + 38)

def bound : Nat := 0x100000000

/-- How far the digits were read: the label so far, the code point and the place of the last
insertion, the bias, and the number that is being read, if its first digits were read already. -/
structure State where
  label : List Char
  code : Nat
  place : Nat
  bias : Nat
  first : Bool
  /-- The value of the digits of the number, the weight of the next one, and its place. -/
  begun : Option (Nat × Nat × Nat)

def State.start (label : List Char) : State := ⟨label, 128, 0, 72, true, none⟩

/-- The insertion that a number says, which is counted on from the last insertion; a code point that
is no character cannot be inserted. -/
def State.insert? (state : State) (value : Nat) : Option State :=
  let length := state.label.length + 1
  let total := state.place + value
  let code := state.code + total / length
  if code.isValidChar then
    some ⟨state.label.insertIdx (total % length) (.ofNat code), code, total % length + 1,
      adapt value length state.first, false, none⟩
  else none

def State.read? (state : State) (c : Char) : Option State := do
  let d ← digit? c
  let (value, weight, place) := state.begun.getD (0, 1, 36)
  let value := value + d * weight
  if bound ≤ state.place + value then none
  let limit := threshold state.bias place
  if d < limit then state.insert? value
  else if bound ≤ weight * (36 - limit) then none
  else return { state with begun := some (value, weight * (36 - limit), place + 36) }

/-- The letters before the last hyphen, and the digits after it. A hyphen in front counts as a
digit. -/
def split (text : List Char) : List Char × List Char :=
  match text.reverse.dropWhile (· ≠ '-') with
  | [] => ([], text)
  | [_] => ([], text)
  | _ :: letters => (letters.reverse, (text.reverse.takeWhile (· ≠ '-')).reverse)

def decode? (text : List Char) : Option (List Char) := do
  let (letters, digits) := split text
  if letters.any fun c => 128 ≤ c.toNat then none
  let state ← digits.foldlM State.read? (State.start letters)
  if state.begun.isSome then none
  return state.label

end ChannelGate.Domain.Punycode
