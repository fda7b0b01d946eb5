set_option autoImplicit false

namespace ChannelGate.Number

inductive DigitsError where
  | empty
  | invalidDigit
  | tooLarge
  deriving DecidableEq

def DigitsError.message : DigitsError → String
  | .empty => "cannot parse integer from empty string"
  | .invalidDigit => "invalid digit found in string"
  | .tooLarge => "number too large to fit in target type"

def digit? (c : Char) : Option Nat :=
  if '0' ≤ c ∧ c ≤ '9' then some (c.toNat - '0'.toNat) else none

/-- Reads digits from the left onto `value`; the first fault decides, and a character that is no
digit comes before the bound. -/
def readDigits (bound : Nat) : Nat → List Char → Except DigitsError Nat
  | value, [] => .ok value
  | value, c :: rest =>
    match digit? c with
    | none => .error .invalidDigit
    | some d =>
      if value * 10 + d < bound then readDigits bound (value * 10 + d) rest else .error .tooLarge

/-- Reads a number below `bound`. -/
def readNat (bound : Nat) (text : List Char) : Except DigitsError Nat :=
  match text with
  | [] => .error .empty
  | ['+'] => .error .invalidDigit
  | '+' :: rest => readDigits bound 0 rest
  | text => readDigits bound 0 text

/-- Reads a number from `-bound` up to but not including `bound`. -/
def readInt? (bound : Nat) (text : List Char) : Option Int :=
  match text with
  | [] => none
  | ['+'] => none
  | ['-'] => none
  | '+' :: rest => (readDigits bound 0 rest).toOption.map Int.ofNat
  | '-' :: rest => (readDigits (bound + 1) 0 rest).toOption.map fun n => -(n : Int)
  | text => (readDigits bound 0 text).toOption.map Int.ofNat

def unsignedBound : Nat := 0x10000000000000000

def signedBound : Nat := 0x8000000000000000

end ChannelGate.Number
