import ChannelGate.Number.Binary64

set_option autoImplicit false

namespace ChannelGate.Number

structure Layout where
  /-- Positions of the point at which positional notation is used; elsewhere an exponent is. -/
  positional : Int → Bool
  /-- A whole number ends in `.0`. -/
  pointZero : Bool
  /-- Of two equally near decimals, take the upper one; otherwise the even one. -/
  tiesUp : Bool

/-- Positional notation always, and no point in whole numbers. -/
def Layout.plain : Layout := ⟨fun _ => true, false, true⟩

/-- Positional notation while the point stands no more than four zeros before the digits and no more
than sixteen places after their start, and always a point there. -/
def Layout.compact : Layout := ⟨fun point => -5 < point && point ≤ 16, true, false⟩

/-- Positional notation from a ten-thousandth up to but not including ten to the sixteenth, and
always a point there. -/
def Layout.exact : Layout := ⟨fun point => -4 < point && point ≤ 16, true, true⟩

namespace Shortest

/-- The reals that round to `significand * 2 ^ exponent`, in quarters of a unit: the lower end, the
value and the upper end. -/
def neighbourhood (significand : Nat) (exponent : Int) : Nat × Nat × Nat :=
  let lower := if significand = 0x10000000000000 ∧ -1074 < exponent then 1 else 2
  (4 * significand - lower, 4 * significand, 4 * significand + 2)

/-- The grid of decimals with step `10 ^ -place`, for a value in quarters of `2 ^ exponent`: factors
`(up, down)` such that `quarters * up / down` counts steps. -/
def gridFactors (exponent : Int) (place : Int) : Nat × Nat :=
  let quarter := exponent - 2
  ((if 0 ≤ quarter then Nat.pow 2 quarter.toNat else 1) *
      (if 0 ≤ place then Nat.pow 10 place.toNat else 1),
    (if 0 ≤ quarter then 1 else Nat.pow 2 (-quarter).toNat) *
      (if 0 ≤ place then 1 else Nat.pow 10 (-place).toNat))

/-- The point of the grid nearest to the value among its two neighbours that read back. -/
def onGrid? (tiesUp : Bool) (significand : Nat) (exponent place : Int) : Option Nat :=
  let (low, value, high) := neighbourhood significand exponent
  let (up, down) := gridFactors exponent place
  let below := value * up / down
  let inside (n : Nat) : Bool :=
    if significand % 2 = 0 then low * up ≤ n * down && n * down ≤ high * up
    else low * up < n * down && n * down < high * up
  let offset := value * up - below * down
  let nearBelow :=
    2 * offset < down || (2 * offset == down && (!tiesUp && below % 2 == 0))
  let exact := offset == 0
  match exact || inside below, inside (below + 1) with
  | true, true => some (if nearBelow then below else below + 1)
  | true, false => some below
  | false, true => some (below + 1)
  | false, false => none

/-- The number of places before the point: the least `p` with the value below `10 ^ p`. -/
def pointOf (significand : Nat) (exponent : Int) : Int :=
  let bits : Int := Nat.log2 significand + exponent
  let guess : Int := bits * 30103 / 100000
  let reached (p : Int) : Bool :=
    let (up, down) := gridFactors exponent (-p)
    down ≤ 4 * significand * up
  if reached (guess + 1) then guess + 2 else if reached guess then guess + 1 else guess

/-- Tries grids with one digit more each time. -/
def search (tiesUp : Bool) (significand : Nat) (exponent point : Int) : Nat → Nat → Nat × Int
  | 0, digits => (0, point - digits)
  | tries + 1, digits =>
    match onGrid? tiesUp significand exponent (digits - point) with
    | some n => (n, point - digits)
    | none => search tiesUp significand exponent point tries (digits + 1)

/-- The digits and the position of the point of a positive number: it is written
`0.digits * 10 ^ point`. Seventeen digits always suffice. -/
def digitsOf (tiesUp : Bool) (significand : Nat) (exponent : Int) : List Char × Int :=
  let point := pointOf significand exponent
  let (n, unit) := search tiesUp significand exponent point 17 1
  let digits := Nat.toDigits 10 n
  (((digits.reverse.dropWhile (· = '0')).reverse), unit + digits.length)

end Shortest

namespace Layout

/-- Digits with a point after the first `point` of them, filled with zeros where needed. -/
def positionalText (layout : Layout) (digits : List Char) (point : Int) : List Char :=
  if point ≤ 0 then '0' :: '.' :: List.replicate (-point).toNat '0' ++ digits
  else if digits.length ≤ point.toNat then
    digits ++ List.replicate (point.toNat - digits.length) '0' ++
      (if layout.pointZero then ['.', '0'] else [])
  else digits.take point.toNat ++ '.' :: digits.drop point.toNat

def exponentText (digits : List Char) (point : Int) : List Char :=
  let tail := digits.drop 1
  let fraction := if tail.isEmpty then [] else '.' :: tail
  digits.take 1 ++ fraction ++ 'e' :: (toString (point - 1)).toList

def text (layout : Layout) : Binary64 → String
  | .nan => "NaN"
  | .infinite negative => if negative then "-inf" else "inf"
  | .finite negative significand exponent =>
    let body :=
      if significand = 0 then
        if layout.pointZero then ['0', '.', '0'] else ['0']
      else
        let (digits, point) := Shortest.digitsOf layout.tiesUp significand exponent
        if layout.positional point then layout.positionalText digits point
        else exponentText digits point
    String.ofList (if negative then '-' :: body else body)

end Layout

end ChannelGate.Number
