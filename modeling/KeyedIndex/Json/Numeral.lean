import KeyedIndex.Number.Float

/-!
Numbers of JSON texts. A number without fraction and exponent is an integer if 64
bits hold it; any other is a floating point number. Its digits are gathered in one
word of 64 bits, later ones only shift the point, and the result is scaled by one
power of ten, so it may miss the nearest floating point number by a digit.
-/
namespace KeyedIndex.Json

/-- A number that a JSON text stands for. -/
inductive Numeral where
  | integer (number : Int)
  | float (number : Float)

/-- The parts of a number as written: sign, whole digits, digits after the point and the
    exponent with its sign. -/
structure NumeralParts where
  negative : Bool
  whole : List Char
  fraction : List Char
  exponent : Option (Bool × List Char)

/-- The digits gathered so far, times ten to the power `exponent`. -/
structure Gathered where
  significand : Nat
  exponent : Int
  full : Bool

def digitValue (char : Char) : Nat := char.toNat - '0'.toNat

/-- The greatest word of 64 bits. -/
def greatestWord : Nat := Nat.pow 2 64 - 1

/-- Take one more whole digit; once the word is full, digits only move the point. -/
def Gathered.whole (gathered : Gathered) (char : Char) : Gathered :=
  let next := 10 * gathered.significand + digitValue char
  if gathered.full || next > greatestWord then
    ⟨gathered.significand, gathered.exponent + 1, true⟩
  else ⟨next, gathered.exponent, false⟩

/-- Take one more digit after the point; the first one that does not fit and all after it
    are ignored. -/
def Gathered.fraction (gathered : Gathered) (char : Char) : Gathered :=
  let next := 10 * gathered.significand + digitValue char
  if gathered.full || next > greatestWord then { gathered with full := true }
  else ⟨next, gathered.exponent - 1, false⟩

def gather (parts : NumeralParts) : Gathered :=
  let whole := parts.whole.foldl Gathered.whole ⟨0, 0, false⟩
  parts.fraction.foldl Gathered.fraction { whole with full := false }

/-- `number * 10 ^ exponent` in one rounding step, or none beyond the greatest number. The
    fuel counts the steps that bring a very small exponent into range. -/
def scaleBy : Nat → Float → Int → Option Float
  | 0, number, _ => some number
  | fuel + 1, number, exponent =>
    if exponent.natAbs ≤ 308 then
      let power := Float.ofScientific 1 false exponent.natAbs
      if 0 ≤ exponent then
        let scaled := number * power
        if scaled.isInf then none else some scaled
      else some (number / power)
    else if number == 0.0 then some number
    else if 0 ≤ exponent then none
    else scaleBy fuel (number / Float.ofScientific 1 false 308) (exponent + 308)

/-- The greatest exponent that one word of 32 bits holds. -/
def greatestExponent : Nat := Nat.pow 2 31 - 1

/-- An exponent as written, stopping one above the greatest. -/
def exponentSize (digits : List Char) : Nat :=
  digits.foldl (fun size char => min (10 * size + digitValue char) (greatestExponent + 1)) 0

/-- The number without its sign, if it is in range. An exponent beyond one word makes it
    too great or nothing. -/
def floatSize? (gathered : Gathered) : Option (Bool × List Char) → Option Float
  | none => scaleBy 8 (UInt64.ofNat gathered.significand).toFloat gathered.exponent
  | some (downward, digits) =>
    let size := exponentSize digits
    if size ≤ greatestExponent then
      let exponent := gathered.exponent + (if downward then -Int.ofNat size else Int.ofNat size)
      scaleBy 8 (UInt64.ofNat gathered.significand).toFloat exponent
    else if gathered.significand ≠ 0 && !downward then none
    else some 0.0

/-- The floating point number that the parts stand for, if it is in range. -/
def float? (parts : NumeralParts) : Option Float :=
  (floatSize? (gather parts) parts.exponent).map
    (fun size => if parts.negative then -size else size)

/-- The number that the parts stand for. Minus zero is a floating point number. -/
def numeral? (parts : NumeralParts) : Option Numeral :=
  let size := parts.whole.foldl (fun size char => 10 * size + digitValue char) 0
  if parts.fraction.isEmpty && parts.exponent.isNone && size ≤ greatestWord then
    if parts.negative then
      if 0 < size && size ≤ Nat.pow 2 63 then some (.integer (-Int.ofNat size))
      else some (.float (-(UInt64.ofNat size).toFloat))
    else some (.integer (Int.ofNat size))
  else (float? parts).map .float

end KeyedIndex.Json
