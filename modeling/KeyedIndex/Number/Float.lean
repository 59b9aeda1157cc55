import KeyedIndex.Number.Integer

/-!
Floating point numbers as texts: the fewest digits that read back, how they are written, and how a
decimal text is read.
-/
namespace KeyedIndex.Number

/-! ### Shortest decimals

A positive floating point number is `significand * 2 ^ exponent`,
and the reals that round to it form an interval around it. Its shortest decimal is
the one with the fewest digits in that interval, and the nearest of those.
-/

/-- The number `significand * 10 ^ exponent`. -/
structure Decimal where
  significand : Nat
  exponent : Int
deriving DecidableEq, Repr

/-- A positive floating point number `significand * 2 ^ exponent`. Its lower
    neighbour is `narrow` if it is half as far away as the upper one. -/
structure Binary where
  significand : Nat
  exponent : Int
  narrow : Bool
deriving DecidableEq, Repr

/-- A positive ratio of naturals. -/
structure Ratio where
  numerator : Nat
  denominator : Nat

/-- `count * 2 ^ exponent` -/
def Ratio.ofBinary (count : Nat) : Int → Ratio
  | .ofNat up => ⟨count * Nat.pow 2 up, 1⟩
  | .negSucc down => ⟨count, Nat.pow 2 (down + 1)⟩

/-- The ratio divided by `10 ^ exponent`. -/
def Ratio.scale (ratio : Ratio) : Int → Ratio
  | .ofNat up => ⟨ratio.numerator, ratio.denominator * Nat.pow 10 up⟩
  | .negSucc down => ⟨ratio.numerator * Nat.pow 10 (down + 1), ratio.denominator⟩

/-- The exponent of the first decimal digit: `10 ^ e ≤ ratio < 10 ^ (e + 1)`. -/
def Ratio.magnitude (ratio : Ratio) : Int :=
  if ratio.denominator ≤ ratio.numerator then
    Int.ofNat (Nat.toDigits 10 (ratio.numerator / ratio.denominator)).length - 1
  else
    let places := (Nat.toDigits 10 (ratio.denominator / ratio.numerator)).length
    if ratio.denominator ≤ ratio.numerator * Nat.pow 10 (places - 1) then 1 - Int.ofNat places
    else -Int.ofNat places

/-- The end of the interval of reals that round to a number, as a count of quarters of
    its last binary digit. -/
def Binary.low (number : Binary) : Nat :=
  4 * number.significand - (if number.narrow then 1 else 2)

def Binary.high (number : Binary) : Nat := 4 * number.significand + 2

/-- Whether `count * 10 ^ exponent` rounds to the number: it lies between the ends of its
    interval, and at an end only if the significand is even. -/
def Binary.isReadFrom (number : Binary) (count : Nat) (exponent : Int) : Bool :=
  let low := (Ratio.ofBinary number.low (number.exponent - 2)).scale exponent
  let high := (Ratio.ofBinary number.high (number.exponent - 2)).scale exponent
  if number.significand % 2 = 0 then
    low.numerator ≤ count * low.denominator && count * high.denominator ≤ high.numerator
  else
    low.numerator < count * low.denominator && count * high.denominator < high.numerator

/-- The decimal on the grid of multiples of `10 ^ exponent` that is nearest to the number
    among its two neighbours there that round to it. -/
def Binary.onGrid? (number : Binary) (exponent : Int) : Option Decimal :=
  let value := (Ratio.ofBinary number.significand number.exponent).scale exponent
  let below := value.numerator / value.denominator
  let rest := value.numerator % value.denominator
  let belowHits := number.isReadFrom below exponent
  let aboveHits := number.isReadFrom (below + 1) exponent
  if belowHits && (!aboveHits || 2 * rest < value.denominator
      || (2 * rest = value.denominator && below % 2 = 0)) then
    some ⟨below, exponent⟩
  else if aboveHits then some ⟨below + 1, exponent⟩
  else none

/-- The first decimal found when the grid is refined digit by digit. -/
def Binary.refine (number : Binary) : Nat → Int → Decimal
  | 0, exponent =>
    let value := (Ratio.ofBinary number.significand number.exponent).scale exponent
    ⟨value.numerator / value.denominator, exponent⟩
  | more + 1, exponent =>
    match number.onGrid? exponent with
    | some decimal => decimal
    | none => number.refine more (exponent - 1)

/-- Drop the zeros at the end of a significand, at most `fuel` of them. -/
def Decimal.stripZeros : Nat → Decimal → Decimal
  | 0, decimal => decimal
  | fuel + 1, decimal =>
    if decimal.significand % 10 = 0 ∧ decimal.significand ≠ 0 then
      stripZeros fuel ⟨decimal.significand / 10, decimal.exponent + 1⟩
    else decimal

/-- The decimal with the fewest digits that rounds to the number; seventeen digits always
    suffice. -/
def Binary.shortest (number : Binary) : Decimal :=
  let start := (Ratio.ofBinary number.significand number.exponent).magnitude
  Decimal.stripZeros 20 (number.refine 17 start)

/-! ### Written numbers

Floating point numbers as decimal texts, always with the fewest digits that read back.
A plain text is positional whatever the size of the number (`plain`). A compact text
keeps a fraction and turns to an exponent where it would have many zeros (`compact`).
-/

/-- A positive finite number of 64 bits as a binary number. -/
def Binary.ofBits (bits : Nat) : Binary :=
  let fraction : Nat := bits % Nat.pow 2 52
  let scale : Nat := bits / Nat.pow 2 52 % Nat.pow 2 11
  if scale = 0 then ⟨fraction, -1074, false⟩
  else ⟨fraction + Nat.pow 2 52, Int.ofNat scale - 1075, fraction = 0 && scale > 1⟩

/-- The digits of a number and the place of its point: `0.d₁d₂… * 10 ^ point`. -/
def digitsAndPoint (number : Float) : List Char × Int :=
  let bits := number.toBits.toNat % Nat.pow 2 63
  if bits = 0 then (['0'], 1)
  else
    let decimal := (Binary.ofBits bits).shortest
    let digits := Nat.toDigits 10 decimal.significand
    (digits, Int.ofNat digits.length + decimal.exponent)

/-- Digits with the point at a place among or beside them; no point if no fraction is left. -/
def positional (digits : List Char) (point : Int) : List Char :=
  if point ≤ 0 then ['0', '.'] ++ List.replicate (-point).toNat '0' ++ digits
  else if digits.length ≤ point.toNat then
    digits ++ List.replicate (point.toNat - digits.length) '0'
  else digits.take point.toNat ++ '.' :: digits.drop point.toNat

/-- A number with a sign if it is negative, minus zero included. -/
def signed (number : Float) (size : List Char) : String :=
  String.ofList (if number.toBits.toNat / Nat.pow 2 63 = 1 then '-' :: size else size)

/-- The positional text of a number, which has no point if it is whole. -/
def plain (number : Float) : String :=
  if number.isNaN then "NaN"
  else if number.isInf then signed number "inf".toList
  else
    let (digits, point) := digitsAndPoint number
    signed number (positional digits point)

/-- An exponent with its sign. -/
def exponentText (exponent : Int) : List Char :=
  (if exponent < 0 then '-' else '+') :: Nat.toDigits 10 exponent.natAbs

/-- The text of a finite number in messages: positional with a fraction from `0.00001` up to
    sixteen whole digits, else with an exponent. -/
def compact (number : Float) : String :=
  let (digits, point) := digitsAndPoint number
  if -5 < point ∧ point ≤ 16 then
    let text := positional digits point
    signed number (if text.contains '.' then text else text ++ ['.', '0'])
  else
    let fraction := if digits.length ≤ 1 then [] else '.' :: digits.drop 1
    signed number (digits.take 1 ++ fraction ++ 'e' :: exponentText (point - 1))

/-! ### Numbers that are read

Floating point numbers from decimal texts. A text may have a sign, a point before or
behind any of its digits, and an exponent; what lies beyond the greatest number is
infinite. Infinity and what is not a number have names.
-/

/-- The number `significand * 10 ^ exponent`, rounded to the nearest. Exponents that leave
    no doubt about the result are not worked out. -/
def ofDecimal (significand : Nat) (exponent : Int) : Float :=
  let digits := Int.ofNat (Nat.toDigits 10 significand).length
  if significand = 0 ∨ digits + exponent < -400 then 0.0
  else if 400 < digits + exponent then Float.ofScientific 1 false 400
  else Float.ofScientific significand (exponent < 0) exponent.natAbs

/-- An exponent with an optional sign. -/
def readExponent? : List Char → Option Int
  | '+' :: digits => (inBase? 10 digits).map Int.ofNat
  | '-' :: digits => (inBase? 10 digits).map (fun size => -Int.ofNat size)
  | digits => (inBase? 10 digits).map Int.ofNat

/-- The digits with which a text begins, and the rest of it. -/
def spanDigits (chars : List Char) : List Char × List Char :=
  (chars.takeWhile Char.isDigit, chars.dropWhile Char.isDigit)

/-- The digits of a number before and behind its point, and its exponent. -/
def readParts? (chars : List Char) : Option (List Char × List Char × Int) :=
  let (whole, rest) := spanDigits chars
  let (fraction, rest) := match rest with
    | '.' :: more => spanDigits more
    | _ => ([], rest)
  match rest with
  | [] => some (whole, fraction, 0)
  | 'e' :: more | 'E' :: more => (readExponent? more).map (fun exponent => (whole, fraction, exponent))
  | _ => none

/-- A number without a sign. -/
def readSize? (chars : List Char) : Option Float :=
  match (String.ofList chars).toLower with
  | "inf" | "infinity" => some (1.0 / 0.0)
  | "nan" => some (0.0 / 0.0)
  | _ => do
    let (whole, fraction, exponent) ← readParts? chars
    return ofDecimal (← inBase? 10 (whole ++ fraction)) (exponent - Int.ofNat fraction.length)

/-- The floating point number that a text stands for. -/
def readFloat? (text : String) : Option Float :=
  match text.toList with
  | '-' :: size => (readSize? size).map (fun size => -size)
  | '+' :: size => readSize? size
  | size => readSize? size

end KeyedIndex.Number
