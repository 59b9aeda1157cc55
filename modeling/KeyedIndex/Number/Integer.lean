/-!
Integers as texts: digits in bases up to sixteen, and decimal texts of the integers of a range.
-/
namespace KeyedIndex.Number

/-! ### Bases

Naturals as digits in bases up to sixteen.
-/

/-- The value of a digit in base sixteen. -/
def hexValue? (char : Char) : Option Nat :=
  if '0' ≤ char ∧ char ≤ '9' then some (char.toNat - '0'.toNat)
  else if 'a' ≤ char ∧ char ≤ 'f' then some (char.toNat - 'a'.toNat + 10)
  else if 'A' ≤ char ∧ char ≤ 'F' then some (char.toNat - 'A'.toNat + 10)
  else none

/-- A natural with one more digit behind it. -/
def appendDigit? (base number : Nat) (char : Char) : Option Nat :=
  ((hexValue? char).filter (· < base)).map (fun digit => base * number + digit)

/-- The natural that digits stand for; there is at least one. -/
def inBase? (base : Nat) : List Char → Option Nat
  | [] => none
  | digits => digits.foldlM (appendDigit? base) 0

/-! ### Decimal texts

Integers as decimal texts. A reader accepts the integers of a range; it goes
through the text from left to right and names the first thing that is wrong. An
integer is written without a plus sign and without leading zeros.
-/

/-- What keeps a text from being read as an integer of a range. -/
inductive IntegerFault where
  | empty
  | notADigit
  | tooLarge
  | tooSmall
deriving DecidableEq, Repr

def IntegerFault.message : IntegerFault → String
  | .empty => "cannot parse integer from empty string"
  | .notADigit => "invalid digit found in string"
  | .tooLarge => "number too large to fit in target type"
  | .tooSmall => "number too small to fit in target type"

/-- The integers that a reader accepts. -/
structure Interval where
  least : Int
  greatest : Int
deriving DecidableEq, Repr

/-- The integers of 32 bits. -/
def int32 : Interval := ⟨-2147483648, 2147483647⟩

/-- The integers of 64 bits. -/
def int64 : Interval := ⟨-9223372036854775808, 9223372036854775807⟩

/-- The naturals of 32 bits. -/
def nat32 : Interval := ⟨0, 4294967295⟩

/-- The naturals of 64 bits. -/
def nat64 : Interval := ⟨0, 18446744073709551615⟩

/-- Whether an integer lies in the interval. -/
def Interval.has (interval : Interval) (number : Int) : Bool :=
  interval.least ≤ number && number ≤ interval.greatest

/-- Read the digits that follow those read already. A number beyond the bound is the
    fault `beyond`. -/
def readDigits (bound : Nat) (beyond : IntegerFault) : Nat → List Char → Except IntegerFault Nat
  | number, [] => .ok number
  | number, char :: rest =>
    if char.isDigit then
      let next := 10 * number + (char.toNat - '0'.toNat)
      if next ≤ bound then readDigits bound beyond next rest else .error beyond
    else .error .notADigit

/-- Read a number without a sign. -/
def readUnsigned (interval : Interval) (digits : List Char) : Except IntegerFault Int :=
  (readDigits interval.greatest.toNat .tooLarge 0 digits).map Int.ofNat

/-- Read an integer of the interval. One sign may come first; a minus sign is a sign
    only where there are negative integers. -/
def Interval.read (interval : Interval) (text : String) : Except IntegerFault Int :=
  match text.toList with
  | [] => .error .empty
  | ['+'] | ['-'] => .error .notADigit
  | '+' :: digits => readUnsigned interval digits
  | '-' :: digits =>
    if interval.least < 0 then
      (readDigits interval.least.natAbs .tooSmall 0 digits).map (fun size => -Int.ofNat size)
    else .error .notADigit
  | digits => readUnsigned interval digits

/-- The integer of the interval that a text stands for. -/
def Interval.read? (interval : Interval) (text : String) : Option Int :=
  (interval.read text).toOption

/-- The decimal text of an integer. -/
def decimal (number : Int) : String := number.repr

/-- The decimal digits of a natural, with leading zeros up to a width. -/
def padded (width number : Nat) : String :=
  let digits := Nat.toDigits 10 number
  String.ofList (List.replicate (width - digits.length) '0' ++ digits)

end KeyedIndex.Number
