/-!
Instants, the calendar, and instants that are written as date, time of day and offset.

In the source, `parse_timestamp` is `Rfc3339.millis?` behind an integer.
-/
namespace KeyedIndex.Time

/-! ### Instants

Instants in milliseconds since the start of 1970. Only those are legal whose year has
at most six digits and lies within the bounds of the calendar.
-/

/-- The first legal instant. -/
def earliest : Int := -8334601228800000

/-- The last legal instant. -/
def latest : Int := 8210266876799999

/-- A legal instant. -/
structure Instant where
  millis : Int
  legal : earliest ≤ millis ∧ millis ≤ latest := by decide
deriving DecidableEq

def Instant.ofMillis? (millis : Int) : Option Instant :=
  if legal : earliest ≤ millis ∧ millis ≤ latest then some ⟨millis, legal⟩ else none

/-- The start of 1970. -/
def Instant.epoch : Instant := { millis := 0 }

/-! ### Calendar

The Gregorian calendar, extended to all years from zero on: the lengths of months and
the number of a day counted from the start of 1970.
-/

def isLeapYear (year : Nat) : Bool := year % 4 = 0 && (year % 100 ≠ 0 || year % 400 = 0)

/-- The lengths of the months of a year. -/
def monthLengths (year : Nat) : List Nat :=
  [31, if isLeapYear year then 29 else 28, 31, 30, 31, 30, 31, 31, 30, 31, 30, 31]

/-- The days before a year, counted from the start of year zero, which is a leap year. -/
def daysBeforeYear (year : Nat) : Nat :=
  365 * year + (year + 3) / 4 - (year + 99) / 100 + (year + 399) / 400

structure Date where
  year : Nat
  month : Nat
  day : Nat
deriving DecidableEq, Repr

/-- Whether the calendar has the date. -/
def Date.valid (date : Date) : Bool :=
  1 ≤ date.month && 1 ≤ date.day
    && (monthLengths date.year)[date.month - 1]?.any (fun length => date.day ≤ length)

/-- The number of a day, which is zero for the first day of 1970. -/
def Date.number (date : Date) : Int :=
  let past := ((monthLengths date.year).take (date.month - 1)).foldl (· + ·) 0
  Int.ofNat (daysBeforeYear date.year + past + date.day) - Int.ofNat (daysBeforeYear 1970 + 1)

end KeyedIndex.Time

namespace KeyedIndex.Time.Rfc3339

/-! ### Written instants

Instants written as date, time of day and offset, as in `2024-01-15T10:00:00.5+01:00`.
Every part has its exact number of digits, but for the fraction, of which the
milliseconds count. A small `t` or a space may stand between date and time, a small
`z` for no offset, and a mathematical minus sign for a hyphen. The second after the
last of a minute is a leap second.
-/

/-- What a reader has made of the start of a text, and the rest. -/
abbrev Reader (α : Type) := StateT (List Char) Option α

/-- A character that satisfies a test. -/
def char (test : Char → Bool) : Reader Char := fun rest =>
  match rest with
  | first :: more => if test first then some (first, more) else none
  | [] => none

def exactly (expected : Char) : Reader Unit := do let _ ← char (· = expected)

def digit : Reader Nat := do return (← char Char.isDigit).toNat - '0'.toNat

def twoDigits : Reader Nat := do
  let tens ← digit
  return 10 * tens + (← digit)

def date : Reader Date := do
  let century ← twoDigits
  let year := 100 * century + (← twoDigits)
  exactly '-'
  let month ← twoDigits
  exactly '-'
  return ⟨year, month, ← twoDigits⟩

/-- The milliseconds of a fraction of a second. -/
def fractionMillis (digits : List Char) : Nat :=
  (digits ++ ['0', '0', '0']).take 3 |>.foldl (fun size char => 10 * size + (char.toNat - '0'.toNat)) 0

/-- The milliseconds of a fraction, zero if there is none. -/
def fraction : Reader Nat := fun rest =>
  match rest with
  | '.' :: more =>
    let digits := more.takeWhile Char.isDigit
    if digits.isEmpty then none else some (fractionMillis digits, more.dropWhile Char.isDigit)
  | _ => some (0, rest)

/-- The milliseconds since the start of the day. -/
def timeOfDay : Reader Nat := do
  let hour ← twoDigits
  exactly ':'
  let minute ← twoDigits
  exactly ':'
  let second ← twoDigits
  let millis ← fraction
  if hour < 24 ∧ minute < 60 ∧ second ≤ 60 then
    return ((60 * hour + minute) * 60 + second) * 1000 + millis
  else failure

/-- The minutes that a clock is ahead of universal time. -/
def offset : Reader Int := do
  let sign ← char (fun sign => sign ∈ ['Z', 'z', '+', '-', '−'])
  if sign = 'Z' || sign = 'z' then return 0
  let hours ← twoDigits
  exactly ':'
  let minutes ← twoDigits
  if hours < 24 ∧ minutes < 60 then
    let ahead : Int := 60 * hours + minutes
    return if sign = '+' then ahead else -ahead
  else failure

def instant : Reader Int := do
  let day ← date
  let _ ← char (fun separator => separator ∈ ['T', 't', ' '])
  let millis ← timeOfDay
  let ahead ← offset
  if day.valid then return day.number * 86400000 + millis - ahead * 60000 else failure

/-- The milliseconds since the start of 1970 of a whole text. -/
def millis? (text : String) : Option Int :=
  match instant text.toList with
  | some (millis, []) => some millis
  | _ => none

end KeyedIndex.Time.Rfc3339
