import KeyedIndex.Config.Value
import KeyedIndex.Number.Integer
import KeyedIndex.Number.Float
import KeyedIndex.Time.Instant

/-!
Values that are one word in TOML: truth values, numbers, and dates and times, which
stand for their texts.
-/
namespace KeyedIndex.Config.Toml

/-! ### Numbers -/

/-- Digits without the lines that may stand between two of them. -/
def ungroup? (isDigit : Char → Bool) : List Char → Option (List Char)
  | [] => some []
  | '_' :: _ => none
  | char :: '_' :: next :: rest =>
    if isDigit char && isDigit next then (ungroup? isDigit (next :: rest)).map (char :: ·) else none
  | char :: rest => (ungroup? isDigit rest).map (char :: ·)

def isHexDigit (char : Char) : Bool := (Number.hexValue? char).isSome

/-- An integer of 64 bits in a base. -/
def basedInteger? (base : Nat) (digits : List Char) : Option Value := do
  let number ← Number.inBase? base (← ungroup? isHexDigit digits)
  if Number.int64.has number then return .integer number else none

/-- Whether decimal digits begin with a zero though there are more of them. -/
def hasLeadingZero : List Char → Bool
  | '0' :: next :: _ => next.isDigit
  | _ => false

/-- Whether a point has digits before and behind it. -/
def hasBarePoint (chars : List Char) : Bool :=
  let (whole, rest) := Number.spanDigits chars
  match rest with
  | '.' :: fraction => whole.isEmpty || (Number.spanDigits fraction).1.isEmpty
  | _ => whole.isEmpty

/-- A decimal number without its sign. Only to one side can it be infinite by its size. -/
def decimal? (negative : Bool) (chars : List Char) : Option Value := do
  let chars ← ungroup? Char.isDigit chars
  if hasLeadingZero chars || hasBarePoint chars then none
  let signed := String.ofList (if negative then '-' :: chars else chars)
  if chars.all Char.isDigit then
    (Number.int64.read? signed).map .integer
  else do
    let number ← Number.readFloat? signed
    if number.isInf && !negative then none else return .float number

/-- A number that has no sign. -/
def unsigned? (chars : List Char) : Option Value :=
  match chars with
  | '0' :: 'x' :: digits => basedInteger? 16 digits
  | '0' :: 'o' :: digits => basedInteger? 8 digits
  | '0' :: 'b' :: digits => basedInteger? 2 digits
  | _ => decimal? false chars

def number? (chars : List Char) : Option Value :=
  match chars with
  | ['i', 'n', 'f'] | ['+', 'i', 'n', 'f'] => some (.float (1.0 / 0.0))
  | ['-', 'i', 'n', 'f'] => some (.float (-1.0 / 0.0))
  | ['n', 'a', 'n'] | ['+', 'n', 'a', 'n'] | ['-', 'n', 'a', 'n'] => some (.float (0.0 / 0.0))
  | '+' :: size => decimal? false size
  | '-' :: size => decimal? true size
  | _ => unsigned? chars

/-! ### Dates and times -/

open Time.Rfc3339 (Reader)

/-- The digits of a fraction of a second up to the ninth, without zeros at the end. -/
def fractionDigits : Reader (List Char) := fun rest =>
  match rest with
  | '.' :: more =>
    let (digits, rest) := Number.spanDigits more
    if digits.isEmpty then none
    else some (((digits.take 9).reverse.dropWhile (· = '0')).reverse, rest)
  | _ => some ([], rest)

def twoDigitText (number : Nat) : String := Number.padded 2 number

/-- A time of day as it is written. -/
def clock : Reader String := do
  let hour ← Time.Rfc3339.twoDigits
  Time.Rfc3339.exactly ':'
  let minute ← Time.Rfc3339.twoDigits
  Time.Rfc3339.exactly ':'
  let second ← Time.Rfc3339.twoDigits
  let fraction ← fractionDigits
  if hour < 24 ∧ minute < 60 ∧ second ≤ 60 then
    let whole := twoDigitText hour ++ ":" ++ twoDigitText minute ++ ":" ++ twoDigitText second
    return if fraction.isEmpty then whole else whole ++ "." ++ String.ofList fraction
  else failure

/-- An offset as it is written; without hours and minutes it is positive. -/
def offset : Reader String := do
  let sign ← Time.Rfc3339.char (fun sign => sign ∈ ['Z', 'z', '+', '-'])
  if sign = 'Z' || sign = 'z' then return "Z"
  let hours ← Time.Rfc3339.twoDigits
  Time.Rfc3339.exactly ':'
  let minutes ← Time.Rfc3339.twoDigits
  if hours < 24 ∧ minutes < 60 then
    let sign := if sign = '-' && (hours, minutes) ≠ (0, 0) then "-" else "+"
    return sign ++ twoDigitText hours ++ ":" ++ twoDigitText minutes
  else failure

/-- What may follow a date: a time of day and an offset. -/
def afterDate : Reader String := fun rest =>
  match rest with
  | [] => some ("", [])
  | rest => (do
    let _ ← Time.Rfc3339.char (fun separator => separator ∈ ['T', 't', ' '])
    let time ← clock
    let offset ← (fun rest => match rest with
      | [] => some ("", [])
      | rest => offset rest : Reader String)
    return "T" ++ time ++ offset : Reader String) rest

def dateAndTime : Reader String := do
  let date ← Time.Rfc3339.date
  if !date.valid then failure
  let day := Number.padded 4 date.year ++ "-" ++ twoDigitText date.month ++ "-"
    ++ twoDigitText date.day
  return day ++ (← afterDate)

/-- A date, a time of day, or both, as one text. -/
def moment? (chars : List Char) : Option Value :=
  match clock chars, dateAndTime chars with
  | some (text, []), _ | _, some (text, []) => some (.text text)
  | _, _ => none

/-- The value of a word. -/
def scalar? (chars : List Char) : Option Value :=
  match String.ofList chars with
  | "true" => some (.bool true)
  | "false" => some (.bool false)
  | _ => (number? chars).orElse (fun _ => moment? chars)

end KeyedIndex.Config.Toml
