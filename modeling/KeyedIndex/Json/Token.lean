import KeyedIndex.Json.Numeral
import KeyedIndex.Number.Integer
import KeyedIndex.Text.Basic

/-!
Tokens of JSON texts. A text is cut into brackets, commas, colons and scalars up to
its end or to the place where no token can be found. Some scalars can only be
passed over, because they are well delimited but stand for no value; and some
faults look different to one who reads and to one who passes over.
-/
namespace KeyedIndex.Json

/-- What is wrong with a text that is not JSON: it ends too early, or something stands
    in it where it cannot stand. -/
inductive Fault where
  | truncated
  | malformed
deriving DecidableEq, Repr

/-- A value without parts. A text is `plain` if it has no escapes. -/
inductive Scalar where
  | null
  | bool (value : Bool)
  | number (value : Numeral)
  | text (content : String) (plain : Bool)
  /-- Well delimited, but no value. -/
  | unreadable
  /-- A word or number that goes wrong, beyond which the text cannot be followed. -/
  | spoiled (reading passing : Fault)
  /-- The text cannot be followed beyond this place. -/
  | cut (reading passing : Fault)

inductive Token where
  | openArray
  | closeArray
  | openObject
  | closeObject
  | comma
  | colon
  | scalar (value : Scalar)
  /-- A quoted text that does not come to its end. -/
  | brokenText (reading passing : Fault)

/-! ### Quoted texts -/

/-- The code unit that four characters in base sixteen stand for. -/
def codeUnit? (first second third fourth : Char) : Option Nat :=
  Number.inBase? 16 [first, second, third, fourth]

/-- The first half of a pair of code units. -/
def isLeading (unit : Nat) : Bool := 0xD800 ≤ unit && unit ≤ 0xDBFF

/-- The second half of a pair of code units. -/
def isTrailing (unit : Nat) : Bool := 0xDC00 ≤ unit && unit ≤ 0xDFFF

/-- The character of a pair of code units. -/
def pairChar (leading trailing : Nat) : Char :=
  Char.ofNat (0x10000 + (leading - 0xD800) * 0x400 + (trailing - 0xDC00))

/-- The fault of an escape whose four digits are not all there. -/
def shortEscapeFault (rest : List Char) : Fault :=
  if (Text.byteLength (String.ofList (rest.take 4))) < 4 then .truncated else .malformed

/-- What a reader finds after the first half of a pair, if the second half does not follow. -/
def loneFault : List Char → Fault
  | [] | ['\\'] => .truncated
  | '\\' :: 'u' :: rest => shortEscapeFault rest
  | _ => .malformed

/-- The character of a pair whose second half follows as an escape. -/
def secondHalf? (leading : Nat) : List Char → Option Char
  | '\\' :: 'u' :: first :: second :: third :: fourth :: _ =>
    ((codeUnit? first second third fourth).filter isTrailing).map (pairChar leading)
  | _ => none

/-- What has been taken of a quoted text: its characters, last first, whether it has no
    escapes, and the first fault that a reader has found. -/
structure TextSoFar where
  chars : List Char
  plain : Bool
  fault : Option Fault

def TextSoFar.push (soFar : TextSoFar) (char : Char) : TextSoFar :=
  { soFar with chars := char :: soFar.chars }

/-- Take a character that was written as an escape. -/
def TextSoFar.escaped (soFar : TextSoFar) (char : Char) : TextSoFar :=
  { soFar with chars := char :: soFar.chars, plain := false }

/-- Go on after a code unit that stands for no character. -/
def TextSoFar.blemish (soFar : TextSoFar) (fault : Fault) : TextSoFar :=
  { soFar with fault := soFar.fault.or (some fault) }

/-- The text does not come to its end. -/
def TextSoFar.broken (soFar : TextSoFar) (fault : Fault) : Token × List Char :=
  (.brokenText (soFar.fault.getD fault) fault, [])

/-- The text has come to its end. -/
def TextSoFar.close (soFar : TextSoFar) : Token :=
  .scalar (if soFar.fault.isSome then .unreadable
    else .text (String.ofList soFar.chars.reverse) soFar.plain)

/-- The character that a letter stands for after a backslash. -/
def escape? (char : Char) : Option Char :=
  match char with
  | '"' => some '"'
  | '\\' => some '\\'
  | '/' => some '/'
  | 'b' => some '\x08'
  | 'f' => some '\x0c'
  | 'n' => some '\n'
  | 'r' => some '\r'
  | 't' => some '\t'
  | _ => none

/-- The rest of a quoted text whose opening quote has been taken, and what follows it. -/
def scanText (soFar : TextSoFar) : List Char → Token × List Char
  | [] => soFar.broken .truncated
  | '"' :: rest => (soFar.close, rest)
  | ['\\'] => soFar.broken .truncated
  | '\\' :: 'u' :: first :: second :: third :: fourth :: rest =>
    match codeUnit? first second third fourth with
    | none => soFar.broken (shortEscapeFault [first, second, third, fourth])
    | some unit =>
      if isTrailing unit then scanText (soFar.blemish .malformed) rest
      else if isLeading unit then
        match secondHalf? unit rest with
        | some char => scanText (soFar.escaped char) (rest.drop 6)
        | none => scanText (soFar.blemish (loneFault rest)) rest
      else scanText (soFar.escaped (Char.ofNat unit)) rest
  | '\\' :: 'u' :: rest => soFar.broken (shortEscapeFault rest)
  | '\\' :: char :: rest =>
    match escape? char with
    | some meant => scanText (soFar.escaped meant) rest
    | none => soFar.broken .malformed
  | char :: rest =>
    if char.toNat < 0x20 then soFar.broken .malformed else scanText (soFar.push char) rest
termination_by chars => chars.length
decreasing_by all_goals simp <;> omega

theorem scanText_rest_length (soFar : TextSoFar) (chars : List Char) :
    (scanText soFar chars).2.length ≤ chars.length := by
  fun_induction scanText soFar chars <;> simp_all [TextSoFar.broken] <;> omega

/-! ### Numbers and words -/

/-- Nothing more can be made of the text. -/
def stop (reading passing : Fault) : Token × List Char := (.scalar (.spoiled reading passing), [])

/-- A digit is missing before the rest of the text. -/
def noDigit (rest : List Char) : Token × List Char :=
  stop (if rest.isEmpty then .truncated else .malformed) .malformed

def numberToken (parts : NumeralParts) : Token :=
  .scalar (match numeral? parts with
    | some value => .number value
    | none => .unreadable)

/-- The digits of an exponent, after its sign. -/
def scanExponentDigits (parts : NumeralParts) (negative : Bool) (rest : List Char) :
    Token × List Char :=
  let digits := rest.takeWhile Char.isDigit
  let after := rest.dropWhile Char.isDigit
  if digits.isEmpty then noDigit after
  else (numberToken { parts with exponent := some (negative, digits) }, after)

/-- What may follow the digits of a number: an exponent. -/
def scanExponent (parts : NumeralParts) : List Char → Token × List Char
  | 'e' :: '-' :: rest | 'E' :: '-' :: rest => scanExponentDigits parts true rest
  | 'e' :: '+' :: rest | 'E' :: '+' :: rest => scanExponentDigits parts false rest
  | 'e' :: rest | 'E' :: rest => scanExponentDigits parts false rest
  | rest => (numberToken parts, rest)

/-- What may follow the whole digits of a number: a fraction and an exponent. -/
def scanFraction (parts : NumeralParts) : List Char → Token × List Char
  | '.' :: rest =>
    let digits := rest.takeWhile Char.isDigit
    let after := rest.dropWhile Char.isDigit
    if digits.isEmpty then noDigit after
    else scanExponent { parts with fraction := digits } after
  | rest => scanExponent parts rest

/-- A number after its sign, or after its first digit `lead`. A zero stands alone. -/
def scanNumber (negative : Bool) (lead rest : List Char) : Token × List Char :=
  let whole := lead ++ rest.takeWhile Char.isDigit
  let after := rest.dropWhile Char.isDigit
  match whole with
  | [] => noDigit after
  | '0' :: _ :: _ => stop .malformed .malformed
  | _ => scanFraction ⟨negative, whole, [], none⟩ after

/-- The rest of a word. -/
def scanWord (value : Scalar) : List Char → List Char → Token × List Char
  | [], rest => (.scalar value, rest)
  | _ :: _, [] => stop .truncated .truncated
  | expected :: word, char :: rest =>
    if char = expected then scanWord value word rest else stop .malformed .malformed

/-! ### Texts as lists of tokens -/

/-- The token that begins with a character, and what follows it. -/
def scan (char : Char) (rest : List Char) : Token × List Char :=
  match char with
  | '[' => (.openArray, rest)
  | ']' => (.closeArray, rest)
  | '\x7b' => (.openObject, rest)
  | '\x7d' => (.closeObject, rest)
  | ',' => (.comma, rest)
  | ':' => (.colon, rest)
  | '"' => scanText ⟨[], true, none⟩ rest
  | 'n' => scanWord .null ['u', 'l', 'l'] rest
  | 't' => scanWord (.bool true) ['r', 'u', 'e'] rest
  | 'f' => scanWord (.bool false) ['a', 'l', 's', 'e'] rest
  | '-' => scanNumber true [] rest
  | _ => if char.isDigit then scanNumber false [char] rest else stop .malformed .malformed

theorem length_dropWhile_le {α : Type} (test : α → Bool) (items : List α) :
    (items.dropWhile test).length ≤ items.length :=
  (List.dropWhile_suffix test).length_le

theorem scanExponent_rest_length (parts : NumeralParts) (chars : List Char) :
    (scanExponent parts chars).2.length ≤ chars.length := by
  have dropped := fun rest : List Char => length_dropWhile_le Char.isDigit rest
  fun_cases scanExponent parts chars <;>
    simp only [scanExponentDigits, noDigit, stop] <;> (try split) <;>
    simp <;> grind

theorem scanFraction_rest_length (parts : NumeralParts) (chars : List Char) :
    (scanFraction parts chars).2.length ≤ chars.length := by
  have dropped := fun rest : List Char => length_dropWhile_le Char.isDigit rest
  have after := scanExponent_rest_length
  fun_cases scanFraction parts chars <;> simp [noDigit, stop] <;> grind

theorem scanNumber_rest_length (negative : Bool) (lead rest : List Char) :
    (scanNumber negative lead rest).2.length ≤ rest.length := by
  have dropped := length_dropWhile_le Char.isDigit rest
  unfold scanNumber
  dsimp only
  split
  · simp [noDigit, stop]
  · simp [stop]
  · exact Nat.le_trans (scanFraction_rest_length _ _) dropped

theorem scanWord_rest_length (value : Scalar) (word rest : List Char) :
    (scanWord value word rest).2.length ≤ rest.length := by
  fun_induction scanWord value word rest <;> simp_all [stop]
  omega

theorem scan_rest_length (char : Char) (rest : List Char) :
    (scan char rest).2.length ≤ rest.length := by
  fun_cases scan char rest <;>
    simp_all [scanText_rest_length, scanWord_rest_length, scanNumber_rest_length, stop]

/-- The blanks of JSON. -/
def isSpace (char : Char) : Bool := char = ' ' || char = '\n' || char = '\t' || char = '\r'

/-- The tokens of a text, up to its end or to the first that is cut. -/
def tokens : List Char → List Token
  | [] => []
  | char :: rest =>
    if isSpace char then tokens rest
    else
      let found := scan char rest
      found.1 :: tokens found.2
termination_by chars => chars.length
decreasing_by
  · simp
  · exact Nat.lt_succ_of_le (scan_rest_length char rest)

end KeyedIndex.Json
