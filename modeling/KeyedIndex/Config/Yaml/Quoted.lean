import KeyedIndex.Config.Yaml.Token
import KeyedIndex.Number.Integer

/-!
Quoted texts of YAML. Between single quotes only the quote itself is written otherwise,
twice; between double quotes a backslash begins an escape. A text may go on over lines,
if these are indented enough.
-/
namespace KeyedIndex.Config.Yaml

/-- The character that a letter stands for behind a backslash. -/
def escape? : Char → Option Char
  | '0' => some '\x00'
  | 'a' => some '\x07'
  | 'b' => some '\x08'
  | 't' | '\t' => some '\t'
  | 'n' => some '\n'
  | 'v' => some '\x0b'
  | 'f' => some '\x0c'
  | 'r' => some '\r'
  | 'e' => some '\x1b'
  | ' ' => some ' '
  | '"' => some '"'
  | '/' => some '/'
  | '\\' => some '\\'
  | 'N' => some '\u0085'
  | '_' => some '\u00a0'
  | 'L' => some '\u2028'
  | 'P' => some '\u2029'
  | _ => none

/-- The digits of the code of a character behind a backslash and a letter. -/
def codeDigits? : Char → Option Nat
  | 'x' => some 2
  | 'u' => some 4
  | 'U' => some 8
  | _ => none

/-- What a reader of a quoted text is inside of. -/
inductive QuotePlace where
  | word
  | gap (gap : Gap)
  /-- Behind the first of two single quotes that stand for one. -/
  | twice
  | escape
  /-- At the start of the line behind a line end that does not count. -/
  | joined
  /-- Some digits of the code of a character are still to come. -/
  | code (digits value : Nat)
  | ended
deriving DecidableEq

/-- A quoted text that is being read, its characters last first. -/
structure Quotation where
  single : Bool
  /-- The column at which its lines must begin at least. -/
  column : Nat
  chars : List Char
  place : QuotePlace

def Quotation.push (quotation : Quotation) (char : Char) : Quotation :=
  { quotation with chars := char :: quotation.chars, place := .word }

def Quotation.move (quotation : Quotation) (place : QuotePlace) : Quotation :=
  { quotation with place }

def Quotation.isQuote (quotation : Quotation) (char : Char) : Bool :=
  char = if quotation.single then '\'' else '"'

/-- Take a character of a word. The next character is known. -/
def Quotation.inWord (quotation : Quotation) (char next : Char) : Option Quotation :=
  if char = endChar then none
  else if isGap char then some (quotation.move (.gap ((Gap.blanks []).push char)))
  else if quotation.isQuote char then
    some (quotation.move (if quotation.single && next = char then .twice else .ended))
  else if char = '\\' && !quotation.single then some (quotation.move .escape)
  else some (quotation.push char)

/-- Take a character behind a gap. -/
def Quotation.behindGap (quotation : Quotation) (gap : Gap) (spots : List Spot) :
    Option Quotation :=
  let char := charAt spots 0
  if isBlank char || isBreak char then
    if char = '\t' && gap.isLines && (here spots).column < quotation.column then none
    else some (quotation.move (.gap (gap.push char)))
  else if isDocumentMark '-' spots || isDocumentMark '.' spots
      || (here spots).column < quotation.column then none
  else
    { quotation with chars := gap.chars ++ quotation.chars }.inWord char (charAt spots 1)

/-- Take the character at the front. -/
def Quotation.step (quotation : Quotation) (spots : List Spot) : Option Quotation :=
  let char := charAt spots 0
  match quotation.place with
  | .word => quotation.inWord char (charAt spots 1)
  | .gap gap => quotation.behindGap gap spots
  | .twice => some (quotation.push char)
  | .escape =>
    if isBreak char then some (quotation.move .joined)
    else
      match codeDigits? char with
      | some digits => some (quotation.move (.code digits 0))
      | none => (escape? char).map quotation.push
  | .joined =>
    if quotation.isQuote char then some (quotation.move .ended)
    else quotation.behindGap (.lines false 0) spots
  | .code digits value => do
    let value ← Number.appendDigit? 16 value char
    if 1 < digits then return quotation.move (.code (digits - 1) value)
    else if value.isValidChar then return quotation.push (Char.ofNat value)
    else none
  | .ended => none

/-- Read on to the closing quote; the result is the content and what stands behind the quote. -/
def Quotation.run? (quotation : Quotation) : List Spot → Option (String × List Spot)
  | [] => none
  | spot :: rest => do
    let next ← quotation.step (spot :: rest)
    if next.place = .ended then return (String.ofList next.chars.reverse, rest)
    else next.run? rest

/-- The content of a quoted text behind its opening quote. -/
def quoted? (single : Bool) (column : Nat) (spots : List Spot) : Option (String × List Spot) :=
  Quotation.run? ⟨single, column, [], .word⟩ spots

end KeyedIndex.Config.Yaml
