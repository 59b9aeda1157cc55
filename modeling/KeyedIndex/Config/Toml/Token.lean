import KeyedIndex.Number.Integer

/-!
Tokens of TOML texts. The text is read character by character by a machine that knows
what it is inside of; a line ends with a line feed, before which a carriage return may
stand.
-/
namespace KeyedIndex.Config.Toml

inductive Token where
  | openBracket
  | closeBracket
  | openBrace
  | closeBrace
  | comma
  | equals
  | lineEnd
  | blank
  /-- Characters that are not quoted and stand together: names, numbers and dates. -/
  | word (chars : List Char)
  /-- A text, and whether it may have several lines. -/
  | quoted (content : String) (many : Bool)

/-- A text that is being read: its quote, whether it may have several lines, and its
    characters, last first. -/
structure Quotation where
  quote : Char
  many : Bool
  chars : List Char

/-- What the machine is inside of. -/
inductive Mode where
  | between
  | comment
  /-- The characters are last first. -/
  | word (chars : List Char)
  /-- A date and a blank, behind which a time of day may come. -/
  | afterDate (chars : List Char)
  /-- One or two quotes at the start of a text. -/
  | opening (quote : Char) (twice : Bool)
  /-- Three quotes have come, behind which a line end does not count. -/
  | opened (quote : Char)
  /-- Inside a text, behind some quotes that may end it. -/
  | text (quotation : Quotation) (quotes : Nat)
  | escape (quotation : Quotation)
  /-- Some digits of the code of a character are still to come. -/
  | code (quotation : Quotation) (digits : Nat) (value : Nat)
  /-- Blanks behind a backslash that are left out, and whether a line end was among them. -/
  | gap (quotation : Quotation) (ended : Bool)
  | broken

def isBlank (char : Char) : Bool := char = ' ' || char = '\t'

/-- The characters that nothing but a line end may be made of. -/
def isControl (char : Char) : Bool := (char.toNat < 0x20 && char ≠ '\t') || char.toNat = 0x7F

/-- The token that a sign is by itself. -/
def sign? : Char → Option Token
  | '[' => some .openBracket
  | ']' => some .closeBracket
  | '\x7b' => some .openBrace
  | '\x7d' => some .closeBrace
  | ',' => some .comma
  | '=' => some .equals
  | '\n' => some .lineEnd
  | ' ' | '\t' => some .blank
  | _ => none

/-- Whether characters, last first, look like a date. -/
def isDateShape : List Char → Bool
  | [d, c, '-', b, a, '-', y, x, w, v] => [a, b, c, d, v, w, x, y].all Char.isDigit
  | _ => false

/-- The machine behind some tokens that have come, last first. -/
structure Machine where
  found : List Token
  mode : Mode

def Machine.emit (found : List Token) (token : Token) : Machine := ⟨token :: found, .between⟩

/-- Take a character that is not inside of anything. -/
def begin (found : List Token) (char : Char) : Machine :=
  match sign? char with
  | some token => .emit found token
  | none =>
    if char = '#' then ⟨found, .comment⟩
    else if char = '"' || char = '\'' then ⟨found, .opening char false⟩
    else if isControl char then ⟨found, .broken⟩
    else ⟨found, .word [char]⟩

/-- Whether a character ends a word. -/
def endsWord (char : Char) : Bool :=
  (sign? char).isSome || char = '#' || char = '"' || char = '\'' || isControl char

def wordToken (chars : List Char) : Token := .word chars.reverse

/-- The text whose end has been found. -/
def Quotation.token (quotation : Quotation) : Token :=
  .quoted (String.ofList quotation.chars.reverse) quotation.many

def Quotation.push (quotation : Quotation) (char : Char) : Quotation :=
  { quotation with chars := char :: quotation.chars }

/-- Take quotes that did not end the text. -/
def Quotation.pushQuotes (quotation : Quotation) (count : Nat) : Quotation :=
  { quotation with chars := List.replicate count quotation.quote ++ quotation.chars }

/-- Take a character inside a text that is neither its quote nor behind one. -/
def inText (found : List Token) (quotation : Quotation) (char : Char) : Machine :=
  if char = '\\' && quotation.quote = '"' then ⟨found, .escape quotation⟩
  else if char = '\n' && quotation.many then ⟨found, .text (quotation.push char) 0⟩
  else if isControl char then ⟨found, .broken⟩
  else ⟨found, .text (quotation.push char) 0⟩

/-- Take a character behind quotes inside a text. A text of one line ends with one quote; one of
    several lines ends with three, before which two more may belong to it. -/
def behindQuotes (found : List Token) (quotation : Quotation) (quotes : Nat) (char : Char) :
    Machine :=
  if char = quotation.quote then
    if !quotation.many then .emit found quotation.token
    else if quotes = 4 then .emit found (quotation.pushQuotes 2).token
    else ⟨found, .text quotation (quotes + 1)⟩
  else if 3 ≤ quotes then begin ((quotation.pushQuotes (quotes - 3)).token :: found) char
  else inText found (quotation.pushQuotes quotes) char

/-- The character that a letter stands for behind a backslash. -/
def escape? : Char → Option Char
  | 'b' => some '\x08'
  | 't' => some '\t'
  | 'n' => some '\n'
  | 'f' => some '\x0c'
  | 'r' => some '\r'
  | '"' => some '"'
  | '\\' => some '\\'
  | _ => none

/-- Take the character behind a backslash. -/
def behindBackslash (found : List Token) (quotation : Quotation) (char : Char) : Machine :=
  match escape? char with
  | some meant => ⟨found, .text (quotation.push meant) 0⟩
  | none =>
    if char = 'u' then ⟨found, .code quotation 4 0⟩
    else if char = 'U' then ⟨found, .code quotation 8 0⟩
    else if quotation.many && (isBlank char || char = '\n') then
      ⟨found, .gap quotation (char = '\n')⟩
    else ⟨found, .broken⟩

/-- Take a digit of the code of a character. -/
def inCode (found : List Token) (quotation : Quotation) (digits value : Nat) (char : Char) :
    Machine :=
  match Number.appendDigit? 16 value char with
  | none => ⟨found, .broken⟩
  | some value =>
    if 1 < digits then ⟨found, .code quotation (digits - 1) value⟩
    else if value.isValidChar then ⟨found, .text (quotation.push (Char.ofNat value)) 0⟩
    else ⟨found, .broken⟩

/-- Take the next character. -/
def Machine.step (machine : Machine) (char : Char) : Machine :=
  let found := machine.found
  match machine.mode with
  | .between => begin found char
  | .comment =>
    if char = '\n' then .emit found .lineEnd
    else if isControl char then ⟨found, .broken⟩
    else machine
  | .word chars =>
    if char = ' ' && isDateShape chars then ⟨found, .afterDate chars⟩
    else if endsWord char then begin (wordToken chars :: found) char
    else ⟨found, .word (char :: chars)⟩
  | .afterDate chars =>
    if char.isDigit then ⟨found, .word (char :: ' ' :: chars)⟩
    else begin (.blank :: wordToken chars :: found) char
  | .opening quote false =>
    if char = quote then ⟨found, .opening quote true⟩ else inText found ⟨quote, false, []⟩ char
  | .opening quote true =>
    if char = quote then ⟨found, .opened quote⟩ else begin (.quoted "" false :: found) char
  | .opened quote =>
    if char = '\n' then ⟨found, .text ⟨quote, true, []⟩ 0⟩
    else behindQuotes found ⟨quote, true, []⟩ 0 char
  | .text quotation quotes => behindQuotes found quotation quotes char
  | .escape quotation => behindBackslash found quotation char
  | .code quotation digits value => inCode found quotation digits value char
  | .gap quotation ended =>
    if char = '\n' then ⟨found, .gap quotation true⟩
    else if isBlank char then machine
    else if ended then behindQuotes found quotation 0 char
    else ⟨found, .broken⟩
  | .broken => machine

/-- The tokens that have come, if the text may end here. -/
def Machine.finish? (machine : Machine) : Option (List Token) :=
  match machine.mode with
  | .between | .comment => some machine.found.reverse
  | .word chars | .afterDate chars => some (wordToken chars :: machine.found).reverse
  | .opening _ true => some (.quoted "" false :: machine.found).reverse
  | .text quotation quotes =>
    if 3 ≤ quotes then
      some ((quotation.pushQuotes (quotes - 3)).token :: machine.found).reverse
    else none
  | _ => none

/-- Characters with single line feeds for line ends. -/
def plainLineEnds : List Char → List Char
  | '\r' :: '\n' :: rest => '\n' :: plainLineEnds rest
  | char :: rest => char :: plainLineEnds rest
  | [] => []

/-- The tokens of a text, which may begin with a mark of its byte order. -/
def tokens? (text : String) : Option (List Token) :=
  let chars := match text.toList with
    | '\uFEFF' :: rest => rest
    | chars => chars
  ((plainLineEnds chars).foldl Machine.step ⟨[], .between⟩).finish?

end KeyedIndex.Config.Toml
