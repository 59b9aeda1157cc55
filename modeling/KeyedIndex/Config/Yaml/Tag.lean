import KeyedIndex.Config.Yaml.Token
import KeyedIndex.Number.Integer

/-!
Tags, anchors and directives of YAML. A tag says what a scalar stands for, an anchor gives
a label to a node, and a directive says something about the document behind it.
-/
namespace KeyedIndex.Config.Yaml

/-! ### Characters -/

def isHandleChar (char : Char) : Bool := char.isAlphanum || char = '_' || char = '-'

def isUriChar (char : Char) : Bool :=
  char.isAlphanum || char = '\'' || char ∈ "-#;/?:@&=+$,_.!~*()[]%".toList

/-- Whether a character may stand in a tag without being part of a collection. -/
def isTagChar (char : Char) : Bool := isUriChar char && !isFlowSign char && char ≠ '!'

def isLabelChar (char : Char) : Bool := !isGap char && !isFlowSign char && char ≠ '\uFEFF'

/-- The characters at the front that pass a test, and what stands behind them. -/
def spanChars (test : Char → Bool) (spots : List Spot) : String × List Spot :=
  (String.ofList (chars (spots.takeWhile (fun spot => test spot.char))),
    spots.dropWhile (fun spot => test spot.char))

/-- What stands behind a character at the front. -/
def expect? (char : Char) (spots : List Spot) : Option (List Spot) :=
  if charAt spots 0 = char then some (spots.drop 1) else none

def skipBlanks (spots : List Spot) : List Spot :=
  spots.dropWhile (fun spot => isBlank spot.char)

/-! ### Percent escapes -/

/-- The byte that a percent sign and two digits stand for. -/
def byte? : List Char → Option Nat
  | ['%', high, low] => Number.inBase? 16 [high, low]
  | _ => none

/-- The number of bytes of a character that begins with a byte. -/
def byteCount? (byte : Nat) : Option Nat :=
  if byte < 0x80 then some 1
  else if 0xC0 ≤ byte && byte < 0xE0 then some 2
  else if 0xE0 ≤ byte && byte < 0xF0 then some 3
  else if 0xF0 ≤ byte && byte < 0xF8 then some 4
  else none

/-- Put the bytes of a character behind those that have been read. -/
def readBytes? (code : Nat) (spots : List Spot) : Nat → Option (Nat × List Spot)
  | 0 => some (code, spots)
  | count + 1 => do
    let byte ← byte? (chars (spots.take 3))
    if 0x80 ≤ byte && byte < 0xC0 then readBytes? (code * 0x100 + byte) (spots.drop 3) count
    else none

/-- The character whose bytes are written at the front. -/
def readEscape? (spots : List Spot) : Option (Char × List Spot) := do
  let byte ← byte? (chars (spots.take 3))
  let (code, rest) ← readBytes? byte (spots.drop 3) ((← byteCount? byte) - 1)
  if code.isValidChar then return (Char.ofNat code, rest) else none

/-- The characters at the front that pass a test, with escapes for others. At most so many
    characters are read. -/
def readUri? (test : Char → Bool) (spots : List Spot) : Nat → Option (List Char × List Spot)
  | 0 => some ([], spots)
  | count + 1 =>
    let char := charAt spots 0
    if !test char then some ([], spots)
    else do
      let (char, rest) ← if char = '%' then readEscape? spots else some (char, spots.drop 1)
      let (more, rest) ← readUri? test rest count
      return (char :: more, rest)

def uri? (test : Char → Bool) (spots : List Spot) : Option (String × List Spot) :=
  (readUri? test spots spots.length).map (fun (chars, rest) => (String.ofList chars, rest))

/-! ### Tags and anchors -/

/-- A handle: an exclamation mark, and perhaps a word that another one closes. -/
def handle? (spots : List Spot) : Option (String × List Spot) := do
  let (word, rest) := spanChars isHandleChar (← expect? '!' spots)
  if charAt rest 0 = '!' then return ("!" ++ word ++ "!", rest.drop 1)
  else return ("!" ++ word, rest)

/-- A tag that is written out between angle brackets. -/
def verbatimTag? (spots : List Spot) : Option (Token × List Spot) := do
  let (content, rest) ← uri? isUriChar (spots.drop 2)
  return (.tag "" content, ← expect? '>' rest)

/-- A tag that is made of a handle and a rest. What looks like a handle without its end is the
    beginning of the rest. -/
def shortTag? (spots : List Spot) : Option (Token × List Spot) := do
  let (handle, rest) ← handle? spots
  let (content, rest) ← uri? isTagChar rest
  if handle.length ≥ 2 && handle.endsWith "!" then
    if content = "" then none else return (.tag handle content, rest)
  else
    let content := String.ofList (handle.toList.drop 1) ++ content
    return (if content = "" then .tag "" "!" else .tag "!" content, rest)

/-- The tag at the front. Behind it, there is a blank or, between brackets, a sign of the
    collection. -/
def tag? (inFlow : Bool) (spots : List Spot) : Option (Token × List Spot) := do
  let (token, rest) ← if charAt spots 1 = '<' then verbatimTag? spots else shortTag? spots
  let next := charAt rest 0
  if isGap next || (inFlow && isFlowSign next) then return (token, rest) else none

/-- The label of an anchor, or of an alias, behind its sign. -/
def label? (spots : List Spot) : Option (String × List Spot) :=
  let (label, rest) := spanChars isLabelChar (spots.drop 1)
  if label = "" then none else some (label, rest)

/-! ### Directives -/

/-- The digits of a number of a version, nine at most. -/
def versionNumber? (spots : List Spot) : Option (List Spot) :=
  let (digits, rest) := spanChars Char.isDigit spots
  if digits = "" || 9 < digits.length then none else some rest

def versionDirective? (spots : List Spot) : Option (Token × List Spot) := do
  let rest ← versionNumber? (skipBlanks spots)
  let rest ← versionNumber? (← expect? '.' rest)
  return (.version, rest)

/-- A handle of tags and what it stands for. -/
def tagDirective? (spots : List Spot) : Option (Token × List Spot) := do
  let (handle, rest) ← handle? (skipBlanks spots)
  if handle ≠ "!" && !handle.endsWith "!" then none
  let start := skipBlanks rest
  if charAt start 0 ≠ '!' && !isTagChar (charAt start 0) then none
  let (meaning, rest) ← uri? isUriChar start
  if isGap (charAt rest 0) then return (.tagHandle handle meaning, rest) else none

/-- The directive at the front, which fills its line. One with an unknown name says nothing. -/
def directive? (spots : List Spot) : Option (Token × List Spot) := do
  let (name, rest) := spanChars isHandleChar (spots.drop 1)
  if name = "" || !isGap (charAt rest 0) then none
  let (token, rest) ← match name with
    | "YAML" => versionDirective? rest
    | "TAG" => tagDirective? rest
    | _ => some (.tagHandle "" "", lineEnd rest)
  let behind ← emptyTrail? rest
  return (token, if isBreak (charAt behind 0) then behind.drop 1 else behind)

end KeyedIndex.Config.Yaml
