import KeyedIndex.Config.Yaml.Block
import KeyedIndex.Config.Yaml.Plain
import KeyedIndex.Config.Yaml.Quoted
import KeyedIndex.Config.Yaml.Tag

/-!
Outlines of YAML texts: the tokens of a text, with the starts and ends of the blocks that
its indentation makes. That something is the name of an entry is known only when the
colon behind it is found; the tokens of the name, and of the table in which it is the
first one, are then put before what has been found already.
-/
namespace KeyedIndex.Config.Yaml

/-- An indentation. A block has one of its own; what belongs to an entry must be indented by one
    more column. -/
structure Indent where
  /-- The indentation around it, none at the root. -/
  outer : Option Nat
  isBlock : Bool

/-- What may turn out to be a name. -/
structure MaybeName where
  possible : Bool
  /-- Whether nothing but a name may stand there. -/
  required : Bool
  /-- The number of tokens before it. -/
  before : Nat
  spot : Spot

def MaybeName.never : MaybeName := ⟨false, false, 0, here []⟩

structure Outline where
  rest : List Spot
  /-- The tokens that have been found, last first. -/
  found : List Token
  /-- The number of tokens that have been found. -/
  count : Nat
  /-- The current indentation, none at the root. -/
  indent : Option Nat
  indents : List Indent
  /-- What may be a name outside of all brackets. -/
  name : MaybeName
  /-- What may be a name in each of the collections between brackets, the innermost first. -/
  flowNames : List MaybeName
  /-- Whether a name may begin here without a sign. -/
  nameAllowed : Bool
  /-- Where a colon counts without a blank behind it. -/
  adjacent : Nat
  /-- Whether a table between braces has begun, or an entry with a sign between brackets. -/
  inTable : Bool
  /-- Whether an entry between brackets stands for a table. -/
  inEntry : Bool

def Outline.ofText (text : String) : Outline where
  rest := spots text
  found := []
  count := 0
  indent := none
  indents := []
  name := .never
  flowNames := []
  nameAllowed := true
  adjacent := 0
  inTable := false
  inEntry := false

namespace Outline

def char (outline : Outline) : Char := charAt outline.rest 0

def spot (outline : Outline) : Spot := here outline.rest

def inFlow (outline : Outline) : Bool := !outline.flowNames.isEmpty

/-- The least column for what belongs to the current indentation. -/
def column (outline : Outline) : Nat := outline.indent.getD 0

def emit (outline : Outline) (token : Token) : Outline :=
  { outline with found := token :: outline.found, count := outline.count + 1 }

/-- Put a token behind the first ones. -/
def insert (outline : Outline) (before : Nat) (token : Token) : Outline :=
  let behind := outline.count - before
  { outline with
    found := outline.found.take behind ++ token :: outline.found.drop behind
    count := outline.count + 1 }

def drop (outline : Outline) (count : Nat) : Outline :=
  { outline with rest := outline.rest.drop count }

def allowNames (outline : Outline) (nameAllowed : Bool) : Outline := { outline with nameAllowed }

/-- Pass over blanks and a comment. -/
def skipTrail? (outline : Outline) : Option Outline :=
  (trail? true outline.rest).map (fun trail => { outline with rest := trail.rest })

/-! ### Indentation -/

/-- Whether an indentation is deeper than a column; none is that of the root. -/
def isDeeper (column indent : Option Nat) : Bool :=
  indent.any (fun inner => column.all (· < inner))

/-- End those of some indentations that are deeper than a column, the innermost first. -/
def endDeeper (column : Option Nat) (outline : Outline) : List Indent → Outline
  | [] => { outline with indents := [] }
  | inner :: rest =>
    if isDeeper column outline.indent then
      let outline := if inner.isBlock then outline.emit .blockEnd else outline
      endDeeper column { outline with indent := inner.outer } rest
    else { outline with indents := inner :: rest }

/-- End what is indented deeper than a column. Between brackets, indentation makes no blocks. -/
def unroll (outline : Outline) (column : Option Nat) : Outline :=
  if outline.inFlow then outline else endDeeper column outline outline.indents

/-- The indentations that are left when those of entries end. -/
def endEntries (indent : Option Nat) : List Indent → Option Nat × List Indent
  | [] => (indent, [])
  | inner :: rest =>
    if inner.isBlock then (indent, inner :: rest) else endEntries inner.outer rest

def unrollEntries (outline : Outline) : Outline :=
  let (indent, indents) := endEntries outline.indent outline.indents
  { outline with indent, indents }

/-- Ask what follows to be indented more than the current block. -/
def indentEntry (outline : Outline) : Outline :=
  if !outline.inFlow && outline.indents.head?.any Indent.isBlock then
    { outline with
      indents := ⟨outline.indent, false⟩ :: outline.indents
      indent := some (outline.column + 1) }
  else outline

/-- Forget the indentation of an entry if a block begins there. -/
def unrollEntry (outline : Outline) (column : Nat) : Outline :=
  match outline.indents with
  | inner :: rest =>
    if outline.indent.all (· ≤ column) && !inner.isBlock then
      { outline with indent := inner.outer, indents := rest }
    else outline
  | [] => outline

/-- Begin a block at a column, with a token behind the first ones, unless it has begun. -/
def beginBlock (outline : Outline) (column before : Nat) (token : Token) : Outline :=
  if outline.inFlow then outline
  else
    let outline := outline.unrollEntry column
    if outline.indent.all (· < column) then
      let indents := ⟨outline.indent, true⟩ :: outline.indents
      { outline with indents, indent := some column }.insert before token
    else outline

/-! ### Names -/

/-- What may be a name in the innermost collection. -/
def current (outline : Outline) : MaybeName := outline.flowNames.head?.getD outline.name

def setCurrent (outline : Outline) (name : MaybeName) : Outline :=
  match outline.flowNames with
  | [] => { outline with name }
  | _ :: rest => { outline with flowNames := name :: rest }

/-- Remember that a name may begin here. -/
def saveName (outline : Outline) : Outline :=
  if outline.nameAllowed then
    let required := !outline.inFlow && outline.indent = some outline.spot.column
      && outline.indents.head?.any Indent.isBlock
    outline.setCurrent ⟨true, required, outline.count, outline.spot⟩
  else outline

/-- What might have been a name is none. -/
def noName? (outline : Outline) : Option Outline :=
  let name := outline.current
  if name.possible && name.required then none
  else some (outline.setCurrent { name with possible := false })

/-- The greatest number of characters between the start of a name and its colon. -/
def greatestName : Nat := 1024

/-- Outside of brackets, a name ends with its line and is not too long. -/
def checkName? (outline : Outline) : Option Outline :=
  let name := outline.name
  let spot := outline.spot
  if name.possible && !outline.inFlow
      && (name.spot.line < spot.line || name.spot.index + greatestName < spot.index) then
    if name.required then none else some { outline with name := { name with possible := false } }
  else some outline

/-! ### Between tokens -/

/-- Pass over blanks, line ends and comments. Where tabs cannot indent what belongs to a block,
    a line that begins with one is empty. The result says whether a line has ended. -/
def between? (tabsIndent : Spot → Bool) (inComment lineEnded : Bool) :
    List Spot → Option (Bool × List Spot)
  | [] => some (lineEnded, [])
  | spot :: rest =>
    if inComment && !isBreakOrEnd spot.char then between? tabsIndent true lineEnded rest
    else if spot.char = '\t' && !tabsIndent spot && (emptyTrail? (spot :: rest)).isNone then none
    else if isBlank spot.char then between? tabsIndent false lineEnded rest
    else if isBreak spot.char then between? tabsIndent false true rest
    else if spot.char = '#' then between? tabsIndent true lineEnded rest
    else some (lineEnded, spot :: rest)

/-- Go on to the next token. Outside of brackets, a name may begin on a new line. -/
def skipBetween? (outline : Outline) : Option Outline := do
  let tabsIndent := fun spot : Spot =>
    outline.indents.isEmpty || !spot.fresh || outline.column ≤ spot.column
  let (lineEnded, rest) ← between? tabsIndent false false outline.rest
  return { outline with
    rest, nameAllowed := outline.nameAllowed || (lineEnded && !outline.inFlow) }

/-! ### Collections between brackets -/

/-- How deeply collections between brackets may stand in one another. -/
def greatestFlow : Nat := 255

def beginFlow? (outline : Outline) (isTable : Bool) : Option Outline := do
  let outline := outline.saveName.indentEntry
  if greatestFlow ≤ outline.flowNames.length then none
  let outline ← ({ outline with
    flowNames := .never :: outline.flowNames
    nameAllowed := true
    inTable := outline.inTable || isTable }.drop 1).skipTrail?
  return outline.emit (if isTable then .flowTableStart else .flowListStart)

/-- End the table for which a single entry stands. -/
def endEntry (outline : Outline) : Outline :=
  if outline.inEntry then { outline with inEntry := false, inTable := false }.emit .flowTableEnd
  else outline

def endFlow? (outline : Outline) (token : Token) : Option Outline := do
  let outline ← outline.noName?
  let outline := { outline with flowNames := outline.flowNames.drop 1, nameAllowed := false }
  let outline ← (outline.endEntry.drop 1).skipTrail?
  let adjacent := if outline.inFlow then outline.spot.index else outline.adjacent
  return { outline with adjacent }.emit token

def takeComma? (outline : Outline) : Option Outline := do
  let outline ← outline.noName?
  let outline ← ((outline.allowNames true).endEntry.drop 1).skipTrail?
  return outline.emit .comma

/-! ### Items, names and values -/

def takeItem? (outline : Outline) : Option Outline := do
  if outline.inFlow || !outline.nameAllowed then none
  let outline := (outline.beginBlock outline.spot.column outline.count .blockListStart).drop 1
  let trail ← trail? true outline.rest
  if trail.tabs && charAt trail.rest 0 = '-' && isGap (charAt trail.rest 1) then none
  let outline := { outline with rest := trail.rest }
  let outline := if isBreak outline.char || isFlowSign outline.char then outline.indentEntry
    else outline
  return ((← outline.noName?).allowNames true).emit .blockItem

/-- Pass over spaces, line ends and comments, of which there is at least one. -/
def skipSpaces (inComment any : Bool) : List Spot → Option (List Spot)
  | [] => none
  | spot :: rest =>
    if inComment && !isBreakOrEnd spot.char then skipSpaces true any rest
    else if spot.char = ' ' || isBreak spot.char then skipSpaces false true rest
    else if spot.char = '#' then skipSpaces true any rest
    else if any then some (spot :: rest)
    else none

/-- The sign of a name that may be any node. -/
def takeName? (outline : Outline) : Option Outline := do
  if !outline.inFlow && !outline.nameAllowed then none
  let outline := if outline.inFlow then { outline with inTable := true }
    else outline.beginBlock outline.spot.column outline.count .blockTableStart
  let outline ← outline.noName?
  let rest ← skipSpaces false false (outline.rest.drop 1)
  if charAt rest 0 = '\t' then none
  return ({ outline with rest }.allowNames (!outline.inFlow)).emit .name

/-- Pass over a tab behind a colon. If there are only tabs, no word and no item may follow. -/
def skipTabs? (outline : Outline) : Option Outline := do
  if outline.char ≠ '\t' then return outline
  let trail ← trail? true outline.rest
  let next := charAt trail.rest 0
  if !trail.spaces && isHandleChar next then none
  return { outline with rest := trail.rest }

/-- The value of what may be a name: it is one. -/
def valueOf? (outline : Outline) (name : MaybeName) (start : Spot) : Option Outline := do
  if outline.inEntry && name.spot.line < start.line then none
  let outline := outline.insert name.before .name
  let outline := if outline.inEntry then outline.insert name.before .flowTableStart else outline
  let outline := (outline.beginBlock name.spot.column name.before .blockTableStart).indentEntry
  return (outline.setCurrent { name with possible := false }).allowNames false

/-- The value of a name with a sign, or of no name. -/
def valueAlone? (outline : Outline) (start : Spot) : Option Outline := do
  let outline := if outline.inEntry then outline.emit .flowTableStart else outline
  if !outline.inFlow && !outline.nameAllowed then none
  let outline := (outline.beginBlock start.column outline.count .blockTableStart).indentEntry
  return outline.allowNames (!outline.inFlow)

def takeValue? (outline : Outline) : Option Outline := do
  let name := outline.current
  let start := outline.spot
  let outline := { outline with inEntry := outline.inFlow && !outline.inTable }
  let outline ← (outline.drop 1).skipTabs?
  let outline ← if name.possible then outline.valueOf? name start else outline.valueAlone? start
  return outline.emit .value

/-! ### Scalars, labels and tags -/

/-- Something that may be a name begins here. -/
def beginNode (outline : Outline) : Outline := outline.saveName.allowNames false

def takeLabel? (outline : Outline) (token : String → Token) : Option Outline := do
  let (label, rest) ← label? outline.rest
  return { outline.beginNode with rest }.emit (token label)

def takeTag? (outline : Outline) : Option Outline := do
  let (tag, rest) ← tag? outline.inFlow outline.rest
  return { outline.beginNode with rest }.emit tag

def takeBlock? (outline : Outline) (folded : Bool) : Option Outline := do
  let outline := (outline.saveName.allowNames true).unrollEntries
  let (content, rest) ← block? folded outline.indent (outline.rest.drop 1)
  return { outline with rest }.emit (.scalar content false)

/-- Whether a character may stand behind a quoted text that began on a line. -/
def mayFollowQuote (outline : Outline) (line : Nat) (spot : Spot) : Bool :=
  match spot.char with
  | ',' | '\x7d' | ']' => outline.inFlow
  | ':' => outline.inFlow || line = spot.line
  | char => isBreakOrEnd char

def takeQuoted? (outline : Outline) (single : Bool) : Option Outline := do
  let (content, rest) ← quoted? single outline.column (outline.rest.drop 1)
  let trail ← trail? true rest
  if !outline.mayFollowQuote outline.spot.line (here trail.rest) then none
  let outline ← { outline.beginNode with rest := trail.rest }.skipBetween?
  return { outline with adjacent := outline.spot.index }.emit (.scalar content false)

def takePlain? (outline : Outline) : Option Outline := do
  let outline := outline.beginNode.unrollEntries
  let scalar ← plain? ⟨outline.inFlow, outline.indent.elim 0 (· + 1)⟩ outline.rest
  return { outline with rest := scalar.rest, nameAllowed := scalar.lineEnded }.emit
    (.scalar scalar.content true)

/-! ### Documents -/

/-- A directive or the mark of a document begins here: all blocks end. -/
def leaveBlocks? (outline : Outline) : Option Outline :=
  ((outline.unroll none).noName?).map (·.allowNames false)

def takeDirective? (outline : Outline) : Option Outline := do
  let outline ← outline.leaveBlocks?
  let (directive, rest) ← directive? outline.rest
  return { outline with rest }.emit directive

def takeStart? (outline : Outline) : Option Outline := do
  return ((← outline.leaveBlocks?).drop 3).emit .documentStart

def takeEnd? (outline : Outline) : Option Outline := do
  let outline ← outline.leaveBlocks?
  let rest ← emptyTrail? (outline.rest.drop 3)
  return { outline with rest }.emit .documentEnd

/-! ### The whole text -/

/-- Whether a colon at the front stands before a value. -/
def isValueSign (outline : Outline) : Bool :=
  let next := charAt outline.rest 1
  outline.char = ':' && (isGap next
    || (outline.inFlow && (isFlowSign next || outline.spot.index = outline.adjacent)))

/-- Take the token that begins with a sign at the front, or a scalar without quotes. -/
def takeSign? (outline : Outline) : Option Outline :=
  let alone := isGap (charAt outline.rest 1)
  match outline.char with
  | '[' => outline.beginFlow? false
  | '\x7b' => outline.beginFlow? true
  | ']' => outline.endFlow? .flowListEnd
  | '\x7d' => outline.endFlow? .flowTableEnd
  | ',' => outline.takeComma?
  | '*' => outline.takeLabel? .alias
  | '&' => outline.takeLabel? .anchor
  | '!' => outline.takeTag?
  | '\'' => outline.takeQuoted? true
  | '"' => outline.takeQuoted? false
  | '%' | '@' | '\x60' => none
  | '-' => if alone then outline.takeItem? else outline.takePlain?
  | '?' => if alone then outline.takeName? else outline.takePlain?
  | '|' => if outline.inFlow then outline.takePlain? else outline.takeBlock? false
  | '>' => if outline.inFlow then outline.takePlain? else outline.takeBlock? true
  | _ => if outline.isValueSign then outline.takeValue? else outline.takePlain?

/-- Take the token at the front. -/
def take? (outline : Outline) : Option Outline :=
  if isDeeper (some outline.spot.column) outline.indent then none
  else if outline.spot.column = 0 && outline.char = '%' then outline.takeDirective?
  else if isDocumentMark '-' outline.rest then outline.takeStart?
  else if isDocumentMark '.' outline.rest then outline.takeEnd?
  else outline.takeSign?

/-- The tokens of the text, which ends here. -/
def finish? (outline : Outline) : Option (List Token) :=
  if outline.name.possible && outline.name.required then none
  else some (outline.unroll none).found.reverse

/-- The tokens of the text if there are at most so many. -/
def run? (outline : Outline) : Nat → Option (List Token)
  | 0 => none
  | count + 1 => do
    let outline ← (← outline.skipBetween?).checkName?
    let outline := outline.unroll (some outline.spot.column)
    if outline.char = endChar then outline.finish?
    else (← outline.take?).run? count

end Outline

/-- The tokens of a text. Each of them has a character of its own. -/
def tokens? (text : String) : Option (List Token) :=
  (Outline.ofText text).run? (text.length + 1)

end KeyedIndex.Config.Yaml
