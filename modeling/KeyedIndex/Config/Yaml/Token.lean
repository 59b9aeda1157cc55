/-!
Tokens of YAML texts, the characters they are made of, and the gaps between their words.
-/
namespace KeyedIndex.Config.Yaml

/-! ### Tokens

Tokens of YAML texts. Collections that are written by indentation have tokens for their
start and their end just as those between brackets; the token of a name stands before
the name, and that of a value before the value.
-/

inductive Token where
  | version
  /-- A handle of tags and what it stands for. -/
  | tagHandle (handle meaning : String)
  | documentStart
  | documentEnd
  | blockListStart
  | blockTableStart
  | blockEnd
  | flowListStart
  | flowListEnd
  | flowTableStart
  | flowTableEnd
  | blockItem
  | comma
  | name
  | value
  | anchor (label : String)
  | alias (label : String)
  | tag (handle rest : String)
  /-- A text, and whether it has no quotes and so may stand for something else. -/
  | scalar (content : String) (plain : Bool)
deriving DecidableEq

/-! ### Characters

Characters of YAML texts and where they stand. What a line belongs to depends on its
indentation, so every character knows its line and its column. A null character ends a
text, and stands for its end.
-/

/-! ### Kinds of characters -/

def endChar : Char := '\x00'

def isBlank (char : Char) : Bool := char = ' ' || char = '\t'

def isBreak (char : Char) : Bool := char = '\n'

def isBreakOrEnd (char : Char) : Bool := isBreak char || char = endChar

/-- Whether a character cannot belong to a word. -/
def isGap (char : Char) : Bool := isBlank char || isBreakOrEnd char

/-- The signs of the collections that are written between brackets or braces. -/
def isFlowSign (char : Char) : Bool := char ∈ [',', '[', ']', '\x7b', '\x7d']

/-! ### Spots -/

/-- A character and where it stands. -/
structure Spot where
  char : Char
  line : Nat
  column : Nat
  /-- The number of characters before it. -/
  index : Nat
  /-- Whether nothing but blanks stands before it on its line. -/
  fresh : Bool

/-- A character behind another one. -/
def Spot.next (spot : Spot) (char : Char) : Spot :=
  if isBreak spot.char then ⟨char, spot.line + 1, 0, spot.index + 1, true⟩
  else ⟨char, spot.line, spot.column + 1, spot.index + 1, spot.fresh && isBlank spot.char⟩

/-- The characters behind another one, and the end. -/
def Spot.row (spot : Spot) : List Char → List Spot
  | [] => [spot.next endChar]
  | char :: rest =>
    if char = endChar then [spot.next endChar] else spot.next char :: (spot.next char).row rest

/-- Characters with a line feed for every line end. -/
def unifyLineEnds : List Char → List Char
  | '\r' :: '\n' :: rest => '\n' :: unifyLineEnds rest
  | '\r' :: rest => '\n' :: unifyLineEnds rest
  | char :: rest => char :: unifyLineEnds rest
  | [] => []

/-- The spots of a text, the last of which is its end. -/
def spots (text : String) : List Spot :=
  Spot.row ⟨'\n', 0, 0, 0, true⟩ (unifyLineEnds text.toList)

/-- The spot at the front. -/
def here (spots : List Spot) : Spot := spots.head?.getD ⟨endChar, 0, 0, 0, true⟩

/-- The character at a distance from the front. -/
def charAt (spots : List Spot) (distance : Nat) : Char :=
  (spots[distance]?.map Spot.char).getD endChar

/-- The characters of spots. -/
def chars (spots : List Spot) : List Char := spots.map Spot.char

/-- Whether spots begin with three signs at the start of a line that mark the start or the end
    of a document. -/
def isDocumentMark (sign : Char) (spots : List Spot) : Bool :=
  (here spots).column = 0 && chars (spots.take 3) = [sign, sign, sign] && isGap (charAt spots 3)

/-- The spots from the end of the line on. -/
def lineEnd (spots : List Spot) : List Spot :=
  spots.dropWhile (fun spot => !isBreakOrEnd spot.char)

/-- Blanks, and perhaps a comment behind them, that have been passed over. -/
structure Trail where
  tabs : Bool
  spaces : Bool
  rest : List Spot

/-- Pass over blanks and a comment, which must have a blank before it. Tabs may not count as
    blanks. -/
def trail? (withTabs : Bool) (spots : List Spot) : Option Trail :=
  let passes := fun spot : Spot => spot.char = ' ' || (withTabs && spot.char = '\t')
  let blanks := chars (spots.takeWhile passes)
  let rest := spots.dropWhile passes
  let trail := Trail.mk (blanks.contains '\t') (blanks.contains ' ')
  if charAt rest 0 ≠ '#' then some (trail rest)
  else if blanks.isEmpty then none
  else some (trail (lineEnd rest))

/-- Pass over blanks and a comment up to the end of the line, where nothing else may stand. -/
def emptyTrail? (spots : List Spot) : Option (List Spot) := do
  let trail ← trail? true spots
  if isBreakOrEnd (charAt trail.rest 0) then return trail.rest else none

/-! ### Gaps

Gaps between the words of a scalar. Blanks within a line are kept. A line end counts as
one blank, but if empty lines follow, only these count, each as a line end.
-/

inductive Gap where
  /-- Blanks within a line, last first. -/
  | blanks (chars : List Char)
  /-- A line end, which may count or not, and some empty lines. -/
  | lines (counts : Bool) (empty : Nat)
deriving DecidableEq

/-- The characters for which a gap stands. -/
def Gap.chars : Gap → List Char
  | .blanks chars => chars
  | .lines true 0 => [' ']
  | .lines _ empty => List.replicate empty '\n'

/-- The gap with one more blank or line end. -/
def Gap.push (gap : Gap) (char : Char) : Gap :=
  match gap with
  | .blanks chars => if isBreak char then .lines true 0 else .blanks (char :: chars)
  | .lines counts empty => if isBreak char then .lines counts (empty + 1) else gap

def Gap.isLines : Gap → Bool
  | .blanks _ => false
  | .lines _ _ => true

end KeyedIndex.Config.Yaml
