import KeyedIndex.Config.Yaml.Token

/-!
Scalars of YAML without quotes. They end where a comment, the value of a name or, between
brackets, a sign of the collection begins, and at a line that is not indented enough.
-/
namespace KeyedIndex.Config.Yaml

/-- Where a scalar without quotes stands. -/
structure PlainPlace where
  inFlow : Bool
  /-- The column at which its lines must begin at least. -/
  column : Nat

/-- Whether the character at the front cannot belong to a scalar. -/
def PlainPlace.endsWord (place : PlainPlace) (spots : List Spot) : Bool :=
  let char := charAt spots 0
  let next := charAt spots 1
  isGap char || (char = ':' && (isGap next || (place.inFlow && isFlowSign next)))
    || (place.inFlow && isFlowSign char)

/-- Whether a dash stands alone before a sign of a collection, which is an error. -/
def PlainPlace.isStray (place : PlainPlace) (spots : List Spot) : Bool :=
  place.inFlow && charAt spots 0 = '-' && isFlowSign (charAt spots 1)

/-- A gap behind a line that holds no word. The line counts as empty if it has no comment. -/
def Gap.behindLine (gap : Gap) (spots : List Spot) : Gap :=
  if charAt (spots.dropWhile (fun spot => isBlank spot.char)) 0 = '#' then gap else gap.push '\n'

/-- What a reader of a scalar without quotes is inside of. -/
inductive PlainState where
  | word
  | gap (gap : Gap)
  /-- On a line that holds no word, behind which the gap will be as said. -/
  | blankLine (gap : Gap)

/-- A scalar that has been read. -/
structure PlainScalar where
  content : String
  /-- Whether its last line has ended. -/
  lineEnded : Bool
  rest : List Spot

/-- Read on behind some characters, last first. -/
def PlainPlace.run? (place : PlainPlace) (state : PlainState) (chars : List Char) :
    List Spot → Option PlainScalar
  | [] => none
  | spot :: rest =>
    let spots := spot :: rest
    let stop := fun lineEnded => some ⟨String.ofList chars.reverse, lineEnded, spots⟩
    let isBlankOrBreak := isBlank spot.char || isBreak spot.char
    match state with
    | .word =>
      if isBlankOrBreak then place.run? (.gap ((Gap.blanks []).push spot.char)) chars rest
      else if place.endsWord spots then stop false
      else place.run? .word (spot.char :: chars) rest
    | .gap gap =>
      if isBlankOrBreak then
        if gap.isLines && spot.char = '\t' && spot.column < place.column then
          if (emptyTrail? spots).isNone then none
          else place.run? (.blankLine (gap.behindLine spots)) chars rest
        else place.run? (.gap (gap.push spot.char)) chars rest
      else if !place.inFlow && spot.column < place.column then stop gap.isLines
      else if isDocumentMark '-' spots || isDocumentMark '.' spots || spot.char = '#' then
        stop gap.isLines
      else if place.isStray spots then none
      else if place.endsWord spots then stop gap.isLines
      else place.run? .word (spot.char :: gap.chars ++ chars) rest
    | .blankLine gap =>
      if isBreak spot.char then place.run? (.gap gap) chars rest
      else if spot.char = endChar then stop true
      else place.run? state chars rest

/-- The scalar without quotes that begins at the front. -/
def plain? (place : PlainPlace) (spots : List Spot) : Option PlainScalar :=
  if place.isStray spots || (place.inFlow && (here spots).column < place.column) then none
  else (place.run? .word [] spots).filter (fun scalar => scalar.content ≠ "")

end KeyedIndex.Config.Yaml
