import KeyedIndex.Config.Yaml.Token

/-!
Scalars of YAML that are written as a block of lines, which are indented more than what the
block belongs to. A sign says whether the lines are folded; the header behind it says what
becomes of the line ends at the end, and perhaps how deeply the lines are indented.
-/
namespace KeyedIndex.Config.Yaml

/-- What becomes of the line ends at the end of a block. -/
inductive Chomping where
  | strip
  /-- One of them is left. -/
  | clip
  | keep
deriving DecidableEq

structure BlockHeader where
  chomping : Chomping
  /-- How much deeper than their parent the lines are indented, if that is said. -/
  deeper : Option Nat

def chomping? : Char → Option Chomping
  | '+' => some .keep
  | '-' => some .strip
  | _ => none

/-- The digit of a header, which is not zero; anything else is left where it is. -/
def readDeeper? (spots : List Spot) : Option (Option Nat × List Spot) :=
  let char := charAt spots 0
  if char = '0' then none
  else if char.isDigit then some (some (char.toNat - '0'.toNat), spots.drop 1)
  else some (none, spots)

/-- The signs of a header in any order, and what stands behind them. -/
def readHeader? (spots : List Spot) : Option (BlockHeader × List Spot) := do
  match chomping? (charAt spots 0) with
  | some chomping =>
    let (deeper, rest) ← readDeeper? (spots.drop 1)
    return (⟨chomping, deeper⟩, rest)
  | none =>
    let (deeper, rest) ← readDeeper? spots
    match deeper.bind (fun _ => chomping? (charAt rest 0)) with
    | some chomping => return (⟨chomping, deeper⟩, rest.drop 1)
    | none => return (⟨.clip, deeper⟩, rest)

/-! ### Lines -/

/-- Whether a spot belongs to the indentation of a line of a block or to an empty line. -/
def isIndentation (column : Nat) (spot : Spot) : Bool :=
  (spot.char = ' ' && spot.column < column) || isBreak spot.char

/-- The number of line ends among spots. -/
def breakCount (spots : List Spot) : Nat := (chars spots).countP isBreak

/-- The column at which the lines of a block begin if its header does not say so: the first line
    that is not empty begins there, and no empty line before it is longer. -/
def foundColumn (least : Nat) (spots : List Spot) : Nat :=
  let isEmpty := fun spot : Spot => spot.char = ' ' || isBreak spot.char
  let ends := (spots.takeWhile isEmpty).filter (fun spot => isBreak spot.char)
  ((here (spots.dropWhile isEmpty) :: ends).map Spot.column).foldl max least

/-- The characters of a block that have been taken, last first, and how the last line ended. -/
structure BlockText where
  content : List Char
  /-- Whether the last line has ended. -/
  ended : Bool
  /-- The number of empty lines behind it. -/
  empty : Nat
  /-- Whether the last line began with a blank. -/
  indented : Bool

/-- The characters between the last line and the next one, last first. Folded lines are joined by
    a blank, unless one of them begins with a blank itself. -/
def BlockText.joint (text : BlockText) (folded : Bool) (next : Char) : List Char :=
  let empty := List.replicate text.empty '\n'
  if folded && text.ended && !text.indented && !isBlank next then
    if text.empty = 0 then [' '] else empty
  else if text.ended then '\n' :: empty
  else empty

/-- The lines from the front on that begin at a column. -/
def takeLines (folded : Bool) (column : Nat) (text : BlockText) :
    List Spot → BlockText × List Spot
  | [] => (text, [])
  | spot :: rest =>
    if spot.column ≠ column || spot.char = endChar then (text, spot :: rest)
    else
      let line := chars (rest.takeWhile (fun spot => !isBreakOrEnd spot.char))
      let behind := lineEnd rest
      let content := line.reverseAux (spot.char :: text.joint folded spot.char ++ text.content)
      if charAt behind 0 = endChar then (⟨content, false, 0, isBlank spot.char⟩, behind)
      else
        let gap := (behind.drop 1).takeWhile (isIndentation column)
        takeLines folded column ⟨content, true, breakCount gap, isBlank spot.char⟩
          ((behind.drop 1).dropWhile (isIndentation column))
termination_by spots => spots.length
decreasing_by
  have dropped : (List.dropWhile (isIndentation column) (List.drop 1 (lineEnd rest))).length
      ≤ rest.length :=
    Nat.le_trans (List.dropWhile_suffix _).length_le
      (Nat.le_trans (List.drop_sublist 1 _).length_le (List.dropWhile_suffix _).length_le)
  simp only [List.length_cons]
  omega

/-- The line ends at the end of a block. -/
def BlockText.ending (text : BlockText) (chomping : Chomping) (column : Nat) (rest : List Spot) :
    List Char :=
  let last := if text.ended then ['\n'] else []
  let added := if charAt rest 0 = endChar && max column 1 ≤ (here rest).column then ['\n'] else []
  match chomping with
  | .strip => []
  | .clip => last ++ added
  | .keep => last ++ added ++ List.replicate text.empty '\n'

/-- What is left of a block without any lines but empty ones. -/
def emptyBlock (chomping : Chomping) (headerEnded : Bool) (empty : Nat) : List Char :=
  if chomping = .strip || !headerEnded then []
  else if chomping = .clip then ['\n']
  else List.replicate (max empty 1) '\n'

/-- The block whose header begins at the front, below something that is indented by a number of
    columns; nothing is at the root. The result is its content and what stands behind it. -/
def block? (folded : Bool) (parent : Option Nat) (spots : List Spot) :
    Option (String × List Spot) := do
  let (header, rest) ← readHeader? spots
  let headerEnd ← emptyTrail? rest
  let headerEnded := isBreak (charAt headerEnd 0)
  let start := if headerEnded then headerEnd.drop 1 else headerEnd
  if charAt start 0 = '\t' then none
  let least := parent.elim 0 (· + 1)
  let column := header.deeper.elim (foundColumn least start) (parent.getD 0 + ·)
  let gap := start.takeWhile (isIndentation column)
  let first := start.dropWhile (isIndentation column)
  if charAt first 0 = endChar then
    return (String.ofList (emptyBlock header.chomping headerEnded (breakCount gap)), first)
  if (here first).column < column && parent.all (· < (here first).column) then none
  let (text, rest) := takeLines folded column ⟨[], false, breakCount gap, false⟩ first
  let content := text.content.reverse ++ text.ending header.chomping column rest
  return (String.ofList content, rest)

end KeyedIndex.Config.Yaml
