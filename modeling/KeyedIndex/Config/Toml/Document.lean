import KeyedIndex.Config.Toml.Draft
import KeyedIndex.Config.Toml.Scalar
import KeyedIndex.Config.Toml.Token
import KeyedIndex.Text.Basic

/-!
Configurations as TOML. A document is a sequence of statements, each on lines of its own:
headers of tables, headers of items of lists, and names with values.

In the source, the format in which its reader of configurations reads the usual configuration
file.
-/
namespace KeyedIndex.Config.Toml

/-! ### Names -/

def isBareChar (char : Char) : Bool := char.isAlphanum || char = '_' || char = '-'

/-- The parts of a word and the points between them, which are nothing. -/
def wordParts (chars : List Char) : List (Option String) :=
  let parts := (Text.pieces (· = '.') chars).map (fun piece =>
    if piece.isEmpty then [] else [some (String.ofList piece)])
  (parts.intersperse [none]).flatten

/-- What a token is inside a name. -/
def nameParts? : Token → Option (List (Option String))
  | .blank => some []
  | .quoted content false => some [some content]
  | .word chars =>
    if chars.all (fun char => isBareChar char || char = '.') then some (wordParts chars) else none
  | _ => none

/-- Names with a point between each two of them. -/
def alternate? : List (Option String) → Option (List String)
  | [some name] => some [name]
  | some name :: none :: rest => (alternate? rest).map (name :: ·)
  | _ => none

/-- How many names a dotted name may have, and how deeply values may stand in one another. -/
def greatestDepth : Nat := 79

/-- The names of a dotted name; there is at least one. -/
def names? (tokens : List Token) : Option (List String) := do
  let parts ← tokens.mapM nameParts?
  (alternate? parts.flatten).filter (fun names => names.length ≤ greatestDepth)

/-! ### Values -/

/-- A list or table around a value that is being read. -/
inductive Frame where
  | list
  | table (drafts : Drafts) (names : List String)

/-- What may come next in a value. -/
inductive State where
  | done (value : Value)
  | value (frames : List Frame)
  | itemOrEnd (frames : List Frame)
  | afterItem (frames : List Frame)
  /-- Directly behind the brace that opens a table. -/
  | nameOrEnd (frames : List Frame)
  /-- Inside a name, whose tokens so far are last first. -/
  | name (drafts : Drafts) (tokens : List Token) (frames : List Frame)
  | afterEntry (drafts : Drafts) (frames : List Frame)
  | broken

/-- Go on behind a value. -/
def State.after (value : Value) : List Frame → State
  | [] => .done value
  | .list :: frames => .afterItem frames
  | .table drafts names :: frames =>
    match names with
    | [] => .broken
    | first :: rest =>
      match giveDotted value first rest drafts with
      | some drafts => .afterEntry drafts frames
      | none => .broken

/-- A value begins with a token. -/
def State.ofValue (frames : List Frame) : Token → State
  | .openBracket => if frames.length < greatestDepth then .itemOrEnd frames else .broken
  | .openBrace => if frames.length < greatestDepth then .nameOrEnd frames else .broken
  | .quoted content _ => .after (.text content) frames
  | .word chars =>
    match scalar? chars with
    | some scalar => .after scalar frames
    | none => .broken
  | _ => .broken

/-- Take a token inside a name. -/
def State.inName (drafts : Drafts) (tokens : List Token) (frames : List Frame) : Token → State
  | .equals =>
    match names? tokens.reverse with
    | some names => .value (.table drafts names :: frames)
    | none => .broken
  | token => .name drafts (token :: tokens) frames

/-- Take the next token that is not blank. Lines may end between the items of lists. -/
def State.step : State → Token → State
  | .value frames, token => .ofValue frames token
  | .itemOrEnd frames, .lineEnd => .itemOrEnd frames
  | .itemOrEnd frames, .closeBracket => .after .list frames
  | .itemOrEnd frames, token => .ofValue (.list :: frames) token
  | .afterItem frames, .lineEnd => .afterItem frames
  | .afterItem frames, .comma => .itemOrEnd frames
  | .afterItem frames, .closeBracket => .after .list frames
  | .nameOrEnd frames, .closeBrace => .after (.table []) frames
  | .nameOrEnd frames, token => .inName [] [] frames token
  | .name drafts tokens frames, token => .inName drafts tokens frames token
  | .afterEntry drafts frames, .comma => .name drafts [] frames
  | .afterEntry drafts frames, .closeBrace => .after (.table (finishAll drafts)) frames
  | _, _ => .broken

def Token.isBlank : Token → Bool
  | .blank => true
  | _ => false

def Token.isLineEnd : Token → Bool
  | .lineEnd => true
  | _ => false

/-- The value that tokens stand for. -/
def value? (tokens : List Token) : Option Value :=
  match (tokens.filter (fun token => !token.isBlank)).foldl State.step (.value []) with
  | .done value => some value
  | _ => none

/-! ### Statements -/

/-- A way from table to table, and the name of what stands at its end. -/
structure Target where
  way : List String
  name : String

/-- The names of a header or of a value, without the last one. -/
def Target.ofNames? (names : List String) : Option Target :=
  names.getLast?.map (fun name => ⟨names.dropLast, name⟩)

inductive Statement where
  | table (target : Target)
  | item (target : Target)
  | entry (first : String) (rest : List String) (value : Value)

/-- How deeply lists and tables stand in one another behind a token. -/
def nesting (depth : Nat) : Token → Nat
  | .openBracket | .openBrace => depth + 1
  | .closeBracket | .closeBrace => depth - 1
  | _ => depth

/-- The tokens of the statements: a statement ends with its line, unless it is inside of
    something. -/
def lines : Nat → List Token → List (List Token)
  | _, [] => [[]]
  | depth, token :: rest =>
    if depth = 0 && token.isLineEnd then [] :: lines 0 rest
    else
      match lines (nesting depth token) rest with
      | line :: more => (token :: line) :: more
      | [] => [[token]]

/-- A header between brackets, without the first of them. -/
def header? (tokens : List Token) : Option Statement :=
  match tokens with
  | .openBracket :: rest =>
    match rest.reverse with
    | .closeBracket :: .closeBracket :: inner => do
      return .item (← Target.ofNames? (← names? inner.reverse))
    | _ => none
  | _ =>
    match tokens.reverse with
    | .closeBracket :: inner => do return .table (← Target.ofNames? (← names? inner.reverse))
    | _ => none

/-- A name, the sign of equality and a value. -/
def assignment? (tokens : List Token) : Option Statement := do
  let isEquals : Token → Bool := fun token => match token with
    | .equals => true
    | _ => false
  match ← names? (tokens.takeWhile (fun token => !isEquals token)) with
  | [] => none
  | first :: rest =>
    return .entry first rest (← value? ((tokens.dropWhile (fun token => !isEquals token)).drop 1))

/-- The statement of a line, if it is not empty. -/
def statement? (line : List Token) : Option (Option Statement) :=
  let start := line.dropWhile Token.isBlank
  let tokens := (start.reverse.dropWhile Token.isBlank).reverse
  match tokens with
  | [] => some none
  | .openBracket :: rest => (header? rest).map some
  | _ => (assignment? tokens).map some

/-- A document up to some statement, and the table to which values go. -/
structure Progress where
  drafts : Drafts
  current : List String

def Progress.step (progress : Progress) : Statement → Option Progress
  | .table target => do
    let drafts ← atHeader (openTable target.name) target.way progress.drafts
    return ⟨drafts, target.way ++ [target.name]⟩
  | .item target => do
    let drafts ← atHeader (openItem target.name) target.way progress.drafts
    return ⟨drafts, target.way ++ [target.name]⟩
  | .entry first rest value => do
    let drafts ← atHeader (giveDotted value first rest) progress.current progress.drafts
    return { progress with drafts }

/-- The table of a text. -/
def read? (text : String) : Option Table := do
  let statements ← (lines 0 (← tokens? text)).mapM statement?
  let progress ← (statements.filterMap id).foldlM Progress.step ⟨[], []⟩
  return finishAll progress.drafts

end KeyedIndex.Config.Toml
