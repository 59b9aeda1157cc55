import KeyedIndex.Config.Value
import KeyedIndex.Number.Float
import KeyedIndex.Number.Integer
import KeyedIndex.Text.Basic
import KeyedIndex.Text.Lowercase

/-!
Layers of configurations: the paths under which their values are laid, and those of the environment.

In the source, what its reader of configurations does with the layers that `load` gives to it:
`layer` for each of them, and `ofEnvironment` for `with_prefix` with `try_parsing`.
-/
namespace KeyedIndex.Config

/-! ### Paths

Paths in the names of a configuration. In `a.b` the name `b` stands in the table `a`,
and `a[0]` is an item of the list `a`. A name that is no path stands for itself.
-/

/-- The way through tables to a name, and whether what it names is a list of which an item is
    meant. -/
structure KeyPath where
  way : List String
  name : String
  inList : Bool

def isNameChar (char : Char) : Bool :=
  char.isAlphanum || char = ' ' || char = '_' || char = '-'

def isIndexBlank (char : Char) : Bool := char = ' ' || char = '\t'

/-- Whether a text is an index in brackets: an integer of 64 bits, with blanks around it. -/
def isIndex (chars : List Char) : Bool :=
  match chars.getLast?, chars.dropLast with
  | some ']', '[' :: inner =>
    let digits := ((inner.dropWhile isIndexBlank).reverse.dropWhile isIndexBlank).reverse
    digits.head? ≠ some '+' && (Number.int64.read? (String.ofList digits)).isSome
  | _, _ => false

/-- The name with which a part of a path begins, and whether there are indices behind it. -/
def readPart? (chars : List Char) : Option (String × Bool) :=
  let name := chars.takeWhile isNameChar
  let indices := (chars.dropWhile isNameChar).splitBy (fun left _ => left ≠ ']')
  if !name.isEmpty && indices.all isIndex then some (String.ofList name, !indices.isEmpty)
  else none

/-- The path of parts up to the first list. -/
def KeyPath.ofParts? : List (String × Bool) → Option KeyPath
  | [] => none
  | (name, true) :: _ => some ⟨[], name, true⟩
  | [(name, false)] => some ⟨[], name, false⟩
  | (name, false) :: rest =>
    (KeyPath.ofParts? rest).map (fun path => { path with way := name :: path.way })

def KeyPath.ofText? (text : String) : Option KeyPath := do
  let parts ← (Text.pieces (· = '.') text.toList).mapM readPart?
  KeyPath.ofParts? parts

/-- The path that a name is. -/
def KeyPath.ofName (name : String) : KeyPath := (KeyPath.ofText? name).getD ⟨[], name, false⟩

/-- Change what stands at the end of a way through tables. What is no table becomes one. -/
def changeAt (change : Value → Value) : List String → Value → Value
  | [], root => change root
  | name :: way, root =>
    let inner := changeAt change way ((root.at? name).getD .null)
    .table (setEntry name inner root.entries)

/-- A configuration with a value laid over what stands at a path. -/
def Value.assign (root : Value) (path : KeyPath) (value : Value) : Value :=
  changeAt (fun table =>
    if path.inList then .table (setEntry path.name .list table.entries)
    else coverAll table [(path.name, value)]) path.way root

/-- A configuration with a table laid over it. -/
def layer (root : Value) (table : Table) : Value :=
  table.foldl (fun root (name, value) => root.assign (KeyPath.ofName name) value) root

/-! ### Environment

Configurations from environment variables. A variable counts if its name begins with a
mark, in small or capital letters; its text is a truth value or a number if it can be
read as one.
-/

/-- The value that the text of a variable stands for. -/
def Value.ofVariable (text : String) : Value :=
  match Text.lower text with
  | "true" => .bool true
  | "false" => .bool false
  | _ =>
    match Number.int64.read? text with
    | some number => .integer number
    | none =>
      match Number.readFloat? text with
      | some number => .float number
      | none => .text text

/-- The name that a variable has behind the mark. -/
def variableName? (mark name : String) : Option String :=
  let chars := Text.lowerChars name.toList
  if mark.toList.isPrefixOf chars then some (String.ofList (chars.drop mark.length)) else none

/-- The table of the variables with a mark; of those with one name, the last counts. -/
def ofEnvironment (mark : String) (environment : List (String × String)) : Table :=
  environment.foldl (fun table (name, text) =>
    match variableName? mark name with
    | some name => setEntry name (Value.ofVariable text) table
    | none => table) []

end KeyedIndex.Config
