import KeyedIndex.Config.Toml.Document
import KeyedIndex.Config.Value
import KeyedIndex.Config.Yaml.Document
import KeyedIndex.Json.Doc
import KeyedIndex.Number.Integer
import KeyedIndex.Storage.Disk

/-!
Configuration files and how their formats are told apart.

Three formats are read here: TOML, JSON and YAML. The program's reader also knows INI, RON and
JSON5, so a file with one of their extensions counts as unknown here and is found there. Where
several files have one name with different extensions, the reader promises nothing about
which of them it takes; here it is the first in the order of `extensions`.

In the source, `with_name` of the reader of configurations, as `load` uses it (`findFile?`).
-/
namespace KeyedIndex.Config.Json

/-! ### JSON

The text is one object; of members with one name, the last counts.
-/

open KeyedIndex.Json (Scalar Doc)

/-- How deeply arrays and objects may stand in one another. -/
def greatestDepth : Nat := 127

/-- Numbers beyond 64 bits with a sign are floating point numbers. -/
def ofScalar? : Scalar → Option Value
  | .null => some .null
  | .bool value => some (.bool value)
  | .number (.integer number) =>
    some (if Number.int64.has number then .integer number
      else .float (UInt64.ofNat number.toNat).toFloat)
  | .number (.float number) => some (.float number)
  | .text content _ => some (.text content)
  | .unreadable | .spoiled _ _ | .cut _ _ => none

mutual
/-- The value of a tree without faults in which arrays and objects are not deeper than said. -/
def ofDoc? : Nat → Doc → Option Value
  | _, .scalar value => ofScalar? value
  | depth + 1, .array items .closed => do
    let _ ← ofItems? depth items
    return .list
  | depth + 1, .object members .closed => do
    return .table (← ofMembers? depth [] members)
  | _, _ => none

def ofItems? (depth : Nat) : List Doc → Option Unit
  | [] => some ()
  | item :: rest => do
    let _ ← ofDoc? depth item
    ofItems? depth rest

def ofMembers? (depth : Nat) (table : Table) : List (KeyedIndex.Json.Key × Doc) → Option Table
  | [] => some table
  | (.name name _, item) :: rest => do
    ofMembers? depth (setEntry name (← ofDoc? depth item) table) rest
  | _ :: _ => none
end

/-- The table of a text. -/
def read? (text : String) : Option Table :=
  match KeyedIndex.Json.Doc.ofText text with
  | (doc, false) =>
    match ofDoc? greatestDepth doc with
    | some (.table entries) => some entries
    | _ => none
  | (_, true) => none

end KeyedIndex.Config.Json

namespace KeyedIndex.Config

/-! ### Files

The extension of a file says how it is written; a path without the extension stands for
the file that has one of the known ones.
-/

inductive Format where
  | toml
  | json
  | yaml
deriving DecidableEq, Repr

/-- The extensions of the formats that are read here, and an order in which they are tried. -/
def extensions : List (String × Format) :=
  [("toml", .toml), ("json", .json), ("yaml", .yaml), ("yml", .yaml)]

/-- The table of a text in a format. -/
def Format.read? : Format → String → Option Table
  | .toml => Toml.read?
  | .json => Json.read?
  | .yaml => Yaml.read?

/-- The text of a file. -/
def textAt? (disk : Disk) (path : FilePath) : Option String :=
  match disk.at? path with
  | some (.file (.text content)) => some content
  | _ => none

/-- The extension of a name, behind its last point. A point at the start does not count. -/
def extension (name : String) : String :=
  match (Text.pieces (· = '.') name.toList).getLast? with
  | some last =>
    if last.length + 1 < name.length then String.ofList last else ""
  | none => ""

/-- A path with an extension behind it. -/
def withExtension (path : FilePath) (extension : String) : FilePath :=
  match path.getLast? with
  | some name => path.dropLast ++ [name ++ "." ++ extension]
  | none => path

/-- The format and the text of the file for which a path stands. A file that has just the path
    goes before those with an extension more, even if its own extension is unknown. -/
def findFile? (disk : Disk) (path : FilePath) : Option (Format × String) :=
  match textAt? disk path with
  | some text => (extensions.lookup (extension (path.getLast?.getD ""))).map (·, text)
  | none =>
    extensions.findSome? (fun (extension, format) =>
      (textAt? disk (withExtension path extension)).map (format, ·))

end KeyedIndex.Config
