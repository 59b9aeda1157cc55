import KeyedIndex.Engine.Snapshot
import KeyedIndex.Entries
import KeyedIndex.Text.Basic

/-!
Trees of folders and files, and what the files of an index hold.

In the source, the file system that it is run on, and the index of the engine (`Commit`).
-/
namespace KeyedIndex

/-! ### Trees

Trees of folders and files. A place is the list of the names on the way from the root. A
path is what one writes to get to a place: its steps may also stay in a folder or lead
up again, and every step but the last must lead into a folder that is there.
-/

section

abbrev FilePath := List String

/-- The step that stays in a folder. -/
def stayStep : String := "."

/-- The step that leads up from a folder; above the root there is nothing but the root. -/
def upStep : String := ".."

/-- The steps between the slashes of a path. A slash at its end asks for a folder. -/
def FilePath.ofText (text : String) : FilePath :=
  let pieces := (Text.pieces (· = '/') text.toList).map String.ofList
  let steps := pieces.filter (· ≠ "")
  if pieces.getLast? = some "" && !steps.isEmpty then steps ++ [stayStep] else steps

/-- The path that a text stands for below a folder; one that begins with a slash starts at
    the root. -/
def FilePath.below (base : FilePath) (text : String) : FilePath :=
  if text.startsWith "/" then .ofText text else base ++ .ofText text

/-- The path of the folder in which the last step stands. -/
def FilePath.parent (path : FilePath) : FilePath :=
  ((path.reverse.dropWhile (· = stayStep)).drop 1).reverse

/-- Whether an entry can have a name: it has at most 255 bytes and is no step. -/
def isEntryName (name : String) : Bool :=
  Text.byteLength name ≤ 255 && name ≠ stayStep && name ≠ upStep

/-- The number of bytes of a path with a slash before each step. -/
def FilePath.byteLength (path : FilePath) : Nat :=
  path.foldl (fun length step => length + 1 + Text.byteLength step) 0

/-- Whether a path leads anywhere: it has at most 4095 bytes, and none that ends it. -/
def FilePath.isUsable (path : FilePath) : Bool :=
  path.byteLength ≤ 4095 && !path.any (fun step => step.toList.contains '\x00')

/-- A file with a content, or a folder with entries. -/
inductive Node (γ : Type) where
  | file (content : γ)
  | folder (entries : List (String × Node γ))

variable {γ : Type}

def Node.entries : Node γ → List (String × Node γ)
  | .folder entries => entries
  | .file _ => []

def Node.isFolder : Node γ → Bool
  | .folder _ => true
  | .file _ => false

/-! ### Places -/

/-- What stands at a place. -/
def Node.at? : FilePath → Node γ → Option (Node γ)
  | [], node => some node
  | name :: rest, node => (node.entries.lookup name).bind (at? rest)

def Node.hasFolder (root : Node γ) (place : FilePath) : Bool :=
  (root.at? place).any Node.isFolder

/-- The tree with a node at a place, and with folders on the way to it. Below a file nothing can
    be put. -/
def Node.put (node : Node γ) : FilePath → Node γ → Node γ
  | _, .file content => .file content
  | [], .folder entries => .folder entries
  | [name], .folder entries => .folder (setEntry name node entries)
  | name :: rest, .folder entries =>
    .folder (setEntry name (put node rest ((entries.lookup name).getD (.folder []))) entries)

/-- The tree without what stands at a place. -/
def Node.remove : FilePath → Node γ → Node γ
  | [name], .folder entries => .folder (entries.filter (fun entry => entry.1 ≠ name))
  | name :: rest, .folder entries =>
    match entries.lookup name with
    | some child => .folder (setEntry name (remove rest child) entries)
    | none => .folder entries
  | _, node => node

/-! ### Paths -/

/-- Where a step leads from a place. -/
def Node.follow? (root : Node γ) (place : FilePath) (step : String) : Option FilePath :=
  if !root.hasFolder place then none
  else if step = stayStep then some place
  else if step = upStep then some place.dropLast
  else if (root.at? (place ++ [step])).isSome then some (place ++ [step])
  else none

/-- The place to which a path leads. -/
def Node.place? (root : Node γ) (path : FilePath) : Option FilePath :=
  if path.isUsable then path.foldlM root.follow? [] else none

/-- What a path leads to. -/
def Node.find? (root : Node γ) (path : FilePath) : Option (Node γ) :=
  (root.place? path).bind (fun place => root.at? place)

def Node.has (root : Node γ) (path : FilePath) : Bool := (root.place? path).isSome

/-- Take a step on a path that shall lead to a folder, and make the folder to which it leads if
    nothing is there. -/
def Node.enter (state : Node γ × Option FilePath) (step : String) : Node γ × Option FilePath :=
  match state with
  | (root, none) => (root, none)
  | (root, some place) =>
    match root.follow? place step with
    | some next => (root, if root.hasFolder next then some next else none)
    | none =>
      if root.hasFolder place && isEntryName step then
        (Node.put (.folder []) (place ++ [step]) root, some (place ++ [step]))
      else (root, none)

/-- The tree with a folder to which a path leads, and the place of the folder. Folders that are
    made on the way remain if the path leads nowhere in the end. -/
def Node.makeFolder (root : Node γ) (path : FilePath) : Node γ × Option FilePath :=
  if path.isUsable then path.foldl Node.enter (root, some []) else (root, none)

/-- The tree with a file at the end of a path, in a folder that is there already. -/
def Node.writeFile? (content : γ) (path : FilePath) (root : Node γ) : Option (Node γ) := do
  let name ← path.getLast?
  let place ← root.place? path.dropLast
  if root.hasFolder place && path.isUsable && isEntryName name
      && !root.hasFolder (place ++ [name]) then
    return Node.put (.file content) (place ++ [name]) root
  else none

end

/-! ### Files

A disk is a tree whose files are texts, or what an index has committed together with
its layout.
-/

/-- What is committed in a directory. -/
structure Commit where
  layout : Layout
  snapshot : Snapshot
  /-- The number by which indexes know their own commits from those of others. -/
  number : Nat
  /-- Whether the files of all segments are there. -/
  complete : Bool

/-- The commit of an index that has just been made. -/
def Commit.first (layout : Layout) : Commit := ⟨layout, [], 0, true⟩

inductive FileContent where
  | text (content : String)
  | index (commit : Commit)

abbrev Disk := Node FileContent

/-- A disk with nothing on it. -/
def Disk.empty : Disk := .folder []

/-- Write a text, and make the folders on the way to it. -/
def Disk.writeText? (disk : Disk) (path : FilePath) (content : String) : Option Disk :=
  Node.writeFile? (.text content) path (disk.makeFolder path.parent).1

end KeyedIndex
