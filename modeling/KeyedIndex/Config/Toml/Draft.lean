import KeyedIndex.Config.Value

/-!
TOML documents that are being read. Tables are made by headers and by dotted names, and
may be named on the way to others before they are made; no table is made twice, and no
name is given twice.
-/
namespace KeyedIndex.Config.Toml

/-- How a table came to be. -/
inductive Origin where
  /-- By a header of its own. -/
  | header
  /-- On the way to a table with a header. -/
  | way
  /-- By a dotted name. -/
  | dotted
deriving DecidableEq

/-- What stands under a name. Of a list of tables only the last one can still grow. -/
inductive Draft where
  | value (value : Value)
  | table (origin : Origin) (entries : List (String × Draft))
  | tables (last : List (String × Draft))

abbrev Drafts := List (String × Draft)

/-- Change the table at the end of a way of headers. -/
def atHeader (change : Drafts → Option Drafts) : List String → Drafts → Option Drafts
  | [], drafts => change drafts
  | name :: way, drafts => do
    let inner ←
      match drafts.lookup name with
      | none => (atHeader change way []).map (Draft.table .way)
      | some (.table origin entries) => (atHeader change way entries).map (Draft.table origin)
      | some (.tables last) => (atHeader change way last).map Draft.tables
      | some (.value _) => none
    return setEntry name inner drafts

/-- Make a table with a header. It may have been named on the way to another. -/
def openTable (name : String) (drafts : Drafts) : Option Drafts :=
  match drafts.lookup name with
  | none => some (setEntry name (.table .header []) drafts)
  | some (.table .way entries) => some (setEntry name (.table .header entries) drafts)
  | _ => none

/-- Add a table to a list of tables. -/
def openItem (name : String) (drafts : Drafts) : Option Drafts :=
  match drafts.lookup name with
  | none | some (.tables _) => some (setEntry name (.tables []) drafts)
  | _ => none

/-- Give a value to a name that has none. -/
def give (name : String) (value : Value) (drafts : Drafts) : Option Drafts :=
  if (drafts.lookup name).isNone then some (setEntry name (.value value) drafts) else none

/-- Give a value to a dotted name. The table in which it stands must be made by dotted names,
    but those on the way to it may have been named by headers. -/
def giveDotted (value : Value) : String → List String → Drafts → Option Drafts
  | name, [], drafts => give name value drafts
  | name, next :: rest, drafts => do
    let inner ←
      match drafts.lookup name with
      | none => (giveDotted value next rest []).map (Draft.table .dotted)
      | some (.table .dotted entries) =>
        (giveDotted value next rest entries).map (Draft.table .dotted)
      | some (.table .way entries) =>
        if rest.isEmpty then none
        else (giveDotted value next rest entries).map (Draft.table .way)
      | some (.tables last) =>
        if rest.isEmpty then none else (giveDotted value next rest last).map Draft.tables
      | _ => none
    return setEntry name inner drafts

mutual
def Draft.finish : Draft → Value
  | .value value => value
  | .table _ entries => .table (finishAll entries)
  | .tables _ => .list

/-- The table that is complete. -/
def finishAll : Drafts → Table
  | [] => []
  | (name, draft) :: rest => (name, draft.finish) :: finishAll rest
end

end KeyedIndex.Config.Toml
