import KeyedIndex.Schema.Basic

/-!
The columns of an index, and schemas that are bound to them.

In the source, `to_tantivy` (`Schema.layout`), `check_compatible` (`Schema.checkCompatible`) and
the columns that `DocumentCodec` and `QueryCompiler` look up when they are made (`Schema.bind`).
-/
namespace KeyedIndex

/-! ### Layouts

The layout of an index: its columns, as the engine knows them. A schema has a layout,
and an index that exists already can be opened with a schema if the columns agree in
order, name, type and in whether they are stored (`Schema.checkCompatible`).
-/

section

/-- How the text of a column becomes terms: as a whole, or word by word. -/
inductive Analysis where
  | whole
  | words
deriving DecidableEq, Repr

inductive ColumnType where
  | text (analysis : Analysis)
  | number
deriving DecidableEq, Repr

structure Column where
  name : String
  type : ColumnType
  stored : Bool
  sortable : Bool
deriving DecidableEq, Repr

/-- The columns of an index in order. -/
abbrev Layout := List Column

/-- The position of the column with a name. -/
def Layout.position? (layout : Layout) (name : String) : Option Nat :=
  layout.findIdx? (fun column => column.name = name)

/-- A name in front of each of its points and behind it, the first point first. A point behind
    a backslash does not count. -/
def cuts (before : List Char) : List Char → List (String × String)
  | '\\' :: char :: rest => cuts (char :: '\\' :: before) rest
  | '.' :: rest =>
    (String.ofList before.reverse, String.ofList rest) :: cuts ('.' :: before) rest
  | char :: rest => cuts (char :: before) rest
  | [] => []

/-- Characters without the backslashes that stand before points. -/
def barePoints : List Char → List Char
  | '\\' :: '.' :: rest => '.' :: barePoints rest
  | char :: rest => char :: barePoints rest
  | [] => []

/-- The position of the column that a name begins with, up to a point as late as possible, and
    the path behind that point, which would lead into the values of the column. -/
def Layout.reached? (layout : Layout) (name : String) : Option (Nat × String) :=
  match layout.position? name with
  | some column => some (column, "")
  | none =>
    (cuts [] name.toList).reverse.findSome? (fun (front, path) =>
      ((layout.position? front).or
        (layout.position? (String.ofList (barePoints front.toList)))).map (·, path))

def FieldKind.columnType (kind : FieldKind) : ColumnType :=
  if kind.isNumeric then .number
  else .text (if kind = .fullText then .words else .whole)

variable {α : Type}

def Field.column (field : Field α) : Column :=
  ⟨field.name, field.kind.columnType, field.stored, field.sortable⟩

def Schema.layout (schema : Schema α) : Layout := schema.fields.map Field.column

def ColumnType.isText : ColumnType → Bool
  | .text _ => true
  | .number => false

/-- What two layouts have to agree in. -/
def Column.outline (column : Column) : String × Bool × Bool :=
  (column.name, column.type.isText, column.stored)

/-- Why an index does not go with a schema. -/
inductive MismatchFault where
  | layout (kind : String) (version : UInt32)
  | missingField (name : String)
deriving DecidableEq

def MismatchFault.reason : MismatchFault → String
  | .layout kind version =>
    s!"{kind} index on disk does not match schema version {version.toNat}"
  | .missingField name => s!"missing {name} field"

/-- Check that an index with a layout can be opened with the schema. -/
def Schema.checkCompatible (schema : Schema α) (layout : Layout) : Except MismatchFault Unit :=
  if schema.layout.map Column.outline = layout.map Column.outline then .ok ()
  else .error (.layout schema.name schema.version)

end

/-! ### Bindings

Schemas bound to opened indexes. The columns of a schema are found by their names in
the layout of the index, which may have them in another order and may have more.
-/

/-- A schema and the layout of an index that has all its fields. -/
structure Binding (α : Type) where
  schema : Schema α
  layout : Layout
  complete : ∀ field ∈ schema.fields, (layout.position? field.name).isSome

variable {α : Type}

/-- Bind a schema to a layout; the first field that the layout lacks is the fault. -/
def Schema.bind (schema : Schema α) (layout : Layout) : Except MismatchFault (Binding α) :=
  match missing : schema.fields.find? (fun field => (layout.position? field.name).isNone) with
  | some field => .error (.missingField field.name)
  | none => .ok {
      schema, layout
      complete := fun field mem => Option.isSome_iff_ne_none.mpr
        (by simpa using List.find?_eq_none.mp missing field mem) }

/-- The column of a field of the schema. -/
def Binding.column (binding : Binding α) (field : Field α) : Nat :=
  (binding.layout.position? field.name).getD 0

def Binding.keyColumn (binding : Binding α) : Nat := binding.column binding.schema.keyField

end KeyedIndex
