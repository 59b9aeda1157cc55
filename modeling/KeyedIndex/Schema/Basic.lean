import KeyedIndex.Number.Integer
import KeyedIndex.Text.Quoted

/-!
Fields, schemas made of them, and schemas as texts.

In the source, `FieldKind`, `FieldValue`, `FieldDef` (`Field`) and `IndexSchema` (`Schema`;
`new` is `Schema.ofFields`, `directory_name` is `Schema.directoryName`).
-/
namespace KeyedIndex

/-! ### Fields

Fields of an index. The kind of a field says which values it has, how they are
indexed and which operators apply to it; its getter takes the values from an entity,
none if the field is absent and several if it is repeated.
-/

section

inductive FieldKind where
  /-- Text that is matched as a whole, or from its start. -/
  | exact
  /-- Text of small letters that is matched from its start by values in any case. -/
  | prefixed
  /-- Text that is matched by its words. -/
  | fullText
  | integer
  /-- Milliseconds since the start of 1970. -/
  | timestamp
deriving DecidableEq, Repr

def FieldKind.name : FieldKind → String
  | .exact => "exact"
  | .prefixed => "prefix"
  | .fullText => "full_text"
  | .integer => "integer"
  | .timestamp => "timestamp"

def FieldKind.isNumeric : FieldKind → Bool
  | .integer | .timestamp => true
  | .exact | .prefixed | .fullText => false

/-- A value of a field. -/
inductive FieldValue where
  | text (content : String)
  | number (value : Int64)
deriving DecidableEq

def FieldValue.text? : FieldValue → Option String
  | .text content => some content
  | .number _ => none

def FieldValue.number? : FieldValue → Option Int64
  | .number value => some value
  | .text _ => none

/-- A text in a field of numbers or a number in a field of texts does not fit. -/
def FieldValue.fits (value : FieldValue) (kind : FieldKind) : Bool :=
  match value with
  | .text _ => !kind.isNumeric
  | .number _ => kind.isNumeric

structure Field (α : Type) where
  name : String
  kind : FieldKind
  /-- Whether the values can be read back from the index. -/
  stored : Bool
  /-- Whether hits can be ordered by the field. -/
  sortable : Bool
  values : α → List FieldValue

variable {α : Type}

/-- A field that is neither stored nor sortable. -/
def Field.ofKind (kind : FieldKind) (name : String) (values : α → List FieldValue) : Field α :=
  ⟨name, kind, false, false, values⟩

def Field.thatIsStored (field : Field α) : Field α := { field with stored := true }

def Field.thatIsSortable (field : Field α) : Field α := { field with sortable := true }

/-- Whether the field can be the key of an index: its values identify documents as they
    stand, can be read back, and order the hits. -/
def Field.canBeKey (field : Field α) : Bool :=
  field.kind = .exact && field.stored && field.sortable

end

/-! ### Schemas

A schema is the versioned list of the fields of one kind of entities, one of which is the
key. It cannot be changed; another list of fields is another version, which has
a directory of its own.
-/

section

/-- Why a list of fields is no schema. -/
inductive SchemaFault where
  | kindName (name : String)
  | repeatedField (name : String)
  | missingKey (name : String)
  | unfitKey (name : String)
  | unknownVersion (kind : String) (version : UInt32)
deriving DecidableEq

def SchemaFault.reason : SchemaFault → String
  | .kindName name => s!"invalid entity kind name: {Text.quote name}"
  | .repeatedField name => s!"duplicate field: {name}"
  | .missingKey name => s!"missing key field: {name}"
  | .unfitKey name => s!"key field {name} must be exact, stored and sortable"
  | .unknownVersion kind version => s!"unknown {kind} schema version {version.toNat}"

/-- Whether a text can name a kind of entities: it is not empty, and no part of a path. -/
def isKindName (name : String) : Bool :=
  name ≠ "" && name.toList.all (fun char => char ∉ ['/', '\\', '.'])

/-- The first text that stands in a list for a second time, or among those seen before. -/
def firstRepeat (seen : List String) : List String → Option String
  | [] => none
  | text :: rest => if text ∈ seen then some text else firstRepeat (text :: seen) rest

theorem firstRepeat_eq_none_iff (seen texts : List String) :
    firstRepeat seen texts = none ↔ texts.Nodup ∧ ∀ text ∈ texts, text ∉ seen := by
  induction texts generalizing seen with
  | nil => simp [firstRepeat]
  | cons text rest ih =>
    unfold firstRepeat
    split
    · simp_all
    · rw [ih, List.nodup_cons]
      constructor
      · intro ⟨distinct, fresh⟩
        refine ⟨⟨fun again => ?_, distinct⟩, ?_⟩
        · exact fresh text again (.head _)
        · intro other mem
          cases mem with
          | head => assumption
          | tail _ mem => exact fun bad => fresh other mem (.tail _ bad)
      · intro ⟨⟨absent, distinct⟩, fresh⟩
        refine ⟨distinct, fun other mem bad => ?_⟩
        cases bad with
        | head => exact absent mem
        | tail _ bad => exact fresh other (.tail _ mem) bad

structure Schema (α : Type) where
  /-- The kind of the entities. -/
  name : String
  version : UInt32
  fields : List (Field α)
  keyField : Field α
  isKindName_name : isKindName name
  nodup_names : (fields.map Field.name).Nodup
  keyField_mem : keyField ∈ fields
  keyField_canBeKey : keyField.canBeKey

variable {α : Type}

/-- The schema with a list of fields. -/
def Schema.ofFields (name : String) (version : UInt32) (key : String) (fields : List (Field α)) :
    Except SchemaFault (Schema α) :=
  if named : isKindName name then
    match distinct : firstRepeat [] (fields.map Field.name) with
    | some field => .error (.repeatedField field)
    | none =>
      match found : fields.find? (fun field => field.name = key) with
      | none => .error (.missingKey key)
      | some keyField =>
        if fit : keyField.canBeKey then
          .ok {
            name, version, fields, keyField
            isKindName_name := named
            nodup_names := ((firstRepeat_eq_none_iff _ _).mp distinct).1
            keyField_mem := List.mem_of_find?_eq_some found
            keyField_canBeKey := fit }
        else .error (.unfitKey key)
  else .error (.kindName name)

/-- The field with a name. -/
def Schema.field? (schema : Schema α) (name : String) : Option (Field α) :=
  schema.fields.find? (fun field => field.name = name)

/-- The directory of a version of a kind: its name and the version in four digits or more. -/
def directoryName (kind : String) (version : UInt32) : String :=
  kind ++ "_" ++ Number.padded 4 version.toNat

def Schema.directoryName (schema : Schema α) : String :=
  KeyedIndex.directoryName schema.name schema.version

end

/-! ### Texts

Schemas and fields as texts for whoever looks for a fault.
-/

def FieldKind.title : FieldKind → String
  | .exact => "Exact"
  | .prefixed => "Prefix"
  | .fullText => "FullText"
  | .integer => "Integer"
  | .timestamp => "Timestamp"

/-- A title with named members between braces. -/
def displayRecord (title : String) (members : List (String × String)) : String :=
  let shown := members.map (fun (name, value) => name ++ ": " ++ value)
  title ++ " \x7b " ++ ", ".intercalate shown ++ " \x7d"

variable {α : Type}

def Field.display (field : Field α) : String :=
  displayRecord "FieldDef" [
    ("name", Text.quote field.name),
    ("kind", field.kind.title),
    ("stored", toString field.stored),
    ("sortable", toString field.sortable)]

def Schema.display (schema : Schema α) : String :=
  displayRecord "IndexSchema" [
    ("name", Text.quote schema.name),
    ("version", Number.decimal schema.version.toNat),
    ("key", Text.quote schema.keyField.name),
    ("fields", "[" ++ ", ".intercalate (schema.fields.map Field.display) ++ "]")]

end KeyedIndex
