import KeyedIndex.Entity
import KeyedIndex.Schema.Basic
import KeyedIndex.Schema.Layout
import KeyedIndex.Text.Basic
import KeyedIndex.Text.Words

/-!
Documents, the terms under which they are found, and what is read back from them.

In the source, `DocumentCodec` (`to_document` is `Binding.document`, `key_term` is
`Binding.keyTerm`, `to_entity_key` is `Binding.key?`, `to_field_bundle` is `Binding.bundle`) and
`FieldBundle` (`Bundle`); the terms are those that the engine makes of a document.
-/
namespace KeyedIndex

/-! ### Documents

Documents: what the index stores of an entity, as values of columns. A column may have
no value or several, in the order in which they were added.
-/

abbrev Document := List (Nat × FieldValue)

/-- The values of a column. -/
def Document.values (document : Document) (column : Nat) : List FieldValue :=
  document.filterMap (fun (place, value) => if place = column then some value else none)

/-- One value of one column, by which documents are found and deleted. -/
structure Term where
  column : Nat
  value : FieldValue
deriving DecidableEq

/-! ### Terms

The terms under which documents are found. The text of a column is one term or a term
for each of its words, and a very long term is left out. A value of the wrong type is
passed over in a column of texts, but has no place in a column of numbers.
-/

/-- The terms of a text. -/
def Analysis.terms : Analysis → String → List String
  | .whole, text => [text]
  | .words, text => Text.words text

/-- The greatest number of bytes of a term. -/
def termLimit : Nat := 65530

/-- The terms of a value in a column of a type. -/
def ColumnType.terms : ColumnType → FieldValue → List FieldValue
  | .text analysis, .text content =>
    ((analysis.terms content).filter (fun term => Text.byteLength term ≤ termLimit)).map .text
  | .number, .number value => [.number value]
  | _, _ => []

/-- The type of a column. -/
def Layout.type? (layout : Layout) (column : Nat) : Option ColumnType :=
  layout[column]?.map Column.type

/-- The terms of a document. -/
def Layout.terms (layout : Layout) (document : Document) : List Term :=
  document.flatMap (fun (column, value) =>
    match layout.type? column with
    | some type => (type.terms value).map (Term.mk column)
    | none => [])

/-- Whether a document can be indexed: it has no texts in columns of numbers. -/
def Layout.accepts (layout : Layout) (document : Document) : Bool :=
  document.all (fun (column, value) =>
    match layout.type? column, value with
    | some .number, .text _ => false
    | _, _ => true)

/-! ### Bundles

Bundles: the values that are read back from one document, by the names of their
fields. Names are in the order of their bytes, and a name that is present has a value.
-/

structure Bundle where
  entries : List (String × List FieldValue)
deriving DecidableEq

def Bundle.empty : Bundle := ⟨[]⟩

/-- Add a value behind those that a name has already. -/
def insertEntry (name : String) (value : FieldValue) :
    List (String × List FieldValue) → List (String × List FieldValue)
  | [] => [(name, [value])]
  | (head, values) :: rest =>
    if name = head then (head, values ++ [value]) :: rest
    else if Text.before name head then (name, [value]) :: (head, values) :: rest
    else (head, values) :: insertEntry name value rest

def Bundle.insert (bundle : Bundle) (name : String) (value : FieldValue) : Bundle :=
  ⟨insertEntry name value bundle.entries⟩

/-- All values of a field, none if it is absent. -/
def Bundle.get (bundle : Bundle) (name : String) : List FieldValue :=
  (bundle.entries.lookup name).getD []

def Bundle.firstText? (bundle : Bundle) (name : String) : Option String :=
  (bundle.get name).head?.bind FieldValue.text?

def Bundle.firstNumber? (bundle : Bundle) (name : String) : Option Int64 :=
  (bundle.get name).head?.bind FieldValue.number?

def Bundle.contains (bundle : Bundle) (name : String) : Bool :=
  (bundle.entries.lookup name).isSome

def Bundle.names (bundle : Bundle) : List String := bundle.entries.map Prod.fst

def Bundle.size (bundle : Bundle) : Nat := bundle.entries.length

/-! ### Entities and documents

From entities to documents and back to keys and bundles. An entity becomes the values
of all its fields; of a document, the key can be read back and the stored values that
fit their fields.
-/

variable {α κ : Type}

/-- The document of an entity: the values of all fields in order. -/
def Binding.document (binding : Binding α) (entity : α) : Document :=
  binding.schema.fields.flatMap
    (fun field => (field.values entity).map (fun value => (binding.column field, value)))

/-- The term that the document of a key has in the column of the key. -/
def Binding.keyTerm [Key κ] (binding : Binding α) (key : κ) : Term :=
  ⟨binding.keyColumn, .text (Key.text key)⟩

/-- The key of a document, if its first value is a text that can be read as a key. -/
def Binding.key? [Key κ] (binding : Binding α) (document : Document) : Option κ := do
  Key.ofText? (← (← (document.values binding.keyColumn).head?).text?)

/-- Whether the values of a field belong into a bundle: they are stored, and the field is the
    key or among those that are wanted. -/
def Binding.selects (binding : Binding α) (wanted : Option (List String)) (field : Field α) :
    Bool :=
  field.stored && (field.name = binding.schema.keyField.name
    || wanted.all (fun names => field.name ∈ names))

/-- The stored values of a document that fit their fields. -/
def Binding.bundle (binding : Binding α) (document : Document) (wanted : Option (List String)) :
    Bundle :=
  (binding.schema.fields.filter (binding.selects wanted)).foldl (fun bundle field =>
    ((document.values (binding.column field)).filter (fun value => value.fits field.kind)).foldl
      (fun bundle value => bundle.insert field.name value) bundle) Bundle.empty

end KeyedIndex
