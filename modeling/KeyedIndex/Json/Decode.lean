import KeyedIndex.Json.Doc
import KeyedIndex.Number.Integer
import KeyedIndex.Text.Quoted

/-!
Values from JSON texts. A decoder walks through a tree in the order of the text and
stops at the first thing that is wrong: a fault of the text, or a value that does not
fit (`Misfit`). A record is read from an object, whose unknown members are passed
over, or from an array of its fields in order (`Shape.decode`).

In the source, what is derived for the records that are read.
-/
namespace KeyedIndex.Json

def Numeral.describe : Numeral → String
  | .integer number => s!"integer `{Number.decimal number}`"
  | .float number => s!"floating point `{Number.compact number}`"

def Found.describe : Found → String
  | .null => "null"
  | .bool value => s!"boolean `{value}`"
  | .number value => value.describe
  | .text content => s!"string {Text.quote content}"
  | .sequence => "sequence"
  | .map => "map"

/-- Why a well-formed value is not the one that is wanted. -/
inductive Misfit where
  | kind (found : Found) (expected : String)
  | range (number : Int) (expected : String)
  | length (count : Nat) (title : String) (fields : Nat)
  | missing (field : String)
  | repeated (field : String)
  | variant (name first second : String)
  | instant (number : Int)
  | refused (reason : String)

def Misfit.message : Misfit → String
  | .kind found expected => s!"invalid type: {found.describe}, expected {expected}"
  | .range number expected =>
    s!"invalid value: integer `{Number.decimal number}`, expected {expected}"
  | .length count title fields =>
    s!"invalid length {count}, expected {title} with {fields} elements"
  | .missing field => s!"missing field `{field}`"
  | .repeated field => s!"duplicate field `{field}`"
  | .variant name first second =>
    s!"unknown variant `{name}`, expected `{first}` or `{second}`"
  | .instant number => s!"value is not a legal timestamp: {Number.decimal number}"
  | .refused reason => reason

inductive DecodeError where
  | fault (fault : Fault)
  | misfit (misfit : Misfit)

/-- A result that may be a fault of the text. -/
def faulty {α : Type} : Except Fault α → Except DecodeError α
  | .ok value => .ok value
  | .error fault => .error (.fault fault)

def misfit {α : Type} (misfit : Misfit) : Except DecodeError α := .error (.misfit misfit)

/-- Something else stands where a value was expected. -/
def unexpected {α : Type} (doc : Doc) (expected : String) : Except DecodeError α := do
  misfit (.kind (← faulty doc.found) expected)

def decodeText : Doc → Except DecodeError String
  | .scalar (.text content _) => .ok content
  | doc => unexpected doc "a string"

def decodeBool : Doc → Except DecodeError Bool
  | .scalar (.bool value) => .ok value
  | doc => unexpected doc "a boolean"

/-- An integer of an interval, whose name stands in the messages. -/
def decodeInteger (interval : Number.Interval) (title : String) : Doc → Except DecodeError Int
  | .scalar (.number (.integer number)) =>
    if interval.has number then .ok number else misfit (.range number title)
  | doc => unexpected doc title

/-- No value for null. -/
def decodeOptional {α : Type} (decode : Doc → Except DecodeError α) :
    Doc → Except DecodeError (Option α)
  | .scalar .null => .ok none
  | doc => (decode doc).map some

def decodeList {α : Type} (decode : Doc → Except DecodeError α) :
    Doc → Except DecodeError (List α)
  | .array items ending => do
    let values ← items.mapM decode
    faulty ending.check
    return values
  | doc => unexpected doc "a sequence"

/-- The choice between two names. -/
def chooseVariant {α : Type} (first second : String × α) (name : String) :
    Except DecodeError α :=
  if name = first.1 then .ok first.2
  else if name = second.1 then .ok second.2
  else misfit (.variant name first.1 second.1)

/-- One of two names, alone or as the one member of an object whose value is null. -/
def decodeVariant {α : Type} (first second : String × α) : Doc → Except DecodeError α
  | .scalar (.text name _) => chooseVariant first second name
  | .scalar (.cut reading _) => .error (.fault reading)
  | .scalar _ => .error (.fault .malformed)
  | .array _ _ => .error (.fault .malformed)
  | .object [] ending => do
    faulty ending.check
    .error (.fault .malformed)
  | .object ((key, value) :: more) ending => do
    let choice ←
      match key with
      | .name name _ => chooseVariant first second name
      | .unreadable => .error (.fault .malformed)
      | .absent _ _ found => do misfit (.kind (← faulty found) "variant identifier")
    match value with
    | .scalar .null =>
      if !more.isEmpty then .error (.fault .malformed)
      faulty ending.check
      return choice
    | other => unexpected other "unit"

/-! ### Records -/

/-- A field of a record that is being read: `filled` says whether a draft has it, and `fill`
    puts a value into a draft. -/
structure FieldShape (Draft : Type) where
  name : String
  optional : Bool
  filled : Draft → Bool
  fill : Doc → Draft → Except DecodeError Draft

/-- The fields of a record in order, and its name in messages. -/
structure Shape (Draft : Type) where
  title : String
  fields : List (FieldShape Draft)

variable {Draft : Type}

/-- Take the members of an object in order. -/
def fillMembers (fields : List (FieldShape Draft)) :
    List (Key × Doc) → Draft → Except DecodeError Draft
  | [], draft => .ok draft
  | (key, value) :: rest, draft =>
    match key with
    | .unreadable => .error (.fault .malformed)
    | .absent reading _ _ => .error (.fault reading)
    | .name name _ =>
      match fields.find? (fun field => field.name = name) with
      | none => do
        faulty value.pass
        fillMembers fields rest draft
      | some field =>
        if field.filled draft then misfit (.repeated name)
        else do fillMembers fields rest (← field.fill value draft)

/-- Take the items of an array as the fields in order; `count` fields have been taken. Only
    optional fields may be left out at the end. -/
def fillItems (shape : Shape Draft) (ending : Ending) :
    Nat → List (FieldShape Draft) → List Doc → Draft → Except DecodeError Draft
  | _, [], [], draft => do
    faulty ending.check
    return draft
  | _, [], _ :: _, _ => .error (.fault .malformed)
  | count, field :: fields, [], draft => do
    faulty ending.check
    if field.optional then fillItems shape ending (count + 1) fields [] draft
    else misfit (.length count shape.title shape.fields.length)
  | count, field :: fields, item :: items, draft => do
    fillItems shape ending (count + 1) fields items (← field.fill item draft)

/-- The draft of a record, filled from an object or an array. -/
def Shape.decode (shape : Shape Draft) (blank : Draft) : Doc → Except DecodeError Draft
  | .object members ending => do
    let draft ← fillMembers shape.fields members blank
    faulty ending.check
    match shape.fields.find? (fun field => !field.optional && !field.filled draft) with
    | some field => misfit (.missing field.name)
    | none => return draft
  | .array items ending => fillItems shape ending 0 shape.fields items blank
  | doc => unexpected doc shape.title

/-- The value of a whole text, which nothing may follow. -/
def decode {α : Type} (decoder : Doc → Except DecodeError α) (text : String) :
    Except DecodeError α := do
  let (doc, more) := Doc.ofText text
  let value ← decoder doc
  if more then .error (.fault .malformed) else return value

end KeyedIndex.Json
