import KeyedIndex.Group.Basic
import KeyedIndex.Predicate.Basic
import KeyedIndex.Schema.Basic

/-!
The fields of groups in their two versions, and the predicates on groups.

In the source, `GroupSchemaDefinitions` (`get` is `GroupSchema.ofVersion`), `flag`,
`GroupMatcher` with `matchable` (`GroupPredicate.matching`) and `GroupPredicates` (`inname` is
`GroupPredicate.namePart`).
-/
namespace KeyedIndex.GroupSchema

/-! ### Fields

The fields of groups. There are two versions: the first has the name, the owner, the
description and the visibility of a group, and the second adds its members.
-/

/-- The kind of groups. -/
def kind : String := "groups"

/-- The text of a truth value. -/
def flag (value : Bool) : String := if value then "1" else "0"

def id : Field Group :=
  (Field.ofKind .integer "id" (fun group => [.number group.id.toInt64])).thatIsStored

def uuid : Field Group :=
  (Field.ofKind .exact "uuid" (fun group => [.text group.uuid.text])).thatIsStored.thatIsSortable

def owner : Field Group :=
  (Field.ofKind .exact "owneruuid" (fun group => [.text group.owner.text])).thatIsStored

def name : Field Group :=
  (Field.ofKind .exact "name" (fun group => [.text group.name])).thatIsStored

/-- The parts of the name. -/
def namePart : Field Group :=
  Field.ofKind .prefixed "inname" (fun group => group.nameParts.map .text)

def description : Field Group :=
  (Field.ofKind .fullText "description"
    (fun group => (group.description.map FieldValue.text).toList)).thatIsStored

def visibleToAll : Field Group :=
  (Field.ofKind .exact "is_visible_to_all"
    (fun group => [.text (flag group.visibleToAll)])).thatIsStored

def createdOn : Field Group :=
  (Field.ofKind .timestamp "created_on"
    (fun group => [.number (Int64.ofInt group.createdOn.millis)])).thatIsStored

def member : Field Group :=
  Field.ofKind .exact "member" (fun group => group.members.map (fun account => .text account.text))

def subgroup : Field Group :=
  Field.ofKind .exact "subgroup" (fun group => group.subgroups.map (fun uuid => .text uuid.text))

def firstFields : List (Field Group) :=
  [id, uuid, owner, name, namePart, description, visibleToAll, createdOn]

def first : Schema Group where
  name := kind
  version := 1
  fields := firstFields
  keyField := uuid
  isKindName_name := by decide
  nodup_names := by decide
  keyField_mem := by simp [firstFields]
  keyField_canBeKey := by decide

def second : Schema Group where
  name := kind
  version := 2
  fields := firstFields ++ [member, subgroup]
  keyField := uuid
  isKindName_name := by decide
  nodup_names := by decide
  keyField_mem := by simp [firstFields]
  keyField_canBeKey := by decide

def latest : Schema Group := second

def ofVersion (version : UInt32) : Except SchemaFault (Schema Group) :=
  if version = 1 then .ok first
  else if version = 2 then .ok second
  else .error (.unknownVersion kind version)

end KeyedIndex.GroupSchema

namespace KeyedIndex.GroupPredicate

/-! ### Predicates

Predicates on groups. All but the one on the description can be evaluated on a group
at hand, so that the same predicate filters groups with and without the index.
-/

/-- A leaf with a matcher. -/
def matching (field : Field Group) (operator : Operator) (value : String) (test : Group → Bool) :
    Predicate Group :=
  .leaf ⟨field.name, operator, value, some ⟨field.name, test, usualCost⟩⟩

def uuid (uuid : GroupUuid) : Predicate Group :=
  matching GroupSchema.uuid .equals uuid.text (fun group => group.uuid.text = uuid.text)

def id (id : Int32) : Predicate Group :=
  let text := Number.decimal id.toInt
  matching GroupSchema.id .equals text (fun group => Number.decimal group.id.toInt = text)

def name (name : String) : Predicate Group :=
  matching GroupSchema.name .equals name (fun group => group.name = name)

/-- Groups with a part of their name that starts with a text in any case. -/
def namePart (part : String) : Predicate Group :=
  let start := Text.lower part
  matching GroupSchema.namePart .startsWith start
    (fun group => group.nameParts.any (fun part => start.toList.isPrefixOf part.toList))

/-- Groups with all words of a text in their description. -/
def description (text : String) : Predicate Group :=
  .onField GroupSchema.description.name .contains text

def owner (owner : GroupUuid) : Predicate Group :=
  matching GroupSchema.owner .equals owner.text (fun group => group.owner.text = owner.text)

def member (account : AccountId) : Predicate Group :=
  matching GroupSchema.member .equals account.text
    (fun group => group.members.any (fun member => member.text = account.text))

def subgroup (subgroup : GroupUuid) : Predicate Group :=
  matching GroupSchema.subgroup .equals subgroup.text
    (fun group => group.subgroups.any (fun uuid => uuid.text = subgroup.text))

def visibleToAll (visible : Bool) : Predicate Group :=
  let text := GroupSchema.flag visible
  matching GroupSchema.visibleToAll .equals text
    (fun group => GroupSchema.flag group.visibleToAll = text)

end KeyedIndex.GroupPredicate
