import KeyedIndex.Group.Basic
import KeyedIndex.Json.Decode
import KeyedIndex.Json.Printer

/-!
Groups as JSON. A group is written as an object of all its fields; read, it may be an
object in any order or an array in the order of the fields, and the fields that have a
default may be missing.

In the source, what is derived for `InternalGroup` and `AccountId` (`Group.toJson`,
`Group.ofJsonText`), and `try_from`, by which the identifiers of a group are checked
(`GroupUuid.decode`).
-/
namespace KeyedIndex

def GroupUuid.toJson (uuid : GroupUuid) : Json.Value := .text uuid.text

def AccountId.toJson (account : AccountId) : Json.Value := .integer account.number.toInt

def Group.toJson (group : Group) : Json.Value :=
  .object [
    ("id", .integer group.id.toInt),
    ("uuid", group.uuid.toJson),
    ("name", .text group.name),
    ("description", (group.description.map Json.Value.text).getD .null),
    ("owner_group_uuid", group.owner.toJson),
    ("visible_to_all", .bool group.visibleToAll),
    ("created_on", .integer group.createdOn.millis),
    ("members", .array (group.members.map AccountId.toJson)),
    ("subgroups", .array (group.subgroups.map GroupUuid.toJson))]

def decodeInt32 (doc : Json.Doc) : Except Json.DecodeError Int32 :=
  (Json.decodeInteger Number.int32 "i32" doc).map Int32.ofInt

def AccountId.decode (doc : Json.Doc) : Except Json.DecodeError AccountId :=
  (decodeInt32 doc).map AccountId.mk

def GroupUuid.decode (doc : Json.Doc) : Except Json.DecodeError GroupUuid := do
  match GroupUuid.ofText (← Json.decodeText doc) with
  | .ok uuid => return uuid
  | .error fault => Json.misfit (.refused fault.message)

/-- Any integer, as far as an instant in milliseconds is legal. -/
def decodeInstant (doc : Json.Doc) : Except Json.DecodeError Time.Instant := do
  let words : Number.Interval := ⟨Number.int64.least, Number.nat64.greatest⟩
  let millis ← Json.decodeInteger words "a unix timestamp in milliseconds" doc
  match Time.Instant.ofMillis? millis with
  | some instant => return instant
  | none => Json.misfit (.instant millis)

/-- The fields of a group that have been read so far. -/
structure GroupDraft where
  id : Option Int32 := none
  uuid : Option GroupUuid := none
  name : Option String := none
  description : Option (Option String) := none
  owner : Option GroupUuid := none
  visibleToAll : Option Bool := none
  createdOn : Option Time.Instant := none
  members : Option (List AccountId) := none
  subgroups : Option (List GroupUuid) := none

open Json in
/-- The fields of a group in order. -/
def Group.shape : Shape GroupDraft where
  title := "struct InternalGroup"
  fields := [
    ⟨"id", false, fun draft => draft.id.isSome, fun doc draft => do
      return { draft with id := some (← decodeInt32 doc) }⟩,
    ⟨"uuid", false, fun draft => draft.uuid.isSome, fun doc draft => do
      return { draft with uuid := some (← GroupUuid.decode doc) }⟩,
    ⟨"name", false, fun draft => draft.name.isSome, fun doc draft => do
      return { draft with name := some (← decodeText doc) }⟩,
    ⟨"description", true, fun draft => draft.description.isSome, fun doc draft => do
      return { draft with description := some (← decodeOptional decodeText doc) }⟩,
    ⟨"owner_group_uuid", false, fun draft => draft.owner.isSome, fun doc draft => do
      return { draft with owner := some (← GroupUuid.decode doc) }⟩,
    ⟨"visible_to_all", true, fun draft => draft.visibleToAll.isSome, fun doc draft => do
      return { draft with visibleToAll := some (← decodeBool doc) }⟩,
    ⟨"created_on", false, fun draft => draft.createdOn.isSome, fun doc draft => do
      return { draft with createdOn := some (← decodeInstant doc) }⟩,
    ⟨"members", true, fun draft => draft.members.isSome, fun doc draft => do
      return { draft with members := some (← decodeList AccountId.decode doc) }⟩,
    ⟨"subgroups", true, fun draft => draft.subgroups.isSome, fun doc draft => do
      return { draft with subgroups := some (← decodeList GroupUuid.decode doc) }⟩]

/-- The group of a draft whose required fields are all there. -/
def GroupDraft.group? (draft : GroupDraft) : Option Group := do
  return {
    id := ← draft.id
    uuid := ← draft.uuid
    name := ← draft.name
    description := draft.description.getD none
    owner := ← draft.owner
    visibleToAll := draft.visibleToAll.getD false
    createdOn := ← draft.createdOn
    members := draft.members.getD []
    subgroups := draft.subgroups.getD [] }

def Group.decode (doc : Json.Doc) : Except Json.DecodeError Group := do
  match (← Group.shape.decode {} doc).group? with
  | some group => return group
  | none => .error (.fault .malformed)

/-- The group of a JSON text. -/
def Group.ofJsonText (text : String) : Except Json.DecodeError Group :=
  Json.decode Group.decode text

end KeyedIndex
