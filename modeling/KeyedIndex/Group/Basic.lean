import KeyedIndex.Entity
import KeyedIndex.Number.Integer
import KeyedIndex.Text.Basic
import KeyedIndex.Text.Lowercase
import KeyedIndex.Text.Quoted
import KeyedIndex.Time.Instant

/-!
Groups, their identifiers, those of accounts, and the parts of their names.

In the source, `GroupUuid` (`new` is `GroupUuid.ofText`), `AccountId` (`from_str` is
`AccountId.ofText`), `InternalGroup` (`new` is `Group.ofName`) and `name_parts` (`nameParts`).
-/
namespace KeyedIndex

/-! ### Refused texts

Why a text is refused as the identifier of a group or of an account.
-/

inductive InputFault where
  | emptyUuid
  | blankInUuid (text : String)
  | notAnAccount (text : String) (fault : Number.IntegerFault)
deriving DecidableEq

def InputFault.reason : InputFault → String
  | .emptyUuid => "group uuid is empty"
  | .blankInUuid text => s!"group uuid contains whitespace: {Text.quote text}"
  | .notAnAccount text fault => s!"invalid account id {Text.quote text}: {fault.message}"

def InputFault.message (fault : InputFault) : String := "Invalid input: " ++ fault.reason

/-! ### Accounts

The identifier of an account is an integer of 32 bits, written in decimal.
-/

structure AccountId where
  number : Int32
deriving DecidableEq

def AccountId.text (account : AccountId) : String := Number.decimal account.number.toInt

/-- The account with a text, which may have a sign and leading zeros. -/
def AccountId.ofText (text : String) : Except InputFault AccountId :=
  match Number.int32.read text with
  | .ok number => .ok ⟨Int32.ofInt number⟩
  | .error fault => .error (.notAnAccount text fault)

instance : Key AccountId where
  text := AccountId.text
  ofText? text := (AccountId.ofText text).toOption

/-! ### Identifiers

Identifiers of groups. Since an identifier is used as it stands as a term of the index,
it is neither empty nor has a blank in it.
-/

/-- Whether a text has a blank in it. -/
def hasBlank (text : String) : Bool := text.toList.any Text.isBlank

structure GroupUuid where
  text : String
  nonempty : text ≠ ""
  solid : hasBlank text = false
deriving DecidableEq

/-- The identifier with a text. -/
def GroupUuid.ofText (text : String) : Except InputFault GroupUuid :=
  if empty : text = "" then .error .emptyUuid
  else if blank : hasBlank text then .error (.blankInUuid text)
  else .ok ⟨text, empty, by simpa using blank⟩

theorem GroupUuid.ofText_text (uuid : GroupUuid) : GroupUuid.ofText uuid.text = .ok uuid := by
  simp [GroupUuid.ofText, uuid.nonempty, uuid.solid]

instance : Key GroupUuid where
  text uuid := uuid.text
  ofText? text := (GroupUuid.ofText text).toOption

instance : LawfulKey GroupUuid where
  ofText?_text uuid := by simp [Key.ofText?, Key.text, GroupUuid.ofText_text, Except.toOption]

/-! ### Groups

A group is a named set of accounts and of other groups. It keeps its identifier when it
is renamed. Its name is found by its parts, which are the words of the name in
small letters (`Group.nameParts`).
-/

structure Group where
  id : Int32
  uuid : GroupUuid
  name : String
  description : Option String
  /-- The group whose members administer this one. -/
  owner : GroupUuid
  visibleToAll : Bool
  createdOn : Time.Instant
  members : List AccountId
  subgroups : List GroupUuid
deriving DecidableEq

/-- A group that owns itself and has no members. -/
def Group.ofName (id : Int32) (uuid : GroupUuid) (name : String) (createdOn : Time.Instant) :
    Group where
  id := id
  uuid := uuid
  name := name
  description := none
  owner := uuid
  visibleToAll := false
  createdOn := createdOn
  members := []
  subgroups := []

instance : Entity Group GroupUuid where
  key group := group.uuid

/-- The characters between the parts of a name. -/
def separatesName (char : Char) : Bool := char ∈ ['@', '.', '-', ' ', '/', '_']

/-- The parts of a name, distinct and in the order of their bytes. -/
def nameParts (name : String) : List String :=
  Text.sortDistinct ((Text.runs separatesName (Text.lowerChars name.toList)).map String.ofList)

def Group.nameParts (group : Group) : List String := KeyedIndex.nameParts group.name

end KeyedIndex
