import KeyedIndex.Group.Json
import KeyedIndex.Proofs.Json.Tree
import KeyedIndex.Proofs.Success

/-!
Groups as JSON. A group is read back from its text as it was (`Group.ofJsonText_print`). Whatever
text a group is read from, all identifiers that stand in the text have been checked
(`Group.UuidAt.read`), so no group has an illegal one and no text with an illegal one is read as a
group (`Group.ofJsonText_legal`).
-/
namespace KeyedIndex

open Json

/-! ### What is written is read -/

theorem decodeInt32_doc (number : Int32) :
    decodeInt32 (Value.integer number.toInt).doc = .ok number := by
  have inside := Number.int32_has number
  rw [decodeInt32, Value.doc, decodeInteger, if_pos inside, Except.map, Int32.ofInt_toInt]

theorem AccountId.decode_doc (account : AccountId) :
    AccountId.decode account.toJson.doc = .ok account := by
  rw [AccountId.decode, AccountId.toJson, decodeInt32_doc]
  rfl

theorem GroupUuid.decode_text (content : String) (plain : Bool) :
    GroupUuid.decode (.scalar (.text content plain)) =
      match GroupUuid.ofText content with
      | .ok uuid => .ok uuid
      | .error fault => misfit (.refused fault.message) := rfl

theorem GroupUuid.decode_doc (uuid : GroupUuid) :
    GroupUuid.decode uuid.toJson.doc = .ok uuid := by
  rw [GroupUuid.toJson, Value.doc, textScalar, GroupUuid.decode_text, GroupUuid.ofText_text]

theorem words_millis (instant : Time.Instant) : words.has instant.millis = true := by
  obtain ⟨lower, upper⟩ := instant.legal
  have least : words.least ≤ Time.earliest := by decide
  have greatest : Time.latest ≤ words.greatest := by decide
  exact Number.Interval.has_iff.mpr ⟨by omega, by omega⟩

theorem decodeInstant_doc (instant : Time.Instant) :
    decodeInstant (Value.integer instant.millis).doc = .ok instant := by
  have inside : words.has instant.millis = true := words_millis instant
  have read : decodeInteger words "a unix timestamp in milliseconds"
      (Value.integer instant.millis).doc = .ok instant.millis := if_pos inside
  have legal : Time.Instant.ofMillis? instant.millis = some instant := dif_pos instant.legal
  rw [decodeInstant]
  change (decodeInteger words _ _ >>= _) = _
  rw [read]
  simp only [bind, Except.bind, legal]
  rfl

theorem decodeList_doc {α : Type} (decode : Doc → Except DecodeError α) (toJson : α → Value)
    (each : ∀ value, decode (toJson value).doc = .ok value) (values : List α) :
    decodeList decode (Value.array (values.map toJson)).doc = .ok values := by
  have all : (itemDocs (values.map toJson)).mapM decode = .ok values := by
    rw [itemDocs_eq_map, List.map_map]
    induction values with
    | nil => rfl
    | cons value rest ih =>
      rw [List.map_cons, List.mapM_cons, ih, Function.comp_apply, each value]
      rfl
  rw [Value.doc, decodeList, all]
  rfl

theorem decodeOptional_doc (description : Option String) :
    decodeOptional decodeText ((description.map Value.text).getD .null).doc = .ok description := by
  cases description <;> rfl

theorem fillMembers_name {Draft : Type} {fields : List (FieldShape Draft)} {name : String}
    {field : FieldShape Draft} (found : fields.find? (fun field => field.name = name) = some field)
    (plain : Bool) (value : Doc) (rest : List (Json.Key × Doc)) {draft next : Draft}
    (blank : field.filled draft = false) (filled : field.fill value draft = .ok next) :
    fillMembers fields ((.name name plain, value) :: rest) draft =
      fillMembers fields rest next := by
  simp only [fillMembers, found, blank, filled, Bool.false_eq_true, if_false]
  rfl

theorem Group.decode_doc (group : Group) : Group.decode group.toJson.doc = .ok group := by
  rw [Group.toJson, Value.doc]
  simp only [memberDocs, Group.decode, Shape.decode, Group.shape]
  rw [fillMembers_name rfl _ _ _ rfl (by simp only [decodeInt32_doc]; rfl),
    fillMembers_name rfl _ _ _ rfl (by simp only [GroupUuid.decode_doc]; rfl),
    fillMembers_name rfl _ _ _ rfl rfl,
    fillMembers_name rfl _ _ _ rfl (by simp only [decodeOptional_doc]; rfl),
    fillMembers_name rfl _ _ _ rfl (by simp only [GroupUuid.decode_doc]; rfl),
    fillMembers_name rfl _ _ _ rfl rfl,
    fillMembers_name rfl _ _ _ rfl (by simp only [decodeInstant_doc]; rfl),
    fillMembers_name rfl _ _ _ rfl (by simp only [decodeList_doc _ _ AccountId.decode_doc]; rfl),
    fillMembers_name rfl _ _ _ rfl (by simp only [decodeList_doc _ _ GroupUuid.decode_doc]; rfl),
    fillMembers]
  rfl

theorem words_toInt (number : Int32) : words.has number.toInt = true := by
  have inside := Number.int32_has number
  rw [Number.Interval.has_iff] at inside ⊢
  simp only [Number.int32, words, Number.int64, Number.nat64] at inside ⊢
  omega

/-- All integers of a group are words. -/
theorem Group.toJson_fits (group : Group) : group.toJson.Fits := by
  have members : ItemsFit (group.members.map AccountId.toJson) := by
    rw [itemsFit_iff]
    intro item member
    obtain ⟨account, _, rfl⟩ := List.mem_map.mp member
    exact words_toInt account.number
  have subgroups : ItemsFit (group.subgroups.map GroupUuid.toJson) := by
    rw [itemsFit_iff]
    intro item member
    obtain ⟨uuid, _, rfl⟩ := List.mem_map.mp member
    trivial
  have description : ((group.description.map Value.text).getD .null).Fits := by
    cases group.description <;> trivial
  exact ⟨words_toInt group.id, trivial, trivial, description, trivial, trivial,
    words_millis group.createdOn, members, subgroups, trivial⟩

/-- A group is read back from its text. -/
theorem Group.ofJsonText_print (group : Group) :
    Group.ofJsonText group.toJson.print = .ok group := by
  rw [Group.ofJsonText, decode_print Group.decode group.toJson_fits, group.decode_doc]

/-! ### What is read was legal -/

variable {Draft : Type}

/-- If an object is read, so is every member that a field is for. -/
theorem fillMembers_fills {fields : List (FieldShape Draft)} {members : List (Json.Key × Doc)}
    {draft result : Draft} (read : fillMembers fields members draft = .ok result) {name : String}
    {plain : Bool} {value : Doc} (member : (.name name plain, value) ∈ members)
    {field : FieldShape Draft} (found : fields.find? (fun field => field.name = name) = some field) :
    ∃ before after, field.fill value before = .ok after := by
  induction members generalizing draft with
  | nil => contradiction
  | cons head rest ih =>
    obtain ⟨key, given⟩ := head
    cases key with
    | unreadable => contradiction
    | absent => contradiction
    | name other otherPlain =>
      have same : (Json.Key.name name plain, value) = (.name other otherPlain, given) →
          name = other ∧ value = given := by
        intro pair
        obtain ⟨keys, values⟩ := Prod.mk.inj pair
        exact ⟨(Json.Key.name.inj keys).1, values⟩
      rw [fillMembers] at read
      split at read
      · rename_i unknown
        obtain ⟨_, _, restRead⟩ := bind_eq_ok.mp read
        rcases List.mem_cons.mp member with here | later
        · obtain ⟨rfl, rfl⟩ := same here
          rw [unknown] at found
          contradiction
        · exact ih restRead later
      · rename_i known knownHere
        split at read
        · contradiction
        · obtain ⟨next, filled, restRead⟩ := bind_eq_ok.mp read
          rcases List.mem_cons.mp member with here | later
          · obtain ⟨rfl, rfl⟩ := same here
            obtain rfl := Option.some.inj (found.symm.trans knownHere)
            exact ⟨draft, next, filled⟩
          · exact ih restRead later

/-- If an array is read as a record, so is every item as the field at its place. -/
theorem fillItems_fills {shape : Shape Draft} {ending : Ending} {count : Nat}
    {fields : List (FieldShape Draft)} {items : List Doc} {draft result : Draft}
    (read : fillItems shape ending count fields items draft = .ok result) {place : Nat} {item : Doc}
    (here : items[place]? = some item) :
    ∃ field, fields[place]? = some field ∧
      ∃ before after, field.fill item before = .ok after := by
  induction items generalizing count fields draft place with
  | nil => simp at here
  | cons head rest ih =>
    cases fields with
    | nil => contradiction
    | cons field fields =>
      obtain ⟨next, filled, restRead⟩ := bind_eq_ok.mp read
      cases place with
      | zero =>
        obtain rfl := Option.some.inj here
        exact ⟨field, rfl, draft, next, filled⟩
      | succ place => exact ih restRead here

/-- If a list is read, so is every item. -/
theorem decodeList_items {α : Type} {decode : Doc → Except DecodeError α} {items : List Doc}
    {ending : Ending} {values : List α} (read : decodeList decode (.array items ending) = .ok values)
    {item : Doc} (member : item ∈ items) : ∃ value, decode item = .ok value := by
  obtain ⟨all, mapped, _⟩ := bind_eq_ok.mp read
  exact exists_ok_of_mapM mapped member

/-- Where the tree of a group has identifiers: as members of an object, at places of an array, or in
    the list of subgroups of either. -/
inductive Group.UuidAt : Doc → Doc → Prop
  | member {name : String} {plain : Bool} {value : Doc} {members : List (Json.Key × Doc)}
    {ending : Ending} (named : name ∈ ["uuid", "owner_group_uuid"])
    (member : (.name name plain, value) ∈ members) : UuidAt (.object members ending) value
  | subgroup {plain : Bool} {items : List Doc} {listEnding : Ending} {value : Doc}
    {members : List (Json.Key × Doc)} {ending : Ending}
    (member : (.name "subgroups" plain, .array items listEnding) ∈ members) (item : value ∈ items) :
    UuidAt (.object members ending) value
  | place {place : Nat} {value : Doc} {items : List Doc} {ending : Ending} (placed : place ∈ [1, 4])
    (item : items[place]? = some value) : UuidAt (.array items ending) value
  | subgroupPlace {items inner : List Doc} {listEnding ending : Ending} {value : Doc}
    (list : items[8]? = some (.array inner listEnding)) (item : value ∈ inner) :
    UuidAt (.array items ending) value

/-- If a group is read, so are all identifiers that its tree has. -/
theorem Group.UuidAt.read {doc value : Doc} (at' : Group.UuidAt doc value) {group : Group}
    (read : Group.decode doc = .ok group) : ∃ uuid, GroupUuid.decode value = .ok uuid := by
  obtain ⟨draft, shaped, _⟩ := bind_eq_ok.mp read
  cases at' with
  | member named member =>
    obtain ⟨filled, fills, _⟩ := bind_eq_ok.mp shaped
    simp only [List.mem_cons, List.not_mem_nil, or_false] at named
    rcases named with rfl | rfl
    -- Both fields are filled with what an identifier is decoded to.
    all_goals
      obtain ⟨before, after, fill⟩ := fillMembers_fills fills member rfl
      obtain ⟨uuid, decoded, _⟩ := bind_eq_ok.mp fill
      exact ⟨uuid, decoded⟩
  | subgroup member item =>
    obtain ⟨filled, fills, _⟩ := bind_eq_ok.mp shaped
    obtain ⟨before, after, fill⟩ := fillMembers_fills fills member rfl
    obtain ⟨uuids, decoded, _⟩ := bind_eq_ok.mp fill
    exact decodeList_items decoded item
  | place placed item =>
    obtain ⟨field, here, before, after, fill⟩ := fillItems_fills shaped item
    simp only [List.mem_cons, List.not_mem_nil, or_false] at placed
    rcases placed with rfl | rfl
    all_goals
      obtain rfl := Option.some.inj here
      obtain ⟨uuid, decoded, _⟩ := bind_eq_ok.mp fill
      exact ⟨uuid, decoded⟩
  | subgroupPlace list item =>
    obtain ⟨field, here, before, after, fill⟩ := fillItems_fills shaped list
    obtain rfl := Option.some.inj here
    obtain ⟨uuids, decoded, _⟩ := bind_eq_ok.mp fill
    exact decodeList_items decoded item

theorem GroupUuid.text_of_ofText {text : String} {uuid : GroupUuid}
    (legal : GroupUuid.ofText text = .ok uuid) : uuid.text = text := by
  unfold GroupUuid.ofText at legal
  split at legal
  · contradiction
  · split at legal
    · contradiction
    · rw [← Except.ok.inj legal]

theorem GroupUuid.text_of_decode {content : String} {plain : Bool} {uuid : GroupUuid}
    (read : GroupUuid.decode (.scalar (.text content plain)) = .ok uuid) : uuid.text = content := by
  rw [GroupUuid.decode_text] at read
  split at read
  · rename_i found legal
    rw [← Except.ok.inj read]
    exact GroupUuid.text_of_ofText legal
  · contradiction

/-- An identifier is not empty and has no blanks. -/
theorem GroupUuid.legal (uuid : GroupUuid) :
    uuid.text ≠ "" ∧ ∀ char ∈ uuid.text.toList, Text.isBlank char = false := by
  refine ⟨uuid.nonempty, fun char member => Bool.eq_false_iff.mpr fun blank => ?_⟩
  exact Bool.eq_false_iff.mp uuid.solid (List.any_eq_true.mpr ⟨char, member, blank⟩)

/-- Every group is read back from its text. A group that is read from any text has only identifiers
    that are not empty and have no blanks, and is read back from the text that is written for it.
    And a text is not read as a group if an identifier in it is empty or has a blank, whether the
    text is an object in any order or an array, and wherever in it the identifier stands. -/
theorem Group.ofJsonText_legal :
    (∀ group : Group, Group.ofJsonText group.toJson.print = .ok group) ∧
    (∀ (text : String) (group : Group), Group.ofJsonText text = .ok group →
      (∀ uuid ∈ group.uuid :: group.owner :: group.subgroups,
        uuid.text ≠ "" ∧ ∀ char ∈ uuid.text.toList, Text.isBlank char = false) ∧
      Group.ofJsonText group.toJson.print = .ok group) ∧
    (∀ (text content : String) (plain : Bool),
      Group.UuidAt (Doc.ofText text).1 (.scalar (.text content plain)) →
      (content = "" ∨ ∃ char ∈ content.toList, Text.isBlank char = true) →
      ∃ error, Group.ofJsonText text = .error error) := by
  refine ⟨Group.ofJsonText_print, fun text group _ => ⟨fun uuid _ => uuid.legal,
    group.ofJsonText_print⟩, fun text content plain stands illegal => ?_⟩
  cases read : Group.ofJsonText text with
  | error fault => exact ⟨fault, rfl⟩
  | ok group =>
    obtain ⟨_, here, _⟩ := bind_eq_ok.mp read
    obtain ⟨uuid, decoded⟩ := stands.read here
    obtain ⟨present, solid⟩ := uuid.legal
    rw [GroupUuid.text_of_decode decoded] at present solid
    rcases illegal with empty | ⟨char, member, blank⟩
    · exact absurd empty present
    · rw [solid char member] at blank
      contradiction

/-- A group with quotes and a control in its name, and an object whose identifier has a blank. -/
theorem Group.ofJsonText_legal_quotes :
    let group := Group.ofName (-1) ⟨"g1", by decide, by decide⟩ "\"\x01\" Ω" .epoch
    Group.ofJsonText group.toJson.print = .ok group ∧
      (∀ uuid ∈ group.uuid :: group.owner :: group.subgroups, uuid.text ≠ "" ∧
        ∀ char ∈ uuid.text.toList, Text.isBlank char = false) ∧
      ∃ error, Group.ofJsonText (Value.object [("name", .text "g"), ("uuid", .text "a b")]).print =
        .error error := by
  intro group
  obtain ⟨round, legal, rejected⟩ := Group.ofJsonText_legal
  have read := round group
  refine ⟨read, (legal _ group read).1, ?_⟩
  refine rejected _ "a b" true ?_ (.inr ⟨' ', by decide, by decide⟩)
  rw [Value.ofText_print (by simp [Value.Fits, MembersFit])]
  exact .member (List.mem_cons_self) (List.mem_cons_of_mem _ List.mem_cons_self)

end KeyedIndex
