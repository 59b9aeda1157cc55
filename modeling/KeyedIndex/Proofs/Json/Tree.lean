import KeyedIndex.Json.Decode
import KeyedIndex.Proofs.Json.Scan

/-!
Trees of JSON values that have been written. Every value whose integers a word holds is read as the
tree of the value, however deep it is, whatever its texts are, and whether it is written on one line
or on several (`Value.ofText_write`).
-/
namespace KeyedIndex.Json

/-! ### Tokens -/

theorem tokens_cons {char : Char} {more rest : List Char} {token : Token} (solid : isSpace char = false)
    (scanned : scan char more = (token, rest)) : tokens (char :: more) = token :: tokens rest := by
  rw [tokens, if_neg (by simp [solid]), scanned]

theorem tokens_comma (rest : List Char) : tokens (',' :: rest) = .comma :: tokens rest :=
  tokens_cons rfl rfl

theorem tokens_colon (rest : List Char) : tokens (':' :: rest) = .colon :: tokens rest :=
  tokens_cons rfl rfl

theorem tokens_openArray (rest : List Char) : tokens ('[' :: rest) = .openArray :: tokens rest :=
  tokens_cons rfl rfl

theorem tokens_closeArray (rest : List Char) : tokens (']' :: rest) = .closeArray :: tokens rest :=
  tokens_cons rfl rfl

theorem tokens_openObject (rest : List Char) :
    tokens ('\x7b' :: rest) = .openObject :: tokens rest := tokens_cons rfl rfl

theorem tokens_closeObject (rest : List Char) :
    tokens ('\x7d' :: rest) = .closeObject :: tokens rest := tokens_cons rfl rfl

theorem scanWord_self (value : Scalar) (word rest : List Char) :
    scanWord value word (word ++ rest) = (.scalar value, rest) := by
  induction word with
  | nil => cases rest <;> rfl
  | cons char more ih => rw [List.cons_append, scanWord, if_pos rfl, ih]

theorem tokens_writeText (content : String) (rest : List Char) :
    tokens (writeText content ++ rest) = .scalar (textScalar content) :: tokens rest := by
  rw [writeText, List.append_assoc, List.cons_append]
  exact tokens_cons rfl (scan_writeText rest content)

/-- Blanks make no tokens. -/
theorem tokens_spaces (count : Nat) (rest : List Char) :
    tokens (List.replicate count ' ' ++ rest) = tokens rest := by
  induction count with
  | zero => rfl
  | succ count ih =>
    rw [List.replicate_succ, List.cons_append, tokens]
    exact ih

theorem tokens_gap (style : Style) (rest : List Char) : tokens (style.gap ++ rest) = tokens rest := by
  cases style with
  | compact => rfl
  | lines depth =>
    rw [Style.gap, List.cons_append, tokens]
    exact tokens_spaces _ rest

theorem tokens_styleColon (style : Style) (rest : List Char) :
    tokens (style.colon ++ rest) = .colon :: tokens rest := by
  cases style with
  | compact => exact tokens_colon rest
  | lines depth =>
    change tokens (':' :: (List.replicate 1 ' ' ++ rest)) = _
    rw [tokens_colon, tokens_spaces]

/-! ### Values as trees -/

mutual
/-- The tree of a value. -/
def Value.doc : Value → Doc
  | .null => .scalar .null
  | .bool value => .scalar (.bool value)
  | .integer number => .scalar (.number (.integer number))
  | .text content => .scalar (textScalar content)
  | .array items => .array (itemDocs items) .closed
  | .object members => .object (memberDocs members) .closed

def itemDocs : List Value → List Doc
  | [] => []
  | item :: items => item.doc :: itemDocs items

def memberDocs : List (String × Value) → List (Key × Doc)
  | [] => []
  | (name, value) :: members =>
    (.name name (name.toList.all isPlain), value.doc) :: memberDocs members
end

mutual
/-- The integers of a value are words. -/
def Value.Fits : Value → Prop
  | .integer number => words.has number = true
  | .array items => ItemsFit items
  | .object members => MembersFit members
  | .null | .bool _ | .text _ => True

def ItemsFit : List Value → Prop
  | [] => True
  | item :: items => item.Fits ∧ ItemsFit items

def MembersFit : List (String × Value) → Prop
  | [] => True
  | (_, value) :: members => value.Fits ∧ MembersFit members
end

/-! ### From texts to trees -/

/-- The state takes any token that does not end an array as the begin of a value. -/
def State.Expects (state : State) (frames : List Frame) : Prop :=
  ∀ token more, token ≠ .closeArray →
    state.run (token :: more) = (State.ofValue frames token).run more

theorem State.expects_value (frames : List Frame) : (State.value frames).Expects frames := by
  intro token more _
  rfl

theorem State.expects_itemOrEnd (frames : List Frame) :
    (State.itemOrEnd frames).Expects (.items [] :: frames) := by
  intro token more apart
  rw [State.run]
  · cases token <;> first | rfl | contradiction
  · simp

theorem delimited_gap (style : Style) {bracket : Char} (closes : bracket ∈ [']', '\x7d'])
    (rest : List Char) : Delimited (style.gap ++ bracket :: rest) := by
  cases style with
  | compact => exact Delimited.cons (List.mem_cons_of_mem _ (List.mem_append_left ['\n'] closes))
  | lines depth => exact Delimited.cons (by decide)

theorem delimited_writeItems (style : Style) (items : List Value) (rest : List Char) :
    Delimited (writeItems style items ++ rest) := by
  cases items with
  | nil =>
    rw [writeItems, List.append_assoc]
    exact delimited_gap style (by decide) rest
  | cons item items => exact Delimited.cons (by decide)

theorem delimited_writeMembers (style : Style) (members : List (String × Value))
    (rest : List Char) : Delimited (writeMembers style members ++ rest) := by
  cases members with
  | nil =>
    rw [writeMembers, List.append_assoc]
    exact delimited_gap style (by decide) rest
  | cons member members => exact Delimited.cons (by decide)

theorem State.Expects.scalar {state : State} {frames : List Frame} (expects : state.Expects frames)
    {chars rest : List Char} {leaf : Scalar} (scanned : tokens chars = .scalar leaf :: tokens rest) :
    state.run (tokens chars) = (State.after (.scalar leaf) frames).run (tokens rest) := by
  rw [scanned, expects _ _ (by simp)]
  rfl

mutual

/-- A value that has been written is read as its tree. -/
theorem Value.run_write (style : Style) (value : Value) (fits : value.Fits) {state : State}
    {frames : List Frame} (expects : state.Expects frames) {rest : List Char}
    (delimited : Delimited rest) :
    state.run (tokens (value.write style ++ rest)) =
      (State.after value.doc frames).run (tokens rest) := by
  match value with
  | .null => exact expects.scalar (tokens_cons rfl (scanWord_self .null ['u', 'l', 'l'] rest))
  | .bool true =>
    exact expects.scalar (tokens_cons rfl (scanWord_self (.bool true) ['r', 'u', 'e'] rest))
  | .bool false =>
    exact expects.scalar (tokens_cons rfl (scanWord_self (.bool false) ['a', 'l', 's', 'e'] rest))
  | .integer number =>
    obtain ⟨first, more, digits, solid, scanned⟩ := scan_decimal fits delimited
    rw [Value.write, digits]
    exact expects.scalar (tokens_cons solid scanned)
  | .text content => exact expects.scalar (tokens_writeText content rest)
  | .array [] =>
    change state.run (tokens ('[' :: ']' :: rest)) = _
    rw [tokens_openArray, tokens_closeArray, expects _ _ (by simp)]
    rfl
  | .array (item :: items) =>
    rw [Value.write]
    simp only [List.cons_append, List.append_assoc]
    rw [tokens_openArray, tokens_gap, expects _ _ (by simp)]
    change (State.itemOrEnd frames).run _ = _
    rw [item.run_write style.inner fits.1 (State.expects_itemOrEnd frames)
      (delimited_writeItems style items rest)]
    exact run_writeItems style items fits.2 [item.doc] frames rest
  | .object [] =>
    change state.run (tokens ('\x7b' :: '\x7d' :: rest)) = _
    rw [tokens_openObject, tokens_closeObject, expects _ _ (by simp)]
    rfl
  | .object ((name, value) :: members) =>
    rw [Value.write]
    simp only [List.cons_append, List.append_assoc]
    rw [tokens_openObject, tokens_gap, expects _ _ (by simp), tokens_writeText, tokens_styleColon]
    change (State.value (.member [] (.name name _) :: frames)).run _ = _
    rw [value.run_write style.inner fits.1 (State.expects_value _)
      (delimited_writeMembers style members rest)]
    exact run_writeMembers style members fits.2 [(.name name _, value.doc)] frames rest

theorem run_writeItems (style : Style) (items : List Value) (fits : ItemsFit items)
    (before : List Doc) (frames : List Frame) (rest : List Char) :
    (State.afterItem before frames).run (tokens (writeItems style items ++ rest)) =
      (State.after (.array (before.reverse ++ itemDocs items) .closed) frames).run (tokens rest) := by
  match items, fits with
  | [], _ =>
    rw [itemDocs, List.append_nil, writeItems, List.append_assoc, tokens_gap]
    exact congrArg (State.afterItem before frames).run (tokens_closeArray rest)
  | item :: items, ⟨itemFits, itemsFit⟩ =>
    rw [writeItems]
    simp only [List.cons_append, List.append_assoc]
    rw [tokens_comma, tokens_gap]
    change (State.value (.items before :: frames)).run _ = _
    rw [item.run_write style.inner itemFits (State.expects_value _)
      (delimited_writeItems style items rest)]
    change (State.afterItem (item.doc :: before) frames).run _ = _
    rw [run_writeItems style items itemsFit, List.reverse_cons, List.append_assoc]
    rfl

theorem run_writeMembers (style : Style) (members : List (String × Value))
    (fits : MembersFit members) (before : List (Key × Doc)) (frames : List Frame)
    (rest : List Char) :
    (State.afterMember before frames).run (tokens (writeMembers style members ++ rest)) =
      (State.after (.object (before.reverse ++ memberDocs members) .closed) frames).run
        (tokens rest) := by
  match members, fits with
  | [], _ =>
    rw [memberDocs, List.append_nil, writeMembers, List.append_assoc, tokens_gap]
    exact congrArg (State.afterMember before frames).run (tokens_closeObject rest)
  | (name, value) :: members, ⟨valueFits, membersFit⟩ =>
    rw [writeMembers]
    simp only [List.cons_append, List.append_assoc]
    rw [tokens_comma, tokens_gap, tokens_writeText, tokens_styleColon]
    change (State.value (.member before (.name name _) :: frames)).run _ = _
    rw [value.run_write style.inner valueFits (State.expects_value _)
      (delimited_writeMembers style members rest)]
    change (State.afterMember ((.name name _, value.doc) :: before) frames).run _ = _
    rw [run_writeMembers style members membersFit, List.reverse_cons, List.append_assoc]
    rfl

end

/-- A value that has been written is read as the tree of the value, and nothing follows it. -/
theorem Value.ofText_write (style : Style) {value : Value} (fits : value.Fits) :
    Doc.ofText (String.ofList (value.write style)) = (value.doc, false) := by
  have nothing : Delimited [] := by
    intro char member
    contradiction
  have read := value.run_write style fits (State.expects_value []) nothing
  have ended : tokens [] = [] := by rw [tokens]
  rw [List.append_nil, ended] at read
  rw [Doc.ofText, String.toList_ofList, read]
  rfl

theorem Value.ofText_print {value : Value} (fits : value.Fits) :
    Doc.ofText value.print = (value.doc, false) := Value.ofText_write .compact fits

/-- What a decoder makes of the text of a value is what it makes of its tree. -/
theorem decode_print {α : Type} (decoder : Doc → Except DecodeError α) {value : Value}
    (fits : value.Fits) : decode decoder value.print = decoder value.doc := by
  rw [decode, Value.ofText_print fits]
  dsimp only
  cases decoder value.doc <;> rfl

theorem itemDocs_eq_map (items : List Value) : itemDocs items = items.map Value.doc := by
  induction items with
  | nil => rfl
  | cons item items ih => rw [itemDocs, List.map_cons, ih]

theorem itemsFit_iff (items : List Value) : ItemsFit items ↔ ∀ item ∈ items, item.Fits := by
  induction items with
  | nil => simp [ItemsFit]
  | cons item items ih => rw [ItemsFit, List.forall_mem_cons, ih]

theorem membersFit_iff (members : List (String × Value)) :
    MembersFit members ↔ ∀ member ∈ members, member.2.Fits := by
  induction members with
  | nil => simp [MembersFit]
  | cons member members ih => rw [MembersFit, List.forall_mem_cons, ih]

end KeyedIndex.Json
