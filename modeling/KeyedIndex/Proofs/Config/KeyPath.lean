import KeyedIndex.Config.Layer
import KeyedIndex.Proofs.Text.Runs
import KeyedIndex.Proofs.Text.Sigma
import Mathlib.Data.List.SplitBy
import Mathlib.Data.List.TakeWhile

/-!
Configurations that are changed at a path. A name without points and brackets is no path and stands
for itself (`KeyPath.ofName_single`); what is laid over a configuration under it takes the place of
what was there and leaves all else alone (`Value.at?_assign_single`). A path that is longer makes a
table of what it leads through, or a list (`Value.at?_assign_inner`), so that a value is replaced
under its own name only (`Value.kept_assign`).
-/
namespace KeyedIndex.Config

variable {root value : Value} {name key : String}

/-! ### Names that are no paths -/

/-- A name without points and brackets. -/
def IsSingle (name : String) : Prop := '.' ∉ name.toList ∧ '[' ∉ name.toList

instance (name : String) : Decidable (IsSingle name) := inferInstanceAs (Decidable (_ ∧ _))

theorem bracket_mem_of_isIndex {chars : List Char} (index : isIndex chars = true) : '[' ∈ chars := by
  unfold isIndex at index
  split at index
  · rename_i inner _ split
    exact List.dropLast_subset chars (split ▸ List.mem_cons_self)
  · contradiction

/-- A part without brackets is a name and nothing more. -/
theorem readPart?_eq_some {chars : List Char} {inList : Bool} (noBracket : '[' ∉ chars)
    (read : readPart? chars = some (name, inList)) : name = String.ofList chars ∧ inList = false := by
  unfold readPart? at read
  dsimp only at read
  split at read
  · rename_i legal
    obtain ⟨rfl, rfl⟩ := Prod.mk.inj (Option.some.inj read)
    simp only [Bool.and_eq_true, List.all_eq_true] at legal
    -- What follows the name would be an index, which begins with a bracket.
    have nothing : chars.dropWhile isNameChar = [] := by
      by_contra present
      obtain ⟨index, more, split⟩ := List.exists_cons_of_ne_nil
        (List.splitBy_ne_nil (r := fun left _ => left ≠ ']').mpr present)
      have bracket := bracket_mem_of_isIndex (legal.2 index (split ▸ List.mem_cons_self))
      have inRest : '[' ∈ chars.dropWhile isNameChar := by
        rw [← List.flatten_splitBy (fun left _ => left ≠ ']') (chars.dropWhile isNameChar), split]
        exact List.mem_flatten_of_mem List.mem_cons_self bracket
      exact noBracket ((List.dropWhile_sublist _).subset inRest)
    have whole := List.takeWhile_append_dropWhile (p := isNameChar) (l := chars)
    rw [nothing, List.append_nil] at whole
    exact ⟨by rw [whole], by simp [nothing]⟩
  · contradiction

theorem KeyPath.ofName_single (single : IsSingle name) : KeyPath.ofName name = ⟨[], name, false⟩ := by
  have inside : ∀ char ∈ name.toList, decide (char = '.') = false := by
    intro char member
    refine decide_eq_false fun point => ?_
    exact single.1 (point ▸ member)
  rw [KeyPath.ofName, KeyPath.ofText?, Text.pieces_of_inside inside]
  cases read : readPart? name.toList with
  | none => simp [read]
  | some part =>
    obtain ⟨given, inList⟩ := part
    obtain ⟨rfl, rfl⟩ := readPart?_eq_some single.2 read
    simp [read, KeyPath.ofParts?]

/-- Points and brackets have no other small form, so a name has none if its small form has none. -/
theorem IsSingle.of_lower (single : IsSingle (Text.lower name)) : IsSingle name :=
  ⟨fun point => single.1 (Text.mem_lower_of_small (by decide) point),
    fun bracket => single.2 (Text.mem_lower_of_small (by decide) bracket)⟩

theorem mapM_eq_singleton {α β : Type} {read : α → Option β} {items : List α} {part : β}
    (mapped : items.mapM read = some [part]) : ∃ item, items = [item] ∧ read item = some part := by
  cases items with
  | nil => simp at mapped
  | cons item rest =>
    rw [List.mapM_cons] at mapped
    obtain ⟨first, firstRead, mapped⟩ := Option.bind_eq_some_iff.mp mapped
    obtain ⟨others, othersRead, made⟩ := Option.bind_eq_some_iff.mp mapped
    obtain ⟨rfl, rfl⟩ := List.cons.inj (Option.some.inj made)
    cases rest with
    | nil => exact ⟨item, rfl, firstRead⟩
    | cons next more =>
      rw [List.mapM_cons] at othersRead
      obtain ⟨second, _, othersRead⟩ := Option.bind_eq_some_iff.mp othersRead
      obtain ⟨third, _, made⟩ := Option.bind_eq_some_iff.mp othersRead
      simp at made

theorem KeyPath.ofParts?_direct {parts : List (String × Bool)} {path : KeyPath}
    (made : KeyPath.ofParts? parts = some path) (direct : path.way = [])
    (noList : path.inList = false) : parts = [(path.name, false)] := by
  unfold KeyPath.ofParts? at made
  split at made
  · contradiction
  · obtain rfl := Option.some.inj made
    contradiction
  · obtain rfl := Option.some.inj made
    rfl
  · obtain ⟨inner, _, rfl⟩ := Option.map_eq_some_iff.mp made
    contradiction

/-- A path that neither leads through tables nor into a list is the name itself. -/
theorem KeyPath.name_of_direct (direct : (KeyPath.ofName name).way = [])
    (noList : (KeyPath.ofName name).inList = false) : (KeyPath.ofName name).name = name := by
  cases read : KeyPath.ofText? name with
  | none => simp [KeyPath.ofName, read]
  | some path =>
    rw [KeyPath.ofName, read, Option.getD_some] at direct noList ⊢
    obtain ⟨parts, mapped, made⟩ := Option.bind_eq_some_iff.mp read
    obtain rfl := KeyPath.ofParts?_direct made direct noList
    -- There is one piece only, which is the whole name.
    obtain ⟨piece, pieced, pieceRead⟩ := mapM_eq_singleton mapped
    obtain rfl := Text.eq_of_pieces_eq_singleton pieced
    unfold readPart? at pieceRead
    dsimp only at pieceRead
    split at pieceRead
    · obtain ⟨whole, noIndices⟩ := Prod.mk.inj (Option.some.inj pieceRead)
      have nothing : name.toList.dropWhile isNameChar = [] := by
        simpa using noIndices
      rw [← whole, List.takeWhile_eq_self_iff.mpr (List.dropWhile_eq_nil_iff.mp nothing),
        String.ofList_toList]
    · contradiction

/-! ### What is laid over -/

def Value.isTable : Value → Bool
  | .table _ => true
  | _ => false

theorem Value.over_of_not_isTable (lower : Value) (single : value.isTable = false) :
    Value.over lower value = value := by
  cases value with
  | table entries => contradiction
  | _ => rfl

theorem coverAll_singleton (lower value : Value) (name : String) :
    coverAll lower [(name, value)] = .table (setEntry (Text.lower name)
      (Value.over ((lower.at? (Text.lower name)).getD (.table [])) value) lower.entries) := rfl

/-- A change that makes a table makes one at the end of every way. -/
theorem changeAt_eq_table {change : Value → Value} (made : ∀ value, ∃ entries, change value = .table entries)
    (way : List String) (root : Value) : ∃ entries, changeAt change way root = .table entries := by
  cases way with
  | nil => exact made root
  | cons => exact ⟨_, rfl⟩

theorem Value.at?_assign_direct_of_ne (root value : Value) (differs : Text.lower name ≠ key) :
    (root.assign ⟨[], name, false⟩ value).at? key = root.at? key := by
  have assigned : root.assign ⟨[], name, false⟩ value = coverAll root [(name, value)] := rfl
  rw [assigned, coverAll_singleton, Value.at?, Value.entries,
    lookup_setEntry_of_ne (Ne.symm differs), Value.at?]

/-- A value that is laid over a configuration under a name without a path stands under the small form
    of the name, and nothing else changes. -/
theorem Value.at?_assign_single (root : Value) (name key : String) (single : value.isTable = false) :
    (root.assign ⟨[], name, false⟩ value).at? key =
      if Text.lower name = key then some value else root.at? key := by
  by_cases same : Text.lower name = key
  · have assigned : root.assign ⟨[], name, false⟩ value = coverAll root [(name, value)] := rfl
    rw [if_pos same, assigned, coverAll_singleton, Value.over_of_not_isTable _ single, Value.at?,
      Value.entries, same, lookup_setEntry_self]
  · rw [if_neg same, Value.at?_assign_direct_of_ne root value same]

/-- What stands under a name has been kept, or a list or a table has been made of it. -/
def Kept (before after : Option Value) : Prop :=
  after = before ∨ after = some .list ∨ ∃ entries, after = some (.table entries)

theorem Kept.trans {before middle after : Option Value} (first : Kept before middle)
    (second : Kept middle after) : Kept before after := by
  rcases second with rfl | other
  · exact first
  · exact .inr other

/-- A value in a list, or behind a way through tables, leaves all but the first name of its path
    alone. -/
theorem Value.at?_assign_inner (root value : Value) {path : KeyPath} (key : String)
    (inner : path.way ≠ [] ∨ path.inList = true) :
    Kept (root.at? key) ((root.assign path value).at? key) := by
  obtain ⟨way, name, inList⟩ := path
  cases way with
  | nil =>
    have inside : inList = true := inner.resolve_left (not_not.mpr rfl)
    subst inside
    have assigned : root.assign ⟨[], name, true⟩ value =
        .table (setEntry name .list root.entries) := rfl
    rw [assigned]
    show Kept (root.entries.lookup key) ((setEntry name .list root.entries).lookup key)
    by_cases same : key = name
    · subst same
      exact .inr (.inl (lookup_setEntry_self _ _ _))
    · exact .inl (lookup_setEntry_of_ne same _ _)
  | cons first rest =>
    have made (table : Value) : ∃ entries, (if inList then .table (setEntry name .list table.entries)
        else coverAll table [(name, value)]) = Value.table entries := by
      split
      · exact ⟨_, rfl⟩
      · exact ⟨_, rfl⟩
    obtain ⟨entries, changed⟩ := changeAt_eq_table made rest ((root.at? first).getD .null)
    have assigned : root.assign ⟨first :: rest, name, inList⟩ value =
        .table (setEntry first (.table entries) root.entries) := by
      rw [← changed]
      rfl
    rw [assigned]
    show Kept (root.entries.lookup key) ((setEntry first (.table entries) root.entries).lookup key)
    by_cases same : key = first
    · subst same
      exact .inr (.inr ⟨entries, lookup_setEntry_self _ _ _⟩)
    · exact .inl (lookup_setEntry_of_ne same _ _)

/-- What is laid over a configuration under another name, or at a path that begins with the name,
    makes no other single value of what stands under the name. -/
theorem Value.kept_assign (root value : Value) (differs : Text.lower name ≠ key) :
    Kept (root.at? key) ((root.assign (KeyPath.ofName name) value).at? key) := by
  have named := @KeyPath.name_of_direct name
  generalize KeyPath.ofName name = path at named
  obtain ⟨way, given, inList⟩ := path
  by_cases inner : way ≠ [] ∨ inList = true
  · exact Value.at?_assign_inner root value key inner
  · rw [not_or, not_not, Bool.not_eq_true] at inner
    obtain ⟨rfl, rfl⟩ := inner
    obtain rfl : given = name := named rfl rfl
    exact .inl (Value.at?_assign_direct_of_ne root value differs)

end KeyedIndex.Config
