import KeyedIndex.Proofs.Text.Lowercase

/-!
Small forms within a text. A stretch of a text has the small form that it has by itself exactly
if each of its capital sigmas ends a word in the text if it does by itself
(`lowerBetween_eq_iff`); all other characters have the same small form everywhere.
-/
namespace KeyedIndex.Text

/-- The small form of a character between others, those before it given nearest first. -/
def lowerAt (before : List Char) (char : Char) (after : List Char) : List Char :=
  if char = 'Σ' then [if endsWord before after then 'ς' else 'σ'] else lowerChar char

/-- The small form of a stretch between other characters, those before it given nearest first. -/
def lowerBetween (before : List Char) : List Char → List Char → List Char
  | [], _ => []
  | char :: rest, after =>
    lowerAt before char (rest ++ after) ++ lowerBetween (char :: before) rest after

/-- Whether each capital sigma of a stretch ends a word between other characters exactly if it
    does in the stretch by itself. -/
def SigmasAgree (before chars after : List Char) : Prop :=
  ∀ front back, chars = front ++ 'Σ' :: back →
    endsWord (front.reverse ++ before) (back ++ after) = endsWord front.reverse back

/-! ### Stretches of a text -/

theorem lowerBetween_append (before first second after : List Char) :
    lowerBetween before (first ++ second) after =
      lowerBetween before first (second ++ after) ++
        lowerBetween (first.reverse ++ before) second after := by
  induction first generalizing before with
  | nil => rfl
  | cons char rest ih => simp [lowerBetween, ih]

theorem lowerAfter_eq_lowerBetween (before chars : List Char) :
    lowerAfter before chars = lowerBetween before chars [] := by
  induction chars generalizing before with
  | nil => rfl
  | cons char rest ih => rw [lowerAfter, ih, lowerBetween, List.append_nil, lowerAt]

/-- The small form of a text is made of those of its stretches. -/
theorem lowerChars_append (before chars after : List Char) :
    lowerChars (before ++ (chars ++ after)) =
      lowerBetween [] before (chars ++ after) ++
        (lowerBetween before.reverse chars after ++
          lowerBetween (chars.reverse ++ before.reverse) after []) := by
  simp only [lowerChars, lowerAfter_eq_lowerBetween, lowerBetween_append, List.append_nil]

theorem lowerChars_eq (chars : List Char) : lowerChars chars = lowerBetween [] chars [] :=
  lowerAfter_eq_lowerBetween [] chars

/-! ### Sigmas -/

theorem lowerAt_of_small {before after : List Char} {char : Char} (small : Small char) :
    lowerAt before char after = [char] := by
  rw [lowerAt, if_neg small.1, small.2]

/-- A small character of a text is in the small form of the text. -/
theorem mem_lower_of_small {text : String} {char : Char} (small : Small char)
    (member : char ∈ text.toList) : char ∈ (lower text).toList := by
  obtain ⟨before, after, split⟩ := List.append_of_mem member
  have grouped : text.toList = before ++ ([char] ++ after) := by simpa using split
  have here : char ∈ lowerBetween before.reverse [char] after := by
    simp [lowerBetween, lowerAt_of_small small]
  rw [lower, String.toList_ofList, grouped, lowerChars_append]
  simp [here]

theorem length_lowerAt (before after before' after' : List Char) (char : Char) :
    (lowerAt before char after).length = (lowerAt before' char after').length := by
  unfold lowerAt
  split <;> rfl

/-- The two small forms of a sigma are distinct, and no other character has more than one. -/
theorem lowerAt_eq_iff {before after before' after' : List Char} {char : Char} :
    lowerAt before char after = lowerAt before' char after' ↔
      (char = 'Σ' → endsWord before after = endsWord before' after') := by
  unfold lowerAt
  split
  · rename_i sigma
    cases endsWord before after <;> cases endsWord before' after' <;> simp [sigma]
  · rename_i other
    simp [other]

theorem lowerBetween_congr_iff {before before' chars after after' : List Char} :
    lowerBetween before chars after = lowerBetween before' chars after' ↔
      ∀ front back, chars = front ++ 'Σ' :: back →
        endsWord (front.reverse ++ before) (back ++ after) =
          endsWord (front.reverse ++ before') (back ++ after') := by
  induction chars generalizing before before' with
  | nil => simp [lowerBetween]
  | cons char rest ih =>
    -- The two forms of the first character are equally long, so each side splits behind it.
    rw [lowerBetween, lowerBetween,
      List.append_eq_append_iff_of_size_eq_left (length_lowerAt _ _ _ _ _), lowerAt_eq_iff, ih]
    constructor
    · rintro ⟨here, later⟩ front back split
      rcases List.cons_eq_append_iff.mp split with ⟨rfl, first⟩ | ⟨behind, rfl, inside⟩
      · obtain ⟨rfl, rfl⟩ := List.cons.inj first
        exact here rfl
      · simpa using later behind back inside
    · intro all
      refine ⟨?_, fun front back split => ?_⟩
      · rintro rfl
        exact all [] rest rfl
      · simpa using all (char :: front) back (by rw [split]; rfl)

/-- A stretch has the small form that it has by itself exactly if its sigmas agree. -/
theorem lowerBetween_eq_iff {before chars after : List Char} :
    lowerBetween before chars after = lowerChars chars ↔ SigmasAgree before chars after := by
  rw [lowerChars_eq, lowerBetween_congr_iff]
  simp only [List.append_nil, SigmasAgree]

instance (before chars after : List Char) : Decidable (SigmasAgree before chars after) :=
  decidable_of_iff _ lowerBetween_eq_iff

theorem sigmasAgree_of_not_mem {before chars after : List Char} (none : 'Σ' ∉ chars) :
    SigmasAgree before chars after := by
  rintro front back rfl
  exact absurd (List.mem_append_right front List.mem_cons_self) none

/-- A start whose sigmas agree has the start of the small form of the stretch. -/
theorem lower_prefix_lowerBetween {before start rest after : List Char}
    (agree : SigmasAgree before start (rest ++ after)) :
    (lower (String.ofList start)).toList <+: lowerBetween before (start ++ rest) after := by
  rw [lower, String.toList_ofList, String.toList_ofList, lowerBetween_append,
    lowerBetween_eq_iff.mpr agree]
  exact List.prefix_append _ _

/-! ### Sizes -/

theorem byteLength_append (first second : List Char) :
    byteLength (String.ofList (first ++ second)) =
      byteLength (String.ofList first) + byteLength (String.ofList second) := by
  rw [byteLength_ofList, List.map_append, List.sum_append, byteLength_ofList, byteLength_ofList]

theorem byteLength_lowerAt (before after before' after' : List Char) (char : Char) :
    byteLength (String.ofList (lowerAt before char after)) =
      byteLength (String.ofList (lowerAt before' char after')) := by
  unfold lowerAt
  split
  · cases endsWord before after <;> cases endsWord before' after' <;> rfl
  · rfl

/-- The small form of a stretch has the same size everywhere. -/
theorem byteLength_lowerBetween (before before' chars after after' : List Char) :
    byteLength (String.ofList (lowerBetween before chars after)) =
      byteLength (String.ofList (lowerBetween before' chars after')) := by
  induction chars generalizing before before' with
  | nil => rfl
  | cons char rest ih =>
    rw [lowerBetween, lowerBetween, byteLength_append, byteLength_append,
      byteLength_lowerAt before _ before', ih (char :: before) (char :: before')]

theorem lowerAt_ne_nil (before : List Char) (char : Char) (after : List Char) :
    lowerAt before char after ≠ [] := by
  unfold lowerAt lowerChar
  split
  · simp
  · split <;> simp

theorem lowerBetween_ne_nil {before chars after : List Char} (present : chars ≠ []) :
    lowerBetween before chars after ≠ [] := by
  obtain ⟨char, rest, rfl⟩ := List.exists_cons_of_ne_nil present
  rw [lowerBetween]
  exact List.append_ne_nil_of_left_ne_nil (lowerAt_ne_nil before char _) _

theorem lower_ne_empty {chars : List Char} (present : chars ≠ []) :
    lower (String.ofList chars) ≠ "" := by
  rw [lower, String.toList_ofList, lowerChars_eq]
  intro empty
  exact lowerBetween_ne_nil present (by simpa using congrArg String.toList empty)

end KeyedIndex.Text
