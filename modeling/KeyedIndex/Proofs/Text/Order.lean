import KeyedIndex.Text.Basic
import Mathlib

/-!
The order of texts is the lexicographic order of their bytes, which is strict and total
(`before_iff`, `before_trichotomy`). A sorted list of distinct texts holds exactly the
texts that were sorted, in this order (`sortDistinct_pairwise`, `mem_sortDistinct`).
-/
namespace KeyedIndex.Text

theorem bytesBefore_iff (left right : List UInt8) : bytesBefore left right = true ↔ left < right := by
  induction left generalizing right with
  | nil => cases right <;> simp [bytesBefore]
  | cons byte rest ih =>
    cases right with
    | nil => simp [bytesBefore]
    | cons other others =>
      rw [bytesBefore, List.cons_lt_cons_iff]
      by_cases same : byte = other
      · subst same
        simp [ih]
      · rcases UInt8.lt_or_lt_of_ne same with less | greater
        · simp [less]
        · simp [same, greater, UInt8.lt_asymm greater]

/-- One text comes before another if its bytes do. -/
theorem before_iff (left right : String) : before left right = true ↔ bytes left < bytes right :=
  bytesBefore_iff _ _

theorem bytes_injective {left right : String} (same : bytes left = bytes right) : left = right := by
  apply String.toByteArray_inj.mp
  apply ByteArray.ext
  exact Array.toList_inj.mp same

theorem before_irrefl (text : String) : before text text = false := by
  have absurd : ¬ bytes text < bytes text := List.lex_irrefl UInt8.lt_irrefl _
  simpa [← before_iff] using absurd

theorem before_trans {first second third : String} (left : before first second = true)
    (right : before second third = true) : before first third = true := by
  rw [before_iff] at left right ⊢
  exact List.lex_trans UInt8.lt_trans left right

theorem before_asymm {left right : String} (forth : before left right = true) :
    before right left = false := by
  by_contra back
  have both := before_trans forth (by simpa using back)
  simp [before_irrefl] at both

theorem bytesBefore_total (left right : List UInt8) :
    bytesBefore left right = true ∨ left = right ∨ bytesBefore right left = true := by
  induction left generalizing right with
  | nil => cases right <;> simp [bytesBefore]
  | cons byte rest ih =>
    cases right with
    | nil => simp [bytesBefore]
    | cons other others =>
      by_cases same : byte = other
      · subst same
        simpa [bytesBefore] using ih others
      · rcases UInt8.lt_or_lt_of_ne same with less | greater
        · exact .inl (by simp [bytesBefore, less])
        · exact .inr (.inr (by simp [bytesBefore, greater]))

/-- Of two distinct texts, one comes before the other. -/
theorem before_trichotomy (left right : String) :
    before left right = true ∨ left = right ∨ before right left = true := by
  rcases bytesBefore_total (bytes left) (bytes right) with less | same | greater
  · exact .inl less
  · exact .inr (.inl (bytes_injective same))
  · exact .inr (.inr greater)

/-! ### Sorted lists of distinct texts -/

theorem mem_insertDistinct (text other : String) (texts : List String) :
    other ∈ insertDistinct text texts ↔ other = text ∨ other ∈ texts := by
  induction texts with
  | nil => simp [insertDistinct]
  | cons head tail ih =>
    rw [insertDistinct]
    split
    · simp
    · split
      · simp only [List.mem_cons, ih]
        tauto
      · rename_i notBefore notAfter
        -- A text that is neither before nor behind the head is the head itself.
        have same : text = head := by
          rcases before_trichotomy text head with less | same | greater
          · exact absurd less notBefore
          · exact same
          · exact absurd greater notAfter
        simp [same]

theorem insertDistinct_pairwise (text : String) {texts : List String}
    (sorted : texts.Pairwise (before · ·)) : (insertDistinct text texts).Pairwise (before · ·) := by
  induction texts with
  | nil => simp [insertDistinct]
  | cons head tail ih =>
    have behind := (List.pairwise_cons.mp sorted).1
    rw [insertDistinct]
    split
    · rename_i less
      refine List.pairwise_cons.mpr ⟨fun other member => ?_, sorted⟩
      rcases List.mem_cons.mp member with rfl | later
      · exact less
      · exact before_trans less (behind other later)
    · split
      · rename_i greater
        refine List.pairwise_cons.mpr ⟨fun other member => ?_, ih sorted.of_cons⟩
        rcases (mem_insertDistinct text other tail).mp member with rfl | later
        · exact greater
        · exact behind other later
      · exact sorted

theorem length_insertDistinct_le (text : String) (texts : List String) :
    (insertDistinct text texts).length ≤ texts.length + 1 := by
  induction texts with
  | nil => simp [insertDistinct]
  | cons head tail ih =>
    rw [insertDistinct]
    split
    · simp
    · split
      · simpa using ih
      · simp

/-- Sorting keeps all texts and adds none. -/
theorem mem_sortDistinct (text : String) (texts : List String) :
    text ∈ sortDistinct texts ↔ text ∈ texts := by
  induction texts with
  | nil => simp [sortDistinct]
  | cons head tail ih =>
    rw [List.mem_cons, ← ih]
    exact mem_insertDistinct head text (sortDistinct tail)

/-- Every text comes before those behind it, so that no text stands there twice. -/
theorem sortDistinct_pairwise (texts : List String) :
    (sortDistinct texts).Pairwise (before · ·) := by
  induction texts with
  | nil => simp [sortDistinct]
  | cons head tail ih => exact insertDistinct_pairwise head ih

/-- Lists in which every text comes before those behind it are equal if they have the same
    members. -/
theorem eq_of_pairwise_before {first second : List String} (firstSorted : first.Pairwise (before · ·))
    (secondSorted : second.Pairwise (before · ·)) (same : ∀ text, text ∈ first ↔ text ∈ second) :
    first = second := by
  have distinct {texts : List String} (sorted : texts.Pairwise (before · ·)) : texts.Nodup := by
    refine sorted.imp fun {left right} less equal => ?_
    rw [equal, before_irrefl] at less
    contradiction
  have perm := (List.perm_ext_iff_of_nodup (distinct firstSorted) (distinct secondSorted)).mpr same
  refine perm.eq_of_pairwise ?_ firstSorted secondSorted
  intro left right _ _ forth back
  rw [before_asymm forth] at back
  contradiction

theorem length_sortDistinct_le (texts : List String) :
    (sortDistinct texts).length ≤ texts.length := by
  induction texts with
  | nil => simp [sortDistinct]
  | cons head tail ih =>
    have grown := length_insertDistinct_le head (sortDistinct tail)
    simp only [sortDistinct, List.foldr_cons, List.length_cons] at *
    omega

end KeyedIndex.Text
