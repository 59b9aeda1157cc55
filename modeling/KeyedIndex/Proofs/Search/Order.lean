import KeyedIndex.Proofs.Search.Least
import KeyedIndex.Proofs.Text.Order
import KeyedIndex.Search.Hits

/-!
The order of hits. Keys are ordered by their bytes in one direction or the other, hits without a
key come last, and addresses decide where keys are equal (`Hit.Precedes`). This is the order
by which a search compares hits, and it puts any two hits in one order
(`Hit.notAfter_iff`, `Hit.isTotalOrder`).
-/
namespace KeyedIndex

/-- Whether a key comes before another one by its bytes. -/
def SortOrder.Precedes : SortOrder → String → String → Prop
  | .ascending, left, right => Text.bytes left < Text.bytes right
  | .descending, left, right => Text.bytes right < Text.bytes left

/-- Whether an address comes before another one: by the segment, then by the document. -/
def Address.Precedes (left right : Address) : Prop :=
  left.segment < right.segment ∨
    left.segment = right.segment ∧ left.document < right.document

/-- Whether a hit comes before another one. -/
inductive Hit.Precedes (order : SortOrder) : Hit → Hit → Prop
  | byKey {left right : String} {first second : Address} :
    order.Precedes left right → Precedes order ⟨some left, first⟩ ⟨some right, second⟩
  | keyFirst {key : String} {first second : Address} :
    Precedes order ⟨some key, first⟩ ⟨none, second⟩
  | byAddress {key : Option String} {first second : Address} :
    first.Precedes second → Precedes order ⟨key, first⟩ ⟨key, second⟩

/-! ### Keys and addresses -/

/-- The comparison of keys that a search makes. -/
def SortOrder.before : SortOrder → String → String → Bool
  | .ascending, left, right => Text.before left right
  | .descending, left, right => Text.before right left

theorem SortOrder.before_iff (order : SortOrder) (left right : String) :
    order.before left right = true ↔ order.Precedes left right := by
  cases order <;> exact Text.before_iff _ _

theorem SortOrder.precedes_irrefl (order : SortOrder) (key : String) : ¬ order.Precedes key key := by
  cases order <;> exact List.lex_irrefl UInt8.lt_irrefl _

theorem SortOrder.precedes_trans {order : SortOrder} {first second third : String}
    (left : order.Precedes first second) (right : order.Precedes second third) :
    order.Precedes first third := by
  cases order with
  | ascending => exact List.lex_trans UInt8.lt_trans left right
  | descending => exact List.lex_trans UInt8.lt_trans right left

theorem SortOrder.precedes_trichotomy (order : SortOrder) (left right : String) :
    order.Precedes left right ∨ left = right ∨ order.Precedes right left := by
  simp only [← SortOrder.before_iff]
  cases order with
  | ascending => exact Text.before_trichotomy left right
  | descending =>
    rcases Text.before_trichotomy left right with less | same | greater
    · exact .inr (.inr less)
    · exact .inr (.inl same)
    · exact .inl greater

theorem Address.precedes_irrefl (address : Address) : ¬ address.Precedes address := by
  simp [Address.Precedes]

theorem Address.precedes_trans {first second third : Address} (left : first.Precedes second)
    (right : second.Precedes third) : first.Precedes third := by
  simp only [Address.Precedes] at *
  omega

theorem Address.precedes_trichotomy (left right : Address) :
    left.Precedes right ∨ left = right ∨ right.Precedes left := by
  obtain ⟨leftSegment, leftDocument⟩ := left
  obtain ⟨rightSegment, rightDocument⟩ := right
  simp only [Address.Precedes, Address.mk.injEq]
  omega

theorem Address.before_iff (left right : Address) :
    left.before right = true ↔ left.Precedes right := by
  simp only [Address.before, Address.Precedes]
  split
  · simp
    omega
  · simp
    omega

/-! ### Hits -/

theorem Hit.precedes_irrefl (order : SortOrder) (hit : Hit) : ¬ Hit.Precedes order hit hit := by
  intro before
  cases before with
  | byKey less => exact order.precedes_irrefl _ less
  | byAddress less => exact Address.precedes_irrefl _ less

theorem Hit.precedes_trans {order : SortOrder} {first second third : Hit}
    (left : Hit.Precedes order first second) (right : Hit.Precedes order second third) :
    Hit.Precedes order first third := by
  cases left with
  | byKey less =>
    cases right with
    | byKey later => exact .byKey (SortOrder.precedes_trans less later)
    | keyFirst => exact .keyFirst
    | byAddress _ => exact .byKey less
  | keyFirst =>
    cases right with
    | byAddress _ => exact .keyFirst
  | byAddress less =>
    cases right with
    | byKey later => exact .byKey later
    | keyFirst => exact .keyFirst
    | byAddress later => exact .byAddress (Address.precedes_trans less later)

theorem Hit.precedes_trichotomy (order : SortOrder) (left right : Hit) :
    Hit.Precedes order left right ∨ left = right ∨ Hit.Precedes order right left := by
  obtain ⟨leftKey, leftAddress⟩ := left
  obtain ⟨rightKey, rightAddress⟩ := right
  have sameKey (key : Option String) : Hit.Precedes order ⟨key, leftAddress⟩ ⟨key, rightAddress⟩ ∨
      Hit.mk key leftAddress = ⟨key, rightAddress⟩ ∨
      Hit.Precedes order ⟨key, rightAddress⟩ ⟨key, leftAddress⟩ := by
    rcases Address.precedes_trichotomy leftAddress rightAddress with less | same | greater
    · exact .inl (.byAddress less)
    · exact .inr (.inl (by rw [same]))
    · exact .inr (.inr (.byAddress greater))
  cases leftKey with
  | none =>
    cases rightKey with
    | none => exact sameKey none
    | some _ => exact .inr (.inr .keyFirst)
  | some leftText =>
    cases rightKey with
    | none => exact .inl .keyFirst
    | some rightText =>
      rcases order.precedes_trichotomy leftText rightText with less | same | greater
      · exact .inl (.byKey less)
      · exact same ▸ sameKey (some leftText)
      · exact .inr (.inr (.byKey greater))

theorem Hit.precedes_asymm {order : SortOrder} {left right : Hit}
    (forth : Hit.Precedes order left right) : ¬ Hit.Precedes order right left :=
  fun back => Hit.precedes_irrefl order left (Hit.precedes_trans forth back)

/-- What comes before is not after. -/
theorem Hit.notAfter_of_precedes {order : SortOrder} {left right : Hit}
    (before : Hit.Precedes order left right) : Hit.notAfter order left right = true := by
  cases before with
  | @byKey leftText rightText _ _ less =>
    have apart : leftText ≠ rightText := by
      rintro rfl
      exact order.precedes_irrefl _ less
    have compared := (order.before_iff _ _).mpr less
    cases order <;> simpa [Hit.notAfter, apart, SortOrder.before] using compared
  | keyFirst => rfl
  | @byAddress key first second less =>
    have notBack : second.before first = false := by
      have absurd : ¬ second.Precedes first :=
        fun back => Address.precedes_irrefl _ (Address.precedes_trans less back)
      simpa [← Address.before_iff] using absurd
    cases key <;> simp [Hit.notAfter, notBack]

/-- What comes behind is after. -/
theorem Hit.notAfter_eq_false {order : SortOrder} {left right : Hit}
    (before : Hit.Precedes order left right) : Hit.notAfter order right left = false := by
  cases before with
  | @byKey leftText rightText _ _ less =>
    have apart : rightText ≠ leftText := by
      rintro rfl
      exact order.precedes_irrefl _ less
    have notBack : order.before rightText leftText = false := by
      have absurd : ¬ order.Precedes rightText leftText :=
        fun back => order.precedes_irrefl _ (SortOrder.precedes_trans less back)
      simpa [← SortOrder.before_iff] using absurd
    cases order <;> simpa [Hit.notAfter, apart, SortOrder.before] using notBack
  | keyFirst => rfl
  | @byAddress key first second less =>
    have compared := (Address.before_iff _ _).mpr less
    cases key <;> simp [Hit.notAfter, compared]

theorem Hit.notAfter_refl (order : SortOrder) (hit : Hit) : Hit.notAfter order hit hit = true := by
  have same : hit.address.before hit.address = false := by
    simpa [← Address.before_iff] using Address.precedes_irrefl hit.address
  obtain ⟨key, address⟩ := hit
  cases key <;> simpa [Hit.notAfter] using same

/-- The comparison of a search is the order of hits. -/
theorem Hit.notAfter_iff (order : SortOrder) (left right : Hit) :
    Hit.notAfter order left right = true ↔ left = right ∨ Hit.Precedes order left right := by
  constructor
  · intro compared
    rcases Hit.precedes_trichotomy order left right with less | same | greater
    · exact .inr less
    · exact .inl same
    · simp [Hit.notAfter_eq_false greater] at compared
  · rintro (rfl | less)
    · exact Hit.notAfter_refl order left
    · exact Hit.notAfter_of_precedes less

theorem Hit.isTotalOrder (order : SortOrder) : IsTotalOrder (Hit.notAfter order) where
  trans first second third left right := by
    rw [Hit.notAfter_iff] at left right ⊢
    rcases left with rfl | left
    · exact right
    · rcases right with rfl | right
      · exact .inr left
      · exact .inr (Hit.precedes_trans left right)
  total left right := by
    rw [Bool.or_eq_true, Hit.notAfter_iff, Hit.notAfter_iff]
    rcases Hit.precedes_trichotomy order left right with less | same | greater
    · exact .inl (.inr less)
    · exact .inl (.inl same)
    · exact .inr (.inr greater)
  antisymm left right forth back := by
    rw [Hit.notAfter_iff] at forth back
    rcases forth with same | less
    · exact same
    · rcases back with same | greater
      · exact same.symm
      · exact absurd greater (Hit.precedes_asymm less)

end KeyedIndex
