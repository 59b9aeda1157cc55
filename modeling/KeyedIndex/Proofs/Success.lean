import Mathlib.Data.List.Induction

/-!
Results that may be errors or missing. A result made of others is a value only if these are values,
and a run of steps, each of which may be impossible, ends with what all of them keep
(`keeps_foldlM`).
-/
namespace KeyedIndex

variable {ε β γ : Type}

theorem toOption_eq_some {result : Except ε β} {value : β} :
    result.toOption = some value ↔ result = .ok value := by
  cases result <;> simp [Except.toOption]

theorem map_eq_ok {result : Except ε β} {image : β → γ} {value : γ} :
    result.map image = .ok value ↔ ∃ given, result = .ok given ∧ image given = value := by
  cases result <;> simp [Except.map]

theorem bind_eq_ok {first : Except ε β} {next : β → Except ε γ} {value : γ} :
    first >>= next = .ok value ↔ ∃ given, first = .ok given ∧ next given = .ok value := by
  cases first <;> simp [bind, Except.bind]

/-- The error of a result that is one. -/
def fault? : Except ε β → Option ε
  | .error fault => some fault
  | .ok _ => none

@[simp]
theorem fault?_map (result : Except ε β) (image : β → γ) :
    fault? (result.map image) = fault? result := by
  cases result <;> rfl

theorem fault?_eq_some {result : Except ε β} {fault : ε} :
    fault? result = some fault ↔ result = .error fault := by
  cases result <;> simp [fault?]

theorem fault?_eq_none {result : Except ε β} :
    fault? result = none ↔ ∃ value, result = .ok value := by
  cases result <;> simp [fault?]

/-- If all items have a value together, each of them has one. -/
theorem exists_ok_of_mapM {image : β → Except ε γ} {items : List β} {values : List γ}
    (mapped : items.mapM image = .ok values) {item : β} (member : item ∈ items) :
    ∃ value, image item = .ok value := by
  induction items generalizing values with
  | nil => contradiction
  | cons head rest ih =>
    rw [List.mapM_cons] at mapped
    obtain ⟨value, here, restMapped⟩ := bind_eq_ok.mp mapped
    obtain ⟨others, later, _⟩ := bind_eq_ok.mp restMapped
    rcases List.mem_cons.mp member with rfl | inside
    · exact ⟨value, here⟩
    · exact ih later inside

/-- What every step keeps, given the items before it, a run over all items keeps. -/
theorem keeps_foldlM {step : β → γ → Option β} (keeps : List γ → β → Prop) {items : List γ}
    {first last : β} (steps : ∀ before state, before.foldlM step first = some state →
      keeps before state → ∀ item ∈ items, ∀ next, step state item = some next →
        keeps (before ++ [item]) next)
    (start : keeps [] first) (ran : items.foldlM step first = some last) : keeps items last := by
  induction items using List.reverseRecOn generalizing last with
  | nil => exact Option.some.inj ran ▸ start
  | append_singleton before item ih =>
    rw [List.foldlM_append] at ran
    obtain ⟨state, here, stepped⟩ := Option.bind_eq_some_iff.mp ran
    have kept : keeps before state :=
      ih (fun earlier state run kept item member =>
        steps earlier state run kept item (List.mem_append_left _ member)) here
    have member : item ∈ before ++ [item] := List.mem_append_right _ (List.mem_singleton_self _)
    exact steps before state here kept item member last (by simpa using stepped)

end KeyedIndex
