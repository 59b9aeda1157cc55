/-!
Entries: values under names, in the order in which the names first came.
-/
namespace KeyedIndex

variable {β : Type}

/-- Entries with a value under a name, in the place of the one that had the name. -/
def setEntry (name : String) (value : β) : List (String × β) → List (String × β)
  | [] => [(name, value)]
  | (head, found) :: rest =>
    if head = name then (name, value) :: rest else (head, found) :: setEntry name value rest

theorem lookup_setEntry_self (name : String) (value : β) (entries : List (String × β)) :
    (setEntry name value entries).lookup name = some value := by
  fun_induction setEntry name value entries with
  | case1 => simp
  | case2 => simp
  | case3 head found rest differs ih =>
    have apart : (name == head) = false := by simpa using Ne.symm differs
    simp [List.lookup_cons, apart, ih]

theorem lookup_setEntry_of_ne {name other : String} (differs : other ≠ name) (value : β)
    (entries : List (String × β)) :
    (setEntry name value entries).lookup other = entries.lookup other := by
  fun_induction setEntry name value entries with
  | case1 => simp [List.lookup_cons, beq_false_of_ne differs]
  | case2 => simp [List.lookup_cons, beq_false_of_ne differs]
  | case3 head found rest _ ih => simp [List.lookup_cons, ih]

theorem mem_setEntry {name : String} {value : β} {entries : List (String × β)}
    {entry : String × β} (member : entry ∈ setEntry name value entries) :
    entry = (name, value) ∨ entry ∈ entries := by
  fun_induction setEntry name value entries with
  | case1 => exact .inl (List.mem_singleton.mp member)
  | case2 found rest =>
    rcases List.mem_cons.mp member with here | later
    · exact .inl here
    · exact .inr (List.mem_cons_of_mem _ later)
  | case3 head found rest _ ih =>
    rcases List.mem_cons.mp member with rfl | later
    · exact .inr List.mem_cons_self
    · exact (ih later).imp_right (List.mem_cons_of_mem _)

theorem mem_names_setEntry {name other : String} {value : β} {entries : List (String × β)}
    (member : other ∈ (setEntry name value entries).map Prod.fst) :
    other = name ∨ other ∈ entries.map Prod.fst := by
  obtain ⟨entry, inside, rfl⟩ := List.mem_map.mp member
  rcases mem_setEntry inside with rfl | old
  · exact .inl rfl
  · exact .inr (List.mem_map_of_mem old)

theorem nodup_setEntry {name : String} {value : β} {entries : List (String × β)}
    (distinct : (entries.map Prod.fst).Nodup) :
    ((setEntry name value entries).map Prod.fst).Nodup := by
  fun_induction setEntry name value entries with
  | case1 => exact List.nodup_cons.mpr ⟨List.not_mem_nil, List.nodup_nil⟩
  | case2 => exact distinct
  | case3 head found rest differs ih =>
    obtain ⟨absent, others⟩ := List.nodup_cons.mp distinct
    refine List.nodup_cons.mpr ⟨fun member => ?_, ih others⟩
    exact (mem_names_setEntry member).elim differs absent

theorem lookup_eq_some_iff {entries : List (String × β)} (distinct : (entries.map Prod.fst).Nodup)
    {name : String} {value : β} : entries.lookup name = some value ↔ (name, value) ∈ entries := by
  induction entries with
  | nil => simp
  | cons entry rest ih =>
    obtain ⟨head, found⟩ := entry
    obtain ⟨absent, others⟩ := List.nodup_cons.mp distinct
    by_cases same : name = head
    · subst same
      have alone : (name, value) ∉ rest := fun member =>
        absent (List.mem_map.mpr ⟨_, member, rfl⟩)
      simp [alone, eq_comm]
    · simp [List.lookup_cons, beq_false_of_ne same, same, ih others]

/-! ### Entries that are taken away -/

variable {κ : Type} [BEq κ] [LawfulBEq κ] [DecidableEq κ]

theorem lookup_filter_ne (entries : List (κ × β)) {name other : κ} (apart : name ≠ other) :
    (entries.filter (fun entry => entry.1 ≠ other)).lookup name = entries.lookup name := by
  induction entries with
  | nil => rfl
  | cons entry rest ih =>
    obtain ⟨head, found⟩ := entry
    by_cases same : head = other
    · rw [List.filter_cons_of_neg (by simpa using same), ih, List.lookup_cons, same,
        beq_false_of_ne apart]
    · rw [List.filter_cons_of_pos (by simpa using same), List.lookup_cons, List.lookup_cons, ih]

theorem lookup_filter_self (entries : List (κ × β)) (name : κ) :
    (entries.filter (fun entry => entry.1 ≠ name)).lookup name = none := by
  refine List.lookup_eq_none_iff.mpr fun entry member => ?_
  have apart : entry.1 ≠ name := by simpa using (List.mem_filter.mp member).2
  exact bne_iff_ne.mpr (Ne.symm apart)

end KeyedIndex
