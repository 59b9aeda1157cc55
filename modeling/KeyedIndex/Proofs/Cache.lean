import KeyedIndex.Entity
import Mathlib.Data.List.Nodup

/-!
Caches hold one entity for each key. What is put into a cache or taken from it leaves its keys
distinct (`Cache.Distinct`), and an entity that is there is the one that is found by its
key (`Cache.get?_of_mem`).
-/
namespace KeyedIndex

variable {α κ : Type} [Entity α κ] {cache : Cache α} {entity : α} {key : κ}

/-- No two entities have the same key. -/
def Cache.Distinct (cache : Cache α) : Prop := (cache.entities.map Entity.key).Nodup

theorem Cache.distinct_empty : (Cache.empty : Cache α).Distinct := List.nodup_nil

variable [DecidableEq κ]

theorem Cache.mem_erase :
    entity ∈ (cache.erase key).entities ↔ entity ∈ cache.entities ∧ Entity.key entity ≠ key := by
  simp [Cache.erase]

theorem Cache.mem_insert {other : α} :
    entity ∈ (cache.insert other).entities ↔
      (entity ∈ cache.entities ∧ Entity.key entity ≠ Entity.key other) ∨ entity = other := by
  simp [Cache.insert, Cache.mem_erase]

theorem Cache.Distinct.erase (distinct : cache.Distinct) (key : κ) : (cache.erase key).Distinct :=
  distinct.sublist (List.filter_sublist.map _)

theorem Cache.Distinct.insert (distinct : cache.Distinct) (entity : α) :
    (cache.insert entity).Distinct := by
  have rest := distinct.erase (Entity.key entity)
  simp only [Cache.Distinct, Cache.insert, List.map_append, List.map_cons, List.map_nil] at rest ⊢
  refine List.nodup_append.mpr ⟨rest, List.nodup_singleton _, ?_⟩
  intro first firstIn second secondIn same
  obtain ⟨other, otherIn, rfl⟩ := List.mem_map.mp firstIn
  obtain rfl := List.mem_singleton.mp secondIn
  exact (Cache.mem_erase.mp otherIn).2 same

/-- An entity of a cache is found by its key. -/
theorem Cache.get?_of_mem (distinct : cache.Distinct) (member : entity ∈ cache.entities) :
    cache.get? (Entity.key entity) = some entity := by
  cases found : cache.get? (Entity.key entity) with
  | none =>
    have absent := List.find?_eq_none.mp found entity member
    simp at absent
  | some other =>
    have sameKey : Entity.key other = Entity.key entity := by simpa using List.find?_some found
    exact congrArg some
      (List.inj_on_of_nodup_map distinct (List.mem_of_find?_eq_some found) member sameKey)

/-- Among the entities of a cache, one at most has a key. -/
theorem Cache.filter_key (distinct : cache.Distinct) (key : κ) :
    cache.entities.filter (fun entity => Entity.key entity = key) = (cache.get? key).toList := by
  obtain ⟨entities⟩ := cache
  simp only [Cache.Distinct, Cache.get?] at distinct ⊢
  induction entities with
  | nil => rfl
  | cons entity rest ih =>
    obtain ⟨absent, distinctRest⟩ := List.nodup_cons.mp distinct
    by_cases same : Entity.key entity = key
    · have none : rest.filter (fun other => Entity.key other = key) = [] := by
        refine List.filter_eq_nil_iff.mpr fun other member => ?_
        have apart : Entity.key other ≠ Entity.key entity :=
          fun again => absent (again ▸ List.mem_map_of_mem member)
        simpa [← same] using apart
      simp [same, none]
    · simp [same, ih distinctRest]

end KeyedIndex
