/-!
Entities with their keys, and caches of entities.

In the source, `EntityKey`, `IndexedEntity`, `EntityCache` and `InMemoryEntityCache` (`Cache`).
-/
namespace KeyedIndex

/-! ### Keys

What can be indexed. An entity has a key, and a key has a text, which is the term
under which the index stores the entity and from which the key is read back.
-/

/-- Keys with their texts. -/
class Key (κ : Type) where
  text : κ → String
  ofText? : String → Option κ

/-- Keys that are read back from their texts. -/
class LawfulKey (κ : Type) [Key κ] : Prop where
  ofText?_text : ∀ key : κ, Key.ofText? (Key.text key) = some key

/-- Entities with their keys. -/
class Entity (α : Type) (κ : outParam Type) where
  key : α → κ

instance : Key String where
  text := id
  ofText? := some

instance : LawfulKey String where
  ofText?_text _ := rfl

/-! ### Caches

Caches of entities by their keys. An index that finds a key asks a cache for the
entity; the cache may not know it. A cache may be any partial function of keys; this
one holds entities in memory.
-/

variable {α κ : Type} [DecidableEq κ] [Entity α κ]

/-- Entities with distinct keys. -/
structure Cache (α : Type) where
  entities : List α

def Cache.empty : Cache α := ⟨[]⟩

/-- The entity with a key. -/
def Cache.get? (cache : Cache α) (key : κ) : Option α :=
  cache.entities.find? (fun entity => Entity.key entity = key)

/-- The cache without the entity with a key. -/
def Cache.erase (cache : Cache α) (key : κ) : Cache α :=
  ⟨cache.entities.filter (fun entity => Entity.key entity ≠ key)⟩

/-- The cache with an entity in the place of the one that had its key. -/
def Cache.insert (cache : Cache α) (entity : α) : Cache α :=
  ⟨(cache.erase (Entity.key entity)).entities ++ [entity]⟩

/-- A cache of entities; of those with one key, the last counts. -/
def Cache.ofList (entities : List α) : Cache α := entities.foldl Cache.insert Cache.empty

def Cache.size (cache : Cache α) : Nat := cache.entities.length

end KeyedIndex
