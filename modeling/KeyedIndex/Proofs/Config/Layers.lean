import KeyedIndex.Config.Layer
import KeyedIndex.Proofs.Config.KeyPath
import Mathlib.Data.List.Nodup

/-!
Layers of configurations. A table whose names are no paths gives each name that it has, in small or
capital letters, its value and leaves all other names alone (`at?_layer`); any other table does so
too, unless it makes a list or a table of what it gives a value to (`kept_layer`). Of the variables
of an environment, the last one with a name counts (`valueOf?_ofEnvironment`).
-/
namespace KeyedIndex.Config

variable {table : Table} {name key mark : String} {value : Value}
  {environment : List (String × String)}

/-- The value that a table gives to a name, in small or capital letters. -/
def valueOf? (name : String) (table : Table) : Option Value :=
  (table.find? fun entry => Text.lower entry.1 = name).map Prod.snd

/-- A table that is laid over others name by name: its names are no paths, no two of them differ in
    their case only, and none of its values is a table itself. -/
structure IsFlat (table : Table) : Prop where
  single : ∀ entry ∈ table, IsSingle entry.1
  once : (table.map fun entry => Text.lower entry.1).Nodup
  values : ∀ entry ∈ table, entry.2.isTable = false

theorem valueOf?_cons_self (name : String) (value : Value) (rest : Table) :
    valueOf? (Text.lower name) ((name, value) :: rest) = some value := by
  simp [valueOf?]

theorem valueOf?_cons_of_ne (differs : Text.lower name ≠ key) (value : Value) (rest : Table) :
    valueOf? key ((name, value) :: rest) = valueOf? key rest := by
  simp [valueOf?, differs]

theorem valueOf?_eq_none (absent : key ∉ table.map fun entry => Text.lower entry.1) :
    valueOf? key table = none := by
  rw [valueOf?, Option.map_eq_none_iff, List.find?_eq_none]
  intro entry member same
  exact absent (List.mem_map.mpr ⟨entry, member, of_decide_eq_true same⟩)

/-- Every name has the value that the table gives to it, and the one from before if it gives none. -/
theorem at?_layer (flat : IsFlat table) (root : Value) (key : String) :
    (layer root table).at? key = (valueOf? key table).or (root.at? key) := by
  obtain ⟨single, once, values⟩ := flat
  induction table generalizing root with
  | nil => rfl
  | cons entry rest ih =>
    obtain ⟨name, value⟩ := entry
    obtain ⟨noPath, singleRest⟩ := List.forall_mem_cons.mp single
    obtain ⟨noTable, valuesRest⟩ := List.forall_mem_cons.mp values
    obtain ⟨absent, onceRest⟩ := List.nodup_cons.mp once
    have laid : layer root ((name, value) :: rest) =
        layer (root.assign ⟨[], name, false⟩ value) rest := by
      rw [← KeyPath.ofName_single noPath]
      rfl
    rw [laid, ih _ singleRest onceRest valuesRest, Value.at?_assign_single root name key noTable]
    by_cases same : Text.lower name = key
    · subst same
      rw [if_pos rfl, valueOf?_eq_none absent, valueOf?_cons_self]
      rfl
    · rw [if_neg same, valueOf?_cons_of_ne same]

/-- Whatever the names and values are, a name has the last single value that the table gives to it,
    or the one from before if it gives none, unless a list or a table is made of it. -/
theorem kept_layer (single : IsSingle key) (root : Value)
    (noTable : ∀ value, valueOf? key table.reverse = some value → value.isTable = false) :
    Kept ((valueOf? key table.reverse).or (root.at? key)) ((layer root table).at? key) := by
  -- The last entry is laid over all others: it gives the value, or keeps the one that is there.
  induction table using List.reverseRecOn with
  | nil => exact .inl rfl
  | append_singleton before entry ih =>
    obtain ⟨name, value⟩ := entry
    have laid : layer root (before ++ [(name, value)]) =
        (layer root before).assign (KeyPath.ofName name) value := by
      rw [layer, List.foldl_append]
      rfl
    rw [List.reverse_append, List.reverse_singleton, List.singleton_append] at noTable ⊢
    rw [laid]
    by_cases same : Text.lower name = key
    · subst same
      have given := valueOf?_cons_self name value before.reverse
      rw [given, KeyPath.ofName_single single.of_lower,
        Value.at?_assign_single _ _ _ (noTable value given), if_pos rfl]
      exact .inl rfl
    · rw [valueOf?_cons_of_ne same] at noTable ⊢
      exact (ih noTable).trans (Value.kept_assign _ _ same)

/-! ### Environments -/

/-- The text of the last variable that has a name behind the mark. -/
def variableText? (mark name : String) (environment : List (String × String)) : Option String :=
  (environment.reverse.find? fun given => variableName? mark given.1 = some name).map Prod.snd

theorem isTable_ofVariable (text : String) : (Value.ofVariable text).isTable = false := by
  unfold Value.ofVariable
  split
  · rfl
  · rfl
  · split
    · rfl
    · split <;> rfl

/-- The name of a variable is in small letters. -/
theorem lower_variableName {given : String} (named : variableName? mark given = some name) :
    Text.lower name = name := by
  unfold variableName? at named
  dsimp only at named
  split at named
  · obtain rfl := Option.some.inj named
    refine Text.lower_eq_self_iff.mpr fun char member => ?_
    rw [String.toList_ofList] at member
    exact Text.small_of_mem_lowerAfter (List.mem_of_mem_drop member)
  · contradiction

theorem ofEnvironment_append (given : String × String) :
    ofEnvironment mark (environment ++ [given]) =
      match variableName? mark given.1 with
      | some name => setEntry name (Value.ofVariable given.2) (ofEnvironment mark environment)
      | none => ofEnvironment mark environment := by
  rw [ofEnvironment, List.foldl_append]
  rfl

theorem lookup_ofEnvironment (mark name : String) (environment : List (String × String)) :
    (ofEnvironment mark environment).lookup name =
      (variableText? mark name environment).map Value.ofVariable := by
  induction environment using List.reverseRecOn with
  | nil => rfl
  | append_singleton before given ih =>
    rw [ofEnvironment_append, variableText?, List.reverse_append, List.reverse_singleton,
      List.singleton_append, List.find?_cons]
    cases named : variableName? mark given.1 with
    | none => simpa [variableText?] using ih
    | some other =>
      by_cases same : other = name
      · subst same
        simp [lookup_setEntry_self]
      · simpa [same, variableText?, lookup_setEntry_of_ne (Ne.symm same)] using ih

theorem mem_ofEnvironment {entry : String × Value} (member : entry ∈ ofEnvironment mark environment) :
    (∃ given ∈ environment, variableName? mark given.1 = some entry.1) ∧
      entry.2.isTable = false := by
  induction environment using List.reverseRecOn with
  | nil => contradiction
  | append_singleton before given ih =>
    rw [ofEnvironment_append] at member
    cases named : variableName? mark given.1 with
    | none =>
      rw [named] at member
      obtain ⟨⟨other, inside, otherNamed⟩, single⟩ := ih member
      exact ⟨⟨other, List.mem_append_left _ inside, otherNamed⟩, single⟩
    | some name =>
      rw [named] at member
      rcases mem_setEntry member with rfl | old
      · exact ⟨⟨given, by simp, named⟩, isTable_ofVariable _⟩
      · obtain ⟨⟨other, inside, otherNamed⟩, single⟩ := ih old
        exact ⟨⟨other, List.mem_append_left _ inside, otherNamed⟩, single⟩

theorem nodup_ofEnvironment (mark : String) (environment : List (String × String)) :
    ((ofEnvironment mark environment).map Prod.fst).Nodup := by
  induction environment using List.reverseRecOn with
  | nil => exact List.nodup_nil
  | append_singleton before given ih =>
    rw [ofEnvironment_append]
    split
    · exact nodup_setEntry ih
    · exact ih

/-- The names of an environment are their own small forms. -/
theorem lower_of_mem_ofEnvironment {entry : String × Value}
    (member : entry ∈ ofEnvironment mark environment) : Text.lower entry.1 = entry.1 := by
  obtain ⟨⟨given, _, named⟩, _⟩ := mem_ofEnvironment member
  exact lower_variableName named

theorem valueOf?_eq_lookup (small : ∀ entry ∈ table, Text.lower entry.1 = entry.1) :
    valueOf? key table = table.lookup key := by
  induction table with
  | nil => rfl
  | cons entry rest ih =>
    obtain ⟨name, value⟩ := entry
    obtain ⟨here, later⟩ := List.forall_mem_cons.mp small
    by_cases same : name = key
    · subst same
      rw [List.lookup_cons_self]
      simpa [here] using valueOf?_cons_self name value rest
    · rw [valueOf?_cons_of_ne (by rwa [here]), ih later, List.lookup_cons,
        beq_false_of_ne (Ne.symm same)]

/-- An environment gives a name the value of the last variable with the name. -/
theorem valueOf?_ofEnvironment (mark key : String) (environment : List (String × String)) :
    valueOf? key (ofEnvironment mark environment) =
      (variableText? mark key environment).map Value.ofVariable := by
  rw [← lookup_ofEnvironment]
  exact valueOf?_eq_lookup fun _ => lower_of_mem_ofEnvironment

/-- The names of an environment are different, so that none is given twice. -/
theorem valueOf?_reverse_ofEnvironment (mark key : String) (environment : List (String × String)) :
    valueOf? key (ofEnvironment mark environment).reverse =
      (variableText? mark key environment).map Value.ofVariable := by
  have distinct := nodup_ofEnvironment mark environment
  have reversed : ((ofEnvironment mark environment).reverse.map Prod.fst).Nodup := by
    rwa [List.map_reverse, List.nodup_reverse]
  have small (entry : String × Value) (member : entry ∈ (ofEnvironment mark environment).reverse) :
      Text.lower entry.1 = entry.1 :=
    lower_of_mem_ofEnvironment (List.mem_reverse.mp member)
  rw [valueOf?_eq_lookup small, ← lookup_ofEnvironment]
  refine Option.ext fun value => ?_
  rw [lookup_eq_some_iff reversed, lookup_eq_some_iff distinct, List.mem_reverse]

/-- An environment is flat if no name behind the mark is a path. -/
theorem isFlat_ofEnvironment (single : ∀ given ∈ environment, ∀ name,
      variableName? mark given.1 = some name → IsSingle name) :
    IsFlat (ofEnvironment mark environment) where
  single entry member := by
    obtain ⟨⟨given, inside, named⟩, _⟩ := mem_ofEnvironment member
    exact single given inside entry.1 named
  once := by
    rw [List.map_congr_left fun _ => lower_of_mem_ofEnvironment]
    exact nodup_ofEnvironment mark environment
  values entry member := (mem_ofEnvironment member).2

end KeyedIndex.Config
