import KeyedIndex.Proofs.Success
import KeyedIndex.Storage.Disk
import Mathlib.Data.List.Basic

/-!
Trees that grow. To put something where no folder stands changes what stands there and
nothing beside it (`Node.at?_put_self`, `Node.at?_put_sibling`), and takes no folder and no
entry away (`Node.grows_put`). In a tree that has grown, a path leads where it led before
(`Node.Grows.place?`); the folder that is made for a path is where the path leads
(`Node.makeFolder_spec`).
-/
namespace KeyedIndex

variable {γ : Type} {node root before after : Node γ} {place : FilePath} {name : String}

/-! ### What stands at a place -/

theorem Node.at?_append (root : Node γ) (place rest : FilePath) :
    root.at? (place ++ rest) = (root.at? place).bind (Node.at? rest) := by
  induction place generalizing root with
  | nil => rfl
  | cons step more ih =>
    simp only [List.cons_append, Node.at?]
    cases root.entries.lookup step with
    | none => rfl
    | some child => exact ih child

theorem Node.isFolder_iff : node.isFolder = true ↔ ∃ entries, node = .folder entries := by
  cases node <;> simp [Node.isFolder]

theorem Node.hasFolder_cons {step : String} :
    root.hasFolder (step :: place) =
      (root.entries.lookup step).any (fun child => child.hasFolder place) := by
  simp only [Node.hasFolder, Node.at?]
  cases root.entries.lookup step <;> rfl

theorem Node.isSome_at?_of_hasFolder (folder : root.hasFolder place) : (root.at? place).isSome := by
  unfold Node.hasFolder at folder
  cases here : root.at? place with
  | none => simp [here] at folder
  | some found => rfl

/-- What stands on the way to an entry is a folder. -/
theorem Node.hasFolder_of_append {rest : FilePath} (folder : root.hasFolder (place ++ rest)) :
    root.hasFolder place := by
  cases rest with
  | nil => simpa using folder
  | cons step more =>
    rw [Node.hasFolder, Node.at?_append] at folder
    rw [Node.hasFolder]
    cases here : root.at? place with
    | none => simp [here] at folder
    | some found =>
      cases found with
      | folder entries => rfl
      | file content => simp [here, Node.at?, Node.entries] at folder

theorem Node.isFolder_of_hasFolder (folder : root.hasFolder place) : root.isFolder := by
  have path : root.hasFolder ([] ++ place) := folder
  exact Node.hasFolder_of_append path

theorem Node.put_cons {step : String} {entries : List (String × Node γ)} (inner : place ≠ []) :
    Node.put node (step :: place) (.folder entries) =
      .folder (setEntry step (Node.put node place ((entries.lookup step).getD (.folder []))) entries) := by
  cases place with
  | nil => contradiction
  | cons => rfl

/-- What has been put at a place stands there. -/
theorem Node.at?_put_self (node : Node γ) (name : String) (folder : root.hasFolder place) :
    (Node.put node (place ++ [name]) root).at? (place ++ [name]) = some node := by
  induction place generalizing root with
  | nil =>
    obtain ⟨entries, rfl⟩ := Node.isFolder_iff.mp folder
    simp [Node.put, Node.at?, Node.entries, lookup_setEntry_self]
  | cons step rest ih =>
    obtain ⟨entries, rfl⟩ := Node.isFolder_iff.mp (Node.isFolder_of_hasFolder folder)
    rw [Node.hasFolder_cons] at folder
    obtain ⟨child, found, inside⟩ := (Option.any_eq_true _ _).mp folder
    simp only [Node.entries] at found
    rw [List.cons_append, Node.put_cons (by simp), Node.at?]
    simp [Node.entries, lookup_setEntry_self, found, ih inside]

/-- Beside the place everything stands as before. -/
theorem Node.at?_put_sibling (node : Node γ) {other : String} (folder : root.hasFolder place)
    (apart : other ≠ name) :
    (Node.put node (place ++ [name]) root).at? (place ++ [other]) = root.at? (place ++ [other]) := by
  induction place generalizing root with
  | nil =>
    obtain ⟨entries, rfl⟩ := Node.isFolder_iff.mp folder
    simp [Node.put, Node.at?, Node.entries, lookup_setEntry_of_ne apart]
  | cons step rest ih =>
    obtain ⟨entries, rfl⟩ := Node.isFolder_iff.mp (Node.isFolder_of_hasFolder folder)
    rw [Node.hasFolder_cons] at folder
    obtain ⟨child, found, inside⟩ := (Option.any_eq_true _ _).mp folder
    simp only [Node.entries] at found
    rw [List.cons_append, List.cons_append, Node.put_cons (by simp), Node.at?, Node.at?]
    simp [Node.entries, lookup_setEntry_self, found, ih inside]

/-! ### Growth -/

/-- A tree that has grown has all folders and all entries that it had. -/
structure Node.Grows (before after : Node γ) : Prop where
  folder : ∀ place, before.hasFolder place → after.hasFolder place
  entry : ∀ place, (before.at? place).isSome → (after.at? place).isSome

theorem Node.Grows.refl (root : Node γ) : root.Grows root := ⟨fun _ => id, fun _ => id⟩

theorem Node.Grows.trans {middle : Node γ} (first : before.Grows middle)
    (second : middle.Grows after) : before.Grows after where
  folder place here := second.folder place (first.folder place here)
  entry place here := second.entry place (first.entry place here)

theorem Node.grows_folder {entries others : List (String × Node γ)}
    (each : ∀ step child, entries.lookup step = some child →
      ∃ other, others.lookup step = some other ∧ child.Grows other) :
    (Node.folder entries).Grows (.folder others) := by
  constructor
  · intro place here
    cases place with
    | nil => rfl
    | cons step rest =>
      rw [Node.hasFolder_cons] at here ⊢
      obtain ⟨child, found, inside⟩ := (Option.any_eq_true _ _).mp here
      obtain ⟨other, later, grows⟩ := each step child found
      exact (Option.any_eq_true _ _).mpr ⟨other, later, grows.folder rest inside⟩
  · intro place here
    cases place with
    | nil => rfl
    | cons step rest =>
      simp only [Node.at?, Node.entries] at here ⊢
      cases found : entries.lookup step with
      | none => simp [found] at here
      | some child =>
        obtain ⟨other, later, grows⟩ := each step child found
        rw [found] at here
        rw [later]
        exact grows.entry rest here

theorem Node.grows_of_not_isFolder (node : Node γ) (file : root.isFolder = false) :
    root.Grows node := by
  cases root with
  | folder entries => simp [Node.isFolder] at file
  | file content =>
    constructor
    · intro place here
      cases place with
      | nil => simp [Node.hasFolder, Node.at?, Node.isFolder] at here
      | cons step rest => simp [Node.hasFolder, Node.at?, Node.entries] at here
    · intro place here
      cases place with
      | nil => rfl
      | cons step rest => simp [Node.at?, Node.entries] at here

/-- To put something where no folder stands takes nothing away. -/
theorem Node.grows_put (node : Node γ) (folder : root.hasFolder place)
    (free : root.hasFolder (place ++ [name]) = false) :
    root.Grows (Node.put node (place ++ [name]) root) := by
  induction place generalizing root with
  | nil =>
    obtain ⟨entries, rfl⟩ := Node.isFolder_iff.mp folder
    refine Node.grows_folder fun step child found => ?_
    by_cases same : step = name
    · subst same
      refine ⟨node, lookup_setEntry_self _ _ _, Node.grows_of_not_isFolder node ?_⟩
      simpa [Node.hasFolder, Node.at?, Node.entries, found] using free
    · exact ⟨child, (lookup_setEntry_of_ne same _ _).trans found, .refl child⟩
  | cons next rest ih =>
    obtain ⟨entries, rfl⟩ := Node.isFolder_iff.mp (Node.isFolder_of_hasFolder folder)
    rw [List.cons_append, Node.hasFolder_cons] at free
    rw [Node.hasFolder_cons] at folder
    obtain ⟨inner, innerFound, inside⟩ := (Option.any_eq_true _ _).mp folder
    simp only [Node.entries] at innerFound free
    rw [List.cons_append, Node.put_cons (by simp)]
    refine Node.grows_folder fun step child found => ?_
    by_cases same : step = next
    · subst same
      obtain rfl : inner = child := Option.some.inj (innerFound.symm.trans found)
      refine ⟨_, lookup_setEntry_self _ _ _, ?_⟩
      rw [found, Option.getD_some]
      exact ih inside (by simpa [found] using free)
    · exact ⟨child, (lookup_setEntry_of_ne same _ _).trans found, .refl child⟩

/-! ### Paths -/

/-- A step that is the name of an entry. -/
def IsPlain (step : String) : Prop := step ≠ stayStep ∧ step ≠ upStep

/-- Where a step leads. -/
inductive Leads (root : Node γ) (place : FilePath) : String → FilePath → Prop
  | stay : Leads root place stayStep place
  | up : Leads root place upStep place.dropLast
  | down {step} (plain : IsPlain step) (present : (root.at? (place ++ [step])).isSome) :
    Leads root place step (place ++ [step])

theorem Node.follow?_eq_some {step : String} {next : FilePath} :
    root.follow? place step = some next ↔ root.hasFolder place ∧ Leads root place step next := by
  unfold Node.follow?
  split
  · rename_i absent
    simp_all
  · rename_i here
    have folder : root.hasFolder place := by simpa using here
    constructor
    · intro leads
      refine ⟨folder, ?_⟩
      split at leads
      · rename_i stay
        obtain rfl := Option.some.inj leads
        exact stay ▸ .stay
      · rename_i moves
        split at leads
        · rename_i up
          obtain rfl := Option.some.inj leads
          exact up ▸ .up
        · rename_i down
          split at leads
          · rename_i present
            obtain rfl := Option.some.inj leads
            exact .down ⟨moves, down⟩ present
          · contradiction
    · rintro ⟨_, stay | up | ⟨⟨moves, down⟩, present⟩⟩
      · simp
      · simp [stayStep, upStep]
      · simp [moves, down, present]

theorem Node.Grows.follow? {step : String} {next : FilePath} (grows : before.Grows after)
    (leads : before.follow? place step = some next) : after.follow? place step = some next := by
  obtain ⟨folder, leads⟩ := Node.follow?_eq_some.mp leads
  refine Node.follow?_eq_some.mpr ⟨grows.folder place folder, ?_⟩
  cases leads with
  | stay => exact .stay
  | up => exact .up
  | down plain present => exact .down plain (grows.entry _ present)

theorem Node.Grows.walk {steps place next : FilePath} (grows : before.Grows after)
    (leads : steps.foldlM before.follow? place = some next) :
    steps.foldlM after.follow? place = some next := by
  induction steps generalizing place with
  | nil => exact leads
  | cons step rest ih =>
    rw [List.foldlM_cons] at leads ⊢
    obtain ⟨middle, here, later⟩ := Option.bind_eq_some_iff.mp leads
    exact Option.bind_eq_some_iff.mpr ⟨middle, grows.follow? here, ih later⟩

/-- In a tree that has grown, a path leads where it led before. -/
theorem Node.Grows.place? {path : FilePath} (grows : before.Grows after)
    (leads : before.place? path = some place) : after.place? path = some place := by
  unfold Node.place? at leads ⊢
  split at leads
  · rename_i usable
    rw [if_pos usable]
    exact grows.walk leads
  · contradiction

/-- A path to a folder leads to a place without steps that stay or lead up. -/
theorem Node.walk_plain {steps next : FilePath} (start : ∀ step ∈ place, IsPlain step)
    (leads : steps.foldlM root.follow? place = some next) : ∀ step ∈ next, IsPlain step := by
  refine keeps_foldlM (fun _ place => ∀ step ∈ place, IsPlain step) ?_ start leads
  intro _ place _ start _ _ next here
  cases (Node.follow?_eq_some.mp here).2 with
  | stay => exact start
  | up => exact fun step member => start step (List.dropLast_subset _ member)
  | down plain present =>
    intro step member
    rcases List.mem_append.mp member with old | new
    · exact start step old
    · obtain rfl := List.mem_singleton.mp new
      exact plain

/-- The names on the way to a folder lead there. -/
theorem Node.walk_self {rest : FilePath} (plain : ∀ step ∈ rest, IsPlain step)
    (folder : root.hasFolder (place ++ rest)) :
    rest.foldlM root.follow? place = some (place ++ rest) := by
  induction rest generalizing place with
  | nil => simp
  | cons step more ih =>
    have grouped : place ++ step :: more = (place ++ [step]) ++ more := by simp
    rw [grouped] at folder ⊢
    have next : root.hasFolder (place ++ [step]) := Node.hasFolder_of_append folder
    have here : root.follow? place step = some (place ++ [step]) :=
      Node.follow?_eq_some.mpr ⟨Node.hasFolder_of_append next,
        .down (plain step List.mem_cons_self) (Node.isSome_at?_of_hasFolder next)⟩
    rw [List.foldlM_cons]
    exact Option.bind_eq_some_iff.mpr ⟨_, here,
      ih (fun other member => plain other (List.mem_cons_of_mem _ member)) folder⟩

/-- The place to which a path leads leads to itself, if it leads anywhere. -/
theorem Node.place?_self {path other : FilePath} (leads : root.place? path = some place)
    (folder : root.hasFolder place) (usable : root.place? place = some other) :
    root.place? place = some place := by
  unfold Node.place? at leads usable ⊢
  split at leads
  · split at usable
    · rename_i short
      rw [if_pos short]
      have start : root.hasFolder ([] ++ place) := folder
      exact Node.walk_self (Node.walk_plain (by simp) leads) start
    · contradiction
  · contradiction

/-! ### Folders that are made -/

theorem Node.foldl_enter_none (steps : FilePath) (root : Node γ) :
    steps.foldl Node.enter (root, none) = (root, none) := by
  induction steps with
  | nil => rfl
  | cons step rest ih => exact ih

/-- What a step makes of a tree that shall lead to a folder: nothing new, or a folder where nothing
    stood. -/
inductive Node.Entered (root : Node γ) (place : FilePath) (step : String) :
    Node γ × Option FilePath → Prop
  | lost : Entered root place step (root, none)
  | found {next} (leads : root.follow? place step = some next) (folder : root.hasFolder next) :
    Entered root place step (root, some next)
  | made (folder : root.hasFolder place) (plain : IsPlain step)
    (absent : root.at? (place ++ [step]) = none) :
    Entered root place step
      (Node.put (.folder []) (place ++ [step]) root, some (place ++ [step]))

theorem Node.entered (root : Node γ) (place : FilePath) (step : String) :
    root.Entered place step (Node.enter (root, some place) step) := by
  unfold Node.enter
  dsimp only
  split
  · rename_i next leads
    by_cases folder : root.hasFolder next
    · rw [if_pos folder]
      exact .found leads folder
    · rw [if_neg folder]
      exact .lost
  · rename_i lost
    split
    · rename_i makes
      simp only [Bool.and_eq_true, isEntryName, decide_eq_true_eq] at makes
      obtain ⟨folder, ⟨_, stays⟩, up⟩ := makes
      have plain : IsPlain step := ⟨stays, up⟩
      -- The step would have led to what stands there.
      have absent : root.at? (place ++ [step]) = none := by
        by_contra present
        refine absurd (Node.follow?_eq_some.mpr ⟨folder, .down plain ?_⟩) (by simp [lost])
        exact Option.isSome_iff_ne_none.mpr present
      exact .made folder plain absent
    · exact .lost

theorem Node.grows_put_folder {step : String} (folder : root.hasFolder place)
    (absent : root.at? (place ++ [step]) = none) :
    root.Grows (Node.put (.folder []) (place ++ [step]) root) :=
  Node.grows_put (.folder []) folder (by simp [Node.hasFolder, absent])

/-- A step that shall lead to a folder leads there in the tree that it has made. -/
theorem Node.enter_spec {step : String} {next : FilePath}
    (entered : Node.enter (before, some place) step = (after, some next)) :
    before.Grows after ∧ after.follow? place step = some next ∧ after.hasFolder next := by
  have step := before.entered place step
  rw [entered] at step
  cases step with
  | found leads inside => exact ⟨.refl _, leads, inside⟩
  | made folder plain absent =>
    have made := Node.at?_put_self (.folder []) step folder
    have grows := Node.grows_put_folder folder absent
    refine ⟨grows, Node.follow?_eq_some.mpr ⟨grows.folder _ folder, .down plain ?_⟩, ?_⟩
    · rw [made]
      rfl
    · rw [Node.hasFolder, made]
      rfl

/-- Steps that shall lead to a folder take nothing away, whether they lead there or not. -/
theorem Node.grows_foldl_enter (steps : FilePath) (root : Node γ) (place : FilePath) :
    root.Grows (steps.foldl Node.enter (root, some place)).1 := by
  induction steps generalizing root place with
  | nil => exact .refl root
  | cons step rest ih =>
    rw [List.foldl_cons]
    have entered := root.entered place step
    generalize Node.enter (root, some place) step = state at entered ⊢
    cases entered with
    | lost =>
      rw [Node.foldl_enter_none]
      exact .refl root
    | found => exact ih root _
    | made folder plain absent => exact (Node.grows_put_folder folder absent).trans (ih _ _)

theorem Node.foldl_enter_spec {steps next : FilePath} (folder : before.hasFolder place)
    (entered : steps.foldl Node.enter (before, some place) = (after, some next)) :
    before.Grows after ∧ steps.foldlM after.follow? place = some next ∧ after.hasFolder next := by
  induction steps generalizing before place with
  | nil =>
    obtain ⟨rfl, same⟩ := Prod.mk.inj entered
    obtain rfl := Option.some.inj same
    exact ⟨.refl _, rfl, folder⟩
  | cons step rest ih =>
    rw [List.foldl_cons] at entered
    cases state : Node.enter (before, some place) step with
    | mk made reached =>
      rw [state] at entered
      cases reached with
      | none => simp [Node.foldl_enter_none] at entered
      | some middle =>
        obtain ⟨first, leads, inside⟩ := Node.enter_spec state
        obtain ⟨second, later, last⟩ := ih inside entered
        refine ⟨first.trans second, ?_, last⟩
        rw [List.foldlM_cons]
        exact Option.bind_eq_some_iff.mpr ⟨middle, second.follow? leads, later⟩

/-- The folder that is made for a path is where the path leads. -/
theorem Node.makeFolder_spec {path : FilePath} (folder : before.isFolder)
    (made : before.makeFolder path = (after, some place)) :
    before.Grows after ∧ after.place? path = some place ∧ after.hasFolder place := by
  unfold Node.makeFolder at made
  split at made
  · rename_i usable
    have start : before.hasFolder [] := folder
    obtain ⟨grows, leads, inside⟩ := Node.foldl_enter_spec start made
    refine ⟨grows, ?_, inside⟩
    rw [Node.place?, if_pos usable]
    exact leads
  · simp at made

theorem Node.grows_makeFolder (root : Node γ) (path : FilePath) :
    root.Grows (root.makeFolder path).1 := by
  unfold Node.makeFolder
  split
  · exact Node.grows_foldl_enter path root []
  · exact .refl root

theorem Node.foldl_enter_file (content : γ) (steps : FilePath) (reached : Option FilePath) :
    (steps.foldl Node.enter (.file content, reached)).1 = .file content := by
  induction steps generalizing reached with
  | nil => rfl
  | cons step rest ih =>
    have nothing (place : FilePath) : (Node.file content).hasFolder place = false := by
      cases place with
      | nil => rfl
      | cons => rfl
    rw [List.foldl_cons]
    cases reached with
    | none => exact ih none
    | some place => simpa [Node.enter, Node.follow?, nothing] using ih none

/-- No folder is made in a file. -/
theorem Node.isFolder_of_makeFolder {path : FilePath} (folder : (root.makeFolder path).1.isFolder) :
    root.isFolder := by
  cases root with
  | folder entries => rfl
  | file content =>
    unfold Node.makeFolder at folder
    split at folder
    · rw [Node.foldl_enter_file] at folder
      exact folder
    · exact folder

/-! ### Files -/

theorem Node.writeFile?_append (content : γ) (path : FilePath) (name : String) (root : Node γ) :
    Node.writeFile? content (path ++ [name]) root = (root.place? path).bind (fun place =>
      if root.hasFolder place && FilePath.isUsable (path ++ [name]) && isEntryName name
          && !root.hasFolder (place ++ [name]) then
        some (Node.put (.file content) (place ++ [name]) root)
      else none) := by
  simp [Node.writeFile?, pure, bind]

/-- A file is written into a folder that is there, unless a folder has its name. -/
theorem Node.writeFile?_eq_some {content : γ} {path : FilePath} :
    Node.writeFile? content (path ++ [name]) before = some after ↔
      ∃ place, before.place? path = some place ∧ before.hasFolder place ∧
        FilePath.isUsable (path ++ [name]) ∧ isEntryName name ∧
        before.hasFolder (place ++ [name]) = false ∧
        after = Node.put (.file content) (place ++ [name]) before := by
  rw [Node.writeFile?_append, Option.bind_eq_some_iff]
  refine exists_congr fun place => and_congr_right fun _ => ?_
  simp only [Option.ite_none_right_eq_some, Option.some.injEq, Bool.and_eq_true, Bool.not_eq_true',
    and_assoc]
  exact and_congr_right fun _ => and_congr_right fun _ => and_congr_right fun _ =>
    and_congr_right fun _ => eq_comm

/-- A file that is written into a folder changes nothing beside it. -/
theorem Node.writeFile?_spec {content : γ} (leads : before.place? place = some place)
    (written : Node.writeFile? content (place ++ [name]) before = some after) :
    before.Grows after ∧ after.at? (place ++ [name]) = some (.file content) ∧
      ∀ other, other ≠ name → after.at? (place ++ [other]) = before.at? (place ++ [other]) := by
  obtain ⟨found, same, folder, _, _, free, rfl⟩ := Node.writeFile?_eq_some.mp written
  obtain rfl := Option.some.inj (leads.symm.trans same)
  exact ⟨Node.grows_put _ folder free, Node.at?_put_self _ name folder,
    fun other apart => Node.at?_put_sibling _ folder apart⟩

/-- A path that leads to a folder makes none. -/
theorem Node.makeFolder_of_place? {path : FilePath} (leads : root.place? path = some place)
    (folder : root.hasFolder place) : root.makeFolder path = (root, some place) := by
  have walk : ∀ (steps start : FilePath), steps.foldlM root.follow? start = some place →
      steps.foldl Node.enter (root, some start) = (root, some place) := by
    intro steps
    induction steps with
    | nil => exact fun start leads => congrArg (root, ·) leads
    | cons step rest ih =>
      intro start leads
      rw [List.foldlM_cons] at leads
      obtain ⟨next, here, later⟩ := Option.bind_eq_some_iff.mp leads
      have inside : root.hasFolder next := by
        cases rest with
        | nil => exact Option.some.inj later ▸ folder
        | cons second others =>
          rw [List.foldlM_cons] at later
          obtain ⟨_, onward, _⟩ := Option.bind_eq_some_iff.mp later
          exact (Node.follow?_eq_some.mp onward).1
      rw [List.foldl_cons]
      simp only [Node.enter, here, inside, if_true]
      exact ih next later
  unfold Node.place? at leads
  split at leads
  · rename_i usable
    rw [Node.makeFolder, if_pos usable]
    exact walk path [] leads
  · contradiction

/-- A path that leads to a folder leads on to what stands in it. -/
theorem Node.has_append {path : FilePath} (leads : root.place? path = some place)
    (folder : root.hasFolder place) (plain : IsPlain name)
    (present : (root.at? (place ++ [name])).isSome) :
    root.has (path ++ [name]) = FilePath.isUsable (path ++ [name]) := by
  unfold Node.place? at leads
  split at leads
  · have onward : (path ++ [name]).foldlM root.follow? [] = some (place ++ [name]) := by
      rw [List.foldlM_append, leads]
      simp [Node.follow?_eq_some.mpr ⟨folder, .down plain present⟩]
    unfold Node.has Node.place?
    split
    · simp_all
    · simp_all
  · contradiction

end KeyedIndex
