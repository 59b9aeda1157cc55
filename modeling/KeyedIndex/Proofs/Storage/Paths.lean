import KeyedIndex.Proofs.Storage.Tree

/-!
Folders and the paths to them. A path leads to its goal or nowhere at all, whatever tree it is
followed in (`Node.place?_goal`), so what it leads to in a folder is what stands at the goal
(`Node.find?_append`, `Node.find?_eq_some`). A path that makes no detour through its own folder
still leads there when entries of the folder are written or removed (`Node.Reaches.of_alike`),
and to make the folder changes nothing that stands in it (`Node.at?_makeFolder`).
-/
namespace KeyedIndex

variable {γ : Type} {node root before after : Node γ} {place other : FilePath} {name : String}

/-! ### Paths by their names alone -/

/-- Where a step leads from a place if it leads anywhere. -/
def FilePath.enter (place : FilePath) (step : String) : FilePath :=
  if step = stayStep then place else if step = upStep then place.dropLast else place ++ [step]

/-- The place to which a path leads if it leads anywhere. -/
def FilePath.goal (path : FilePath) : FilePath := path.foldl FilePath.enter []

/-- The places to which the steps of a path lead from a place on. -/
def FilePath.stations (place : FilePath) : FilePath → List FilePath
  | [] => [place]
  | step :: rest => place :: FilePath.stations (place.enter step) rest

/-- A path that does not lead through an entry of the folder in which it ends, so that it still leads
    there when entries are taken away. -/
def FilePath.Direct (path : FilePath) : Prop :=
  ∀ station ∈ FilePath.stations [] path, path.goal <+: station → station = path.goal

instance (path : FilePath) : Decidable path.Direct := List.decidableBAll _ _

theorem FilePath.enter_plain (plain : IsPlain name) (place : FilePath) :
    place.enter name = place ++ [name] := by
  rw [FilePath.enter, if_neg plain.1, if_neg plain.2]

theorem FilePath.isPlain_foldl_enter {steps : FilePath} (start : ∀ step ∈ place, IsPlain step) :
    ∀ step ∈ steps.foldl FilePath.enter place, IsPlain step := by
  induction steps generalizing place with
  | nil => exact start
  | cons next rest ih =>
    refine ih fun step member => ?_
    rw [FilePath.enter] at member
    split at member
    · exact start step member
    · rename_i moves
      split at member
      · exact start step (List.dropLast_subset _ member)
      · rename_i down
        rcases List.mem_append.mp member with old | new
        · exact start step old
        · obtain rfl := List.mem_singleton.mp new
          exact ⟨moves, down⟩

theorem FilePath.foldl_enter_plain {steps : FilePath} (plain : ∀ step ∈ steps, IsPlain step)
    (place : FilePath) : steps.foldl FilePath.enter place = place ++ steps := by
  induction steps generalizing place with
  | nil => exact (List.append_nil place).symm
  | cons step rest ih =>
    obtain ⟨here, later⟩ := List.forall_mem_cons.mp plain
    rw [List.foldl_cons, FilePath.enter_plain here, ih later, List.append_assoc]
    rfl

/-- The names on the way to a place are a path to it. -/
theorem FilePath.goal_goal_append (plain : IsPlain name) (path : FilePath) :
    FilePath.goal (path.goal ++ [name]) = path.goal ++ [name] := by
  refine FilePath.foldl_enter_plain (fun step member => ?_) []
  rcases List.mem_append.mp member with old | new
  · exact FilePath.isPlain_foldl_enter (by simp) step old
  · exact List.mem_singleton.mp new ▸ plain

theorem FilePath.goal_append (plain : IsPlain name) (path : FilePath) :
    FilePath.goal (path ++ [name]) = path.goal ++ [name] := by
  rw [FilePath.goal, List.foldl_append, List.foldl_cons, List.foldl_nil,
    FilePath.enter_plain plain]
  rfl

theorem FilePath.mem_stations (place : FilePath) (steps : FilePath) :
    place ∈ FilePath.stations place steps := by
  cases steps <;> exact List.mem_cons_self

theorem FilePath.goal_mem_stations (place : FilePath) (steps : FilePath) :
    steps.foldl FilePath.enter place ∈ FilePath.stations place steps := by
  induction steps generalizing place with
  | nil => exact List.mem_singleton_self place
  | cons step rest ih => exact List.mem_cons_of_mem _ (ih _)

theorem FilePath.Direct.apart {path station : FilePath} (direct : path.Direct)
    (member : station ∈ FilePath.stations [] path) (name : String) :
    ¬ path.goal ++ [name] <+: station := by
  intro through
  obtain rfl := direct station member ((List.prefix_append _ _).trans through)
  have longer := through.length_le
  rw [List.length_append, List.length_singleton] at longer
  omega

/-- The places on a path that leads up nowhere are all on the way to its goal. -/
theorem FilePath.prefix_goal {steps station : FilePath} (straight : upStep ∉ steps)
    (member : station ∈ FilePath.stations place steps) :
    station <+: steps.foldl FilePath.enter place := by
  induction steps generalizing place station with
  | nil => exact List.mem_singleton.mp member ▸ List.prefix_refl _
  | cons step rest ih =>
    obtain ⟨first, later⟩ := not_or.mp (fun up => straight (List.mem_cons.mpr up))
    rcases List.mem_cons.mp member with rfl | onward
    · have here : station <+: station.enter step := by
        rw [FilePath.enter, if_neg (Ne.symm first)]
        split
        · exact List.prefix_refl _
        · exact List.prefix_append _ _
      exact here.trans (ih later (FilePath.mem_stations _ rest))
    · exact ih later onward

/-- A path that leads up nowhere is direct. -/
theorem FilePath.direct_of_straight {path : FilePath} (straight : upStep ∉ path) : path.Direct :=
  fun _ member beyond => (FilePath.prefix_goal straight member).eq_of_length_le beyond.length_le

theorem FilePath.isUsable_of_append {path : FilePath}
    (usable : FilePath.isUsable (path ++ [name])) : path.isUsable := by
  simp only [FilePath.isUsable, FilePath.byteLength, List.foldl_append, List.foldl_cons,
    List.foldl_nil, List.any_append, Bool.and_eq_true, decide_eq_true_eq, Bool.not_eq_true',
    Bool.or_eq_false_iff] at usable ⊢
  exact ⟨decide_eq_true (by omega), usable.2.1⟩

/-! ### Where paths lead -/

theorem Node.follow?_enter {step : String} {next : FilePath}
    (leads : root.follow? place step = some next) : next = place.enter step := by
  cases (Node.follow?_eq_some.mp leads).2 with
  | stay => rw [FilePath.enter, if_pos rfl]
  | up => rw [FilePath.enter, if_neg (by decide), if_pos rfl]
  | down plain => rw [FilePath.enter_plain plain]

theorem Node.walk_goal {steps next : FilePath}
    (leads : steps.foldlM root.follow? place = some next) :
    next = steps.foldl FilePath.enter place := by
  refine keeps_foldlM (fun before next => next = before.foldl FilePath.enter place) ?_ rfl leads
  intro before middle _ reached step _ next here
  rw [Node.follow?_enter here, reached, List.foldl_append]
  rfl

theorem Node.place?_goal {path : FilePath} (leads : root.place? path = some place) :
    place = path.goal := by
  unfold Node.place? at leads
  split at leads
  · exact Node.walk_goal leads
  · contradiction

/-- A path leads to a folder. -/
def Node.Reaches (root : Node γ) (path : FilePath) : Prop :=
  root.place? path = some path.goal ∧ root.hasFolder path.goal

theorem Node.Grows.reaches {path : FilePath} (grows : before.Grows after)
    (reaches : before.Reaches path) : after.Reaches path :=
  ⟨grows.place? reaches.1, grows.folder _ reaches.2⟩

variable {base : FilePath}

theorem Node.place?_append (reaches : root.Reaches base) (plain : IsPlain name)
    (usable : FilePath.isUsable (base ++ [name]))
    (present : (root.at? (base.goal ++ [name])).isSome) :
    root.place? (base ++ [name]) = some (base.goal ++ [name]) := by
  obtain ⟨leads, folder⟩ := reaches
  unfold Node.place? at leads ⊢
  rw [if_pos (FilePath.isUsable_of_append usable)] at leads
  rw [if_pos usable, List.foldlM_append, leads]
  simp [Node.follow?_eq_some.mpr ⟨folder, .down plain present⟩]

/-- A path to an entry leads through the folder in which the entry stands. -/
theorem Node.place?_eq_some (plain : IsPlain name)
    (leads : root.place? (base ++ [name]) = some place) :
    root.Reaches base ∧ FilePath.isUsable (base ++ [name]) ∧ place = base.goal ++ [name] ∧
      (root.at? place).isSome := by
  unfold Node.place? at leads
  split at leads
  · rename_i usable
    rw [List.foldlM_append] at leads
    obtain ⟨middle, walked, onward⟩ := Option.bind_eq_some_iff.mp leads
    obtain rfl : middle = base.goal := Node.walk_goal walked
    have followed : root.follow? base.goal name = some place := by simpa using onward
    obtain ⟨folder, last⟩ := Node.follow?_eq_some.mp followed
    refine ⟨⟨?_, folder⟩, usable, ?_⟩
    · rw [Node.place?, if_pos (FilePath.isUsable_of_append usable), walked]
    · cases last with
      | stay => exact absurd rfl plain.1
      | up => exact absurd rfl plain.2
      | down _ present => exact ⟨rfl, present⟩
  · contradiction

theorem Node.find?_append (reaches : root.Reaches base) (plain : IsPlain name)
    (usable : FilePath.isUsable (base ++ [name])) :
    root.find? (base ++ [name]) = root.at? (base.goal ++ [name]) := by
  rw [Node.find?]
  cases stands : root.at? (base.goal ++ [name]) with
  | some found =>
    rw [Node.place?_append reaches plain usable (by rw [stands]; rfl), Option.bind_some, stands]
  | none =>
    refine Option.bind_eq_none_iff.mpr fun place leads => ?_
    obtain ⟨_, _, rfl, present⟩ := Node.place?_eq_some plain leads
    rw [stands] at present
    contradiction

theorem Node.find?_eq_some (plain : IsPlain name)
    (found : root.find? (base ++ [name]) = some node) :
    root.Reaches base ∧ FilePath.isUsable (base ++ [name]) ∧
      root.at? (base.goal ++ [name]) = some node := by
  obtain ⟨place, leads, stands⟩ := Option.bind_eq_some_iff.mp found
  obtain ⟨reaches, usable, rfl, _⟩ := Node.place?_eq_some plain leads
  exact ⟨reaches, usable, stands⟩

/-! ### Trees in which a path leads to the same place -/

/-- At a place there is nothing, a file or a folder in both trees. -/
def Node.Alike (before after : Node γ) (place : FilePath) : Prop :=
  (after.at? place).map Node.isFolder = (before.at? place).map Node.isFolder

theorem Node.Alike.hasFolder (alike : before.Alike after place) :
    after.hasFolder place = before.hasFolder place := by
  have any (found : Option (Node γ)) : found.any Node.isFolder =
      (found.map Node.isFolder).any id := by
    cases found <;> rfl
  rw [Node.hasFolder, Node.hasFolder, any, any, alike]

theorem Node.Alike.isSome (alike : before.Alike after place) :
    (after.at? place).isSome = (before.at? place).isSome := by
  have same := congrArg Option.isSome alike
  simpa using same

theorem Node.walk_alike {steps : FilePath}
    (alike : ∀ station ∈ FilePath.stations place steps, before.Alike after station) :
    steps.foldlM after.follow? place = steps.foldlM before.follow? place := by
  induction steps generalizing place with
  | nil => rfl
  | cons step rest ih =>
    obtain ⟨here, later⟩ := List.forall_mem_cons.mp alike
    have next := later _ (FilePath.mem_stations _ rest)
    -- A step down looks at the entry to which it leads, the other steps at their folder only.
    have first : after.follow? place step = before.follow? place step := by
      by_cases plain : IsPlain step
      · rw [FilePath.enter_plain plain] at next
        simp only [Node.follow?, here.hasFolder, next.isSome]
      · simp only [Node.follow?, here.hasFolder]
        by_cases stays : step = stayStep
        · simp [stays]
        · have up : step = upStep := Classical.not_not.mp (not_and.mp plain stays)
          simp [up]
    rw [List.foldlM_cons, List.foldlM_cons, first]
    cases leads : before.follow? place step with
    | none => rfl
    | some middle =>
      obtain rfl := Node.follow?_enter leads
      exact ih later

/-- A path leads to its folder as before if nothing else stands at the places on the way. -/
theorem Node.Reaches.of_alike (reaches : before.Reaches base)
    (alike : ∀ station ∈ FilePath.stations [] base, before.Alike after station) :
    after.Reaches base := by
  obtain ⟨leads, folder⟩ := reaches
  refine ⟨?_, ?_⟩
  · unfold Node.place? at leads ⊢
    rwa [Node.walk_alike alike]
  · have last : before.Alike after base.goal := alike _ (FilePath.goal_mem_stations [] base)
    rwa [last.hasFolder]

/-! ### Places that are left alone -/

theorem Node.at?_put_apart (node : Node γ) (below : ¬ place <+: other) (above : ¬ other <+: place) :
    (Node.put node place root).at? other = root.at? other := by
  induction place generalizing root other with
  | nil => exact absurd List.nil_prefix below
  | cons step rest ih =>
    cases other with
    | nil => exact absurd List.nil_prefix above
    | cons next more =>
      rw [List.cons_prefix_cons] at below above
      cases root with
      | file content => cases rest <;> rfl
      | folder entries =>
        by_cases same : next = step
        · subst same
          replace below := not_and.mp below rfl
          replace above := not_and.mp above rfl
          have inner : rest ≠ [] := by
            rintro rfl
            exact below List.nil_prefix
          rw [Node.put_cons inner]
          simp only [Node.at?, Node.entries, lookup_setEntry_self, Option.bind_some, ih below above]
          cases entries.lookup next with
          | some child => rfl
          | none =>
            -- Nothing stood there, and the folder that is made has nothing in it either.
            obtain ⟨_, _, rfl⟩ := List.exists_cons_of_ne_nil (l := more) (by
              rintro rfl
              exact above List.nil_prefix)
            rfl
        · cases rest with
          | nil => simp [Node.put, Node.at?, Node.entries, lookup_setEntry_of_ne same]
          | cons => simp [Node.put, Node.at?, Node.entries, lookup_setEntry_of_ne same]

/-- A folder that is made where nothing stood changes nothing but what stands on the way to it. -/
theorem Node.at?_put_folder (folder : root.hasFolder place)
    (absent : root.at? (place ++ [name]) = none) (above : ¬ other <+: place ++ [name]) :
    (Node.put (.folder []) (place ++ [name]) root).at? other = root.at? other := by
  by_cases below : place ++ [name] <+: other
  · obtain ⟨rest, rfl⟩ := below
    rw [Node.at?_append _ (place ++ [name]), Node.at?_append _ (place ++ [name]),
      Node.at?_put_self _ _ folder, absent]
    obtain ⟨step, more, rfl⟩ := List.exists_cons_of_ne_nil (l := rest) (by
      rintro rfl
      simp at above)
    rfl
  · exact Node.at?_put_apart _ below above

theorem Node.at?_foldl_enter {steps : FilePath}
    (apart : ∀ station ∈ FilePath.stations place steps, ¬ other <+: station) :
    (steps.foldl Node.enter (root, some place)).1.at? other = root.at? other := by
  induction steps generalizing root place with
  | nil => rfl
  | cons step rest ih =>
    obtain ⟨_, later⟩ := List.forall_mem_cons.mp apart
    rw [List.foldl_cons]
    have entered := root.entered place step
    generalize Node.enter (root, some place) step = state at entered ⊢
    cases entered with
    | lost => rw [Node.foldl_enter_none]
    | found leads =>
      obtain rfl := Node.follow?_enter leads
      exact ih later
    | made folder plain absent =>
      rw [FilePath.enter_plain plain] at later
      rw [ih later]
      exact Node.at?_put_folder folder absent (later _ (FilePath.mem_stations _ rest))

/-- Steps that lead through nothing that stands at a place change nothing there, unless they make a
    folder there. -/
theorem Node.at?_foldl_enter_goal {steps target : FilePath}
    (through : ∀ station ∈ FilePath.stations place steps, target <+: station → station = target) :
    (steps.foldl Node.enter (root, some place)).1.at? target = root.at? target ∨
      root.at? target = none ∧
        (steps.foldl Node.enter (root, some place)).1.at? target = some (.folder []) := by
  induction steps generalizing root place with
  | nil => exact .inl rfl
  | cons step rest ih =>
    obtain ⟨_, later⟩ := List.forall_mem_cons.mp through
    rw [List.foldl_cons]
    have entered := root.entered place step
    generalize Node.enter (root, some place) step = state at entered ⊢
    cases entered with
    | lost =>
      rw [Node.foldl_enter_none]
      exact .inl rfl
    | found leads =>
      obtain rfl := Node.follow?_enter leads
      exact ih later
    | made folder plain absent =>
      rw [FilePath.enter_plain plain] at later
      have onward := @ih (Node.put (.folder []) (place ++ [step]) root) (place ++ [step]) later
      by_cases here : target <+: place ++ [step]
      · obtain rfl := later _ (FilePath.mem_stations _ rest) here
        rw [Node.at?_put_self _ _ folder] at onward
        rcases onward with same | ⟨nothing, _⟩
        · exact .inr ⟨absent, same⟩
        · cases nothing
      · rwa [Node.at?_put_folder folder absent here] at onward

theorem Node.foldl_enter_eq_some {steps target : FilePath}
    (entered : steps.foldl Node.enter (before, some place) = (after, some target)) :
    target = steps.foldl FilePath.enter place := by
  induction steps generalizing before place with
  | nil => exact (Option.some.inj (Prod.mk.inj entered).2).symm
  | cons step rest ih =>
    rw [List.foldl_cons] at entered ⊢
    have here := before.entered place step
    generalize Node.enter (before, some place) step = state at here entered
    cases here with
    | lost =>
      rw [Node.foldl_enter_none] at entered
      cases entered
    | found leads =>
      obtain rfl := Node.follow?_enter leads
      exact ih entered
    | made folder plain absent =>
      rw [FilePath.enter_plain plain]
      exact ih entered

theorem Node.makeFolder_goal {path : FilePath}
    (made : before.makeFolder path = (after, some place)) : place = path.goal := by
  unfold Node.makeFolder at made
  split at made
  · exact Node.foldl_enter_eq_some made
  · cases made

/-- To make the folder of a path changes nothing that stands in it. -/
theorem Node.at?_makeFolder (direct : base.Direct) (root : Node γ) (name : String) :
    (root.makeFolder base).1.at? (base.goal ++ [name]) = root.at? (base.goal ++ [name]) := by
  unfold Node.makeFolder
  split
  · exact Node.at?_foldl_enter fun station member => direct.apart member name
  · rfl

/-! ### What is removed -/

theorem Node.remove_cons {step : String} {rest : FilePath} (inner : rest ≠ [])
    (entries : List (String × Node γ)) :
    Node.remove (step :: rest) (.folder entries) =
      match entries.lookup step with
      | some child => .folder (setEntry step (Node.remove rest child) entries)
      | none => .folder entries := by
  cases rest with
  | nil => contradiction
  | cons => rfl

theorem Node.isFolder_remove (place : FilePath) (root : Node γ) :
    (root.remove place).isFolder = root.isFolder := by
  fun_cases Node.remove place root with
  | case1 => rfl
  | case2 => rfl
  | case3 => rfl
  | case4 => rfl

/-- To remove something takes nothing away but that and what stands in it. -/
theorem Node.alike_remove (root : Node γ) (apart : ¬ place <+: other) :
    root.Alike (root.remove place) other := by
  induction place generalizing root other with
  | nil => exact absurd List.nil_prefix apart
  | cons step rest ih =>
    cases other with
    | nil => exact congrArg some (Node.isFolder_remove _ root)
    | cons next more =>
      rw [List.cons_prefix_cons] at apart
      cases root with
      | file content => cases rest <;> rfl
      | folder entries =>
        cases rest with
        | nil =>
          have differs : next ≠ step := fun same => apart ⟨same.symm, List.nil_prefix⟩
          simp only [Node.Alike, Node.remove, Node.at?, Node.entries, lookup_filter_ne _ differs]
        | cons second others =>
          rw [Node.remove_cons (by simp)]
          cases found : entries.lookup step with
          | none => rfl
          | some child =>
            by_cases same : next = step
            · subst same
              simpa only [Node.Alike, Node.at?, Node.entries, lookup_setEntry_self, found,
                Option.bind_some] using ih child (not_and.mp apart rfl)
            · simp only [Node.Alike, Node.at?, Node.entries, lookup_setEntry_of_ne same]

theorem Node.at?_remove (root : Node γ) (place : FilePath) (name : String) :
    (root.remove (place ++ [name])).at? place = (root.at? place).map (Node.remove [name]) := by
  induction place generalizing root with
  | nil => rfl
  | cons step rest ih =>
    cases root with
    | file content => cases rest <;> rfl
    | folder entries =>
      rw [List.cons_append, Node.remove_cons (by simp)]
      cases found : entries.lookup step with
      | none => simp [Node.at?, Node.entries, found]
      | some child =>
        simp only [Node.at?, Node.entries, lookup_setEntry_self, found, Option.bind_some]
        exact ih child

theorem Node.at?_concat (root : Node γ) (place : FilePath) (name : String) :
    root.at? (place ++ [name]) = (root.at? place).bind (fun node => node.entries.lookup name) := by
  rw [Node.at?_append]
  refine Option.bind_congr fun node _ => ?_
  rw [Node.at?]
  cases node.entries.lookup name <;> rfl

theorem Node.hasFolder_of_entry (present : (root.at? (place ++ [name])).isSome) :
    root.hasFolder place := by
  rw [Node.at?_concat] at present
  rw [Node.hasFolder]
  cases stands : root.at? place with
  | none => simp [stands] at present
  | some node =>
    cases node with
    | folder entries => rfl
    | file content => simp [stands, Node.entries] at present

theorem Node.entries_remove (node : Node γ) (name : String) :
    (Node.remove [name] node).entries = node.entries.filter (fun entry => entry.1 ≠ name) := by
  cases node <;> rfl

theorem Node.at?_remove_self (root : Node γ) (place : FilePath) (name : String) :
    (root.remove (place ++ [name])).at? (place ++ [name]) = none := by
  rw [Node.at?_concat, Node.at?_remove]
  cases root.at? place with
  | none => rfl
  | some node => rw [Option.map_some, Option.bind_some, Node.entries_remove, lookup_filter_self]

theorem Node.at?_remove_sibling (root : Node γ) (place : FilePath) {other : String}
    (apart : other ≠ name) :
    (root.remove (place ++ [name])).at? (place ++ [other]) = root.at? (place ++ [other]) := by
  rw [Node.at?_concat, Node.at?_concat, Node.at?_remove]
  cases root.at? place with
  | none => rfl
  | some node =>
    rw [Option.map_some, Option.bind_some, Option.bind_some, Node.entries_remove,
      lookup_filter_ne _ apart]

/-- A path still leads to its folder when an entry of the folder is gone. -/
theorem Node.Reaches.remove (reaches : root.Reaches base) (direct : base.Direct) (name : String) :
    (root.remove (base.goal ++ [name])).Reaches base :=
  reaches.of_alike fun _ member => root.alike_remove (direct.apart member name)

/-! ### Entries that are put into a folder -/

theorem Node.at?_put_parent (node : Node γ) (name : String) {entries : List (String × Node γ)}
    (folder : root.at? place = some (.folder entries)) :
    (Node.put node (place ++ [name]) root).at? place =
      some (.folder (setEntry name node entries)) := by
  induction place generalizing root with
  | nil => rw [Option.some.inj folder]; rfl
  | cons step rest ih =>
    cases root with
    | file content => simp [Node.at?, Node.entries] at folder
    | folder others =>
      rw [Node.at?] at folder
      obtain ⟨child, found, inside⟩ := Option.bind_eq_some_iff.mp folder
      simp only [Node.entries] at found
      rw [List.cons_append, Node.put_cons (by simp), Node.at?]
      simp [Node.entries, lookup_setEntry_self, found, ih inside]


/-- A file is written where the path of its folder leads. -/
theorem Node.writeFile?_append_eq_some {content : γ} {base : FilePath} :
    Node.writeFile? content (base ++ [name]) before = some after ↔
      before.Reaches base ∧ FilePath.isUsable (base ++ [name]) ∧ isEntryName name ∧
        before.hasFolder (base.goal ++ [name]) = false ∧
        after = Node.put (.file content) (base.goal ++ [name]) before := by
  rw [Node.writeFile?_eq_some]
  constructor
  · rintro ⟨place, leads, folder, rest⟩
    obtain rfl := Node.place?_goal leads
    exact ⟨⟨leads, folder⟩, rest⟩
  · rintro ⟨⟨leads, folder⟩, rest⟩
    exact ⟨_, leads, folder, rest⟩

end KeyedIndex
