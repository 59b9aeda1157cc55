import KeyedIndex.Proofs.Document.Bundle
import KeyedIndex.Proofs.Search.Window

/-!
Reads of entities against reads of bundles, and reads page by page. If every document has one
value in the column of the key, entities are read as the keys of the bundles tell
(`Listing.read_eq_readRaw`). Pages that adjoin are read one after the other as the whole that they
make up (`Listing.flatten_pages`), also where hits are dropped from them, since hits are dropped
only after the window has been cut. Both is told of all reads by `Listing.read_pages`.
-/
namespace KeyedIndex

variable {α κ : Type}

/-! ### Keys of hits -/

/-- Hits are ordered by the column of the key or not at all. -/
theorem Binding.sortColumn?_keyField (binding : Binding α) {column : Nat}
    (sortable : binding.layout.sortColumn? binding.schema.keyField.name = some (some column)) :
    column = binding.keyColumn := by
  simp only [Layout.sortColumn?, binding.reached?_name binding.schema.keyField_mem] at sortable
  split at sortable
  · split at sortable
    · split at sortable
      · exact (Option.some.inj (Option.some.inj sortable)).symm
      · simp at sortable
    · contradiction
  · simp at sortable

/-- Every document has one value in the column of the key. -/
def Binding.KeyedOnce (binding : Binding α) (documents : List Document) : Prop :=
  ∀ document ∈ documents, ∃ value, document.values binding.keyColumn = [value]

variable (binding : Binding α) {document : Document} {value : FieldValue}

/-- The text of the key stands in the bundle of a document, whatever fields are wanted. -/
theorem Binding.firstText?_bundle (once : document.values binding.keyColumn = [value])
    (wanted : Option (List String)) :
    (binding.bundle document wanted).firstText? binding.schema.keyField.name = value.text? := by
  obtain ⟨exact, stored, _⟩ := binding.schema.keyField_fit
  have selected : binding.selects wanted binding.schema.keyField = true := by
    simp [Binding.selects, stored]
  have fitting : binding.fitting document binding.schema.keyField =
      [value].filter (fun value => value.fits .exact) := by
    rw [← exact, ← once]
    rfl
  rw [Bundle.firstText?, binding.get_bundle _ wanted binding.schema.keyField_mem, if_pos selected,
    fitting]
  cases value <;> rfl

variable [Key κ]

theorem Binding.key?_of_once (once : document.values binding.keyColumn = [value]) :
    (binding.key? document : Option κ) = value.text?.bind Key.ofText? := by
  rw [Binding.key?, once]
  rfl

variable (listing : Listing α) {snapshot : Snapshot}

/-- The key of a bundle, as a key that a cache is asked for. -/
def Listing.bundleKey? (bundle : Bundle) : Option κ :=
  (bundle.firstText? listing.binding.schema.keyField.name).bind Key.ofText?

/-- Every hit is of a document, whose key is the key of the hit. -/
theorem Listing.hit_document (keyed : listing.binding.KeyedOnce snapshot.documents)
    {hits : List Hit} (found : listing.allHits snapshot = .ok hits) {hit : Hit} (member : hit ∈ hits) :
    ∃ document, snapshot.document? hit.address = some document ∧
      (listing.key? snapshot hit : Option κ) =
        listing.bundleKey? (listing.binding.bundle document listing.options.fields) := by
  rw [Listing.allHits] at found
  split at found
  · rename_i column sortable
    obtain rfl := Except.ok.inj found
    obtain ⟨⟨address, document⟩, ranked, rfl⟩ := List.mem_map.mp member
    have located := listing.mem_located ranked
    have here : snapshot.document? address = some document := Snapshot.document?_of_mem located
    have inside : document ∈ snapshot.documents := by
      rw [← snapshot.located_map_snd]
      exact List.mem_map_of_mem located
    obtain ⟨value, once⟩ := keyed document inside
    refine ⟨document, here, ?_⟩
    rw [Listing.bundleKey?, listing.binding.firstText?_bundle once]
    -- The sort key is the text of the value; without one, the document itself is asked.
    have sortKey : column.key? document = value.text? ∨ column.key? document = none := by
      cases column with
      | none => exact .inr rfl
      | some column =>
        left
        obtain rfl := listing.binding.sortColumn?_keyField sortable
        simp only [SortColumn.key?, Option.bind_eq_bind, Option.bind_some, once]
        cases value <;> rfl
    cases keyHere : column.key? document with
    | some text =>
      have same : value.text? = some text := by
        rcases sortKey with same | absent
        · rw [← same, keyHere]
        · rw [keyHere] at absent
          contradiction
      simp [Listing.key?, SortColumn.hit, keyHere, same]
    | none =>
      simp only [Listing.key?, SortColumn.hit, keyHere, here, Option.bind_some]
      exact listing.binding.key?_of_once once
  · split at found
    · obtain rfl := Except.ok.inj found
      contradiction
    · contradiction

/-- What is found is among all hits. -/
theorem Listing.mem_allHits {hits : List Hit} (found : listing.hits snapshot = .ok hits) {hit : Hit}
    (member : hit ∈ hits) : ∃ all, listing.allHits snapshot = .ok all ∧ hit ∈ all := by
  rw [listing.hits_eq_reached] at found
  by_cases empty : listing.options.limit = 0
  · rw [if_pos empty] at found
    obtain rfl := Except.ok.inj found
    contradiction
  · rw [if_neg empty] at found
    cases all : listing.allHits snapshot with
    | error fault =>
      rw [all] at found
      contradiction
    | ok items =>
      rw [all] at found
      obtain rfl := Except.ok.inj found
      exact ⟨items, rfl, List.mem_of_mem_take (List.mem_of_mem_drop member)⟩

/-- The bundle of a hit. -/
def Listing.hitBundle? (snapshot : Snapshot) (hit : Hit) : Option Bundle :=
  (snapshot.document? hit.address).map
    (fun document => listing.binding.bundle document listing.options.fields)

theorem Listing.read_eq_map (known : κ → Option α) :
    listing.read known snapshot = (listing.hits snapshot).map
      (List.filterMap (fun hit => (listing.key? snapshot hit).bind known)) := by
  rw [Listing.read]
  cases listing.hits snapshot <;> rfl

omit [Key κ] in
theorem Listing.readRaw_eq_map :
    listing.readRaw snapshot =
      (listing.hits snapshot).map (List.filterMap (listing.hitBundle? snapshot)) := by
  rw [Listing.readRaw]
  cases listing.hits snapshot <;> rfl

/-- The entities that are read are those of the keys of the bundles, as far as these can be read and
    are known. -/
theorem Listing.read_eq_readRaw (keyed : listing.binding.KeyedOnce snapshot.documents)
    (known : κ → Option α) :
    listing.read known snapshot = (listing.readRaw snapshot).map
      (List.filterMap (fun bundle => (listing.bundleKey? bundle).bind known)) := by
  rw [listing.read_eq_map, listing.readRaw_eq_map]
  cases found : listing.hits snapshot with
  | error fault => rfl
  | ok hits =>
    simp only [Except.map]
    rw [List.filterMap_filterMap]
    refine congrArg Except.ok (List.filterMap_congr fun hit member => ?_)
    obtain ⟨all, allFound, inside⟩ := listing.mem_allHits found member
    obtain ⟨document, here, key⟩ := listing.hit_document (κ := κ) keyed allFound inside
    rw [key, Listing.hitBundle?, here]
    rfl

/-! ### Pages -/

/-- The listing with the window from one place up to another one. -/
def Listing.within (start stop : UInt64) : Listing α :=
  { listing with options := { listing.options with start, limit := stop - start } }

/-- The pages that a start and further cuts leave between them. -/
def Listing.pages (listing : Listing α) : UInt64 → List UInt64 → List (Listing α)
  | _, [] => []
  | start, stop :: rest => listing.within start stop :: listing.pages stop rest

variable {start middle stop : UInt64}

/-- What lies between two places of a list. -/
def between {β : Type} (start stop : UInt64) (items : List β) : List β :=
  (items.take stop.toNat).drop start.toNat

theorem between_append {β : Type} (first : start ≤ middle) (second : middle ≤ stop)
    (items : List β) :
    between start middle items ++ between middle stop items = between start stop items := by
  rw [UInt64.le_iff_toNat_le] at first second
  have shorter : items.take middle.toNat = (items.take stop.toNat).take middle.toNat := by
    rw [List.take_take, min_eq_left second]
  have further : (items.take stop.toNat).drop middle.toNat =
      ((items.take stop.toNat).drop start.toNat).drop (middle.toNat - start.toNat) := by
    rw [List.drop_drop, Nat.add_sub_cancel' first]
  rw [between, between, between, shorter, List.drop_take, further, List.take_append_drop]

omit [Key κ] in
theorem Listing.hits_within (ordered : start ≤ stop) :
    (listing.within start stop).hits snapshot =
      if start = stop then .ok [] else (listing.allHits snapshot).map (between start stop) := by
  have size : (stop - start).toNat = stop.toNat - start.toNat := UInt64.toNat_sub_of_le _ _ ordered
  rw [UInt64.le_iff_toNat_le] at ordered
  have bound := stop.toNat_lt
  have reach : (listing.within start stop).options.reach = stop := by
    have exact : min (start.toNat + (stop - start).toNat) (UInt64.size - 1) = stop.toNat := by
      have words : UInt64.size = 2 ^ 64 := rfl
      omega
    simp only [SearchOptions.reach, Listing.within, exact, UInt64.ofNat_toNat]
  have none : (listing.within start stop).options.limit = 0 ↔ start = stop := by
    rw [← UInt64.toNat_inj, ← UInt64.toNat_inj, Listing.within, size, UInt64.toNat_zero]
    omega
  rw [Listing.hits_eq_reached, if_congr none rfl rfl]
  refine if_congr Iff.rfl rfl (congrArg (Except.map · _) (funext fun items => ?_))
  rw [SearchOptions.reached, reach]
  rfl

/-- One result behind another one, if neither is a failure. -/
def appended {β : Type} (first later : Except Error (List β)) : Except Error (List β) := do
  return (← first) ++ (← later)

@[simp] theorem appended_ok {β : Type} (first later : List β) :
    appended (.ok first) (.ok later) = .ok (first ++ later) := rfl

theorem appended_nil {β : Type} (first : Except Error (List β)) :
    appended first (.ok []) = first := by
  cases first with
  | error fault => rfl
  | ok hits => simp

theorem nil_appended {β : Type} (later : Except Error (List β)) :
    appended (.ok []) later = later := by
  cases later <;> rfl

theorem appended_map_filterMap {β γ : Type} (image : β → Option γ)
    (first later : Except Error (List β)) :
    appended (first.map (List.filterMap image)) (later.map (List.filterMap image)) =
      (appended first later).map (List.filterMap image) := by
  cases first with
  | error => rfl
  | ok hits =>
    cases later with
    | error => rfl
    | ok further => simp [Except.map, List.filterMap_append]

omit [Key κ] in
/-- The hits of two windows that adjoin are those of one. -/
theorem Listing.hits_within_append (first : start ≤ middle) (second : middle ≤ stop) :
    appended ((listing.within start middle).hits snapshot)
        ((listing.within middle stop).hits snapshot) =
      (listing.within start stop).hits snapshot := by
  rw [listing.hits_within first, listing.hits_within second,
    listing.hits_within (UInt64.le_trans first second)]
  by_cases before : start = middle
  · rw [if_pos before, nil_appended, before]
  · by_cases behind : middle = stop
    · rw [if_pos behind, appended_nil, behind]
    · have apart : start ≠ stop := by
        rintro rfl
        exact before (UInt64.le_antisymm first second)
      rw [if_neg before, if_neg behind, if_neg apart]
      cases listing.allHits snapshot with
      | error fault => rfl
      | ok items => simp only [Except.map, appended_ok, between_append first second]

omit [Key κ] in
/-- Pages are read one after the other as the whole that they make up, whatever is made of the hits
    of each. -/
theorem Listing.flatten_pages {β : Type} (image : Hit → Option β)
    (reader : Listing α → Except Error (List β))
    (reads : ∀ start stop, reader (listing.within start stop) =
      ((listing.within start stop).hits snapshot).map (List.filterMap image))
    (cuts : List UInt64) (ordered : (start :: cuts).Pairwise (· ≤ ·)) :
    ((listing.pages start cuts).mapM reader).map List.flatten =
      reader (listing.within start (cuts.getLastD start)) := by
  induction cuts generalizing start with
  | nil => simp [Listing.pages, reads, listing.hits_within, Except.map, pure, Except.pure]
  | cons stop rest ih =>
    obtain ⟨behind, later⟩ := List.pairwise_cons.mp ordered
    have first : start ≤ stop := behind stop List.mem_cons_self
    have second : stop ≤ rest.getLastD stop := by
      rcases List.mem_cons.mp List.getLastD_mem_cons with same | inside
      · rw [same]
        exact UInt64.le_refl stop
      · exact (List.pairwise_cons.mp later).1 _ inside
    have split : ((listing.pages start (stop :: rest)).mapM reader).map List.flatten =
        appended (reader (listing.within start stop))
          (((listing.pages stop rest).mapM reader).map List.flatten) := by
      rw [Listing.pages, List.mapM_cons]
      cases reader (listing.within start stop) with
      | error fault => rfl
      | ok items => cases (listing.pages stop rest).mapM reader <;> rfl
    calc
      ((listing.pages start (stop :: rest)).mapM reader).map List.flatten
        = appended (reader (listing.within start stop))
            (reader (listing.within stop (rest.getLastD stop))) := by rw [split, ih later]
      _ = (appended ((listing.within start stop).hits snapshot)
            ((listing.within stop (rest.getLastD stop)).hits snapshot)).map
              (List.filterMap image) := by rw [reads, reads, appended_map_filterMap]
      _ = reader (listing.within start ((stop :: rest).getLastD start)) := by
        rw [listing.hits_within_append first second, List.getLastD_cons, reads]

/-! ### The main result -/

omit [Key κ] in
/-- Hits that can be ordered are found. -/
theorem Listing.readRaw_of_sortable
    (sortable : (listing.binding.layout.sortColumn? listing.binding.schema.keyField.name).isSome) :
    ∃ bundles, listing.readRaw snapshot = .ok bundles := by
  obtain ⟨column, found⟩ := Option.isSome_iff_exists.mp sortable
  rw [listing.readRaw_eq_map, listing.hits_eq_reached]
  by_cases empty : listing.options.limit = 0
  · exact ⟨[], by rw [if_pos empty]; rfl⟩
  · rw [if_neg empty, Listing.allHits, found]
    exact ⟨_, rfl⟩

/-- Where every document has one value in the column of the key, the entities of a window are read as
    the bundles of the window tell: the text of the key of each bundle is read as a key, and
    what cannot be read or is unknown to the cache is dropped. The pages between any cuts are
    read one after the other as the window from the first place up to the last cut, entities as well
    as bundles. -/
theorem Listing.read_pages (keyed : listing.binding.KeyedOnce snapshot.documents)
    (known : κ → Option α) :
    (listing.read known snapshot = (listing.readRaw snapshot).map (List.filterMap fun bundle =>
      ((bundle.firstText? listing.binding.schema.keyField.name).bind Key.ofText?).bind known)) ∧
    ((listing.binding.layout.sortColumn? listing.binding.schema.keyField.name).isSome →
      ∃ bundles, listing.readRaw snapshot = .ok bundles) ∧
    ∀ cuts : List UInt64, cuts.Pairwise (· ≤ ·) →
      ((listing.pages 0 cuts).mapM fun (page : Listing α) =>
          page.read known snapshot).map List.flatten =
        (listing.within 0 (cuts.getLastD 0)).read known snapshot ∧
      ((listing.pages 0 cuts).mapM fun (page : Listing α) =>
          page.readRaw snapshot).map List.flatten =
        (listing.within 0 (cuts.getLastD 0)).readRaw snapshot := by
  refine ⟨listing.read_eq_readRaw keyed known, listing.readRaw_of_sortable, fun cuts ordered => ?_⟩
  have fromStart : ((0 : UInt64) :: cuts).Pairwise (· ≤ ·) :=
    List.pairwise_cons.mpr ⟨fun _ _ => UInt64.zero_le, ordered⟩
  constructor
  · exact listing.flatten_pages (fun hit => (listing.key? snapshot hit).bind known)
      (·.read known snapshot) (fun start stop => (listing.within start stop).read_eq_map known)
      cuts fromStart
  · exact listing.flatten_pages (listing.hitBundle? snapshot) (·.readRaw snapshot)
      (fun start stop => (listing.within start stop).readRaw_eq_map) cuts fromStart

/-- Three groups, the second of which has an identifier with a blank and the third of which the cache
    does not know, in pages of one, none and two hits. -/
theorem Listing.read_pages_groups :
    let groups : Listing Group := ⟨GroupSchema.first.bound, .everything, .default⟩
    let snapshot : Snapshot :=
      [⟨[identified "a", identified "b c"], by decide⟩, ⟨[identified "d"], by decide⟩]
    let group := Group.ofName 1 ⟨"a", by decide, by decide⟩ "admins" .epoch
    let known (uuid : GroupUuid) : Option Group := if uuid = group.uuid then some group else none
    groups.read known snapshot = (groups.readRaw snapshot).map (List.filterMap fun bundle =>
        ((bundle.firstText? "uuid").bind Key.ofText?).bind known) ∧
      ((groups.pages 0 [1, 1, 3]).mapM fun (page : Listing Group) =>
        page.read known snapshot).map List.flatten = (groups.within 0 3).read known snapshot ∧
      ((groups.pages 0 [1, 1, 3]).mapM fun (page : Listing Group) =>
        page.readRaw snapshot).map List.flatten = (groups.within 0 3).readRaw snapshot := by
  intro groups snapshot group known
  have keyed : groups.binding.KeyedOnce snapshot.documents := by
    intro document member
    have each : document ∈ [identified "a", identified "b c", identified "d"] := member
    simp only [List.mem_cons, List.not_mem_nil, or_false] at each
    rcases each with rfl | rfl | rfl <;> exact ⟨_, rfl⟩
  obtain ⟨hydrated, -, paged⟩ := groups.read_pages keyed known
  exact ⟨hydrated, paged [1, 1, 3] (by decide)⟩

end KeyedIndex
