import KeyedIndex.Proofs.Group.Leaves
import KeyedIndex.Proofs.Index.Answers
import KeyedIndex.Proofs.Index.Runs

/-!
The index of groups answers like a filter of the groups at hand. After any calls, a predicate that
is built of leaves with matchers is answered with those groups of the store which it matches,
in the order of their identifiers and cut to the window (`Origin.query_groups`).
-/
namespace KeyedIndex

/-- A group whose values are not too long for terms is identified by its identifier. -/
theorem GroupSchema.identifies {schema : Schema Group} {version : UInt32}
    (known : GroupSchema.ofVersion version = .ok schema) {group : Group}
    (bounded : schema.Bounded group) : schema.Identifies group := by
  have key : schema.keyField = GroupSchema.uuid := by
    rcases GroupSchema.ofVersion_eq_ok known with rfl | rfl <;> rfl
  have values : schema.keyField.values group = [.text (Key.text (Entity.key group))] := by
    rw [key]
    rfl
  have inside : .text (Key.text (Entity.key group)) ∈ schema.keyField.values group := by
    rw [values]
    exact List.mem_cons_self
  refine ⟨values, ?_⟩
  exact bounded schema.keyField schema.keyField_mem (by rw [key]; decide) _ inside _ rfl

/-- Whatever is asked of an index of groups that was new, once it is refreshed it answers a
    predicate that is built of leaves with matchers like a filter of the groups that the
    acknowledged changes leave, as far as a word of 64 bits can count them: with the window of
    the groups which the predicate matches, in the order of the bytes of their identifiers. -/
theorem Origin.query_groups {origin : Origin Group} {version : UInt32}
    (known : GroupSchema.ofVersion version = .ok origin.schema) {host after : Host}
    {index : Index Group} (opened : origin.open host = (.ok index, after))
    (fresh : origin.settings.inMemory = false →
      host.disk.has (indexFile origin.directory) = false)
    {calls : List (Call Group GroupUuid)}
    (legal : ∀ call ∈ calls, (∀ change ∈ call.changes, change.Bounded origin.schema) ∧
      (call = .reopen → origin.settings.inMemory = false)) :
    let last := Session.run origin ⟨index, after⟩ calls
    let store := (Cache.empty : Cache Group).record last.2
    store.size < UInt64.size →
      ∃ refreshed, last.1.index.refresh last.1.host = .ok refreshed ∧
        ∀ predicate query, GroupPredicate.Built predicate →
          origin.schema.bound.compile predicate = .ok query → ∀ options : SearchOptions,
          ∃ ranking : List Group,
            ranking.Perm (store.entities.filter
              (fun group => predicate.matches? group = some true)) ∧
            ranking.Pairwise (fun left right =>
              options.order.Precedes left.uuid.text right.uuid.text) ∧
            refreshed.query predicate options store.get? =
              .ok ((ranking.drop options.start.toNat).take options.limit.toNat) := by
  intro last store countable
  have allLegal : ∀ call ∈ calls, call.Legal origin := by
    intro call member
    refine ⟨fun change changeIn => ?_, (legal call member).2⟩
    have bounded := (legal call member).1 change changeIn
    cases change with
    | replace group => exact GroupSchema.identifies known bounded
    | delete | deleteAll => trivial
  obtain ⟨kept, answered, _⟩ := Origin.run_keeps opened fresh allLegal
  have bounded : ∀ group ∈ store.entities, origin.schema.Bounded group := by
    refine Cache.forall_record (by simp [Cache.empty]) fun group member => ?_
    rw [answered] at member
    obtain ⟨call, callIn, changeIn⟩ := List.mem_flatMap.mp member
    exact (legal call callIn).1 _ changeIn
  obtain ⟨refreshed, done, keptAgain, current, writer⟩ := kept.refresh
  refine ⟨refreshed, done, fun predicate query built compiled options => ?_⟩
  have seen : refreshed.readers.current = refreshed.writer.workspace.committed := by
    rw [current, writer]
  obtain ⟨ranking, perm, sorted, answer⟩ := keptAgain.query_eq seen countable compiled options
  refine ⟨ranking, perm.trans (List.Perm.of_eq ?_), sorted, answer⟩
  refine List.filter_congr fun group member => ?_
  rw [Bool.eq_iff_iff, decide_eq_true_eq]
  exact built.matches_document_iff (GroupPredicate.fields_subset known) compiled
    (bounded group member)

/-- A group is found by a part of its name, another one is deleted before. -/
theorem Origin.query_groups_admins :
    let origin : Origin Group :=
      ⟨"/", GroupSchema.second, { Settings.default "/" with inMemory := true }⟩
    let host := Host.ofDisk Disk.empty
    let admins := Group.ofName 1 ⟨"g1", by decide, by decide⟩ "site-admins" .epoch
    let staff := Group.ofName 2 ⟨"g2", by decide, by decide⟩ "staff" .epoch
    let calls : List (Call Group GroupUuid) :=
      [.one (.replace admins), .several [.replace staff, .delete staff.uuid]]
    let predicate : Predicate Group :=
      .or [GroupPredicate.namePart "ADM", .not (GroupPredicate.visibleToAll false)]
    ∃ index after refreshed, origin.open host = (.ok index, after) ∧
      let last := Session.run origin ⟨index, after⟩ calls
      let store := (Cache.empty : Cache Group).record last.2
      last.1.index.refresh last.1.host = .ok refreshed ∧
        refreshed.query predicate .default store.get? = .ok [admins] := by
  intro origin host admins staff calls predicate
  let index := (origin.open host).1.toOption.get (by decide +kernel)
  let last := Session.run origin ⟨index, (origin.open host).2⟩ calls
  let store := (Cache.empty : Cache Group).record last.2
  have opened : origin.open host = (.ok index, (origin.open host).2) :=
    Prod.ext (toOption_eq_some.mp (Option.some_get _).symm) rfl
  have legal : ∀ call ∈ calls, (∀ change ∈ call.changes, change.Bounded origin.schema) ∧
      (call = .reopen → origin.settings.inMemory = false) := by
    have adminsSmall : origin.schema.Bounded admins := by decide
    have staffSmall : origin.schema.Bounded staff := by decide
    simp [calls, Call.changes, Change.Bounded, adminsSmall, staffSmall]
  have left : store.entities = [admins] := by decide +kernel
  have few : store.size < UInt64.size := by
    rw [Cache.size, left]
    decide
  have known : GroupSchema.ofVersion 2 = .ok origin.schema := rfl
  obtain ⟨refreshed, done, answers⟩ :=
    Origin.query_groups known opened (fun onDisk => absurd onDisk (by decide)) legal few
  have built : GroupPredicate.Built predicate := by
    refine .or fun child member => ?_
    simp only [List.mem_cons, List.not_mem_nil, or_false] at member
    rcases member with rfl | rfl
    · exact .namePart "ADM"
    · exact .not (.visibleToAll false)
  obtain ⟨ranking, perm, _, answer⟩ := answers predicate _ built rfl .default
  have matched : predicate.matches? admins = some true := by
    refine (Predicate.matches?_eq_some_true rfl admins).mpr ?_
    rw [Predicate.holds_or]
    exact ⟨_, List.mem_cons_self, (Predicate.holds_leaf _).mpr ⟨_, rfl, by decide +kernel⟩⟩
  rw [left, List.filter_singleton, decide_eq_true matched] at perm
  obtain rfl := List.perm_singleton.mp perm
  exact ⟨index, _, refreshed, opened, done, answer⟩
end KeyedIndex
