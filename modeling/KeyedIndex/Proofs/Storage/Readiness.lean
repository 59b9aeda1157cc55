import KeyedIndex.Proofs.Storage.StateFile
import KeyedIndex.Storage.SharedVersions

/-!
Readiness of shared versions. Whatever those who keep track of versions do in between, a version is
ready if and only if the last change of it that was completed says so
(`SharedVersions.run_readiness`): the states on the disk follow the changes of their kind
(`SharedVersions.Follows.step`).
-/
namespace KeyedIndex

variable {base : FilePath} {kind : String} {version : UInt32}

/-! ### The last change -/

variable (changes : List VersionChange)

theorem lastNoted_self (noted : Option Bool) :
    lastNoted (changes ++ [⟨kind, version, noted⟩]) kind version = noted := by
  simp [lastNoted]

theorem lastNoted_other {change : VersionChange}
    (apart : change.kind ≠ kind ∨ change.version ≠ version) :
    lastNoted (changes ++ [change]) kind version = lastNoted changes kind version := by
  have other : (change.kind = kind && change.version = version) = false := by
    simpa [Classical.or_iff_not_imp_left] using apart
  simp [lastNoted, other]

/-! ### States that follow the changes -/

/-- The states of a kind that are on the disk say what the last changes say. -/
def SharedVersions.Follows (versions : SharedVersions) (base : FilePath) (kind : String) : Prop :=
  ∃ states, Versions.Holds ⟨base, kind⟩ states versions.disk ∧ ∀ version : UInt32,
    (states.lookup version.toNat).map VersionState.ready = lastNoted versions.completed kind version

variable {versions next : SharedVersions}

theorem SharedVersions.Follows.isReady (follows : versions.Follows base kind)
    (named : (⟨base, kind⟩ : Versions).IsNamed) (version : UInt32) :
    Versions.isReady ⟨base, kind⟩ version.toNat versions.disk =
      .ok (lastNoted versions.completed kind version = some true) := by
  obtain ⟨states, holds, same⟩ := follows
  rw [Versions.isReady_of_load (holds.load named), ← same version]
  cases states.lookup version.toNat <;> simp

/-- What changes other entries only, and no state of the kind, is of no concern to it. -/
theorem SharedVersions.Follows.beside (follows : versions.Follows base kind)
    (named : (⟨base, kind⟩ : Versions).IsNamed) {names : List String}
    (changes : ChangesOnly names base versions.disk next.disk)
    (apart : (⟨base, kind⟩ : Versions).stateName ∉ names)
    (completed : ∀ version, lastNoted next.completed kind version =
      lastNoted versions.completed kind version) : next.Follows base kind := by
  obtain ⟨states, holds, same⟩ := follows
  exact ⟨states, holds.beside named changes apart, fun version =>
    (same version).trans (completed version).symm⟩

/-- A change of another kind does not concern the kind. -/
theorem SharedVersions.Follows.otherKind {change : VersionChange}
    {result : Except Error Unit × Disk} (follows : versions.Follows base kind)
    (named : (⟨base, kind⟩ : Versions).IsNamed) (differs : kind ≠ change.kind)
    (changes : ChangesOnly [(⟨base, change.kind⟩ : Versions).stateName,
      (⟨base, change.kind⟩ : Versions).draftName] base versions.disk result.2) :
    (versions.change change result).Follows base kind := by
  have apart : (⟨base, kind⟩ : Versions).stateName ∉ [(⟨base, change.kind⟩ : Versions).stateName,
      (⟨base, change.kind⟩ : Versions).draftName] := by
    simpa using ⟨Versions.stateName_ne ⟨base, kind⟩ ⟨base, change.kind⟩ differs,
      Versions.stateName_ne_draftName ⟨base, kind⟩ ⟨base, change.kind⟩⟩
  obtain ⟨result, disk⟩ := result
  cases result with
  | error fault => exact follows.beside named changes apart fun _ => rfl
  | ok =>
    exact follows.beside named changes apart fun version =>
      lastNoted_other _ (.inl (Ne.symm differs))

/-- A change of a version of the kind is what its state says then, unless the change fails. -/
theorem SharedVersions.Follows.sameKind {noted : Option Bool} {result : Except Error Unit × Disk}
    {states changed : StateMap} (follows : ∀ version : UInt32,
      (states.lookup version.toNat).map VersionState.ready =
        lastNoted versions.completed kind version)
    (holds : Versions.Holds ⟨base, kind⟩ (if result.1.isOk then changed else states) result.2)
    (self : (changed.lookup version.toNat).map VersionState.ready = noted)
    (others : ∀ other, other ≠ version.toNat → changed.lookup other = states.lookup other) :
    (versions.change ⟨kind, version, noted⟩ result).Follows base kind := by
  obtain ⟨result, disk⟩ := result
  cases result with
  | error fault => exact ⟨states, holds, follows⟩
  | ok =>
    refine ⟨changed, holds, fun other => ?_⟩
    by_cases same : other = version
    · subst same
      exact self.trans (lastNoted_self _ _).symm
    · have apart : other.toNat ≠ version.toNat := fun numbers => same (UInt32.toNat_inj.mp numbers)
      rw [others _ apart, follows other]
      exact (lastNoted_other _ (.inr (Ne.symm same))).symm

/-- The states follow the changes through every event. -/
theorem SharedVersions.Follows.step {event : VersionEvent} (follows : versions.Follows base kind)
    (direct : base.Direct) (named : isKindName kind) (eventNamed : isKindName event.kind)
    (stepped : versions.step? base event = some next) : next.Follows base kind := by
  have isNamed := Versions.isNamed_of_isKindName direct named
  have eventIsNamed := Versions.isNamed_of_isKindName direct eventNamed
  cases event with
  | mark changedKind version ready now =>
    obtain rfl := Option.some.inj stepped
    by_cases same : kind = changedKind
    · subst same
      obtain ⟨states, holds, follows⟩ := follows
      refine SharedVersions.Follows.sameKind follows
        (holds.markReady isNamed (nat32_has version) rfl) ?_ ?_
      · rw [lookup_setState_self]
        rfl
      · exact fun other apart => lookup_setState_of_ne apart _ _
    · exact follows.otherKind isNamed same
        (Versions.markReady_changes eventIsNamed version.toNat ready now versions.disk)
  | delete changedKind version =>
    unfold SharedVersions.step? at stepped
    dsimp only at stepped
    split at stepped
    · rename_i disk deleted
      obtain rfl := Option.some.inj stepped
      have noDirectory := Versions.directoryName_ne ⟨base, changedKind⟩ version.toNat
        (Versions.getLast?_stateName ⟨base, kind⟩) (by decide)
      exact follows.beside isNamed (Versions.deleteDirectory_changes eventIsNamed deleted)
        (List.mem_singleton.not.mpr noDirectory) fun _ => rfl
    · exact Option.some.inj stepped ▸ follows
  | forget changedKind version =>
    unfold SharedVersions.step? at stepped
    dsimp only at stepped
    split at stepped
    · obtain rfl := Option.some.inj stepped
      -- That the removal is not open any more changes neither the disk nor what is completed.
      have started : SharedVersions.Follows
          { versions with removals := versions.removals.erase (changedKind, version) }
          base kind := follows
      by_cases same : kind = changedKind
      · subst same
        obtain ⟨states, holds, follows⟩ := started
        refine SharedVersions.Follows.sameKind follows (holds.forget isNamed rfl) ?_ ?_
        · rw [lookup_filter_self]
          rfl
        · exact fun other apart => lookup_filter_ne _ apart
      · exact started.otherKind isNamed same
          (Versions.forget_changes eventIsNamed version.toNat versions.disk)
    · contradiction

theorem SharedVersions.run_follows {events : List VersionEvent} (follows : versions.Follows base kind)
    (direct : base.Direct) (named : isKindName kind)
    (eventsNamed : ∀ event ∈ events, isKindName event.kind)
    (ran : versions.run? base events = some next) : next.Follows base kind := by
  refine keeps_foldlM (fun _ versions => versions.Follows base kind) ?_ follows ran
  intro _ started _ follows event member after stepped
  exact follows.step direct named (eventsNamed event member) stepped

/-- What is completed at an event is a change of the version of the event. -/
theorem SharedVersions.step?_completed {event : VersionEvent}
    (stepped : versions.step? base event = some next) :
    next.completed = versions.completed ∨ ∃ noted,
      next.completed = versions.completed ++ [⟨event.kind, event.version, noted⟩] := by
  have change (started : SharedVersions) (change : VersionChange)
      (result : Except Error Unit × Disk) :
      (started.change change result).completed = started.completed ∨
        (started.change change result).completed = started.completed ++ [change] := by
    obtain ⟨result, disk⟩ := result
    cases result with
    | error fault => exact .inl rfl
    | ok => exact .inr rfl
  cases event with
  | mark kind version ready now =>
    obtain rfl := Option.some.inj stepped
    exact (change _ _ _).imp_right fun more => ⟨_, more⟩
  | delete kind version =>
    unfold SharedVersions.step? at stepped
    dsimp only at stepped
    split at stepped
    · exact .inl (Option.some.inj stepped ▸ rfl)
    · exact .inl (Option.some.inj stepped ▸ rfl)
  | forget kind version =>
    unfold SharedVersions.step? at stepped
    dsimp only at stepped
    split at stepped
    · obtain rfl := Option.some.inj stepped
      exact (change _ _ _).imp_right fun more => ⟨_, more⟩
    · contradiction

/-- In every run over one base directory, to which the path does not lead through an entry of its
    own, and in which nobody has written states of a kind before, a version of the kind is ready
    if the last change of it that was completed says so, and not if there is none or it has been
    removed since. What happens to other versions or kinds has no influence on that, and all legal
    states that are written are read back as they are. -/
theorem SharedVersions.run_readiness {start : Disk} {events : List VersionEvent}
    {last : SharedVersions} (direct : base.Direct) (named : isKindName kind)
    (eventsNamed : ∀ event ∈ events, isKindName event.kind)
    (fresh : start.at? (base.goal ++ [(⟨base, kind⟩ : Versions).stateName]) = none)
    (ran : (SharedVersions.ofDisk start).run? base events = some last) :
    (∀ version : UInt32, Versions.isReady ⟨base, kind⟩ version.toNat last.disk =
      .ok (lastNoted last.completed kind version = some true)) ∧
    (∀ (event : VersionEvent) (next : SharedVersions), isKindName event.kind →
      last.step? base event = some next → ∀ version : UInt32,
        event.kind ≠ kind ∨ event.version ≠ version →
        Versions.isReady ⟨base, kind⟩ version.toNat next.disk =
          Versions.isReady ⟨base, kind⟩ version.toNat last.disk) ∧
    ∀ (states : StateMap) (disk after : Disk), states.Legal →
      Versions.save ⟨base, kind⟩ states disk = (.ok (), after) →
      Versions.load ⟨base, kind⟩ after = .ok states := by
  have isNamed := Versions.isNamed_of_isKindName direct named
  have begun : (SharedVersions.ofDisk start).Follows base kind :=
    ⟨[], .inl ⟨rfl, fresh⟩, fun _ => rfl⟩
  have follows := SharedVersions.run_follows begun direct named eventsNamed ran
  refine ⟨follows.isReady isNamed, fun event next eventNamed stepped version apart => ?_,
    fun states disk after legal saved => ?_⟩
  · rw [(follows.step direct named eventNamed stepped).isReady isNamed,
      follows.isReady isNamed]
    rcases SharedVersions.step?_completed stepped with same | ⟨noted, more⟩
    · rw [same]
    · rw [more, lastNoted_other last.completed apart]
  · have written := (isNamed.save saved).2
    have holds : Versions.Holds ⟨base, kind⟩ states after :=
      .inr ⟨_, written, StateMap.ofText?_printLines legal⟩
    exact holds.load isNamed

/-- A version of one kind is removed, whose directory is gone first, while others are noted to be
    ready. The path to the base directory leads up, to a folder that has yet to be made. -/
theorem SharedVersions.run_readiness_removal :
    let base : FilePath := ["..", "data", "."]
    let events : List VersionEvent := [.mark "groups" 1 true .epoch, .mark "accounts" 1 true .epoch,
      .delete "groups" 1, .mark "groups" 4294967295 true .epoch, .forget "groups" 1]
    ∃ last, (SharedVersions.ofDisk .empty).run? base events = some last ∧
      Versions.isReady ⟨base, "groups"⟩ 1 last.disk = .ok false ∧
      Versions.isReady ⟨base, "groups"⟩ 4294967295 last.disk = .ok true ∧
      Versions.isReady ⟨base, "accounts"⟩ 1 last.disk = .ok true := by
  intro base events
  have completes : ((SharedVersions.ofDisk .empty).run? base events).map (·.completed) =
      some [⟨"groups", 1, some true⟩, ⟨"accounts", 1, some true⟩,
        ⟨"groups", 4294967295, some true⟩, ⟨"groups", 1, none⟩] := by
    decide +kernel
  obtain ⟨last, ran, completed⟩ := Option.map_eq_some_iff.mp completes
  have groupsNamed : isKindName "groups" := by decide
  have accountsNamed : isKindName "accounts" := by decide
  have groups := (SharedVersions.run_readiness (by decide) groupsNamed (by decide) (by decide) ran).1
  have accounts :=
    (SharedVersions.run_readiness (by decide) accountsNamed (by decide) (by decide) ran).1
  rw [completed] at groups accounts
  exact ⟨last, ran, groups 1, groups 4294967295, accounts 1⟩

end KeyedIndex
