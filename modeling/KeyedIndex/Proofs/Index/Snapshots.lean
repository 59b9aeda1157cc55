import KeyedIndex.Group.Schema
import KeyedIndex.Proofs.Index.Accounts
import KeyedIndex.Proofs.Schema.Columns

/-!
Reads of shared indexes. Whatever clients, the worker and readers do and in whatever order, reads
are answered over one state that whole commits have left, which is at least as new as the last
refresh and never older than the one before; it has all requests of which anybody had been told
before the refresh that they succeeded (`SharedIndex.run_reads`).
-/
namespace KeyedIndex

variable {α κ : Type} [Key κ] {layout : Layout} {policy : ReloadPolicy}
  {start index next last : SharedIndex} {event : IndexEvent} {events : List IndexEvent}

/-- What is read at once from an index is what a lease on its current snapshot would tell. -/
theorem Question.reply_current (index : Index α) :
    (∀ (predicate : Predicate α) (options : SearchOptions) (known : κ → Option α),
      (Question.entities predicate options known).reply index.binding index.readers.current =
        .entities (index.query predicate options known)) ∧
    (∀ (predicate : Predicate α) (options : SearchOptions),
      (Question.bundles predicate options : Question α κ).reply index.binding
        index.readers.current = .bundles (index.queryRaw predicate options)) ∧
    (∀ (key : κ) (known : κ → Option α),
      (Question.entity key known).reply index.binding index.readers.current =
        .entity (index.get? key known)) ∧
    (Question.size : Question α κ).reply index.binding index.readers.current =
      .size index.size := by
  refine ⟨fun _ _ _ => rfl, fun _ _ => rfl, fun key known => ?_, rfl⟩
  rw [Question.reply, Index.get?]
  cases Listing.read ⟨index.binding, index.binding.keyQuery key, .window 0 1⟩ known
    index.readers.current <;> rfl

/-! ### Answers and loads -/

/-- No answer is taken back. -/
theorem SharedIndex.Step.answered (step : index.Step layout policy event next) :
    index.writer.answered <+: next.writer.answered := by
  cases step with
  | write permitted step => cases step <;> exact List.prefix_rfl
  | apply => exact List.prefix_append _ _
  | commit =>
    simp only [SharedIndex.commit]
    split <;> exact List.prefix_rfl
  | answer => exact List.prefix_append _ _
  | finish | refresh | refreshFails | reload | acquire | release => exact List.prefix_rfl

theorem SharedIndex.run_answered {before : List IndexEvent} (earlier : before <+: events)
    (here : start.run? layout policy before = some index)
    (ran : start.run? layout policy events = some last) :
    index.writer.answered <+: last.writer.answered := by
  obtain ⟨later, rfl⟩ := earlier
  rw [SharedIndex.run?_append, here] at ran
  refine SharedIndex.run?_keeps (fun _ next => index.writer.answered <+: next.writer.answered)
    ?_ List.prefix_rfl ran
  intro _ _ _ _ _ grown step
  exact grown.trans step.answered

/-- What is loaded after a refresh is not older than the refresh. -/
theorem refresh_earlier {before : List IndexEvent}
    (refreshed : before ++ [.refresh true] <+: events) :
    before ++ [.refresh true] <+: loaded events := by
  obtain ⟨later, rfl⟩ := refreshed
  have here : loaded (before ++ [.refresh true]) = before ++ [.refresh true] :=
    loaded_concat before (.refresh true)
  have mono := loaded_mono (before ++ [.refresh true]) later
  rwa [here] at mono

/-- The index when something was loaded last, with what whole batches had committed by then. -/
structure SharedIndex.Shows (layout : Layout) (policy : ReloadPolicy) (start : SharedIndex)
    (events : List IndexEvent) (shown : SharedIndex) : Prop where
  loaded : start.run? layout policy (loaded events) = some shown
  whole : shown.CommittedWhole layout policy start (KeyedIndex.loaded events)

theorem SharedIndex.run_shows {snapshot : Snapshot} {size : Nat}
    (ran : (SharedIndex.ofSnapshot snapshot size).run? layout policy events = some last) :
    ∃ shown, (SharedIndex.ofSnapshot snapshot size).Shows layout policy events shown ∧
      last.readers.current = shown.committed := by
  obtain ⟨shown, shownRan, current⟩ := SharedIndex.run_loaded ran
  exact ⟨shown, ⟨shownRan, SharedIndex.run_whole rfl shownRan⟩, current⟩

/-! ### The main result -/

/-- In every run, reads see what whole batches had committed when something was loaded last. That is
    not before the last refresh, and is just then if readers load only what they are told to;
    and later reads do not see less. Who takes a lease has all questions answered over what was to be
    seen at that time, until the lease is given back. What reads see is what requests leave that
    have been sent, in the order of the queue, and whoever had been told of success before a refresh
    is among them. -/
theorem SharedIndex.run_reads (binding : Binding α) {snapshot : Snapshot} {size : Nat}
    (ran : (SharedIndex.ofSnapshot snapshot size).run? binding.layout policy events = some last) :
    let start := SharedIndex.ofSnapshot snapshot size
    ∃ shown, start.Shows binding.layout policy events shown ∧
      last.readers.current = shown.committed ∧
      refreshed events <+: loaded events ∧
      (policy = .manual → loaded events = refreshed events) ∧
      (∀ before, before <+: events → loaded before <+: loaded events) ∧
      (∀ before reader held, events = before ++ .acquire reader :: held →
        .release reader ∉ held →
          ∃ leased, start.Shows binding.layout policy before leased ∧
            ∀ question : Question α κ,
              last.ask? binding reader question = some (question.reply binding leased.committed)) ∧
      ∃ changes : List (Request × Bool),
        shown.committed.documents = changes.foldl (tell binding.layout) snapshot.documents ∧
        (changes.map Prod.fst).Sublist (numbered (requested (loaded events))) ∧
        ∀ before seen, before ++ [.refresh true] <+: events →
          start.run? binding.layout policy before = some seen →
            ∀ request, (request, .ok ()) ∈ seen.writer.answered → (request, true) ∈ changes := by
  intro start
  obtain ⟨shown, shows, current⟩ := SharedIndex.run_shows ran
  refine ⟨shown, shows, current, refreshed_earlier events,
    fun manual => loaded_eq_refreshed manual ran, ?_, ?_, ?_⟩
  · rintro before ⟨later, rfl⟩
    exact loaded_mono before later
  · rintro before reader held rfl kept
    rw [SharedIndex.run?_append] at ran
    obtain ⟨seen, seenRan, heldRan⟩ := Option.bind_eq_some_iff.mp ran
    obtain ⟨leasing, stepped, restRan⟩ := Option.bind_eq_some_iff.mp heldRan
    obtain ⟨leased, leasedShows, leasedCurrent⟩ := SharedIndex.run_shows seenRan
    refine ⟨leased, leasedShows, fun question => ?_⟩
    have holds : leasing.leases.lookup reader = some leased.committed := by
      cases SharedIndex.step?_eq_some stepped with
      | acquire free => rw [List.lookup_cons_self, leasedCurrent]
    rw [SharedIndex.ask?, SharedIndex.run_lease holds kept restRan]
    rfl
  · obtain ⟨commits, changes, accounts⟩ := SharedIndex.run_accounts shows.loaded
    refine ⟨commits, accounts.committed, ?_, ?_⟩
    · refine List.Sublist.trans ?_ accounts.ordered
      simp
    · intro before seen refreshed seenRan request told
      have earlier : before <+: loaded events :=
        (List.prefix_append before _).trans (refresh_earlier refreshed)
      have grown := SharedIndex.run_answered earlier seenRan shows.loaded
      exact accounts.acknowledged request (List.mem_append_left _ (grown.subset told))

/-- Two groups are put as one batch; a lease that is taken when the first one has been applied still
    has none of them at the end, when both can be seen. -/
theorem SharedIndex.run_reads_pair :
    let binding := GroupSchema.first.bound
    let put (key : String) : Operation :=
      .replace key ⟨binding.keyColumn, .text key⟩ [(binding.keyColumn, .text key)]
    let before : List IndexEvent := [.write (.enter 1), .write (.send 1 (put "a")),
      .write (.send 1 (put "b")), .write .receive, .write .gather, .apply false, .refresh true]
    let held : List IndexEvent := [.apply false, .commit false, .answer, .answer, .refresh true]
    let events := before ++ .acquire 7 :: held
    let start := SharedIndex.ofSnapshot [] 2
    ∃ last shown leased, start.run? binding.layout .manual events = some last ∧
      start.Shows binding.layout .manual events shown ∧ last.readers.current = shown.committed ∧
      shown.committed.size = 2 ∧ start.Shows binding.layout .manual before leased ∧
      last.ask? binding 7 (.size : Question Group GroupUuid) = some (.size leased.committed.size) ∧
      leased.committed.size = 0 := by
  intro binding put before held events start
  let last := (start.run? binding.layout .manual events).get (by decide +kernel)
  have ran : start.run? binding.layout .manual events = some last := (Option.some_get _).symm
  obtain ⟨shown, shows, current, _, _, _, leases, _⟩ :=
    SharedIndex.run_reads (κ := GroupUuid) binding ran
  obtain ⟨leased, leasedShows, told⟩ := leases before 7 held rfl (by simp [held])
  refine ⟨last, shown, leased, ran, shows, current, ?_, leasedShows, told .size, ?_⟩
  · rw [← current]
    decide +kernel
  · have none : (start.run? binding.layout .manual (loaded before)).map (·.committed.size) =
        some 0 := by decide +kernel
    rw [leasedShows.loaded] at none
    exact Option.some.inj none

end KeyedIndex
