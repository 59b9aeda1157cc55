import KeyedIndex.Index.Shared
import KeyedIndex.Proofs.Writer.Shared
import Mathlib.Data.List.DropRight

/-!
Steps and runs of shared indexes. What can happen at an event is told by one rule for each kind of
event (`SharedIndex.step?_iff`). What reads see is at any time what was committed when a snapshot
was loaded last (`SharedIndex.run_loaded`), and a lease keeps its snapshot until it is given
back (`SharedIndex.run_lease`).
-/
namespace KeyedIndex

variable {layout : Layout} {policy : ReloadPolicy}

/-- What can happen at an event, and what the index is afterwards. -/
inductive SharedIndex.Step (layout : Layout) (policy : ReloadPolicy) (index : SharedIndex) :
    IndexEvent → SharedIndex → Prop
  | write {event : QueueEvent} {writer : SharedWriter} (permitted : index.permits event = true)
    (step : index.writer.QueueStep event writer) :
    Step layout policy index (.write event) { index with writer }
  | apply {accepted : List Bool} {request : Request} (refused : Bool)
    (applying : index.progress = .applying accepted)
    (next : index.writer.worker.batch[accepted.length]? = some request) :
    Step layout policy index (.apply refused) (index.apply layout refused accepted request)
  | commit {accepted : List Bool} (fails : Bool) (applying : index.progress = .applying accepted)
    (whole : accepted.length = index.writer.worker.batch.length)
    (some : index.writer.worker.batch ≠ []) :
    Step layout policy index (.commit fails)
      (index.commit fails (taken index.writer.worker.batch accepted))
  | answer {next : Request × Answer} {left : List (Request × Answer)}
    (answering : index.progress = .answering (next :: left)) :
    Step layout policy index .answer { index with
      progress := .answering left
      writer := { index.writer with answered := index.writer.answered ++ [next] } }
  | finish (answering : index.progress = .answering []) :
    Step layout policy index .answer { index with
      progress := .applying []
      writer := { index.writer with worker := .waiting } }
  | refresh : Step layout policy index (.refresh true) index.load
  | refreshFails : Step layout policy index (.refresh false) index
  | reload (background : policy = .onCommit) : Step layout policy index .reload index.load
  | acquire {reader : Nat} (free : index.leases.lookup reader = none) :
    Step layout policy index (.acquire reader) { index with
      readers := index.readers.acquire.2
      leases := (reader, index.readers.current) :: index.leases }
  | release {reader : Nat} (held : (index.leases.lookup reader).isSome) :
    Step layout policy index (.release reader) { index with
      readers := index.readers.release
      leases := index.leases.filter (fun lease => lease.1 ≠ reader) }

variable {index next : SharedIndex} {event : IndexEvent}

theorem SharedIndex.workerStep?_eq_some (stepped : index.workerStep? layout event = some next) :
    index.Step layout policy event next := by
  unfold workerStep? at stepped
  split at stepped
  · split at stepped
    · rename_i applying
      obtain ⟨request, found, rfl⟩ := Option.map_eq_some_iff.mp stepped
      exact .apply _ applying found
    · contradiction
  · split at stepped
    · rename_i applying gathering
      obtain ⟨whole, same⟩ := Option.ite_none_right_eq_some.mp stepped
      obtain rfl := Option.some.inj same
      have batch := congrArg Worker.batch gathering
      rw [Worker.batch] at batch
      rw [← batch] at whole ⊢
      exact .commit _ applying whole (by simp [batch])
    · contradiction
  · split at stepped
    · rename_i answering
      obtain rfl := Option.some.inj stepped
      exact .finish answering
    · rename_i answering
      obtain rfl := Option.some.inj stepped
      exact .answer answering
    · contradiction
  · contradiction

theorem SharedIndex.readerStep?_eq_some (stepped : index.readerStep? event = some next) :
    index.Step layout policy event next := by
  unfold readerStep? at stepped
  split at stepped
  · obtain ⟨free, same⟩ := Option.ite_none_right_eq_some.mp stepped
    obtain rfl := Option.some.inj same
    exact .acquire (Option.isNone_iff_eq_none.mp free)
  · obtain ⟨held, same⟩ := Option.ite_none_right_eq_some.mp stepped
    obtain rfl := Option.some.inj same
    exact .release held
  · contradiction

theorem SharedIndex.step?_eq_some (stepped : index.step? layout policy event = some next) :
    index.Step layout policy event next := by
  unfold step? at stepped
  split at stepped
  · obtain ⟨permitted, same⟩ := Option.ite_none_right_eq_some.mp stepped
    obtain ⟨writer, written, rfl⟩ := Option.map_eq_some_iff.mp same
    exact .write permitted (SharedWriter.queueStep?_eq_some written)
  · exact workerStep?_eq_some stepped
  · exact workerStep?_eq_some stepped
  · exact workerStep?_eq_some stepped
  · rename_i loads
    obtain rfl := Option.some.inj stepped
    cases loads with
    | true => exact .refresh
    | false => exact .refreshFails
  · obtain ⟨background, same⟩ := Option.ite_none_right_eq_some.mp stepped
    obtain rfl := Option.some.inj same
    exact .reload background
  · exact readerStep?_eq_some stepped
  · exact readerStep?_eq_some stepped

theorem SharedIndex.Step.step?_eq (step : index.Step layout policy event next) :
    index.step? layout policy event = some next := by
  cases step with
  | write permitted step => simp [step?, permitted, step.queueStep?_eq]
  | apply refused applying found => simp [step?, workerStep?, applying, found]
  | @commit accepted fails applying whole some =>
    cases gathering : index.writer.worker with
    | waiting => simp [gathering, Worker.batch] at some
    | stopped => simp [gathering, Worker.batch] at some
    | gathering first more =>
      have length : accepted.length = more.length + 1 := by
        simpa [gathering, Worker.batch] using whole
      simp [step?, workerStep?, applying, gathering, length, Worker.batch]
  | answer answering => simp [step?, workerStep?, answering]
  | finish answering => simp [step?, workerStep?, answering]
  | refresh => rfl
  | refreshFails => rfl
  | reload background => simp [step?, background]
  | acquire free => simp [step?, readerStep?, free, Readers.acquire]
  | release held => simp [step?, readerStep?, held]

/-- The steps of an index are those that the rules allow. -/
theorem SharedIndex.step?_iff :
    index.step? layout policy event = some next ↔ index.Step layout policy event next :=
  ⟨step?_eq_some, Step.step?_eq⟩

/-! ### Runs -/

variable {start last : SharedIndex} {events : List IndexEvent}

theorem SharedIndex.run?_append (first later : List IndexEvent) :
    start.run? layout policy (first ++ later) =
      (start.run? layout policy first).bind (fun index => index.run? layout policy later) :=
  List.foldlM_append

/-- What every step keeps, given the events so far, a run keeps. -/
theorem SharedIndex.run?_keeps (keeps : List IndexEvent → SharedIndex → Prop)
    (steps : ∀ before index event next, start.run? layout policy before = some index →
      keeps before index → index.Step layout policy event next → keeps (before ++ [event]) next)
    (first : keeps [] start) (ran : start.run? layout policy events = some last) :
    keeps events last :=
  keeps_foldlM keeps (fun before index here kept event _ next stepped =>
    steps before index event next here kept (step?_eq_some stepped)) first ran

/-! ### What reads see -/

/-- Whether what is committed is loaded at an event for a client. -/
def IndexEvent.refreshes : IndexEvent → Bool
  | .refresh loads => loads
  | _ => false

/-- Whether what is committed is loaded at an event, for a client or in the background. -/
def IndexEvent.loads : IndexEvent → Bool
  | .refresh loads => loads
  | .reload => true
  | _ => false

/-- The events up to the last one at which something was loaded. -/
def loaded (events : List IndexEvent) : List IndexEvent :=
  events.rdropWhile (fun event => !event.loads)

/-- The events up to the last one at which a client has refreshed the index. -/
def refreshed (events : List IndexEvent) : List IndexEvent :=
  events.rdropWhile (fun event => !event.refreshes)

theorem loaded_concat (before : List IndexEvent) (event : IndexEvent) :
    loaded (before ++ [event]) = if event.loads then before ++ [event] else loaded before := by
  rw [loaded, List.rdropWhile_concat]
  cases event.loads <;> rfl

theorem refreshed_concat (before : List IndexEvent) (event : IndexEvent) :
    refreshed (before ++ [event]) =
      if event.refreshes then before ++ [event] else refreshed before := by
  rw [refreshed, List.rdropWhile_concat]
  cases event.refreshes <;> rfl

theorem loaded_earlier (events : List IndexEvent) : loaded events <+: events :=
  List.rdropWhile_prefix _ events

/-- What is loaded later is not older. -/
theorem loaded_mono (before later : List IndexEvent) :
    loaded before <+: loaded (before ++ later) := by
  induction later using List.reverseRecOn with
  | nil => simp
  | append_singleton later event ih =>
    rw [← List.append_assoc, loaded_concat]
    split
    · exact (loaded_earlier before).trans
        ((List.prefix_append before later).trans (List.prefix_append _ [event]))
    · exact ih

/-- What is loaded is at least as new as the last refresh. -/
theorem refreshed_earlier (events : List IndexEvent) : refreshed events <+: loaded events := by
  induction events using List.reverseRecOn with
  | nil => exact List.prefix_rfl
  | append_singleton before event ih =>
    rw [loaded_concat, refreshed_concat]
    by_cases refreshes : event.refreshes = true
    · have loads : event.loads = true := by
        cases event <;> simp_all [IndexEvent.refreshes, IndexEvent.loads]
      simp [refreshes, loads]
    · rw [if_neg refreshes]
      split
      · exact ih.trans ((loaded_earlier before).trans (List.prefix_append before [event]))
      · exact ih

/-- Nothing but commits changes what is committed, and nothing but loads what reads see. -/
theorem SharedIndex.Step.current (step : index.Step layout policy event next) :
    next.readers.current = if event.loads then next.committed else index.readers.current := by
  cases step with
  | commit fails applying whole some =>
    simp only [SharedIndex.commit, IndexEvent.loads]
    split <;> rfl
  | refresh | refreshFails | reload | write | apply | answer | finish | acquire | release => rfl

/-- What reads see was committed when something was loaded last. -/
theorem SharedIndex.run_loaded {snapshot : Snapshot} {size : Nat}
    (ran : (SharedIndex.ofSnapshot snapshot size).run? layout policy events = some last) :
    ∃ shown, (SharedIndex.ofSnapshot snapshot size).run? layout policy (loaded events) =
      some shown ∧ last.readers.current = shown.committed := by
  refine run?_keeps (fun events index => ∃ shown, (SharedIndex.ofSnapshot snapshot size).run? layout
    policy (loaded events) = some shown ∧ index.readers.current = shown.committed) ?_
    ⟨_, rfl, rfl⟩ ran
  rintro before index event next here ⟨shown, shownRan, same⟩ step
  rw [loaded_concat, step.current]
  split
  · refine ⟨next, ?_, rfl⟩
    rw [SharedIndex.run?_append, here]
    simpa [SharedIndex.run?] using step.step?_eq
  · exact ⟨shown, shownRan, same⟩

/-- If readers are to load only when they are told to, they see what the last refresh has loaded. -/
theorem loaded_eq_refreshed (manual : policy = .manual)
    (ran : start.run? layout policy events = some last) : loaded events = refreshed events := by
  refine SharedIndex.run?_keeps (fun events _ => loaded events = refreshed events) ?_ rfl ran
  intro before index event next here same step
  have loads : event.loads = event.refreshes := by
    cases step with
    | reload background =>
      rw [manual] at background
      contradiction
    | refresh | refreshFails | write | apply | commit | answer | finish | acquire | release => rfl
  rw [loaded_concat, refreshed_concat, loads, same]

/-! ### Leases -/

/-- Only who holds a lease gives it back. -/
theorem SharedIndex.Step.lease (step : index.Step layout policy event next) {reader : Nat}
    {snapshot : Snapshot} (held : index.leases.lookup reader = some snapshot)
    (kept : event ≠ .release reader) : next.leases.lookup reader = some snapshot := by
  cases step with
  | @acquire other free =>
    have apart : reader ≠ other := by
      rintro rfl
      rw [free] at held
      contradiction
    rw [List.lookup_cons, beq_false_of_ne apart]
    exact held
  | @release other =>
    have apart : reader ≠ other := fun same => kept (same ▸ rfl)
    rw [lookup_filter_ne _ apart, held]
  | commit =>
    simp only [SharedIndex.commit]
    split <;> exact held
  | write | apply | answer | finish | refresh | refreshFails | reload => exact held

/-- A lease keeps its snapshot until it is given back. -/
theorem SharedIndex.run_lease {reader : Nat} {snapshot : Snapshot}
    (held : start.leases.lookup reader = some snapshot) (kept : .release reader ∉ events)
    (ran : start.run? layout policy events = some last) :
    last.leases.lookup reader = some snapshot := by
  refine SharedIndex.run?_keeps (fun events index => .release reader ∉ events →
    index.leases.lookup reader = some snapshot) ?_ (fun _ => held) ran kept
  intro before index event next _ ih step absent
  rw [List.mem_append, List.mem_singleton, not_or] at absent
  exact step.lease (ih absent.1) fun same => absent.2 same.symm

end KeyedIndex
