import KeyedIndex.Proofs.Index.Accounts
import Mathlib.Data.List.Nodup

/-!
Where requests are while clients, closers and the worker take turns. At any time a request that has
been sent is at one place, once: in the queue, in the batch of the worker, or among those that are
answered. The worker stops when nothing is left to answer and nobody is left who could send
more, and who comes when the entrance has been taken away sends nothing
(`SharedIndex.run_places`).
-/
namespace KeyedIndex

variable {layout : Layout} {policy : ReloadPolicy}

/-- Where a request is that has been sent. -/
inductive Place where
  | queue
  | batch
  | answered

/-- The requests of the batch that wait for their answers: those that were accepted and those that
    are not applied yet, and in the end those that are still to be answered. -/
def SharedIndex.inBatch (index : SharedIndex) : List Request :=
  match index.progress with
  | .applying accepted =>
    taken index.writer.worker.batch accepted ++ index.writer.worker.batch.drop accepted.length
  | .answering left => left.map Prod.fst

/-- The requests that are at a place. -/
def SharedIndex.requestsAt (index : SharedIndex) : Place → List Request
  | .queue => index.writer.queue
  | .batch => index.inBatch
  | .answered => index.writer.answered.map Prod.fst

variable {index next : SharedIndex} {event : IndexEvent} {operations : List Operation}

theorem taken_concat {batch : List Request} {accepted : List Bool} {request : Request}
    (found : batch[accepted.length]? = some request) (flag : Bool) :
    taken batch (accepted ++ [flag]) = taken batch accepted ++ if flag then [request] else [] := by
  induction accepted generalizing batch with
  | nil =>
    obtain ⟨first, rest, rfl⟩ := List.exists_cons_of_ne_nil (by rintro rfl; simp at found : batch ≠ [])
    obtain rfl : first = request := by simpa using found
    cases flag <;> simp [taken]
  | cons head accepted ih =>
    obtain ⟨first, rest, rfl⟩ := List.exists_cons_of_ne_nil (by rintro rfl; simp at found : batch ≠ [])
    have later := ih (by simpa using found)
    simp only [taken] at later
    cases head <;> simp [taken, later]

theorem SharedIndex.inBatch_fresh (fresh : index.progress = .applying []) :
    index.inBatch = index.writer.worker.batch := by
  simp [SharedIndex.inBatch, fresh, taken]

theorem SharedIndex.inBatch_whole {accepted : List Bool}
    (applying : index.progress = .applying accepted)
    (whole : accepted.length = index.writer.worker.batch.length) :
    index.inBatch = taken index.writer.worker.batch accepted := by
  simp [SharedIndex.inBatch, applying, whole]

/-! ### Every request is at a place -/

/-- The requests at all places are the operations that were sent, with their numbers. -/
structure SharedIndex.Placed (operations : List Operation) (index : SharedIndex) : Prop where
  requests : (index.requestsAt .answered ++ (index.requestsAt .batch ++ index.requestsAt .queue)).Perm
    (numbered operations)
  sent : index.writer.sent = operations.length

theorem SharedIndex.Placed.write (placed : index.Placed operations) {event : QueueEvent}
    {writer : SharedWriter} (permitted : index.permits event = true)
    (step : index.writer.QueueStep event writer) :
    SharedIndex.Placed (operations ++ event.sent?.toList) { index with writer } := by
  obtain ⟨requests, sent⟩ := placed
  cases step with
  | send operation inside =>
    refine ⟨?_, by simp [QueueEvent.sent?, sent]⟩
    simp only [QueueEvent.sent?, Option.toList_some, numbered_concat, ← sent]
    simp only [requestsAt, ← List.append_assoc] at requests ⊢
    exact requests.append_right _
  | receive waiting queued =>
    have fresh := index.fresh_of_permits (by simp) permitted
    refine ⟨?_, by simpa [QueueEvent.sent?] using sent⟩
    simp only [requestsAt, SharedIndex.inBatch_fresh fresh, waiting, queued] at requests
    simpa [requestsAt, SharedIndex.inBatch, fresh, taken, Worker.batch, QueueEvent.sent?]
      using requests
  | gather gathering queued room =>
    have fresh := index.fresh_of_permits (by simp) permitted
    refine ⟨?_, by simpa [QueueEvent.sent?] using sent⟩
    simp only [requestsAt, SharedIndex.inBatch_fresh fresh, gathering, queued] at requests
    simpa [requestsAt, SharedIndex.inBatch, fresh, taken, Worker.batch, QueueEvent.sent?]
      using requests
  | stop waiting drained sealed left =>
    have fresh := index.fresh_of_permits (by simp) permitted
    refine ⟨?_, by simpa [QueueEvent.sent?] using sent⟩
    simp only [requestsAt, SharedIndex.inBatch_fresh fresh, waiting] at requests
    simpa [requestsAt, SharedIndex.inBatch, fresh, taken, Worker.batch, QueueEvent.sent?]
      using requests
  | enter | leave | «seal» | join | finish =>
    simp only [QueueEvent.sent?, Option.toList_none, List.append_nil]
    exact ⟨requests, sent⟩

/-- Who asked for an operation that is refused is answered, all others stay in the batch. -/
theorem SharedIndex.Placed.apply (placed : index.Placed operations) {accepted : List Bool}
    {request : Request} (refused : Bool) (applying : index.progress = .applying accepted)
    (found : index.writer.worker.batch[accepted.length]? = some request) :
    (index.apply layout refused accepted request).Placed operations := by
  refine ⟨List.Perm.trans ?_ placed.requests, placed.sent⟩
  obtain ⟨inside, here⟩ := List.getElem?_eq_some_iff.mp found
  have waiting : index.writer.worker.batch.drop accepted.length =
      request :: index.writer.worker.batch.drop (accepted.length + 1) := by
    rw [List.drop_eq_getElem_cons inside, here]
  simp only [requestsAt, inBatch, SharedIndex.apply, applying, List.length_append,
    List.length_singleton, waiting, taken_concat found]
  cases (request.operation.apply layout refused index.writer.workspace.pending).2 with
  | true => simp
  | false =>
    simp only [Bool.false_eq_true, if_false, Request.failed, List.map_append, List.map_cons,
      List.map_nil, List.append_nil, List.append_assoc, List.singleton_append]
    exact List.Perm.append_left _ List.perm_middle.symm

/-- A commit moves no request, whether it fails or not. -/
theorem SharedIndex.requestsAt_commit (fails : Bool) {accepted : List Bool}
    (applying : index.progress = .applying accepted)
    (whole : accepted.length = index.writer.worker.batch.length) (place : Place) :
    (index.commit fails (taken index.writer.worker.batch accepted)).requestsAt place =
      index.requestsAt place := by
  have batch := index.inBatch_whole applying whole
  unfold SharedIndex.commit
  split
  · rename_i none
    cases place with
    | batch => exact (batch.trans (List.isEmpty_iff.mp none)).symm
    | queue | answered => rfl
  · cases place with
    | batch =>
      refine Eq.trans ?_ batch.symm
      simp only [requestsAt, inBatch, List.map_map]
      refine (List.map_congr_left fun request _ => ?_).trans (List.map_id _)
      dsimp only [Function.comp]
      split <;> rfl
    | queue | answered => rfl

theorem SharedIndex.Placed.step (placed : index.Placed operations)
    (step : index.Step layout policy event next) :
    next.Placed (operations ++ event.sent?.toList) := by
  cases step with
  | write permitted step => exact placed.write permitted step
  | apply refused applying found =>
    simpa [IndexEvent.sent?] using placed.apply refused applying found
  | @commit accepted fails applying whole some =>
    refine ⟨?_, ?_⟩
    · simpa [IndexEvent.sent?, requestsAt_commit fails applying whole] using placed.requests
    · have same : (index.commit fails (taken index.writer.worker.batch accepted)).writer.sent =
          index.writer.sent := by
        unfold SharedIndex.commit
        split <;> rfl
      simpa [IndexEvent.sent?, same] using placed.sent
  | answer answering =>
    refine ⟨?_, by simpa [IndexEvent.sent?] using placed.sent⟩
    simpa [IndexEvent.sent?, requestsAt, inBatch, answering] using placed.requests
  | finish answering =>
    refine ⟨?_, by simpa [IndexEvent.sent?] using placed.sent⟩
    simpa [IndexEvent.sent?, requestsAt, inBatch, answering, Worker.batch, taken]
      using placed.requests
  | refresh | refreshFails | reload | acquire | release =>
    refine ⟨?_, by simpa [IndexEvent.sent?, SharedIndex.load] using placed.sent⟩
    simpa [IndexEvent.sent?, requestsAt, inBatch, SharedIndex.load] using placed.requests

/-! ### The end of the worker -/

/-- Without a batch nothing is under way, and when the worker has stopped nobody can send. -/
structure SharedIndex.Drains (index : SharedIndex) : Prop where
  idle : index.writer.worker.batch = [] → index.progress = .applying []
  stopped : index.writer.worker = .stopped →
    index.writer.queue = [] ∧ index.writer.isOpen = false ∧ index.writer.clients = []

theorem SharedIndex.Drains.write (drains : index.Drains) {event : QueueEvent}
    {writer : SharedWriter} (permitted : index.permits event = true)
    (step : index.writer.QueueStep event writer) :
    SharedIndex.Drains { index with writer } := by
  obtain ⟨idle, stopped⟩ := drains
  cases step with
  | enter isOpen =>
    refine ⟨idle, fun ended => ?_⟩
    rw [(stopped ended).2.1] at isOpen
    contradiction
  | send operation inside =>
    refine ⟨idle, fun ended => ?_⟩
    rw [(stopped ended).2.2] at inside
    contradiction
  | leave inside =>
    refine ⟨idle, fun ended => ?_⟩
    rw [(stopped ended).2.2] at inside
    contradiction
  | receive | gather =>
    exact ⟨fun _ => index.fresh_of_permits (by simp) permitted, fun ended => by contradiction⟩
  | stop waiting drained sealed left =>
    exact ⟨fun _ => index.fresh_of_permits (by simp) permitted, fun _ => ⟨drained, sealed, left⟩⟩
  | «seal» idle => exact ⟨‹_›, fun ended => ⟨(stopped ended).1, rfl, (stopped ended).2.2⟩⟩
  | join | finish => exact ⟨idle, stopped⟩

theorem SharedIndex.Drains.step (drains : index.Drains) (step : index.Step layout policy event next) :
    next.Drains := by
  cases step with
  | write permitted step => exact drains.write permitted step
  | @apply accepted request refused applying found =>
    refine ⟨fun none => ?_, drains.stopped⟩
    have none : index.writer.worker.batch = [] := none
    simp [none] at found
  | @commit accepted fails applying whole some =>
    have same : (index.commit fails (taken index.writer.worker.batch accepted)).writer.worker =
        index.writer.worker := by
      unfold SharedIndex.commit
      split <;> rfl
    refine ⟨fun none => ?_, fun ended => ?_⟩
    · rw [same] at none
      contradiction
    · rw [same] at ended
      rw [ended] at some
      contradiction
  | answer answering =>
    refine ⟨fun none => ?_, drains.stopped⟩
    have applying := drains.idle none
    rw [answering] at applying
    contradiction
  | finish => exact ⟨fun _ => rfl, fun ended => by contradiction⟩
  | refresh | refreshFails | reload | acquire | release => exact ⟨drains.idle, drains.stopped⟩

/-! ### After the entrance has been taken away -/

/-- The entrance is gone, and whoever is inside was there already. -/
structure SharedIndex.SealedSince (sealed index : SharedIndex) : Prop where
  closed : index.writer.isOpen = false
  inside : ∀ client ∈ index.writer.clients, client ∈ sealed.writer.clients

theorem SharedIndex.SealedSince.step {sealed : SharedIndex} (since : sealed.SealedSince index)
    (step : index.Step layout policy event next) : sealed.SealedSince next := by
  obtain ⟨closed, inside⟩ := since
  cases step with
  | write permitted step =>
    cases step with
    | enter isOpen =>
      rw [closed] at isOpen
      contradiction
    | leave => exact ⟨closed, fun client member => inside client (List.mem_of_mem_erase member)⟩
    | «seal» => exact ⟨rfl, inside⟩
    | send | receive | gather | stop | join | finish => exact ⟨closed, inside⟩
  | commit =>
    simp only [SharedIndex.commit]
    split <;> exact ⟨closed, inside⟩
  | apply | answer | finish | refresh | refreshFails | reload | acquire | release =>
    exact ⟨closed, inside⟩

/-- Who sends something after the entrance has been taken away was inside at that time. -/
theorem SharedIndex.run_sealed {start sealed last : SharedIndex} {events : List IndexEvent}
    (since : sealed.SealedSince start) (ran : start.run? layout policy events = some last) :
    sealed.SealedSince last ∧ ∀ client operation, .write (.send client operation) ∈ events →
      client ∈ sealed.writer.clients := by
  refine SharedIndex.run?_keeps (fun events index => sealed.SealedSince index ∧
    ∀ client operation, .write (.send client operation) ∈ events → client ∈ sealed.writer.clients)
    ?_ ⟨since, fun _ _ sent => by contradiction⟩ ran
  rintro before index event next _ ⟨since, senders⟩ step
  refine ⟨since.step step, fun client operation sent => ?_⟩
  rcases List.mem_append.mp sent with earlier | now
  · exact senders client operation earlier
  · obtain rfl := List.mem_singleton.mp now
    cases step with
    | write permitted step =>
      cases step with
      | send operation inside => exact since.inside client inside

/-! ### The main result -/

variable {start last : SharedIndex} {events : List IndexEvent} {snapshot : Snapshot} {size : Nat}

theorem SharedIndex.run_placed
    (ran : (SharedIndex.ofSnapshot snapshot size).run? layout policy events = some last) :
    last.Placed (requested events) ∧ last.Drains := by
  refine SharedIndex.run?_keeps (fun events index => index.Placed (requested events) ∧ index.Drains)
    ?_ ⟨⟨List.Perm.refl _, rfl⟩, ⟨fun _ => rfl, fun ended => by contradiction⟩⟩ ran
  rintro before index event next _ ⟨placed, drains⟩ step
  rw [requested_concat]
  exact ⟨placed.step step, drains.step step⟩

theorem numbered_nodup (operations : List Operation) : (numbered operations).Nodup := by
  refine List.Nodup.of_map Request.number ?_
  have numbers : (numbered operations).map Request.number = List.range operations.length :=
    List.ext_getElem (by simp [numbered]) (by simp [numbered])
  rw [numbers]
  exact List.nodup_range

/-- What is at some place has been sent, and what has been sent is at exactly one place, once. -/
theorem SharedIndex.Placed.unique (placed : last.Placed operations) :
    (∀ request, request ∈ numbered operations ↔ ∃! place, request ∈ last.requestsAt place) ∧
      ∀ place, (last.requestsAt place).Nodup := by
  have distinct := placed.requests.nodup_iff.mpr (numbered_nodup operations)
  obtain ⟨answered, others, apart⟩ := List.nodup_append.mp distinct
  obtain ⟨batch, queue, later⟩ := List.nodup_append.mp others
  refine ⟨fun request => ⟨fun sent => ?_, ?_⟩, fun place => ?_⟩
  · have some := placed.requests.mem_iff.mpr sent
    simp only [List.mem_append] at some
    rcases some with here | here | here
    · refine ⟨.answered, here, fun place also => ?_⟩
      cases place with
      | answered => rfl
      | batch => exact absurd rfl (apart _ here _ (List.mem_append_left _ also))
      | queue => exact absurd rfl (apart _ here _ (List.mem_append_right _ also))
    · refine ⟨.batch, here, fun place also => ?_⟩
      cases place with
      | answered => exact absurd rfl (apart _ also _ (List.mem_append_left _ here))
      | batch => rfl
      | queue => exact absurd rfl (later _ here _ also)
    · refine ⟨.queue, here, fun place also => ?_⟩
      cases place with
      | answered => exact absurd rfl (apart _ also _ (List.mem_append_right _ here))
      | batch => exact absurd rfl (later _ also _ here)
      | queue => rfl
  · rintro ⟨place, here, _⟩
    refine placed.requests.mem_iff.mp ?_
    cases place with
    | answered => exact List.mem_append_left _ here
    | batch => exact List.mem_append_right _ (List.mem_append_left _ here)
    | queue => exact List.mem_append_right _ (List.mem_append_right _ here)
  · cases place with
    | answered => exact answered
    | batch => exact batch
    | queue => exact queue

/-- When the worker has stopped, every request that was sent has been answered. -/
theorem SharedIndex.Placed.answered (placed : last.Placed operations) (drains : last.Drains)
    (ended : last.writer.worker = .stopped) {request : Request}
    (sent : request ∈ numbered operations) :
    ∃ answer, (request, answer) ∈ last.writer.answered := by
  have batch : last.inBatch = [] := by
    rw [SharedIndex.inBatch_fresh (drains.idle (by rw [ended, Worker.batch])), ended, Worker.batch]
  have queue := (drains.stopped ended).1
  have all := placed.requests.mem_iff.mpr sent
  simp only [requestsAt, batch, queue, List.append_nil, List.mem_map, Prod.exists] at all
  obtain ⟨_, answer, told, rfl⟩ := all
  exact ⟨answer, told⟩

/-- In every run, what has been sent is at exactly one place, once, and nothing else is: in the
    queue, in the batch of the worker, or among what is answered. When the worker has stopped, the
    queue is empty, the entrance is gone and nobody is inside, so no client that is inside ever
    finds it stopped; and every request that was sent has been answered. Once the entrance has
    been taken away, nobody is let in any more, and only those send something who were inside by
    then. -/
theorem SharedIndex.run_places
    (ran : (SharedIndex.ofSnapshot snapshot size).run? layout policy events = some last) :
    (∀ request, request ∈ numbered (requested events) ↔
      ∃! place, request ∈ last.requestsAt place) ∧
    (∀ place, (last.requestsAt place).Nodup) ∧
    (last.writer.worker = .stopped →
      last.writer.queue = [] ∧ last.writer.isOpen = false ∧ last.writer.clients = [] ∧
        ∀ request ∈ numbered (requested events),
          ∃ answer, (request, answer) ∈ last.writer.answered) ∧
    ∀ before closer later, events = before ++ .write (.seal closer) :: later →
      (∀ client, last.writer.enter client = .error .writerClosed ∧
        last.step? layout policy (.write (.enter client)) = none) ∧
        ∃ sealed, (SharedIndex.ofSnapshot snapshot size).run? layout policy before = some sealed ∧
          ∀ client operation, .write (.send client operation) ∈ later →
            client ∈ sealed.writer.clients := by
  obtain ⟨placed, drains⟩ := SharedIndex.run_placed ran
  obtain ⟨unique, once⟩ := placed.unique
  refine ⟨unique, once, fun ended => ?_, ?_⟩
  · obtain ⟨queue, closed, left⟩ := drains.stopped ended
    exact ⟨queue, closed, left, fun request sent => placed.answered drains ended sent⟩
  · rintro before closer later rfl
    rw [SharedIndex.run?_append] at ran
    obtain ⟨sealed, sealedRan, rest⟩ := Option.bind_eq_some_iff.mp ran
    obtain ⟨next, stepped, laterRan⟩ := Option.bind_eq_some_iff.mp rest
    have since : sealed.SealedSince next := by
      cases SharedIndex.step?_eq_some stepped with
      | write permitted step =>
        cases step with
        | «seal» idle => exact ⟨rfl, fun _ inside => inside⟩
    obtain ⟨lastSince, senders⟩ := SharedIndex.run_sealed since laterRan
    refine ⟨fun client => ?_, sealed, sealedRan, senders⟩
    have refused : last.writer.enter client = .error .writerClosed := by
      rw [SharedWriter.enter, lastSince.closed]
      rfl
    exact ⟨refused, by simp [SharedIndex.step?, SharedIndex.permits, SharedWriter.queueStep?, refused,
      Except.toOption]⟩

/-- Two clients are inside when the entrance is taken away. One of them sends only then; the engine
    refuses the operation of the other one, and the commit of the batch fails. -/
theorem SharedIndex.run_places_closing :
    let layout : Layout := [⟨"key", .text .whole, true, true⟩]
    let put (key : String) : Operation := .replace key ⟨0, .text key⟩ [(0, .text key)]
    let before : List IndexEvent := [.write (.enter 1), .write (.enter 2), .write (.send 1 (put "a"))]
    let later : List IndexEvent := [.write (.join 7), .write .receive, .write (.send 2 (put "b")),
      .write (.leave 1), .write .gather, .apply true, .write (.leave 2), .apply false, .commit true,
      .answer, .answer, .write .stop, .write (.finish 7)]
    let events := before ++ .write (.seal 7) :: later
    ∃ last, (SharedIndex.ofSnapshot [] 2).run? layout .manual events = some last ∧
      last.writer.worker = .stopped ∧
      (∀ request ∈ numbered [put "a", put "b"],
        ∃ answer, (request, answer) ∈ last.writer.answered) ∧
      (last.requestsAt .answered).Nodup ∧ last.writer.enter 3 = .error .writerClosed := by
  intro layout put before later events
  let last := ((SharedIndex.ofSnapshot [] 2).run? layout .manual events).get (by decide +kernel)
  have ran : (SharedIndex.ofSnapshot [] 2).run? layout .manual events = some last :=
    (Option.some_get _).symm
  have ended : last.writer.worker = .stopped := rfl
  obtain ⟨_, once, drained, refused⟩ := SharedIndex.run_places ran
  exact ⟨last, ran, ended, (drained ended).2.2.2, once .answered,
    ((refused before 7 later rfl).1 3).1⟩

end KeyedIndex
