import KeyedIndex.Proofs.Index.Places

/-!
What has been done when a call that closes the writer returns. Of all who close it only the
first one waits for the worker; the others return at once. So when someone has returned, the
worker has stopped or the first one still waits for it (`SharedWriter.Attended`); and from the
time on that the worker has stopped, all requests are answered and nothing changes any more
(`SharedIndex.run_closing`). Who comes second may return before anything is drained
(`SharedIndex.returns_undrained`).
-/
namespace KeyedIndex

variable {layout : Layout} {policy : ReloadPolicy}

/-! ### Those who close the writer -/

theorem lookup_setClosing (closer other : Nat) (closing : Closing) (closers : List (Nat × Closing)) :
    (setClosing closer closing closers).lookup other =
      if other = closer then some closing else closers.lookup other := by
  rw [setClosing, List.lookup_cons]
  split
  · rename_i same
    rw [if_pos (by simpa using same)]
  · rename_i apart
    have apart : other ≠ closer := by simpa using apart
    rw [if_neg apart, lookup_filter_ne _ apart]

/-- The entrance is gone as soon as someone closes the writer. The first one waits for the worker,
    and before that nobody has returned; until the worker stops, the first one goes on waiting. -/
structure SharedWriter.Attended (writer : SharedWriter) : Prop where
  closed : ∀ closer closing, writer.closers.lookup closer = some closing → writer.isOpen = false
  first : ∀ closer, writer.closers.lookup closer ∈ [some .joining, some .returned] →
    writer.joinable = false
  waits : writer.joinable = false → writer.worker = .stopped ∨
    ∃ closer, writer.closers.lookup closer = some .joining

variable {writer nextWriter : SharedWriter}

theorem SharedWriter.attended_ofSnapshot (snapshot : Snapshot) (size : Nat) :
    (SharedWriter.ofSnapshot snapshot size).Attended where
  closed _ _ found := by contradiction
  first _ found := by simp [ofSnapshot] at found
  waits taken := by contradiction

/-- Who leaves alone those who close the writer, and does not start a worker that has stopped, keeps
    it attended. -/
theorem SharedWriter.Attended.congr (attended : writer.Attended)
    (closers : nextWriter.closers = writer.closers) (entrance : nextWriter.isOpen = writer.isOpen)
    (joinable : nextWriter.joinable = writer.joinable)
    (worker : writer.worker = .stopped → nextWriter.worker = .stopped) : nextWriter.Attended := by
  obtain ⟨closed, first, waits⟩ := attended
  rw [← entrance, ← closers] at closed
  rw [← closers, ← joinable] at first
  rw [← closers, ← joinable] at waits
  exact ⟨closed, first, fun taken => (waits taken).imp_left worker⟩

theorem SharedWriter.Attended.step (attended : writer.Attended) {event : QueueEvent}
    (step : writer.QueueStep event nextWriter) : nextWriter.Attended := by
  cases step with
  | enter | send | leave => exact attended.congr rfl rfl rfl id
  | receive waiting => exact attended.congr rfl rfl rfl (by simp [waiting])
  | gather gathering => exact attended.congr rfl rfl rfl (by simp [gathering])
  | stop => exact attended.congr rfl rfl rfl (fun _ => rfl)
  | @«seal» closer idle =>
    refine ⟨fun _ _ _ => rfl, fun other found => ?_, fun taken => ?_⟩
    · rw [lookup_setClosing] at found
      split at found
      · simp at found
      · exact attended.first other found
    · refine (attended.waits taken).imp_right ?_
      rintro ⟨other, joining⟩
      have apart : other ≠ closer := by
        rintro rfl
        simp [joining] at idle
      exact ⟨other, by rw [lookup_setClosing, if_neg apart, joining]⟩
  | @join closer sealed =>
    refine ⟨fun _ _ _ => attended.closed closer _ sealed, fun _ _ => rfl, fun _ => ?_⟩
    cases joinable : writer.joinable with
    | true => exact .inr ⟨closer, by simp [lookup_setClosing]⟩
    | false =>
      refine (attended.waits joinable).imp_right ?_
      rintro ⟨other, joining⟩
      have apart : other ≠ closer := by
        rintro rfl
        simp [joining] at sealed
      exact ⟨other, by rw [lookup_setClosing, if_neg apart, joining]⟩
  | @finish closer joining stopped =>
    refine ⟨fun _ _ _ => attended.closed closer _ joining, fun other found => ?_,
      fun _ => .inl stopped⟩
    exact attended.first closer (by simp [joining])

/-! ### A worker that has stopped -/

variable {index next start ended last : SharedIndex} {event : IndexEvent}

theorem SharedIndex.attended_step (drains : index.Drains) (attended : index.writer.Attended)
    (step : index.Step layout policy event next) : next.writer.Attended := by
  cases step with
  | write permitted step => exact attended.step step
  | finish answering =>
    refine attended.congr rfl rfl rfl fun stopped => ?_
    have applying := drains.idle (by rw [stopped, Worker.batch])
    rw [answering] at applying
    contradiction
  | commit =>
    unfold SharedIndex.commit
    split <;> exact attended.congr rfl rfl rfl id
  | apply | answer | refresh | refreshFails | reload | acquire | release =>
    exact attended.congr rfl rfl rfl id

/-- The worker has stopped, and since then nothing has been committed or answered. -/
structure SharedIndex.EndedSince (ended index : SharedIndex) : Prop where
  stopped : index.writer.worker = .stopped
  committed : index.committed = ended.committed
  answered : index.writer.answered = ended.writer.answered

theorem SharedIndex.EndedSince.step (since : ended.EndedSince index) (drains : index.Drains)
    (step : index.Step layout policy event next) : ended.EndedSince next ∧ event.sent? = none := by
  obtain ⟨stopped, committed, answered⟩ := since
  obtain ⟨_, closed, left⟩ := drains.stopped stopped
  have idle : index.writer.worker.batch = [] := by rw [stopped, Worker.batch]
  cases step with
  | write permitted step =>
    cases step with
    | enter isOpen => simp [closed] at isOpen
    | send operation inside => simp [left] at inside
    | leave inside => simp [left] at inside
    | receive waiting => simp [stopped] at waiting
    | gather gathering => simp [stopped] at gathering
    | stop waiting => simp [stopped] at waiting
    | «seal» | join | finish => exact ⟨⟨stopped, committed, answered⟩, rfl⟩
  | apply refused applying found => simp [idle] at found
  | commit fails applying whole some => exact absurd idle some
  | answer answering => simp [drains.idle idle] at answering
  | finish answering => simp [drains.idle idle] at answering
  | refresh | refreshFails | reload | acquire | release =>
    exact ⟨⟨stopped, committed, answered⟩, rfl⟩

/-- When the worker has stopped nothing is committed, answered or sent any more. -/
theorem SharedIndex.run_ended {later : List IndexEvent} (stopped : ended.writer.worker = .stopped)
    (drains : ended.Drains) (ran : ended.run? layout policy later = some last) :
    ended.EndedSince last ∧ requested later = [] := by
  have kept := SharedIndex.run?_keeps (fun events index =>
    (ended.EndedSince index ∧ requested events = []) ∧ index.Drains) ?_
    ⟨⟨⟨stopped, rfl, rfl⟩, rfl⟩, drains⟩ ran
  · exact kept.1
  · rintro before index event next _ ⟨⟨since, none⟩, drains⟩ step
    obtain ⟨sinceNext, unsent⟩ := since.step drains step
    refine ⟨⟨sinceNext, ?_⟩, drains.step step⟩
    rw [requested_concat, none, unsent]
    rfl

/-! ### Calls that have returned -/

variable {snapshot : Snapshot} {size : Nat} {events : List IndexEvent}

theorem SharedIndex.run_attended
    (ran : (SharedIndex.ofSnapshot snapshot size).run? layout policy events = some last) :
    last.writer.Attended := by
  refine (SharedIndex.run?_keeps (fun _ index => index.writer.Attended ∧ index.Drains) ?_
    ⟨SharedWriter.attended_ofSnapshot snapshot size, ⟨fun _ => rfl, fun ended => by contradiction⟩⟩
    ran).1
  rintro _ index event next _ ⟨attended, drains⟩ step
  exact ⟨index.attended_step drains attended step, drains.step step⟩

/-- Who has waited for the worker returns after it has stopped. -/
theorem SharedIndex.run_waited
    (ran : (SharedIndex.ofSnapshot snapshot size).run? layout policy events = some last)
    {closer : Nat} (waited : .write (.finish closer) ∈ events) : last.writer.worker = .stopped := by
  obtain ⟨before, later, rfl⟩ := List.append_of_mem waited
  rw [SharedIndex.run?_append] at ran
  obtain ⟨seen, seenRan, rest⟩ := Option.bind_eq_some_iff.mp ran
  obtain ⟨next, stepped, laterRan⟩ := Option.bind_eq_some_iff.mp rest
  have step := SharedIndex.step?_eq_some stepped
  -- Right after the event the worker has stopped, and nothing later starts it again.
  have drains : next.Drains := (SharedIndex.run_placed seenRan).2.step step
  have stopped : next.writer.worker = .stopped := by
    cases step with
    | write permitted step =>
      cases step with
      | finish joining stopped => exact stopped
  exact (SharedIndex.run_ended stopped drains laterRan).1.stopped

/-- When someone who closes the writer has returned, the entrance is gone, and the worker has stopped
    unless another one still waits for it; whoever has waited returns only when it has stopped.
    When it has stopped, every request that was sent has been answered, whoever was told of success
    has been committed, and whatever happens later, nothing is sent, answered or committed. -/
theorem SharedIndex.run_closing {before later : List IndexEvent} {seen : SharedIndex} {closer : Nat}
    (seenRan : (SharedIndex.ofSnapshot snapshot size).run? layout policy before = some seen)
    (ran : seen.run? layout policy later = some last)
    (returned : seen.writer.closers.lookup closer = some .returned) :
    seen.writer.isOpen = false ∧
    (seen.writer.worker = .stopped ∨
      ∃ other ≠ closer, seen.writer.closers.lookup other = some .joining) ∧
    (∀ waiting, .write (.finish waiting) ∈ before → seen.writer.worker = .stopped) ∧
    (seen.writer.worker = .stopped →
      (∀ request ∈ numbered (requested before),
        ∃ answer, (request, answer) ∈ seen.writer.answered) ∧
      (∃ changes : List (Request × Bool),
        seen.committed.documents = changes.foldl (tell layout) snapshot.documents ∧
        (changes.map Prod.fst).Sublist (numbered (requested before)) ∧
        ∀ request, (request, .ok ()) ∈ seen.writer.answered → (request, true) ∈ changes) ∧
      requested later = [] ∧ seen.EndedSince last) := by
  have attended := SharedIndex.run_attended seenRan
  obtain ⟨placed, drains⟩ := SharedIndex.run_placed seenRan
  refine ⟨attended.closed closer _ returned, ?_, fun _ waited => SharedIndex.run_waited seenRan waited,
    fun stopped => ⟨fun request sent => placed.answered drains stopped sent, ?_, ?_⟩⟩
  · refine (attended.waits (attended.first closer (by simp [returned]))).imp_right ?_
    rintro ⟨other, joining⟩
    refine ⟨other, ?_, joining⟩
    rintro rfl
    simp [joining] at returned
  · obtain ⟨commits, changes, accounts⟩ := SharedIndex.run_accounts seenRan
    refine ⟨commits, accounts.committed, List.Sublist.trans ?_ accounts.ordered,
      fun request told => accounts.acknowledged request (List.mem_append_left _ told)⟩
    simp
  · obtain ⟨since, unsent⟩ := SharedIndex.run_ended stopped drains ran
    exact ⟨unsent, since⟩

/-- Two close the writer while an operation is in the queue. The second one returns at once, when
    nothing is committed and nobody has been answered; the document is committed only later. -/
theorem SharedIndex.returns_undrained :
    let layout : Layout := [⟨"key", .text .whole, true, true⟩]
    let put : Operation := .replace "a" ⟨0, .text "a"⟩ [(0, .text "a")]
    let before : List IndexEvent := [.write (.enter 1), .write (.send 1 put), .write (.leave 1),
      .write (.seal 7), .write (.join 7), .write (.seal 8), .write (.join 8)]
    let later : List IndexEvent := [.write .receive, .apply false, .commit false, .answer]
    ∃ seen last, (SharedIndex.ofSnapshot [] 1).run? layout .manual before = some seen ∧
      seen.run? layout .manual later = some last ∧
      seen.writer.closers.lookup 8 = some .returned ∧
      seen.writer.worker ≠ .stopped ∧ requested before = [put] ∧ seen.writer.answered = [] ∧
      seen.committed.documents = [] ∧ last.committed.documents = [[(0, .text "a")]] := by
  intro layout put before later
  let seen := ((SharedIndex.ofSnapshot [] 1).run? layout .manual before).get (by decide +kernel)
  let last := (seen.run? layout .manual later).get (by decide +kernel)
  exact ⟨seen, last, (Option.some_get _).symm, (Option.some_get _).symm, rfl,
    fun stopped => by contradiction, rfl, rfl, rfl, by decide +kernel⟩

end KeyedIndex
