import KeyedIndex.Proofs.Index.Opening

/-!
Runs of calls on one index. Whatever is asked of an index and however often it is closed and
opened again, what it has committed are the documents of the store that the acknowledged
changes leave, one for each key (`Origin.run_documents`).
-/
namespace KeyedIndex

variable {α κ : Type}

/-- What one may ask of an index. -/
inductive Call (α κ : Type) where
  | one (change : Change α κ)
  /-- Changes that are asked for at the same time. -/
  | several (changes : List (Change α κ))
  | refresh
  | close
  /-- Close the index, and open it once more. -/
  | reopen

def Call.changes : Call α κ → List (Change α κ)
  | .one change => [change]
  | .several changes => changes
  | .refresh | .close | .reopen => []

/-- An index and what it shares with others. -/
structure Session (α : Type) where
  index : Index α
  host : Host

variable [Key κ] [Entity α κ]

def Index.change (index : Index α) (host : Host) : Change α κ → Answer × Index α × Host
  | .replace entity => index.replace entity host
  | .delete key => index.delete key host
  | .deleteAll => index.deleteAll host

/-- What a call makes of a session, and the answers to its changes. An index that cannot be refreshed
    stays as it is, and one that cannot be opened again stays closed. -/
def Session.step (origin : Origin α) (session : Session α) :
    Call α κ → Session α × List (Change α κ × Answer)
  | .one change =>
    let (answer, index, host) := session.index.change session.host change
    (⟨index, host⟩, [(change, answer)])
  | .several changes =>
    let operations := changes.map (Change.operation session.index.binding)
    let (answers, index, host) := session.index.execute operations session.host
    (⟨index, host⟩, changes.zip answers)
  | .refresh =>
    match session.index.refresh session.host with
    | .ok index => (⟨index, session.host⟩, [])
    | .error _ => (session, [])
  | .close =>
    let (index, host) := session.index.close session.host
    (⟨index, host⟩, [])
  | .reopen =>
    let (closed, host) := session.index.close session.host
    match origin.open host with
    | (.ok index, host) => (⟨index, host⟩, [])
    | (.error _, host) => (⟨closed, host⟩, [])

/-- A session after some calls, and the answers to all changes. -/
def Session.run (origin : Origin α) (session : Session α) :
    List (Call α κ) → Session α × List (Change α κ × Answer)
  | [] => (session, [])
  | call :: rest =>
    let (next, first) := session.step origin call
    let (last, later) := next.run origin rest
    (last, first ++ later)

/-- Whether the index is closed after a call. -/
def Origin.closedAfter (origin : Origin α) (closed : Bool) : Call α κ → Bool
  | .close => true
  | .reopen => !(indexFile origin.directory).isUsable
  | .one _ | .several _ | .refresh => closed

/-- A call is legal: its entities are identified by the values of their key fields, and only what is
    stored is opened again. -/
def Call.Legal (origin : Origin α) (call : Call α κ) : Prop :=
  (∀ change ∈ call.changes, change.Identified origin.schema) ∧
    (call = .reopen → origin.settings.inMemory = false)

variable {origin : Origin α} {index : Index α} {host : Host} {store : Cache α}

/-! ### Single changes -/

theorem Index.change_eq (change : Change α κ) :
    index.change host change = index.executeOne (change.operation index.binding) host := by
  cases change <;> rfl

variable [LawfulKey κ] [DecidableEq κ]

/-- A single change is acknowledged unless the index is closed or the values do not fit. -/
theorem Origin.Keeps.change (keeps : origin.Keeps index host store) {change : Change α κ}
    (identified : change.Identified origin.schema) :
    let answer := change.reply origin.schema index.writer.closed [change]
    let done := index.change host change
    done.1 = answer ∧ origin.Keeps done.2.1 done.2.2 (store.record [(change, answer)]) ∧
      done.2.1.writer.closed = index.writer.closed := by
  have only : ∀ other ∈ [change], other.Identified origin.schema := by simpa using identified
  have answers := keeps.execute_one identified
  obtain ⟨_, kept, closed⟩ := keeps.execute only
  simp only [List.map_cons, List.map_nil] at kept closed
  simp only [Index.change_eq, Index.executeOne, answers, List.head?_cons, Option.getD_some]
  rw [answers] at kept
  exact ⟨trivial, kept, closed⟩

/-! ### Runs -/

/-- A call keeps the documents of the store that its acknowledged changes leave. -/
theorem Session.step_keeps {session : Session α} (valid : origin.Valid)
    (keeps : origin.Keeps session.index session.host store) {call : Call α κ}
    (legal : call.Legal origin) :
    let next := session.step origin call
    origin.Keeps next.1.index next.1.host (store.record next.2) ∧
      next.2.map Prod.fst = call.changes ∧
      next.1.index.writer.closed = origin.closedAfter session.index.writer.closed call := by
  obtain ⟨identified, stored⟩ := legal
  cases call with
  | one change =>
    obtain ⟨answer, kept, closed⟩ := keeps.change (identified change List.mem_cons_self)
    simp only [Session.step, answer]
    exact ⟨kept, rfl, closed⟩
  | several changes =>
    obtain ⟨count, kept, closed⟩ := keeps.execute identified
    simp only [Session.step]
    exact ⟨kept, List.map_fst_zip (le_of_eq count.symm), closed⟩
  | refresh =>
    obtain ⟨refreshed, done, kept, _, writer⟩ := keeps.refresh
    simp only [Session.step, done]
    exact ⟨kept, rfl, congrArg Writer.closed writer⟩
  | close =>
    obtain ⟨kept, closed⟩ := keeps.close
    exact ⟨kept, rfl, closed⟩
  | reopen =>
    obtain ⟨kept, closed⟩ := keeps.close
    have again := kept.open_closed valid (stored rfl) closed
    simp only [Session.step, Origin.closedAfter]
    by_cases usable : (indexFile origin.directory).isUsable
    · rw [if_pos usable] at again
      obtain ⟨opened, after, done, keptAgain, taking⟩ := again
      simp only [done, usable]
      exact ⟨keptAgain, rfl, taking⟩
    · rw [if_neg usable] at again
      simp only [again, usable]
      exact ⟨kept, rfl, closed⟩

theorem Session.run_keeps {session : Session α} {calls : List (Call α κ)} (valid : origin.Valid)
    (keeps : origin.Keeps session.index session.host store)
    (legal : ∀ call ∈ calls, call.Legal origin) :
    let last := session.run origin calls
    origin.Keeps last.1.index last.1.host (store.record last.2) ∧
      last.2.map Prod.fst = calls.flatMap Call.changes ∧
      last.1.index.writer.closed =
        calls.foldl origin.closedAfter session.index.writer.closed := by
  induction calls generalizing session store with
  | nil => exact ⟨keeps, rfl, rfl⟩
  | cons call rest ih =>
    obtain ⟨here, later⟩ := List.forall_mem_cons.mp legal
    obtain ⟨next, answered, closed⟩ := Session.step_keeps valid keeps here
    obtain ⟨last, answeredLater, closedLater⟩ := ih next later
    simp only [Session.run]
    refine ⟨?_, ?_, ?_⟩
    · rw [Cache.record_append]
      exact last
    · rw [List.map_append, answered, answeredLater, List.flatMap_cons]
    · rw [closedLater, closed, List.foldl_cons]

/-- After any calls on an index that was new, it keeps the documents of the store that the
    acknowledged changes leave. -/
theorem Origin.run_keeps {after : Host} (opened : origin.open host = (.ok index, after))
    (fresh : origin.settings.inMemory = false →
      host.disk.has (indexFile origin.directory) = false)
    {calls : List (Call α κ)} (legal : ∀ call ∈ calls, call.Legal origin) :
    let last := Session.run origin ⟨index, after⟩ calls
    origin.Keeps last.1.index last.1.host ((Cache.empty : Cache α).record last.2) ∧
      last.2.map Prod.fst = calls.flatMap Call.changes ∧
      last.1.index.writer.closed = calls.foldl origin.closedAfter false := by
  obtain ⟨valid, keeps, taking⟩ := Origin.open_fresh opened fresh
  let first : Session α := ⟨index, after⟩
  have keepsFirst : origin.Keeps first.index first.host Cache.empty := keeps
  obtain ⟨kept, answered, closed⟩ := Session.run_keeps valid keepsFirst legal
  exact ⟨kept, answered, taking ▸ closed⟩

/-- The documents with a key are those of the entity with the key. -/
theorem Schema.Keyed.documents_of_key {schema : Schema α} (keyed : schema.Keyed store) (key : κ) :
    (schema.documents store).filter (fun document => schema.bound.key? document = some key) =
      ((store.get? key).map schema.bound.document).toList := by
  have same : ∀ entity ∈ store.entities,
      (decide (schema.bound.key? (schema.bound.document entity) = some key)) =
        decide (Entity.key entity = key) := by
    intro entity member
    rw [(keyed.identified entity member).key?_document]
    simp
  have kept := (List.filter_congr same).trans (Cache.filter_key keyed.distinct key)
  rw [Schema.documents, List.filter_map]
  refine (congrArg _ kept).trans ?_
  cases store.get? key <;> rfl

/-- After any calls on an index that was new, what is committed are the documents of the store that
    the acknowledged changes leave, one for each key. All changes have been answered, the readers
    count the store when they are refreshed, and the next change is acknowledged unless the
    index is closed or the values do not fit. -/
theorem Origin.run_documents {after : Host} (opened : origin.open host = (.ok index, after))
    (fresh : origin.settings.inMemory = false →
      host.disk.has (indexFile origin.directory) = false)
    {calls : List (Call α κ)} (legal : ∀ call ∈ calls, call.Legal origin) :
    let last := Session.run origin ⟨index, after⟩ calls
    let store := (Cache.empty : Cache α).record last.2
    let closed := calls.foldl origin.closedAfter false
    last.2.map Prod.fst = calls.flatMap Call.changes ∧
      (∃ commit, last.1.index.stored? last.1.host = some commit ∧
        commit.snapshot.documents = store.entities.map origin.schema.bound.document ∧
        ∀ key, commit.snapshot.documents.filter
            (fun document => origin.schema.bound.key? document = some key) =
          ((store.get? key).map origin.schema.bound.document).toList) ∧
      (∃ refreshed, last.1.index.refresh last.1.host = .ok refreshed ∧
        refreshed.size = store.size) ∧
      ∀ change : Change α κ, change.Identified origin.schema →
        (last.1.index.change last.1.host change).1 =
          if closed then .error .writerClosed
          else if change.fits origin.schema then .ok ()
          else .error (.write (change.operation origin.schema.bound).key) := by
  intro last store closed
  obtain ⟨kept, answered, closedNow⟩ := Origin.run_keeps opened fresh legal
  refine ⟨answered, ?_, ?_, fun change identified => ?_⟩
  · obtain ⟨commit, found, same, _⟩ := kept.secures.stored?
    refine ⟨commit, found, same ▸ kept.documents, fun key => ?_⟩
    rw [same, kept.documents]
    exact kept.keyed.documents_of_key key
  · obtain ⟨refreshed, done, _, current, _⟩ := kept.refresh
    refine ⟨refreshed, done, ?_⟩
    rw [Index.size, Snapshot.size, current, kept.documents, Schema.documents, List.length_map]
    rfl
  · obtain ⟨answer, _, _⟩ := kept.change identified
    rw [answer, closedNow]
    simp [Change.reply, closed]

/-- A group that is renamed after its index has been opened again. -/
theorem Origin.run_documents_renamed :
    let origin : Origin Group :=
      ⟨"/", GroupSchema.second, { Settings.default "/" with indexPath := "/data" }⟩
    let host := Host.ofDisk Disk.empty
    let group := Group.ofName 1 ⟨"g1", by decide, by decide⟩ "admins" .epoch
    let renamed := { group with name := "site-admins" }
    let calls : List (Call Group GroupUuid) :=
      [.one (.replace group), .reopen, .one (.replace renamed), .close]
    ∃ index after, origin.open host = (.ok index, after) ∧
      let last := Session.run origin ⟨index, after⟩ calls
      ∃ commit, last.1.index.stored? last.1.host = some commit ∧
        commit.snapshot.documents = [origin.schema.bound.document renamed] := by
  intro origin host group renamed calls
  let index := (origin.open host).1.toOption.get (by decide +kernel)
  have opened : origin.open host = (.ok index, (origin.open host).2) :=
    Prod.ext (toOption_eq_some.mp (Option.some_get _).symm) rfl
  have legal : ∀ call ∈ calls, call.Legal origin := by
    have identified (entity : Group) (same : entity.uuid = group.uuid) :
        origin.schema.Identifies entity := by
      refine ⟨rfl, ?_⟩
      rw [show Entity.key entity = entity.uuid from rfl, same]
      decide
    simp [calls, Call.Legal, Call.changes, Change.Identified, identified, origin, renamed]
    rfl
  obtain ⟨_, ⟨commit, found, documents, _⟩, _⟩ :=
    Origin.run_documents opened (fun _ => by decide +kernel) legal
  refine ⟨index, _, opened, commit, found, ?_⟩
  have left : ((Cache.empty : Cache Group).record
      (Session.run origin ⟨index, (origin.open host).2⟩ calls).2).entities = [renamed] := by
    decide +kernel
  rw [documents, left]
  rfl

end KeyedIndex
