import Maintenant.Agent.Accounting

/-!
# Conservation of spooled events

Over every sequence of calls, with every store outcome, an event `Send` accepted is in the buffer,
in the database, or among the events removed by an acknowledgement, a budget, the retention window
or `Discard`, and in one of them only.
-/

namespace Maintenant.Agent

open Spool List Option

/-- Events the memory budget removed since the drop counter was last reset. -/
def History.trimmedSince (history : History) : List PendingEvent :=
  history.trimmed.drop history.trimmedTaken

/-- Rows the disk budget removed since the stored drop counter was last reset. -/
def History.overBudgetSince (history : History) : List SpooledEvent :=
  history.overBudget.drop history.overBudgetTaken

/-- What holds of the spool between two calls. -/
structure Settled (spool : Spool) : Prop where
  /-- Every accepted event is in one place; no batch is in hand between calls. -/
  accounted : Accounted [] spool
  bytes : BytesCounted spool
  ordered : Ordered [] spool
  /-- The counter in memory counts the trimmed events. -/
  memoryCount : spool.dropped + spool.history.trimmedTaken = spool.history.trimmed.length

/-- The counter in the database counts the rows the disk budget removed. -/
def DiskCounted (spool : Spool) : Prop :=
  ∀ store, spool.store = some store →
    store.droppedSinceConnect + spool.history.overBudgetTaken = spool.history.overBudget.length

variable {codec : Codec} {result : Spool × List AgentEvent × Option SpoolError} {now : Int}
  {spool spool' : Spool}

namespace Spool

theorem enforceDiskBudget_cases {outcome : FlushOutcome} (spool : Spool) :
    (spool.enforceDiskBudget outcome).1 = spool ∨
      (∃ target, (spool.enforceDiskBudget outcome).1 = spool.dropOldest target ∧
        (spool.oldestCount target = 0 ∨ outcome.counts = false)) ∨
      ∃ target, (spool.enforceDiskBudget outcome).1 =
        (spool.dropOldest target).countDropped (spool.oldestCount target) := by
  rw [enforceDiskBudget]
  split
  · exact .inl rfl
  split
  · exact .inl rfl
  split
  · exact .inl rfl
  split
  · exact .inl rfl
  simp only
  split
  next empty => exact .inr (.inl ⟨_, rfl, .inl empty⟩)
  split
  next failed => exact .inr (.inl ⟨_, rfl, .inr (by simp [FlushOutcome.counts, failed])⟩)
  split
  · exact .inr (.inr ⟨_, rfl⟩)
  next uncounted =>
    refine .inr (.inl ⟨_, rfl, .inr ?_⟩)
    simp [FlushOutcome.counts, uncounted]

theorem drainPage_frame (outcome : DrainOutcome) (gen : Nat) {attachedAt : Int}
    (rows : List SpooledEvent) (spool : Spool) :
    ∃ seq, (drainPage codec outcome gen attachedAt rows spool).1 =
      { spool with sendSeq := seq } := by
  induction rows generalizing spool with
  | nil => exact ⟨spool.sendSeq, rfl⟩
  | cons row rows ih =>
    have advanced : ∀ after, spool.advance gen row.seq = some after →
        after = { spool with sendSeq := row.seq } := by
      intro after moved
      obtain ⟨-, moved⟩ := ite_none_right_eq_some.mp moved
      exact (some.inj moved).symm
    rw [drainPage]
    split
    · exact ⟨spool.sendSeq, rfl⟩
    split
    · split
      · exact ⟨spool.sendSeq, rfl⟩
      next after moved =>
        obtain ⟨seq, rest⟩ := ih after
        exact ⟨seq, by rw [rest, advanced after moved]⟩
    · split
      · exact ⟨spool.sendSeq, rfl⟩
      split
      · exact ⟨spool.sendSeq, rfl⟩
      split
      · exact ⟨spool.sendSeq, rfl⟩
      split
      · exact ⟨spool.sendSeq, rfl⟩
      next after moved =>
        obtain ⟨seq, rest⟩ := ih after
        exact ⟨seq, by rw [rest, advanced after moved]⟩

theorem drainLoop_frame {outcome : DrainOutcome} {fuel : Nat}
    (pass : drainLoop codec outcome now fuel spool = some result) :
    ∃ seq, result.1 = { spool with sendSeq := seq } := by
  induction fuel generalizing spool result with
  | zero => cases pass
  | succ fuel ih =>
    rw [drainLoop] at pass
    split at pass
    · cases pass
      exact ⟨spool.sendSeq, rfl⟩
    rename_i store _
    split at pass
    · cases pass
      exact ⟨spool.sendSeq, rfl⟩
    split at pass
    · cases pass
      exact ⟨spool.sendSeq, rfl⟩
    split at pass
    · cases pass
      exact ⟨spool.sendSeq, rfl⟩
    obtain ⟨seq, page⟩ := drainPage_frame outcome spool.generation
      (store.readFrom spool.sendSeq spoolDrainBatch) spool
    simp only at pass
    split at pass
    · cases pass
      exact ⟨seq, page⟩
    · cases pass
      exact ⟨seq, page⟩
    · obtain ⟨rest, later, rfl⟩ := map_eq_some_iff.mp pass
      obtain ⟨last, moved⟩ := ih later
      exact ⟨last, by simp only [moved, page]⟩

end Spool

variable {record : SpoolStore → History → History} {call : SpoolStore → SpoolStore} {target : Int}
  {cfg : SpoolConfig} {written opened : Bool}

namespace Settled

section

variable (settled : Settled spool)
include settled

theorem of_frame (store : spool'.store = spool.store)
    (buf : spool'.buf = spool.buf) (bufBytes : spool'.bufBytes = spool.bufBytes)
    (dropped : spool'.dropped = spool.dropped) (history : spool'.history = spool.history) :
    Settled spool' where
  accounted :=
    { tickets := by rw [history]; exact settled.accounted.tickets
      places := by
        rw [history, buf, storedEvents, store]
        exact settled.accounted.places }
  bytes := by
    rw [BytesCounted, bufBytes, buf]
    exact settled.bytes
  ordered := settled.ordered.of_storedEvents (by rw [storedEvents, store]; rfl) buf
  memoryCount := by
    rw [dropped, history]
    exact settled.memoryCount

theorem onStore (accounted : Accounted [] (spool.onStore call record))
    (rows : ∀ store, (call store).rows.Sublist store.rows)
    (trimmed : ∀ store history, (record store history).trimmed = history.trimmed ∧
      (record store history).trimmedTaken = history.trimmedTaken) :
    Settled (spool.onStore call record) where
  accounted := accounted
  bytes := by
    rw [BytesCounted, onStore_bufBytes, onStore_buf]
    exact settled.bytes
  ordered := settled.ordered.of_storedEvents (spool.onStore_storedEvents_sublist rows)
    (spool.onStore_buf call record)
  memoryCount := by
    cases found : spool.store with
    | none =>
      rw [onStore_none _ _ _ found]
      exact settled.memoryCount
    | some =>
      rw [onStore_some _ _ _ found]
      simp only [trimmed]
      exact settled.memoryCount

theorem dropOldest : Settled (spool.dropOldest target) := by
  apply settled.onStore settled.accounted.dropOldest
  · intro store
    obtain ⟨bound, deletion⟩ := store.deleteOldestBytes_eq
    rw [deletion]
    exact filter_sublist
  · intro store history
    exact ⟨rfl, rfl⟩

theorem countDropped {n : Nat} : Settled (spool.countDropped n) :=
  settled.onStore settled.accounted.countDropped (fun store => Sublist.refl store.rows)
    fun _ _ => ⟨rfl, rfl⟩

theorem enqueue {event : PendingEvent}
    (ticket : event.ticket = spool.history.accepted.length) : Settled (spool.enqueue event) where
  accounted := settled.accounted.enqueue ticket
  bytes := bytesCounted_enqueue settled.bytes
  ordered := settled.ordered.enqueue settled.accounted ticket
  memoryCount := settled.memoryCount

theorem trimMemoryLocked : Settled spool.trimMemoryLocked where
  accounted := settled.accounted.trimMemoryLocked
  bytes := bytesCounted_trimMemoryLocked settled.bytes
  ordered := settled.ordered.trimMemoryLocked
  memoryCount := by
    have before := settled.memoryCount
    simp only [Spool.trimMemoryLocked, length_append]
    omega

theorem discard : Settled spool.discard where
  accounted := settled.accounted.discard
  bytes := rfl
  ordered := List.Pairwise.nil
  memoryCount := settled.memoryCount

theorem resetDropped : Settled (spool.resetDropped written) := by
  have stored : (spool.resetDropped written).storedEvents = spool.storedEvents := by
    cases found : spool.store <;> cases written <;>
      simp [Spool.resetDropped, storedEvents, found]
  exact
    { accounted :=
        { tickets := settled.accounted.tickets
          places := by
            rw [stored]
            exact settled.accounted.places }
      bytes := settled.bytes
      ordered := settled.ordered.of_storedEvents (by rw [stored]) rfl
      memoryCount := by simp [Spool.resetDropped] }

end

theorem newSpool : Settled (Spool.newSpool cfg opened) := by
  have empty : (Spool.newSpool cfg opened).storedEvents = [] := by
    simp only [Spool.newSpool]
    split <;> rfl
  exact
    { accounted :=
        { tickets := rfl
          places := by
            rw [empty]
            exact Perm.refl [] }
      bytes := rfl
      ordered := by
        rw [Ordered, empty]
        exact List.Pairwise.nil
      memoryCount := rfl }

end Settled

/-- Every row the store calls of this call delete for the disk budget is also counted. -/
def Call.counts : Call → Bool
  | .send _ _ outcome _ => outcome.counts
  | .flush outcome => outcome.counts
  | .drainOnce _ outcome => outcome.flush.counts
  | _ => true

namespace DiskCounted

section

variable (counted : DiskCounted spool)
include counted

theorem of_frame (store : spool'.store = spool.store)
    (taken : spool'.history.overBudgetTaken = spool.history.overBudgetTaken)
    (overBudget : spool'.history.overBudget = spool.history.overBudget) : DiskCounted spool' := by
  intro database found
  rw [taken, overBudget]
  exact counted database (store ▸ found)

theorem onStore (kept : ∀ store, spool.store = some store →
      store.droppedSinceConnect + spool.history.overBudgetTaken = spool.history.overBudget.length →
      (call store).droppedSinceConnect + (record store spool.history).overBudgetTaken =
        (record store spool.history).overBudget.length) :
    DiskCounted (spool.onStore call record) := by
  intro database opened
  cases found : spool.store with
  | none => simp [found] at opened
  | some store =>
    rw [onStore_some _ _ _ found] at opened ⊢
    cases opened
    exact kept store found (counted store found)

theorem dropOldest_countDropped :
    DiskCounted ((spool.dropOldest target).countDropped (spool.oldestCount target)) := by
  intro database opened
  cases found : spool.store with
  | none => simp [Spool.countDropped, Spool.dropOldest, found] at opened
  | some store =>
    have before := counted store found
    have kept := deleteOldestBytes_droppedSinceConnect store target
    simp only [Spool.countDropped, Spool.dropOldest, Spool.onStore, found,
      oldestCount, elim_some] at opened ⊢
    cases opened
    simp only [SpoolStore.addDropped, length_append]
    omega

theorem dropOldest_of_none
    (deleted : spool.oldestCount target = 0) : DiskCounted (spool.dropOldest target) := by
  apply counted.onStore
  intro store found before
  have kept := deleteOldestBytes_droppedSinceConnect store target
  simp only [oldestCount, found, elim_some] at deleted
  simp only [length_append]
  omega

theorem takeBatch : DiskCounted spool.takeBatch.1 := by
  rcases spool.takeBatch_cases with ⟨-, same⟩ | ⟨-, same⟩ | ⟨-, -, same⟩
  · rw [same]
    exact counted
  · rw [same]
    exact counted.of_frame rfl rfl rfl
  · rw [same]
    exact counted.of_frame rfl rfl rfl

theorem resetDropped : DiskCounted (spool.resetDropped written) := by
  intro database opened
  cases written with
  | false => exact counted database opened
  | true =>
    obtain ⟨store, -, rfl⟩ := map_eq_some_iff.mp opened
    simp [Spool.resetDropped, SpoolStore.resetDroppedSinceConnect]

end

theorem newSpool : DiskCounted (Spool.newSpool cfg opened) := by
  intro store found
  simp only [Spool.newSpool] at found ⊢
  split at found
  · cases found
    rfl
  · cases found

end DiskCounted

/-! ### The calls -/

/-- The spool is settled, and the stored counter is right as long as deletions are counted. -/
structure Kept (counting : Prop) (spool : Spool) : Prop where
  settled : Settled spool
  disk : counting → DiskCounted spool

theorem Settled.kept (settled : Settled spool) : Kept False spool :=
  ⟨settled, False.elim⟩

namespace Kept

variable {counting : Prop} {deleted : Bool} {seq : Nat}

section

variable (kept : Kept counting spool)
include kept

theorem of_frame (store : spool'.store = spool.store)
    (buf : spool'.buf = spool.buf) (bufBytes : spool'.bufBytes = spool.bufBytes)
    (dropped : spool'.dropped = spool.dropped) (history : spool'.history = spool.history) :
    Kept counting spool' where
  settled := kept.settled.of_frame store buf bufBytes dropped history
  disk counts := (kept.disk counts).of_frame store (by rw [history]) (by rw [history])

theorem deleteAcked : Kept counting (spool.deleteAcked seq) where
  settled := kept.settled.onStore kept.settled.accounted.deleteAcked
    (fun _ => filter_sublist) fun _ _ => ⟨rfl, rfl⟩
  disk counts := (kept.disk counts).onStore fun _ _ before => before

theorem deleteExpired {cutoff : Int} : Kept counting (spool.deleteExpired cutoff) where
  settled := kept.settled.onStore kept.settled.accounted.deleteExpired
    (fun _ => filter_sublist) fun _ _ => ⟨rfl, rfl⟩
  disk counts := (kept.disk counts).onStore fun _ _ before => before

variable {outcome : FlushOutcome} (counts : counting → outcome.counts)
include counts

theorem enforceDiskBudget : Kept counting (spool.enforceDiskBudget outcome).1 := by
  rcases spool.enforceDiskBudget_cases with same | ⟨target, same, either⟩ | ⟨target, same⟩
  · rwa [same]
  · rw [same]
    refine ⟨kept.settled.dropOldest, fun counted => ?_⟩
    rcases either with deleted | uncounted
    · exact (kept.disk counted).dropOldest_of_none deleted
    · rw [counts counted] at uncounted
      cases uncounted
  · rw [same]
    exact ⟨kept.settled.dropOldest.countDropped,
      fun counted => (kept.disk counted).dropOldest_countDropped⟩

theorem flush : Kept counting (spool.flush outcome).1 := by
  have settled := kept.settled
  have accounted := settled.accounted.takeBatch
  have ordered := settled.ordered.takeBatch
  have bytes := bytesCounted_takeBatch settled.bytes
  have count : spool.takeBatch.1.dropped + spool.takeBatch.1.history.trimmedTaken =
      spool.takeBatch.1.history.trimmed.length := by
    rcases spool.takeBatch_cases with ⟨-, same⟩ | ⟨-, same⟩ | ⟨-, -, same⟩
    · rw [same]
      exact settled.memoryCount
    · rw [same]
      exact settled.trimMemoryLocked.memoryCount
    · rw [same]
      exact settled.memoryCount
  have opened : spool.takeBatch.2.isSome → spool.takeBatch.1.store.isSome := by
    intro taken
    rcases spool.takeBatch_cases with ⟨-, same⟩ | ⟨-, same⟩ | ⟨-, opened, same⟩
    · rw [same] at taken
      cases taken
    · rw [same] at taken
      cases taken
    · rw [same]
      exact opened
  have disk (counted : counting) := (kept.disk counted).takeBatch
  rw [Spool.flush]
  split
  next after taken =>
    rw [taken] at accounted ordered bytes count disk
    exact ⟨⟨by simpa using accounted, bytes, by simpa using ordered, count⟩, disk⟩
  rename_i after batch taken
  rw [taken] at accounted ordered bytes count opened disk
  split
  · have stored : Settled (after.storeBatch batch) :=
      { accounted := accounted.storeBatch (opened rfl)
        bytes := by
          rw [BytesCounted, storeBatch, onStore_bufBytes, onStore_buf]
          exact bytes
        ordered := Ordered.storeBatch (by simpa using ordered) (opened rfl)
        memoryCount := by
          obtain ⟨store, found⟩ := isSome_iff_exists.mp (opened rfl)
          rw [storeBatch, onStore_some _ _ _ found]
          exact count }
    have kept : Kept counting (after.storeBatch batch) :=
      ⟨stored, fun counted => (disk counted).onStore fun _ _ before => before⟩
    exact kept.enforceDiskBudget counts
  · have requeued : Settled (after.requeue batch) :=
      { accounted := accounted.requeue
        bytes := bytesCounted_requeue bytes
        ordered := ordered.requeue
        memoryCount := count }
    exact ⟨requeued, fun counted => (disk counted).of_frame rfl rfl rfl⟩

theorem send {sinkOk : Bool} {event : AgentEvent} :
    Kept counting (spool.send codec now outcome sinkOk event).1 := by
  rw [Spool.send]
  split
  · split
    · exact kept
    · split <;> exact kept
  split
  · exact kept.of_frame rfl rfl rfl rfl rfl
  split
  · exact kept
  rename_i pending found
  have ticket : pending.ticket = spool.history.accepted.length := by
    obtain ⟨payload, -, rfl⟩ := map_eq_some_iff.mp found
    rfl
  have queued : Kept counting (spool.enqueue pending) :=
    ⟨kept.settled.enqueue ticket, fun counted => (kept.disk counted).of_frame rfl rfl rfl⟩
  simp only
  split
  · exact queued.flush counts
  · exact queued

omit counts

theorem acked : Kept counting (spool.acked deleted seq) := by
  rw [Spool.acked]
  split
  · exact kept
  rename_i after recorded
  have moved : Kept counting after := by
    obtain ⟨-, ⟨⟩⟩ := ite_none_left_eq_some.mp recorded
    exact kept.of_frame rfl rfl rfl rfl rfl
  split
  · exact moved.deleteAcked
  · exact moved

theorem purgeExpired : Kept counting (spool.purgeExpired deleted now) := by
  rw [Spool.purgeExpired]
  split
  · exact kept
  · exact kept.deleteExpired

theorem drainOnce {outcome : DrainOutcome} (counts : counting → outcome.flush.counts)
    (pass : spool.drainOnce codec outcome now = some result) : Kept counting result.1 := by
  have flushed := kept.flush counts
  rw [Spool.drainOnce] at pass
  split at pass
  next after error taken =>
    cases pass
    rw [taken] at flushed
    exact flushed
  rename_i after taken
  rw [taken] at flushed
  obtain ⟨seq, moved⟩ := drainLoop_frame pass
  rw [moved]
  exact flushed.of_frame rfl rfl rfl rfl rfl

theorem perform {call : Call} (counts : counting → call.counts) :
    Kept counting (spool.perform codec call) := by
  cases call with
  | send => exact kept.send counts
  | flush => exact kept.flush counts
  | purgeExpired => exact kept.purgeExpired
  | acked => exact kept.acked
  | rewind | rateLimited | attach | detach => exact kept.of_frame rfl rfl rfl rfl rfl
  | resetDropped => exact ⟨kept.settled.resetDropped, fun counted =>
      (kept.disk counted).resetDropped⟩
  | discard => exact ⟨kept.settled.discard, by rintro _ _ ⟨⟩⟩
  | drainOnce now outcome =>
    rw [Spool.perform]
    cases pass : spool.drainOnce codec outcome now with
    | none => exact kept
    | some => exact kept.drainOnce counts pass

end

theorem performAll (kept : Kept counting spool) {calls : List Call}
    (counts : ∀ call ∈ calls, counting → call.counts) :
    Kept counting (spool.performAll codec calls) := by
  induction calls generalizing spool with
  | nil => exact kept
  | cons call calls ih =>
    refine ih (kept.perform (counts call mem_cons_self)) ?_
    intro later mem
    exact counts later (mem_cons_of_mem call mem)

end Kept

/-- The counter `Dropped` reports: the trimmed events, and the rows dropped from a database that is
there. -/
theorem droppedCount_eq (settled : Settled spool) (counted : DiskCounted spool) :
    spool.droppedCount = spool.history.trimmedSince.length +
      if spool.store.isSome then spool.history.overBudgetSince.length else 0 := by
  have inMemory := settled.memoryCount
  rw [droppedCount, History.trimmedSince, History.overBudgetSince, length_drop, length_drop]
  cases found : spool.store with
  | none =>
    simp only [elim_none, isSome_none, Bool.false_eq_true, if_false]
    omega
  | some store =>
    have persisted := counted store found
    simp only [elim_some, isSome_some, if_true]
    omega

/-- Over any calls every accepted event is in one place, the byte counter is right, and the drop
counter counts what the budgets removed since it was taken, but for rows of a database that is
gone. -/
theorem accepted_events_conserved (codec : Codec) (cfg : SpoolConfig) (opened : Bool)
    (calls : List Call) : let spool := (newSpool cfg opened).performAll codec calls
    spool.history.accepted.Nodup ∧
      spool.history.accepted.Perm (spool.buf ++ spool.storedEvents ++ spool.history.removed) ∧
      spool.bufBytes = totalSize spool.buf ∧ ((∀ call ∈ calls, call.counts) →
        spool.droppedCount = spool.history.trimmedSince.length +
          if spool.store.isSome then spool.history.overBudgetSince.length else 0) := by
  have start : Kept (∀ call ∈ calls, call.counts) (newSpool cfg opened) :=
    ⟨.newSpool, fun _ => .newSpool⟩
  obtain ⟨settled, disk⟩ := start.performAll fun call mem counts => counts call mem
  refine ⟨settled.accounted.nodup, ?_, settled.bytes, ?_⟩
  · simpa using settled.accounted.places
  · exact fun counts => droppedCount_eq settled (disk counts)

/-- A database over its budget: the first row is dropped and counted. -/
def overBudgetFlush : FlushOutcome where
  append := true
  sizeBytes := some 100
  dropOldest := .ok
  addDropped := true

/-- One event, a flush past the disk budget, and the `Discard` of a revoked agent. -/
def discardAfterDrop : List Call :=
  [.send (containerEvent "e1") 0 overBudgetFlush true, .flush overBudgetFlush, .discard]

/-- The spool of a small disk budget after `discardAfterDrop`. -/
def discardedSpool : Spool :=
  (Spool.newSpool { maxMemoryBytes := 10, maxDiskBytes := 10, maxAge := 0 } true).performAll
    (Codec.ofTable [containerEvent "e1"]) discardAfterDrop

theorem discard_forgets_stored_drops :
    (∀ call ∈ discardAfterDrop, call.counts) ∧ discardedSpool.droppedCount = 0 ∧
      discardedSpool.history.trimmedSince.length +
        discardedSpool.history.overBudgetSince.length = 1 := by
  decide

theorem accepted_events_conserved_discarded : (∀ call ∈ discardAfterDrop, call.counts) ∧
      discardedSpool.droppedCount = discardedSpool.history.trimmedSince.length +
        if discardedSpool.store.isSome then discardedSpool.history.overBudgetSince.length
        else 0 := by
  have counts : ∀ call ∈ discardAfterDrop, call.counts := by decide
  exact ⟨counts, (accepted_events_conserved _ _ _ discardAfterDrop).2.2.2 counts⟩

end Maintenant.Agent
