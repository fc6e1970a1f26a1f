import Maintenant.Agent.Conservation

/-!
# What a drain pass delivers

With a database the pass hands every stored row above the cursor to the stream, page after page, and
what is stored after its flush is everything still owed.  Without one the flush leaves the buffer in
memory and the pass returns without looking at it.
-/

namespace Maintenant.Agent

open Spool SpoolStore List

/-- Rows above the cursor. -/
def SpoolStore.above (store : SpoolStore) (cursor : Nat) : List SpooledEvent :=
  store.rows.filter fun row => cursor < row.seq

variable {store : SpoolStore} {cursor : Nat}

namespace SpoolStore

theorem readFrom_eq_take (store : SpoolStore) (cursor limit : Nat) :
    store.readFrom cursor limit = (store.above cursor).take limit := rfl

theorem above_last {limit : Nat} {last : SpooledEvent}
    (page : (store.readFrom cursor limit).getLast? = some last) :
    store.above last.seq = (store.above cursor).drop limit := by
  rw [readFrom_eq_take] at page
  obtain ⟨front, shape⟩ := getLast?_eq_some_iff.mp page
  have mem : last ∈ store.above cursor := by
    apply mem_of_mem_take (i := limit)
    rw [shape]
    simp
  have past : cursor < last.seq := by simpa [above] using (mem_filter.mp mem).2
  have whole : store.above cursor = (front ++ [last]) ++ (store.above cursor).drop limit := by
    rw [← shape, take_append_drop]
  have ascending : (store.above cursor).Pairwise (·.seq < ·.seq) := store.ascending.filter _
  rw [whole, pairwise_append] at ascending
  obtain ⟨inside, -, across⟩ := ascending
  have narrowed : store.above last.seq =
      (store.above cursor).filter fun row => last.seq < row.seq := by
    rw [above, above, filter_filter]
    apply filter_congr
    intro row _
    rw [Bool.eq_iff_iff]
    simp only [decide_eq_true_eq, Bool.and_eq_true]
    omega
  have page_gone : (front ++ [last]).filter (fun row => decide (last.seq < row.seq)) = [] := by
    rw [filter_eq_nil_iff]
    intro row row_mem
    rcases mem_snoc.mp row_mem with early | rfl
    · have := (pairwise_append.mp inside).2.2 row early last (by simp)
      simp only [decide_eq_true_eq]
      omega
    · simp
  have rest_kept : ((store.above cursor).drop limit).filter
      (fun row => decide (last.seq < row.seq)) = (store.above cursor).drop limit := by
    rw [filter_eq_self]
    intro row row_mem
    simpa using across last (by simp) row row_mem
  rw [narrowed]
  nth_rewrite 1 [whole]
  rw [filter_append, page_gone, rest_kept, nil_append]

end SpoolStore

variable {record : SpoolStore → History → History} {call : SpoolStore → SpoolStore}

namespace Spool

/-! ## Pages and passes -/

variable {codec : Codec} {outcome : DrainOutcome} {gen fuel : Nat} {attachedAt now : Int}
  {rows : List SpooledEvent} {spool : Spool}

theorem advance_same (same : spool.generation = gen) (seq : Nat) :
    spool.advance gen seq = some { spool with sendSeq := seq } := by
  rw [advance, if_pos same]

theorem drainPage_finished (same : spool.generation = gen)
    (finished : (drainPage codec outcome gen attachedAt rows spool).2.2 = .finished) :
    (drainPage codec outcome gen attachedAt rows spool).1 =
      { spool with sendSeq := rows.getLast?.elim spool.sendSeq SpooledEvent.seq } := by
  induction rows generalizing spool with
  | nil => rfl
  | cons row rows ih =>
    have last : (row :: rows).getLast?.elim spool.sendSeq SpooledEvent.seq =
        rows.getLast?.elim row.seq SpooledEvent.seq := by
      cases found : rows.getLast? with
      | none | some => simp [getLast?_cons, found]
    rw [last]
    rw [drainPage, advance_same same] at finished ⊢
    split at finished
    · cases finished
    rename_i live
    rw [if_neg live]
    cases read : codec.unmarshal row.event.payload with
    | none =>
      simp only [read] at finished ⊢
      exact ih same finished
    | some =>
      simp only [read] at finished ⊢
      split at finished
      · cases finished
      rename_i allowed
      rw [if_neg allowed]
      rw [if_neg (not_not_intro same)] at finished ⊢
      split at finished
      · cases finished
      next taken =>
        rw [if_neg taken]
        exact ih same finished

theorem drainLoop_isSome
    (enough : (spool.store.elim [] fun store => store.above spool.sendSeq).length < fuel) :
    (drainLoop codec outcome now fuel spool).isSome := by
  induction fuel generalizing spool with
  | zero => omega
  | succ fuel ih =>
    rw [drainLoop]
    split
    · rfl
    rename_i store found
    split
    · rfl
    split
    · rfl
    split
    · rfl
    rename_i nonempty
    simp only
    split
    · rfl
    · rfl
    rename_i finished
    rw [Option.isSome_map]
    apply ih
    rw [drainPage_finished rfl finished]
    obtain ⟨last, page⟩ := Option.isSome_iff_exists.mp (getLast?_isSome.mpr nonempty)
    simp only [found, Option.elim_some, page] at enough ⊢
    rw [above_last page, length_drop]
    have shown : 0 < (store.above spool.sendSeq).length := by
      rw [length_pos_iff]
      intro none_above
      rw [readFrom_eq_take, none_above] at nonempty
      exact nonempty rfl
    have batch : spoolDrainBatch = 200 := rfl
    omega

theorem drainOnce_isSome (codec : Codec) (outcome : DrainOutcome) (now : Int) (spool : Spool) :
    (spool.drainOnce codec outcome now).isSome := by
  rw [drainOnce]
  split
  · rfl
  rename_i after _
  apply drainLoop_isSome
  rw [drainFuel]
  cases after.store with
  | none => simp
  | some store =>
    simp only [Option.elim_some]
    have := length_filter_le (fun row => decide (after.sendSeq < row.seq)) store.rows
    rw [above]
    omega

/-- The row can be read back from its payload. -/
def wireOf (codec : Codec) (attachedAt : Int) (row : SpooledEvent) : Option AgentEvent :=
  (codec.unmarshal row.event.payload).map (wireEvent attachedAt row)

theorem drainPage_live (same : spool.generation = gen)
    (live : ∀ row, outcome.ctxLive row ∧ outcome.limiter row)
    (readable : ∀ row ∈ rows, (codec.unmarshal row.event.payload).isSome)
    (sent : (drainPage codec outcome gen attachedAt rows spool).2.2 ≠ .failed) :
    (drainPage codec outcome gen attachedAt rows spool).2.1 =
        rows.filterMap (wireOf codec attachedAt) ∧
      (drainPage codec outcome gen attachedAt rows spool).2.2 = .finished := by
  induction rows generalizing spool with
  | nil => exact ⟨rfl, rfl⟩
  | cons row rows ih =>
    obtain ⟨event, read⟩ := Option.isSome_iff_exists.mp (readable row mem_cons_self)
    have later : ∀ other ∈ rows, (codec.unmarshal other.event.payload).isSome := by
      intro other mem
      exact readable other (mem_cons_of_mem row mem)
    have wire : wireOf codec attachedAt row = some (wireEvent attachedAt row event) := by
      rw [wireOf, read, Option.map_some]
    rw [filterMap_cons_some wire]
    have limited : ¬ outcome.limiter row = false := by simp [(live row).2]
    have ended : ¬ outcome.ctxLive row = false := by simp [(live row).1]
    simp only [drainPage, read, advance_same same] at sent ⊢
    rw [if_neg ended, if_neg limited, if_neg (not_not_intro same)] at sent ⊢
    split at sent
    · exact absurd rfl sent
    rename_i taken
    rw [if_neg taken]
    obtain ⟨delivered, finished⟩ :=
      @ih { spool with sendSeq := row.seq } same later sent
    exact ⟨by rw [delivered], finished⟩

theorem drainLoop_live {after : Spool} {delivered : List AgentEvent}
    (found : spool.store = some store) (attached : spool.sink) (unpaused : spool.paused now = false)
    (live : ∀ row, outcome.ctxLive row ∧ outcome.limiter row)
    (readable : ∀ row ∈ store.rows, (codec.unmarshal row.event.payload).isSome)
    (pass : drainLoop codec outcome now fuel spool = some (after, delivered, none)) :
    delivered = (store.above spool.sendSeq).filterMap (wireOf codec spool.attachedAt) := by
  induction fuel generalizing spool after delivered with
  | zero => cases pass
  | succ fuel ih =>
    simp only [drainLoop, found, attached, unpaused, Bool.true_eq_false, Bool.false_eq_true,
      or_self, if_false] at pass
    split at pass
    · cases pass
    split at pass
    next nothing =>
      cases pass
      have none_above : store.above spool.sendSeq = [] := by
        rw [readFrom_eq_take] at nothing
        simpa [spoolDrainBatch] using nothing
      rw [none_above]
      rfl
    next nonempty =>
      have page_readable : ∀ row ∈ store.readFrom spool.sendSeq spoolDrainBatch,
          (codec.unmarshal row.event.payload).isSome := by
        intro row mem
        exact readable row (mem_readFrom mem).1
      obtain ⟨last, page⟩ := Option.isSome_iff_exists.mp (getLast?_isSome.mpr nonempty)
      split at pass
      next stopped =>
        obtain ⟨-, finished⟩ := drainPage_live rfl live page_readable
          (fun failed => by rw [stopped] at failed; cases failed)
        rw [stopped] at finished
        cases finished
      · cases pass
      next finished =>
        obtain ⟨rest, later, same⟩ := Option.map_eq_some_iff.mp pass
        have shown := congrArg Prod.fst (congrArg Prod.snd same)
        have ended := congrArg Prod.snd (congrArg Prod.snd same)
        simp only at shown ended
        obtain ⟨handed, -⟩ := drainPage_live rfl live page_readable
          (fun failed => by rw [finished] at failed; cases failed)
        rw [drainPage_finished rfl finished, page, Option.elim_some] at later
        have rest_pass : drainLoop codec outcome now fuel { spool with sendSeq := last.seq } =
            some (rest.1, rest.2.1, none) := by
          rw [later, ← ended]
        have rest_delivered := @ih { spool with sendSeq := last.seq } _ _ found attached
          unpaused rest_pass
        simp only [above_last page] at rest_delivered
        rw [← shown, handed, rest_delivered, ← filterMap_append,
          readFrom_eq_take, take_append_drop]

/-! ## Payloads are readable -/

theorem onStore_accepted (spool : Spool)
    (same : ∀ store history, (record store history).accepted = history.accepted) :
    (spool.onStore call record).history.accepted = spool.history.accepted := by
  cases found : spool.store with
  | none => rw [onStore_none _ _ _ found]
  | some store =>
    rw [onStore_some _ _ _ found]
    exact same store spool.history

theorem takeBatch_accepted (spool : Spool) :
    spool.takeBatch.1.history.accepted = spool.history.accepted := by
  rcases spool.takeBatch_cases with ⟨-, same⟩ | ⟨-, same⟩ | ⟨-, -, same⟩
  · rw [same]
  · rw [same]
    rfl
  · rw [same]

theorem enforceDiskBudget_accepted (outcome : FlushOutcome) (spool : Spool) :
    (spool.enforceDiskBudget outcome).1.history.accepted = spool.history.accepted := by
  have dropped : ∀ target, (spool.dropOldest target).history.accepted = spool.history.accepted :=
    fun target => spool.onStore_accepted fun _ _ => rfl
  rcases spool.enforceDiskBudget_cases with same | ⟨target, same, -⟩ | ⟨target, same⟩
  · rw [same]
  · rw [same, dropped target]
  · rw [same, countDropped, onStore_accepted _ fun _ _ => rfl, dropped target]

theorem flush_accepted (outcome : FlushOutcome) (spool : Spool) :
    (spool.flush outcome).1.history.accepted = spool.history.accepted := by
  have taken := spool.takeBatch_accepted
  rw [flush]
  split
  next after same => rwa [same] at taken
  rename_i after batch same
  rw [same] at taken
  split
  · rw [enforceDiskBudget_accepted]
    have stored : (after.storeBatch batch).history.accepted = after.history.accepted :=
      after.onStore_accepted fun _ _ => rfl
    exact stored.trans taken
  · exact taken

/-- `Send` queues what it serialized; no other call queues anything. -/
theorem perform_serialized (serialized : Serialized codec spool)
    {call : Call} : Serialized codec (spool.perform codec call) := by
  have of_same : ∀ {after : Spool}, after.history.accepted = spool.history.accepted →
      Serialized codec after := by
    intro after same pending mem
    rw [same] at mem
    exact serialized pending mem
  cases call with
  | send event =>
    rw [perform, send]
    split
    · split
      · exact serialized
      · split <;> exact serialized
    split
    · exact serialized
    split
    · exact serialized
    rename_i pending found
    have queued : Serialized codec (spool.enqueue pending) := by
      intro other mem
      rcases mem_snoc.mp mem with old | rfl
      · exact serialized other old
      · obtain ⟨payload, written, rfl⟩ := Option.map_eq_some_iff.mp found
        exact ⟨event, written⟩
    simp only
    split
    · intro other mem
      rw [flush_accepted] at mem
      exact queued other mem
    · exact queued
  | flush outcome => exact of_same (spool.flush_accepted outcome)
  | purgeExpired =>
    rw [perform, purgeExpired]
    split
    · exact serialized
    · exact of_same (spool.onStore_accepted fun _ _ => rfl)
  | acked seq deleted =>
    rw [perform, acked]
    split
    · exact serialized
    rename_i after recorded
    have moved : after.history.accepted = spool.history.accepted := by
      obtain ⟨-, ⟨⟩⟩ := Option.ite_none_left_eq_some.mp recorded
      rfl
    split
    · have deleted : (after.deleteAcked seq).history.accepted = after.history.accepted :=
        after.onStore_accepted fun _ _ => rfl
      exact of_same (deleted.trans moved)
    · exact of_same moved
  | rewind | rateLimited | attach | detach | resetDropped | discard => exact serialized
  | drainOnce now outcome =>
    rw [perform]
    cases pass : spool.drainOnce codec outcome now with
    | none => exact serialized
    | some =>
      apply of_same
      rw [drainOnce] at pass
      have flushed := spool.flush_accepted outcome.flush
      split at pass
      next after error same =>
        cases pass
        rwa [same] at flushed
      rename_i after same
      rw [same] at flushed
      obtain ⟨seq, moved⟩ := drainLoop_frame pass
      rw [Option.map_some, moved]
      exact flushed

theorem performAll_serialized (serialized : Serialized codec spool)
    (calls : List Call) : Serialized codec (spool.performAll codec calls) := by
  induction calls generalizing spool with
  | nil => exact serialized
  | cons call calls ih => exact ih (perform_serialized serialized)

/-! ## What is still owed -/

/-- Accepted events that are neither removed nor in a row at or below the cursor, in the order of
`Send`. -/
def queued (cursor : Nat) (spool : Spool) : List PendingEvent :=
  spool.history.accepted.filter fun event =>
    decide (event ∉ spool.history.removed) &&
      !(spool.store.elim [] SpoolStore.rows).any fun row =>
        decide (row.event = event ∧ row.seq ≤ cursor)

theorem eq_of_tickets {left right : List PendingEvent}
    (left_order : (left.map PendingEvent.ticket).Pairwise (· < ·))
    (right_order : (right.map PendingEvent.ticket).Pairwise (· < ·))
    (members : ∀ event, event ∈ left ↔ event ∈ right) : left = right := by
  rw [pairwise_map] at left_order right_order
  have same : left.Perm right := by
    rw [perm_ext_iff_of_nodup]
    · exact members
    · exact left_order.imp fun earlier => ne_of_apply_ne PendingEvent.ticket earlier.ne
    · exact right_order.imp fun earlier => ne_of_apply_ne PendingEvent.ticket earlier.ne
  apply same.eq_of_pairwise _ left_order right_order
  intro first second _ _ forward backward
  exact absurd (Nat.lt_trans forward backward) (Nat.lt_irrefl _)

theorem accepted_order (settled : Settled spool) :
    (spool.history.accepted.map PendingEvent.ticket).Pairwise (· < ·) := by
  rw [settled.accounted.tickets]
  exact pairwise_lt_range

theorem queued_of_stored (settled : Settled spool)
    (found : spool.store = some store) (empty : spool.buf = []) (cursor : Nat) :
    spool.queued cursor = (store.above cursor).map SpooledEvent.event := by
  have stored : spool.storedEvents = store.rows.map SpooledEvent.event := by
    rw [storedEvents, found, Option.elim_some]
  have ordered := settled.ordered
  rw [Ordered, empty, stored, append_nil, append_nil, map_map] at ordered
  have places := settled.accounted.places
  rw [empty, stored, nil_append, nil_append] at places
  have apart := settled.accounted.nodup
  rw [places.nodup_iff, nodup_append] at apart
  obtain ⟨rows_apart, -, disjoint⟩ := apart
  apply eq_of_tickets
  · exact (accepted_order settled).sublist (filter_sublist.map _)
  · rw [map_map]
    exact ordered.sublist (filter_sublist.map _)
  intro event
  simp only [queued, found, mem_filter, places.mem_iff, mem_append, mem_map,
    Bool.and_eq_true, decide_eq_true_eq, Bool.not_eq_true', any_eq_false, above,
    not_and, not_le]
  constructor
  · rintro ⟨⟨row, mem, rfl⟩ | removed, kept, past⟩
    · exact ⟨row, ⟨mem, past row mem rfl⟩, rfl⟩
    · exact absurd removed kept
  rintro ⟨row, ⟨mem, past⟩, rfl⟩
  refine ⟨.inl ⟨row, mem, rfl⟩, ?_, ?_⟩
  · intro removed
    exact disjoint _ (mem_map_of_mem mem) _ removed rfl
  · intro other other_mem same
    have equal := inj_on_of_nodup_map rows_apart other_mem mem same
    rwa [equal]

theorem queued_of_memory (settled : Settled spool) (absent : spool.store = none) :
    spool.queued cursor = spool.buf := by
  have stored : spool.storedEvents = [] := by
    rw [storedEvents, absent]
    rfl
  have ordered := settled.ordered
  rw [Ordered, stored] at ordered
  have places := settled.accounted.places
  rw [stored, append_nil, append_nil] at places
  have apart := settled.accounted.nodup
  rw [places.nodup_iff, nodup_append] at apart
  obtain ⟨-, -, disjoint⟩ := apart
  apply eq_of_tickets
  · exact (accepted_order settled).sublist (filter_sublist.map _)
  · exact ordered
  intro event
  simp only [queued, absent, Option.elim_none, any_nil, Bool.not_false, Bool.and_true,
    mem_filter, places.mem_iff, mem_append, decide_eq_true_eq]
  constructor
  · rintro ⟨buffered | removed, kept⟩
    · exact buffered
    · exact absurd removed kept
  intro buffered
  refine ⟨.inl buffered, ?_⟩
  intro removed
  exact disjoint _ buffered _ removed rfl

/-! ## The flush a pass starts with -/

/-- The fields a drain reads besides the database. -/
structure SameStream (before after : Spool) : Prop where
  sink : after.sink = before.sink
  attachedAt : after.attachedAt = before.attachedAt
  sendSeq : after.sendSeq = before.sendSeq
  pausedUntil : after.pausedUntil = before.pausedUntil

theorem sameStream_onStore (spool : Spool) : SameStream spool (spool.onStore call record) := by
  obtain ⟨store, history, frame⟩ := spool.onStore_frame call record
  rw [frame]
  exact ⟨rfl, rfl, rfl, rfl⟩

theorem SameStream.trans {first second third : Spool} (left : SameStream first second)
    (right : SameStream second third) : SameStream first third where
  sink := right.sink.trans left.sink
  attachedAt := right.attachedAt.trans left.attachedAt
  sendSeq := right.sendSeq.trans left.sendSeq
  pausedUntil := right.pausedUntil.trans left.pausedUntil

theorem enforceDiskBudget_frame {outcome : FlushOutcome} :
    SameStream spool (spool.enforceDiskBudget outcome).1 ∧
      (spool.enforceDiskBudget outcome).1.buf = spool.buf ∧
      (spool.enforceDiskBudget outcome).1.store.isSome = spool.store.isSome := by
  rcases spool.enforceDiskBudget_cases with same | ⟨target, same, -⟩ | ⟨target, same⟩
  · rw [same]
    exact ⟨⟨rfl, rfl, rfl, rfl⟩, rfl, rfl⟩
  · rw [same, dropOldest]
    exact ⟨spool.sameStream_onStore, by simp, by simp⟩
  · rw [same, countDropped, dropOldest]
    exact ⟨spool.sameStream_onStore.trans (sameStream_onStore _), by simp, by simp⟩

theorem flush_stored {outcome : FlushOutcome} {after : Spool} (opened : spool.store.isSome)
    (flushed : spool.flush outcome = (after, none)) :
    SameStream spool after ∧ after.buf = [] ∧ after.store.isSome := by
  rcases spool.takeBatch_cases with ⟨empty, same⟩ | ⟨absent, -⟩ | ⟨-, -, same⟩
  · rw [flush, same] at flushed
    cases flushed
    exact ⟨⟨rfl, rfl, rfl, rfl⟩, empty, opened⟩
  · rw [absent] at opened
    cases opened
  rw [flush, same] at flushed
  simp only at flushed
  generalize storing :
      storeBatch spool.buf { spool with buf := [], bufBytes := 0 } = stored at flushed
  split at flushed
  · obtain ⟨stored_stream, stored_buf, stored_open⟩ :
        SameStream spool stored ∧ stored.buf = [] ∧ stored.store.isSome := by
      rw [← storing]
      obtain ⟨store, found⟩ := Option.isSome_iff_exists.mp opened
      have emptied : SameStream spool { spool with buf := [], bufBytes := 0 } :=
        ⟨rfl, rfl, rfl, rfl⟩
      exact ⟨emptied.trans (sameStream_onStore _), by simp [storeBatch],
        by simp [storeBatch, found]⟩
    obtain ⟨stream, buf, store_kept⟩ := enforceDiskBudget_frame
    rw [flushed] at stream buf store_kept
    exact ⟨stored_stream.trans stream, buf.trans stored_buf, by rw [store_kept, stored_open]⟩
  · cases flushed

theorem flush_memory {outcome : FlushOutcome} (absent : spool.store = none) :
    ∃ after, spool.flush outcome = (after, none) ∧ SameStream spool after ∧ after.store = none ∧
      after.buf = spool.trimMemoryLocked.buf := by
  rcases spool.takeBatch_cases with ⟨empty, same⟩ | ⟨-, same⟩ | ⟨-, opened, -⟩
  · rw [flush, same]
    refine ⟨spool, rfl, ⟨rfl, rfl, rfl, rfl⟩, absent, ?_⟩
    rw [trimMemoryLocked, empty]
    rfl
  · rw [flush, same]
    exact ⟨_, rfl, ⟨rfl, rfl, rfl, rfl⟩, absent, rfl⟩
  · rw [absent] at opened
    cases opened

theorem trimLoop_eq_nil_iff {budget : Int} {bytes : Int} {events : List PendingEvent}
    (counted : bytes = totalSize events) : (trimLoop budget bytes events).2.2 = [] ↔
      ∀ newest ∈ events.getLast?, budget < newest.size := by
  induction events generalizing bytes with
  | nil => simp [trimLoop]
  | cons event events ih =>
    rw [totalSize_cons] at counted
    rw [trimLoop]
    by_cases exceeds : budget < bytes
    · rw [if_pos exceeds]
      rw [ih (by omega)]
      cases events with
      | nil =>
        rw [totalSize_nil] at counted
        simp only [getLast?_singleton]
        constructor
        · intro _ newest same
          cases same
          omega
        · intro _ newest same
          cases same
      | cons => rw [getLast?_cons_cons]
    · rw [if_neg exceeds]
      constructor
      · intro none_kept
        cases none_kept
      intro large
      obtain ⟨newest, last⟩ := Option.isSome_iff_exists.mp
        (getLast?_isSome.mpr (cons_ne_nil event events))
      have past := large newest last
      obtain ⟨front, shape⟩ := getLast?_eq_some_iff.mp last
      have sizes := congrArg totalSize shape
      have := totalSize_nonneg front
      simp only [totalSize_append, totalSize_cons, totalSize_nil] at sizes
      omega

end Spool

/-- The stream was handed the event in a numbered row, as it was given to `Send`. -/
def Carries (codec : Codec) (attachedAt : Int) (pending : PendingEvent) (wire : AgentEvent) :
    Prop :=
  ∃ event row, codec.marshal event = some pending.payload ∧ row.event = pending ∧ 0 < row.seq ∧
    wire = wireEvent attachedAt row event

theorem carries_rows {codec : Codec} (attachedAt : Int) {rows : List SpooledEvent}
    (numbered : ∀ row ∈ rows, 0 < row.seq)
    (serialized : ∀ row ∈ rows, ∃ event, codec.marshal event = some row.event.payload) :
    List.Forall₂ (Carries codec attachedAt) (rows.map SpooledEvent.event)
      (rows.filterMap (Spool.wireOf codec attachedAt)) := by
  induction rows with
  | nil => exact List.Forall₂.nil
  | cons row rows ih =>
    obtain ⟨event, written⟩ := serialized row mem_cons_self
    have wire : wireOf codec attachedAt row = some (wireEvent attachedAt row event) := by
      rw [wireOf, codec.unmarshal_marshal event _ written, Option.map_some]
    rw [filterMap_cons_some wire]
    refine List.Forall₂.cons ?_ (ih ?_ ?_)
    · exact ⟨event, row, written, rfl, numbered row mem_cons_self, rfl⟩
    · intro other mem
      exact numbered other (mem_cons_of_mem row mem)
    · intro other mem
      exact serialized other (mem_cons_of_mem row mem)

section Pass

variable {codec : Codec} {outcome : DrainOutcome} {now : Int} {spool after : Spool}
  {delivered : List AgentEvent}

theorem drainOnce_stored (settled : Settled spool) (serialized : spool.Serialized codec)
    (opened : spool.store.isSome) (attached : spool.sink) (unpaused : spool.paused now = false)
    (live : ∀ row, outcome.ctxLive row ∧ outcome.limiter row)
    (pass : spool.drainOnce codec outcome now = some (after, delivered, none)) :
    List.Forall₂ (Carries codec spool.attachedAt) (after.queued spool.sendSeq) delivered := by
  rw [drainOnce] at pass
  split at pass
  · cases pass
  rename_i flushed same
  obtain ⟨stream, empty, kept⟩ := flush_stored opened same
  obtain ⟨store, found⟩ := Option.isSome_iff_exists.mp kept
  have flushed_settled : Settled (spool.flush outcome.flush).1 :=
    (settled.kept.flush False.elim).settled
  have flushed_accepted := spool.flush_accepted outcome.flush
  rw [same] at flushed_settled flushed_accepted
  have places := flushed_settled.accounted.places
  have row_serialized : ∀ row ∈ store.rows,
      ∃ event, codec.marshal event = some row.event.payload := by
    intro row mem
    apply serialized
    rw [← flushed_accepted, places.mem_iff]
    simp only [storedEvents, found, mem_append]
    exact .inl (.inr (mem_map_of_mem mem))
  have row_readable : ∀ row ∈ store.rows, (codec.unmarshal row.event.payload).isSome := by
    intro row mem
    obtain ⟨event, written⟩ := row_serialized row mem
    rw [codec.unmarshal_marshal event _ written]
    rfl
  have flushed_unpaused : flushed.paused now = false := by
    rw [paused, stream.pausedUntil]
    exact unpaused
  have handed := drainLoop_live found (by rw [stream.sink]; exact attached)
    flushed_unpaused live row_readable pass
  obtain ⟨seq, moved⟩ := drainLoop_frame pass
  have owed : after.queued spool.sendSeq = flushed.queued spool.sendSeq := by
    simp only at moved
    rw [moved]
    rfl
  rw [owed, queued_of_stored flushed_settled found empty, handed, stream.sendSeq, stream.attachedAt]
  apply carries_rows
  · intro row mem
    exact (store.bounded row (mem_of_mem_filter mem)).1
  · intro row mem
    exact row_serialized row (mem_of_mem_filter mem)

theorem drainOnce_memory (settled : Settled spool) (absent : spool.store = none)
    (pass : spool.drainOnce codec outcome now = some (after, delivered, none)) :
    delivered = [] ∧ after.queued spool.sendSeq = spool.trimMemoryLocked.buf := by
  obtain ⟨flushed, same, -, none_kept, buffered⟩ := flush_memory absent
  have flushed_settled : Settled (spool.flush outcome.flush).1 :=
    (settled.kept.flush False.elim).settled
  rw [same] at flushed_settled
  simp only [drainOnce, same, drainFuel, drainLoop, none_kept] at pass
  cases pass
  exact ⟨rfl, (queued_of_memory flushed_settled none_kept).trans buffered⟩

/-- A pass on an attached, unpaused spool that returns without error has handed over what is owed,
in order and numbered, exactly when there is a database or nothing is buffered to be kept. -/
theorem drainOnce_delivers_iff (cfg : SpoolConfig) (opened : Bool) (calls : List Call)
    (reach : spool = (newSpool cfg opened).performAll codec calls) (attached : spool.sink)
    (unpaused : spool.paused now = false) (live : ∀ row, outcome.ctxLive row ∧ outcome.limiter row)
    (pass : spool.drainOnce codec outcome now = some (after, delivered, none)) :
    List.Forall₂ (Carries codec spool.attachedAt) (after.queued spool.sendSeq) delivered ↔
      spool.store.isSome ∨
        ∀ newest ∈ spool.buf.getLast?, spool.cfg.maxMemoryBytes < newest.size := by
  have settled : Settled spool := by
    rw [reach]
    exact (Settled.newSpool.kept.performAll fun _ _ => False.elim).settled
  have serialized : spool.Serialized codec := by
    rw [reach]
    apply performAll_serialized
    intro pending mem
    cases mem
  cases found : spool.store with
  | some store =>
    have opened_now : spool.store.isSome := by rw [found]; rfl
    have owed := drainOnce_stored settled serialized opened_now attached unpaused live pass
    simpa using owed
  | none =>
    obtain ⟨rfl, owed⟩ := drainOnce_memory settled found pass
    rw [owed, forall₂_nil_right_iff]
    rw [Option.isSome_none, Bool.false_eq_true, false_or]
    exact trimLoop_eq_nil_iff settled.bytes

end Pass

def cleanPass : DrainOutcome where
  flush := { append := true, sizeBytes := some 0, dropOldest := .ok, addDropped := true }
  readFrom := fun _ => true
  ctxLive := fun _ => true
  limiter := fun _ => true
  sinkSend := fun _ => true

/-- A spool that queued one event before a stream was attached. -/
def oneQueued (opened : Bool) : Spool :=
  (Spool.newSpool { maxMemoryBytes := 10, maxDiskBytes := 10, maxAge := 0 } opened).performAll
    (Codec.ofTable [containerEvent "e1"])
    [.send (containerEvent "e1") 0 cleanPass.flush true, .attach 5]

/-- Without a database the pass returns without error and the queued event stays behind. -/
theorem memory_spool_delivers_nothing :
    ∃ after, (oneQueued false).sink ∧ (oneQueued false).paused 5 = false ∧
      (oneQueued false).drainOnce (Codec.ofTable [containerEvent "e1"]) cleanPass 5 =
        some (after, [], none) ∧
      ¬ List.Forall₂ (Carries (Codec.ofTable [containerEvent "e1"]) (oneQueued false).attachedAt)
        (after.queued (oneQueued false).sendSeq) [] := by
  refine ⟨oneQueued false, rfl, rfl, rfl, ?_⟩
  intro handed
  have owed : ((oneQueued false).queued (oneQueued false).sendSeq).length = 1 := by decide
  rw [handed.length_eq] at owed
  cases owed

theorem drainOnce_delivers_iff_stored : ∃ after delivered,
      (oneQueued true).drainOnce (Codec.ofTable [containerEvent "e1"]) cleanPass 5 =
        some (after, delivered, none) ∧
      (List.Forall₂ (Carries (Codec.ofTable [containerEvent "e1"]) (oneQueued true).attachedAt)
          (after.queued (oneQueued true).sendSeq) delivered ↔
        (oneQueued true).store.isSome ∨ ∀ newest ∈ (oneQueued true).buf.getLast?,
          (oneQueued true).cfg.maxMemoryBytes < newest.size) := by
  have returned : ((oneQueued true).drainOnce (Codec.ofTable [containerEvent "e1"]) cleanPass
      5).map (fun result => result.2.2) = some none := rfl
  obtain ⟨⟨after, delivered, error⟩, pass, clean⟩ := Option.map_eq_some_iff.mp returned
  cases clean
  refine ⟨after, delivered, pass, ?_⟩
  exact drainOnce_delivers_iff _ true _ rfl rfl rfl (fun _ => ⟨rfl, rfl⟩) pass

end Maintenant.Agent
