import Maintenant.Agent.SpoolCalls
import Mathlib.Data.List.Perm.Basic

/-!
# Where an accepted event can be

Each lock section and each store call moves events between the buffer, the batch a flush holds, the
database and the removed events.  One lemma per section says what it does to these places; the calls
of the source and the concurrent machine are then both sequences of such moves.
-/

namespace Maintenant.Agent

open Option History List
def Spool.storedEvents (spool : Spool) : List PendingEvent :=
  (spool.store.elim [] SpoolStore.rows).map SpooledEvent.event

/-- Every accepted event is in exactly one place.  `flight` lists the events a flush took from the
buffer and has not written yet. -/
structure Accounted (flight : List PendingEvent) (spool : Spool) : Prop where
  tickets : spool.history.accepted.map PendingEvent.ticket =
    List.range spool.history.accepted.length
  /-- The places hold the accepted events, each once. -/
  places : spool.history.accepted.Perm
    (spool.buf ++ flight ++ spool.storedEvents ++ spool.history.removed)

/-- The byte counter is the size of the buffer. -/
def BytesCounted (spool : Spool) : Prop := spool.bufBytes = totalSize spool.buf

/-- Stored rows, then the batches being written, then the buffer, are in the order of `Send`. -/
def Ordered (flight : List PendingEvent) (spool : Spool) : Prop :=
  ((spool.storedEvents ++ flight ++ spool.buf).map PendingEvent.ticket).Pairwise (· < ·)

/-- Every accepted event was serialized by `Send`. -/
def Spool.Serialized (codec : Codec) (spool : Spool) : Prop :=
  ∀ pending ∈ spool.history.accepted, ∃ event, codec.marshal event = some pending.payload

section DeletionCounts

variable (store : SpoolStore) (event : PendingEvent)

theorem count_deleteWhere (selected : SpooledEvent → Bool) :
    ((store.deleteWhere selected).1.rows.map SpooledEvent.event).count event +
        ((store.deleteWhere selected).2.map SpooledEvent.event).count event =
      (store.rows.map SpooledEvent.event).count event := by
  have split := ((store.deleteWhere_perm selected).map SpooledEvent.event).count_eq event
  rw [map_append, count_append] at split
  omega

theorem count_deleteOldestBytes (target : Int) :
    ((store.deleteOldestBytes target).1.rows.map SpooledEvent.event).count event +
        ((store.deleteOldestBytes target).2.map SpooledEvent.event).count event =
      (store.rows.map SpooledEvent.event).count event := by
  obtain ⟨bound, deletion⟩ := store.deleteOldestBytes_eq
  rw [deletion]
  exact count_deleteWhere store event _

end DeletionCounts

theorem deleteOldestBytes_droppedSinceConnect (store : SpoolStore) (target : Int) :
    (store.deleteOldestBytes target).1.droppedSinceConnect = store.droppedSinceConnect := by
  obtain ⟨bound, deletion⟩ := store.deleteOldestBytes_eq
  rw [deletion]
  rfl

namespace Spool

theorem trimLoop_spec (budget bytes : Int) (events : List PendingEvent) :
    (trimLoop budget bytes events).2.1 ++ (trimLoop budget bytes events).2.2 = events ∧
      (trimLoop budget bytes events).1 = bytes - totalSize (trimLoop budget bytes events).2.1 := by
  induction events generalizing bytes with
  | nil => simp [trimLoop]
  | cons event events ih =>
    rw [trimLoop]
    split
    · obtain ⟨split, counter⟩ := ih (bytes - event.size)
      refine ⟨by simp [split], ?_⟩
      simp only [totalSize_cons]
      omega
    · simp

end Spool

variable {event : PendingEvent} {batch : List PendingEvent}
  {record : SpoolStore → History → History} {call : SpoolStore → SpoolStore} {target : Int}
  {flight : List PendingEvent} {spool : Spool}

namespace Accounted

section

variable (accounted : Accounted flight spool)
include accounted

theorem nodup : spool.history.accepted.Nodup := by
  apply List.Nodup.of_map PendingEvent.ticket
  rw [accounted.tickets]
  exact nodup_range

theorem ticket_lt
    (mem : event ∈ spool.history.accepted) : event.ticket < spool.history.accepted.length := by
  have mapped := mem_map_of_mem (f := PendingEvent.ticket) mem
  rw [accounted.tickets] at mapped
  exact mem_range.mp mapped

/-- The newest event comes after accepted ones. -/
theorem tickets_snoc {front : List PendingEvent}
    (ordered : (front.map PendingEvent.ticket).Pairwise (· < ·))
    (known : ∀ other ∈ front, other ∈ spool.history.accepted)
    (ticket : event.ticket = spool.history.accepted.length) :
    ((front ++ [event]).map PendingEvent.ticket).Pairwise (· < ·) := by
  rw [map_append]
  refine pairwise_snoc.mpr ⟨ordered, fun first first_mem => ?_⟩
  obtain ⟨other, other_mem, rfl⟩ := mem_map.mp first_mem
  rw [ticket]
  exact accounted.ticket_lt (known other other_mem)

theorem count_eq (event : PendingEvent) : spool.history.accepted.count event =
      spool.buf.count event + flight.count event + spool.storedEvents.count event +
        spool.history.removed.count event := by
  rw [accounted.places.count_eq event]
  simp only [count_append]

/-- A section that queues nothing keeps the account when it keeps the number of copies of every
event over all places. -/
theorem of_counts {flight' : List PendingEvent} {spool' : Spool}
    (same : spool'.history.accepted = spool.history.accepted)
    (moved : ∀ event, spool'.buf.count event + flight'.count event +
        spool'.storedEvents.count event + spool'.history.removed.count event =
      spool.buf.count event + flight.count event + spool.storedEvents.count event +
        spool.history.removed.count event) : Accounted flight' spool' where
  tickets := by
    rw [same]
    exact accounted.tickets
  places := by
    rw [same, perm_iff_count]
    intro event
    rw [accounted.count_eq event, ← moved event]
    simp only [count_append]

theorem enqueue (ticket : event.ticket = spool.history.accepted.length) :
    Accounted flight (spool.enqueue event) where
  tickets := by
    simp [Spool.enqueue, accounted.tickets, ticket, range_succ]
  places := by
    rw [perm_iff_count]
    intro other
    have before := accounted.count_eq other
    simp only [Spool.enqueue, Spool.storedEvents, removed, removedByBudget,
      count_append] at before ⊢
    omega

theorem trimMemoryLocked : Accounted flight spool.trimMemoryLocked := by
  refine accounted.of_counts ?_ ?_
  · rfl
  intro event
  obtain ⟨split, -⟩ := Spool.trimLoop_spec spool.cfg.maxMemoryBytes spool.bufBytes spool.buf
  have counts := congrArg (count event) split
  simp only [Spool.trimMemoryLocked, Spool.storedEvents, removed,
    removedByBudget, count_append] at counts ⊢
  omega

theorem takeBatch : Accounted (flight ++ spool.takeBatch.2.getD []) spool.takeBatch.1 := by
  rcases spool.takeBatch_cases with ⟨-, same⟩ | ⟨-, same⟩ | ⟨-, -, same⟩
  · rw [same]
    simpa using accounted
  · rw [same]
    simpa using accounted.trimMemoryLocked
  rw [same]
  refine accounted.of_counts rfl ?_
  simp only [Spool.storedEvents, getD_some, count_append, count_nil]
  omega

end

theorem requeue (accounted : Accounted (flight ++ batch) spool) :
    Accounted flight (spool.requeue batch) := by
  refine accounted.of_counts ?_ ?_
  · rfl
  simp only [Spool.requeue, Spool.storedEvents, count_append]
  omega

theorem storeBatch (accounted : Accounted (flight ++ batch) spool)
    (opened : spool.store.isSome) : Accounted flight (spool.storeBatch batch) := by
  obtain ⟨store, found⟩ := isSome_iff_exists.mp opened
  rw [Spool.storeBatch, Spool.onStore_some _ _ _ found]
  refine accounted.of_counts ?_ ?_
  · rfl
  simp only [found, Spool.storedEvents, elim_some, SpoolStore.append_rows, map_append,
    map_event_numberFrom, count_append, removed, removedByBudget]
  omega

section

variable (accounted : Accounted flight spool)
include accounted

theorem onStore (same : ∀ store history, (record store history).accepted = history.accepted)
    (moved : ∀ store history event, ((call store).rows.map SpooledEvent.event).count event +
          (record store history).removed.count event =
        (store.rows.map SpooledEvent.event).count event + history.removed.count event) :
    Accounted flight (spool.onStore call record) := by
  cases found : spool.store with
  | none => rwa [Spool.onStore_none _ _ _ found]
  | some store =>
    rw [Spool.onStore_some _ _ _ found]
    refine accounted.of_counts (same store spool.history) ?_
    intro event
    have recorded := moved store spool.history event
    simp only [Spool.storedEvents, found, elim_some]
    omega

theorem deleteAcked {seq : Nat} : Accounted flight (spool.deleteAcked seq) := by
  apply accounted.onStore
  · intro store history
    rfl
  intro store history event
  have split := count_deleteWhere store event fun row => row.seq ≤ seq
  simp only [SpoolStore.deleteUpTo, removed, removedByBudget, map_append, count_append] at split ⊢
  omega

theorem deleteExpired {cutoff : Int} : Accounted flight (spool.deleteExpired cutoff) := by
  apply accounted.onStore
  · intro store history
    rfl
  intro store history event
  have split := count_deleteWhere store event fun row => row.event.observedAt < cutoff
  simp only [SpoolStore.deleteOlderThan, removed, removedByBudget,
    map_append, count_append] at split ⊢
  omega

theorem dropOldest : Accounted flight (spool.dropOldest target) := by
  apply accounted.onStore
  · intro store history
    rfl
  intro store history event
  have split := count_deleteOldestBytes store event target
  simp only [removed, removedByBudget, map_append, count_append]
  omega

theorem countDropped {n : Nat} : Accounted flight (spool.countDropped n) := by
  apply accounted.onStore
  · intro store history
    rfl
  · intro store history event
    rfl

theorem discard : Accounted flight spool.discard := by
  refine accounted.of_counts ?_ ?_
  · rfl
  simp only [Spool.discard, Spool.storedEvents, elim_none, map_nil, count_nil,
    removed, removedByBudget, count_append]
  omega

end

end Accounted

namespace Spool

/-! ## The byte counter -/

section Bytes

variable (counted : BytesCounted spool)
include counted

theorem bytesCounted_enqueue : BytesCounted (spool.enqueue event) := by
  simp only [BytesCounted, enqueue, totalSize_append, totalSize_cons, totalSize_nil] at counted ⊢
  omega

theorem bytesCounted_trimMemoryLocked : BytesCounted spool.trimMemoryLocked := by
  obtain ⟨split, counter⟩ := trimLoop_spec spool.cfg.maxMemoryBytes spool.bufBytes spool.buf
  have sizes := congrArg totalSize split
  simp only [BytesCounted, trimMemoryLocked, totalSize_append] at counted sizes ⊢
  omega

theorem bytesCounted_takeBatch : BytesCounted spool.takeBatch.1 := by
  rcases spool.takeBatch_cases with ⟨-, same⟩ | ⟨-, same⟩ | ⟨-, -, same⟩
  · rw [same]
    exact counted
  · rw [same]
    exact bytesCounted_trimMemoryLocked counted
  · rw [same]
    rfl

theorem bytesCounted_requeue : BytesCounted (spool.requeue batch) := by
  simp only [BytesCounted, requeue, totalSize_append] at counted ⊢
  omega

end Bytes

/-! ## The order of `Send` -/

section Sublists

variable (spool : Spool)

theorem onStore_storedEvents_sublist (kept : ∀ store, (call store).rows.Sublist store.rows) :
    (spool.onStore call record).storedEvents.Sublist spool.storedEvents := by
  cases found : spool.store with
  | none => rw [onStore_none _ _ _ found]
  | some store =>
    simp only [storedEvents, onStore_store, found]
    exact (kept store).map _

theorem dropOldest_storedEvents_sublist :
    (spool.dropOldest target).storedEvents.Sublist spool.storedEvents := by
  apply spool.onStore_storedEvents_sublist
  intro store
  obtain ⟨bound, deletion⟩ := store.deleteOldestBytes_eq
  rw [deletion]
  exact filter_sublist

end Sublists

end Spool

namespace Ordered

variable {flight' : List PendingEvent} {spool' : Spool}

section

variable (ordered : Ordered flight spool)
include ordered

theorem of_sublist (kept : (spool'.storedEvents ++ flight' ++ spool'.buf).Sublist
      (spool.storedEvents ++ flight ++ spool.buf)) : Ordered flight' spool' :=
  ordered.sublist (kept.map _)

theorem of_storedEvents
    (stored : spool'.storedEvents.Sublist spool.storedEvents) (buf : spool'.buf = spool.buf) :
    Ordered flight spool' := by
  apply ordered.of_sublist
  rw [buf]
  exact (stored.append_right flight).append_right spool.buf

theorem enqueue (accounted : Accounted flight spool)
    (ticket : event.ticket = spool.history.accepted.length) :
    Ordered flight (spool.enqueue event) := by
  have known : ∀ other ∈ spool.storedEvents ++ flight ++ spool.buf,
      other ∈ spool.history.accepted := by
    intro other mem
    rw [accounted.places.mem_iff]
    simp only [mem_append] at mem ⊢
    tauto
  have later := accounted.tickets_snoc ordered known ticket
  rw [append_assoc] at later
  exact later

theorem trimMemoryLocked : Ordered flight spool.trimMemoryLocked := by
  obtain ⟨split, -⟩ := Spool.trimLoop_spec spool.cfg.maxMemoryBytes spool.bufBytes spool.buf
  apply ordered.of_sublist
  apply List.Sublist.append_left
  have kept := sublist_append_right
    (Spool.trimLoop spool.cfg.maxMemoryBytes spool.bufBytes spool.buf).2.1
    (Spool.trimLoop spool.cfg.maxMemoryBytes spool.bufBytes spool.buf).2.2
  rwa [split] at kept

theorem takeBatch : Ordered (flight ++ spool.takeBatch.2.getD []) spool.takeBatch.1 := by
  rcases spool.takeBatch_cases with ⟨-, same⟩ | ⟨-, same⟩ | ⟨-, -, same⟩
  · rw [same]
    simpa using ordered
  · rw [same]
    simpa using ordered.trimMemoryLocked
  · rw [same]
    apply ordered.of_sublist
    simp [Spool.storedEvents, append_assoc]

end

theorem requeue (ordered : Ordered (flight ++ batch) spool) :
    Ordered flight (spool.requeue batch) := by
  apply ordered.of_sublist
  simp [Spool.requeue, Spool.storedEvents, append_assoc]

theorem storeBatch (ordered : Ordered (batch ++ flight) spool)
    (opened : spool.store.isSome) : Ordered flight (spool.storeBatch batch) := by
  obtain ⟨store, found⟩ := isSome_iff_exists.mp opened
  apply ordered.of_sublist
  simp [Spool.storeBatch, Spool.storedEvents, found, append_assoc]

end Ordered

end Maintenant.Agent
