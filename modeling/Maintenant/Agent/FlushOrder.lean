import Maintenant.Agent.Refinement

/-!
# Order of events under concurrent flushes

Conservation holds over every interleaving.  The order of `Send` survives a step exactly when a
batch is written only while it is the oldest in hand and put back only while it is the youngest;
nothing in the code makes the flushes take turns.
-/

namespace Maintenant.Agent

open Execution Spool List

/-- Every row ever stored, the batches in hand and the buffer are in the order of `Send`. -/
def HistoryOrdered (flight : List PendingEvent) (spool : Spool) : Prop :=
  ((spool.history.stored.map SpooledEvent.event ++ flight ++ spool.buf).map
    PendingEvent.ticket).Pairwise (· < ·)

theorem not_ordered_swapped {late early : PendingEvent} {first second third : List PendingEvent}
    (ordered : ((first ++ second ++ third).map PendingEvent.ticket).Pairwise (· < ·))
    (late_mem : late ∈ first) (early_mem : early ∈ second ++ third)
    (before : early.ticket < late.ticket) : False := by
  rw [append_assoc, map_append, pairwise_append] at ordered
  have := ordered.2.2 _ (mem_map_of_mem late_mem) _ (mem_map_of_mem early_mem)
  omega

theorem exists_mem_flatten {batches : List (List PendingEvent)}
    (nonempty : ∀ batch ∈ batches, batch ≠ []) (some_batch : batches ≠ []) :
    ∃ event, event ∈ batches.flatten := by
  obtain ⟨batch, mem⟩ := exists_mem_of_ne_nil batches some_batch
  obtain ⟨event, in_batch⟩ := exists_mem_of_ne_nil batch (nonempty batch mem)
  exact ⟨event, mem_flatten.mpr ⟨batch, mem, in_batch⟩⟩

namespace Move

variable {codec : Codec} {turn : Prop} {batches batches' : List (List PendingEvent)}
  {before after : Spool}

variable (move : Move codec turn batches before batches' after)
include move

/-- The order of `Send` survives a step exactly when the batch has its turn. -/
theorem ordered_iff
    (accounted : Accounted batches.flatten before) (nonempty : ∀ batch ∈ batches, batch ≠ [])
    (ordered : Ordered batches.flatten before) : Ordered batches'.flatten after ↔ turn := by
  have flight := (pairwise_append.mp (pairwise_append.mp
    (by simpa only [Ordered, map_append] using ordered)).1).2.1
  cases move with
  | idle met same =>
    refine iff_of_true ?_ met
    apply ordered.of_storedEvents _ same.buf
    rw [storedEvents, same.store]
    rfl
  | queue met _ ticket => exact iff_of_true (ordered.enqueue accounted ticket) met
  | take met =>
    refine iff_of_true ?_ met
    apply ordered.of_sublist
    simp [storedEvents]
  | trim met => exact iff_of_true ordered.trimMemoryLocked met
  | @store left right batch _ oldest opened =>
    rw [oldest]
    constructor
    · intro after_ordered
      by_contra some_left
      obtain ⟨early, early_mem⟩ := exists_mem_flatten
        (fun other mem => nonempty other (mem_append_left _ mem)) some_left
      obtain ⟨late, late_mem⟩ := exists_mem_of_ne_nil batch (nonempty batch (by simp))
      have in_order : early.ticket < late.ticket := by
        rw [flatten_append, map_append, pairwise_append] at flight
        exact flight.2.2 _ (mem_map_of_mem early_mem) _ (mem_map_of_mem (by simp [late_mem]))
      obtain ⟨store, found⟩ := Option.isSome_iff_exists.mp opened
      refine not_ordered_swapped after_ordered ?_ ?_ in_order
      · simp [storedEvents, storeBatch, found, late_mem]
      · rw [flatten_append, append_assoc]
        exact mem_append_left _ early_mem
    · rintro rfl
      exact Ordered.storeBatch (by simpa using ordered) opened
  | @requeue left right batch _ youngest =>
    rw [youngest]
    constructor
    · intro after_ordered
      by_contra some_right
      obtain ⟨late, late_mem⟩ := exists_mem_flatten
        (fun other mem => nonempty other (by simp [mem])) some_right
      obtain ⟨early, early_mem⟩ := exists_mem_of_ne_nil batch (nonempty batch (by simp))
      have in_order : early.ticket < late.ticket := by
        rw [flatten_append, flatten_cons, map_append, map_append, pairwise_append] at flight
        exact (pairwise_append.mp flight.2.1).2.2 _ (mem_map_of_mem early_mem) _
          (mem_map_of_mem late_mem)
      have swapped : ((before.storedEvents ++ (left ++ right).flatten ++ batch ++
          before.buf).map PendingEvent.ticket).Pairwise (· < ·) := by
        simpa [Ordered, Spool.requeue, storedEvents] using after_ordered
      refine not_ordered_swapped swapped ?_ ?_ in_order
      · simp only [flatten_append, mem_append]
        exact .inr (.inr late_mem)
      · exact mem_append_left _ early_mem
    · rintro rfl
      apply Ordered.requeue
      simpa using ordered
  | delete met deletion =>
    exact iff_of_true (ordered.of_storedEvents deletion.storedEvents_sublist deletion.frame.1) met

theorem historyOrdered (met : turn) (accounted : Accounted batches.flatten before)
    (committed : ∀ row ∈ before.history.stored, row.event ∈ before.history.accepted)
    (ordered : HistoryOrdered batches.flatten before) : HistoryOrdered batches'.flatten after := by
  cases move with
  | idle _ same =>
    rw [HistoryOrdered, same.history, same.buf]
    exact ordered
  | queue _ event ticket =>
    have known : ∀ other ∈ before.history.stored.map SpooledEvent.event ++ batches.flatten ++
        before.buf, other ∈ before.history.accepted := by
      intro other mem
      simp only [mem_append] at mem
      rcases mem with (stored | in_hand) | buffered
      · obtain ⟨row, row_mem, rfl⟩ := mem_map.mp stored
        exact committed row row_mem
      · rw [accounted.places.mem_iff]
        simp [in_hand]
      · rw [accounted.places.mem_iff]
        simp [buffered]
    have later := accounted.tickets_snoc ordered known ticket
    rw [append_assoc] at later
    exact later
  | take => simpa [HistoryOrdered] using ordered
  | trim =>
    obtain ⟨split, -⟩ := trimLoop_spec before.cfg.maxMemoryBytes before.bufBytes before.buf
    have kept := sublist_append_right
      (trimLoop before.cfg.maxMemoryBytes before.bufBytes before.buf).2.1
      (trimLoop before.cfg.maxMemoryBytes before.bufBytes before.buf).2.2
    rw [split] at kept
    exact ordered.sublist ((kept.append_left _).map _)
  | @store left right batch _ oldest opened =>
    obtain rfl : left = [] := oldest.mp met
    obtain ⟨store, found⟩ := Option.isSome_iff_exists.mp opened
    rw [storeBatch, onStore_some _ _ _ found]
    simpa [HistoryOrdered, append_assoc] using ordered
  | @requeue left right batch _ youngest =>
    obtain rfl : right = [] := youngest.mp met
    simpa [HistoryOrdered, Spool.requeue] using ordered
  | delete _ deletion =>
    obtain ⟨buf, -, stored⟩ := deletion.frame
    rw [HistoryOrdered, stored, buf]
    exact ordered

end Move

theorem ticket_lt_of_seq_lt {rows : List SpooledEvent} (sorted : rows.Pairwise (·.seq < ·.seq))
    (ordered : rows.Pairwise (·.event.ticket < ·.event.ticket)) {low high : SpooledEvent}
    (low_mem : low ∈ rows) (high_mem : high ∈ rows) (below : low.seq < high.seq) :
    low.event.ticket < high.event.ticket := by
  induction rows with
  | nil => cases low_mem
  | cons row rows ih =>
    obtain ⟨sorted_head, sorted_tail⟩ := pairwise_cons.mp sorted
    obtain ⟨ordered_head, ordered_tail⟩ := pairwise_cons.mp ordered
    rcases mem_cons.mp low_mem with rfl | low_tail
    · rcases mem_cons.mp high_mem with rfl | high_tail
      · omega
      · exact ordered_head high high_tail
    rcases mem_cons.mp high_mem with rfl | high_tail
    · have := sorted_head low low_tail
      omega
    · exact ih sorted_tail ordered_tail low_tail high_tail

namespace Machine

/-- Stored rows by sequence, then the batches in hand, then the buffer, follow `Send`. -/
def SendOrder (agent : Machine) : Prop := Ordered agent.batches.flatten agent.whole

/-- First deliveries follow `Send`. -/
def FirstsInOrder (agent : Machine) : Prop :=
  (agent.firsts.map fun row => row.event.ticket).Pairwise (· < ·)

variable {codec : Codec} {agent after : Machine}

theorem Sound.sendOrder_iff (sound : Sound codec agent) {action : Action}
    (ordered : agent.SendOrder) (step : agent.next codec action = some after) :
    after.SendOrder ↔ agent.inTurn action :=
  (next_move step).ordered_iff sound.accounted sound.nonempty ordered

/-- First deliveries follow the sequences, and the sequences follow `Send`. -/
theorem Sound.firstsInOrder (sound : Sound codec agent)
    (ordered : HistoryOrdered agent.batches.flatten agent.whole) : agent.FirstsInOrder := by
  have by_ticket : agent.whole.history.stored.Pairwise (·.event.ticket < ·.event.ticket) := by
    rw [HistoryOrdered, append_assoc, map_append, map_map, pairwise_append] at ordered
    exact pairwise_map.mp ordered.1
  rw [FirstsInOrder, pairwise_map]
  refine sound.inOrder.order.imp_of_mem ?_
  intro low high low_mem high_mem below
  exact ticket_lt_of_seq_lt sound.formed.sorted by_ticket
    (sound.inOrder.firsts_stored low low_mem) (sound.inOrder.firsts_stored high high_mem) below

theorem init_sendOrder {cfg : SpoolConfig} {opened : Bool} : (init cfg opened).SendOrder := by
  have empty : (init cfg opened).whole.storedEvents = [] := by
    simp only [init, newSpool]
    split <;> rfl
  rw [SendOrder, Ordered, empty]
  exact List.Pairwise.nil

/-- Over every interleaving the order of `Send` is kept, in the spool and in first deliveries,
exactly when the flushes take turns. -/
theorem send_order_iff_in_turn (codec : Codec) (cfg : SpoolConfig) (opened : Bool)
    (actions : List Action) {final : Machine}
    (execution : run (next codec) (init cfg opened) actions = some final) :
    Always (next codec) (fun agent => agent.SendOrder ∧ agent.FirstsInOrder)
        (init cfg opened) actions ↔
      Guarded (next codec) (fun agent action => agent.inTurn action) (init cfg opened) actions := by
  rw [always_and, always_iff_guarded (fun sound step => Sound.next sound step)
    (fun sound ordered step => Sound.sendOrder_iff sound ordered step) Sound.init
    init_sendOrder execution]
  refine and_iff_left_of_imp ?_
  apply always_of_guarded
    fun agent => Sound codec agent ∧ HistoryOrdered agent.batches.flatten agent.whole
  · rintro before after action ⟨sound, ordered⟩ turn step
    exact ⟨sound.next step, (next_move step).historyOrdered turn sound.accounted sound.committed
      ordered⟩
  · rintro agent ⟨sound, ordered⟩
    exact sound.firstsInOrder ordered
  · exact ⟨Sound.init, List.Pairwise.nil⟩

/-- Two events, of which the flush loop appends the second first; then a pass over both rows. -/
def overtakingFlushes : List Action :=
  [.send (containerEvent "e1") 0 true, .sendFlush, .send (containerEvent "e2") 0 true, .loopFlush,
    .flush 1 (.append true), .flush 0 (.append true), .attach 5, .attachRewind, .drainStart,
    .drainCapture 5, .drainRead true, .drainRow true, .drainSend true, .drainAdvance,
    .drainRow true, .drainSend true]

/-- The same two flushes, written in the order in which they took their batches. -/
def orderlyFlushes : List Action :=
  [.send (containerEvent "e1") 0 true, .sendFlush, .send (containerEvent "e2") 0 true, .loopFlush,
    .flush 0 (.append true), .flush 1 (.append true), .attach 5, .attachRewind, .drainStart,
    .drainCapture 5, .drainRead true, .drainRow true, .drainSend true]

/-- An agent with a one-byte memory budget, so that each `Send` flushes. -/
def eagerAgent : Machine := init { maxMemoryBytes := 1, maxDiskBytes := 0, maxAge := 0 } true

/-- A codec for the events of the runs above. -/
def twoEvents : Codec := Codec.ofTable [containerEvent "e1", containerEvent "e2"]

/-- The second event is stored and delivered before the first. -/
theorem overtaking_flush_reorders :
    ∃ final, run (next twoEvents) eagerAgent overtakingFlushes = some final ∧
      ¬ final.SendOrder ∧ ¬ final.FirstsInOrder := by
  have reached : ((run (next twoEvents) eagerAgent overtakingFlushes).map fun final =>
      (final.whole.storedEvents.map PendingEvent.ticket,
        final.firsts.map fun row => row.event.ticket)) = some ([1, 0], [1, 0]) := by
    decide
  obtain ⟨final, execution, shown⟩ := Option.map_eq_some_iff.mp reached
  obtain ⟨stored, delivered⟩ := Prod.mk.inj shown
  refine ⟨final, execution, ?_, ?_⟩
  · intro ordered
    rw [SendOrder, Ordered, append_assoc, map_append, stored] at ordered
    simp at ordered
  · intro ordered
    rw [FirstsInOrder, delivered] at ordered
    simp at ordered

theorem send_order_iff_in_turn_orderly :
    ∃ final, run (next twoEvents) eagerAgent orderlyFlushes = some final ∧
      (Always (next twoEvents) (fun agent => agent.SendOrder ∧ agent.FirstsInOrder)
          eagerAgent orderlyFlushes ↔
        Guarded (next twoEvents) (fun agent action => agent.inTurn action) eagerAgent
          orderlyFlushes) := by
  have ends : (run (next twoEvents) eagerAgent orderlyFlushes).isSome := by decide
  obtain ⟨final, execution⟩ := Option.isSome_iff_exists.mp ends
  exact ⟨final, execution, send_order_iff_in_turn twoEvents _ true orderlyFlushes execution⟩

end Machine

end Maintenant.Agent
