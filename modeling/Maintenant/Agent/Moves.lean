import Maintenant.Agent.Machine

/-!
# What a step of the agent does to the events

Every step of every thread either leaves the events where they are or performs one section of the
spool on them.  This is proved once, by cases on the action; conservation and order of events over
interleavings follow from it without looking at the threads again.
-/

namespace Maintenant.Agent

open Spool List Option

/-- No event is moved. -/
structure SameEvents (before after : Spool) : Prop where
  store : after.store = before.store
  buf : after.buf = before.buf
  bufBytes : after.bufBytes = before.bufBytes
  history : after.history = before.history

/-- The sections that remove rows or count them. -/
inductive Deletion : Spool → Spool → Prop
  | acked (spool : Spool) (seq : Nat) : Deletion spool (spool.deleteAcked seq)
  | expired (spool : Spool) (cutoff : Int) : Deletion spool (spool.deleteExpired cutoff)
  | oldest (spool : Spool) (target : Int) : Deletion spool (spool.dropOldest target)
  | counted (spool : Spool) (n : Nat) : Deletion spool (spool.countDropped n)

/-- How batches in hand and the spool change in one step; `turn` says that a batch is written when
it is the oldest in hand, and put back when it is the youngest. -/
inductive Move (codec : Codec) (turn : Prop) :
    List (List PendingEvent) → Spool → List (List PendingEvent) → Spool → Prop
  | idle {batches before after} (met : turn) (same : SameEvents before after) :
      Move codec turn batches before batches after
  | queue {batches before} (met : turn) (event : PendingEvent)
      (ticket : event.ticket = before.history.accepted.length)
      (serialized : ∃ source, codec.marshal source = some event.payload) :
      Move codec turn batches before batches (before.enqueue event)
  | take {batches before} (met : turn) (buffered : before.buf ≠ []) :
      Move codec turn batches before
        (batches ++ [before.buf]) { before with buf := [], bufBytes := 0 }
  | trim {batches before} (met : turn) :
      Move codec turn batches before batches before.trimMemoryLocked
  | store {left right batch before} (oldest : turn ↔ left = []) (opened : before.store.isSome) :
      Move codec turn (left ++ batch :: right) before (left ++ right) (before.storeBatch batch)
  | requeue {left right batch before} (youngest : turn ↔ right = []) :
      Move codec turn (left ++ batch :: right) before (left ++ right) (before.requeue batch)
  | delete {batches before after} (met : turn) (deletion : Deletion before after) :
      Move codec turn batches before batches after

variable {spool : Spool} {turn : Prop} {codec : Codec}

theorem Move.stay {batches : List (List PendingEvent)}
    (met : turn) : Move codec turn batches spool batches spool :=
  idle met ⟨rfl, rfl, rfl, rfl⟩

theorem Accounted.of_perm {flight flight' : List PendingEvent}
    (accounted : Accounted flight spool) (same : flight.Perm flight') :
    Accounted flight' spool := by
  refine accounted.of_counts rfl ?_
  intro event
  rw [same.count_eq]

theorem flatten_insert_perm {left right : List (List PendingEvent)} {batch : List PendingEvent} :
    (left ++ batch :: right).flatten.Perm ((left ++ right).flatten ++ batch) := by
  simp only [flatten_append, append_assoc]
  exact Perm.append_left _ perm_append_comm

namespace Deletion

variable {before after : Spool} {flight : List PendingEvent}

variable (deletion : Deletion before after)
include deletion

theorem accounted (accounted : Accounted flight before) : Accounted flight after := by
  cases deletion with
  | acked => exact accounted.deleteAcked
  | expired => exact accounted.deleteExpired
  | oldest => exact accounted.dropOldest
  | counted => exact accounted.countDropped

theorem storedEvents_sublist : after.storedEvents.Sublist before.storedEvents := by
  cases deletion with
  | acked | expired => exact before.onStore_storedEvents_sublist fun _ => filter_sublist
  | oldest => exact before.dropOldest_storedEvents_sublist
  | counted => exact before.onStore_storedEvents_sublist fun store => .refl store.rows

theorem frame : after.buf = before.buf ∧ after.history.accepted = before.history.accepted ∧
      after.history.stored = before.history.stored := by
  have onStore : ∀ {call : SpoolStore → SpoolStore} {record : SpoolStore → History → History},
      (∀ store history, (record store history).accepted = history.accepted ∧
        (record store history).stored = history.stored) →
      (before.onStore call record).buf = before.buf ∧
        (before.onStore call record).history.accepted = before.history.accepted ∧
        (before.onStore call record).history.stored = before.history.stored := by
    intro call record kept
    refine ⟨onStore_buf _ _ _, ?_⟩
    cases found : before.store with
    | none =>
      rw [onStore_none _ _ _ found]
      exact ⟨rfl, rfl⟩
    | some store =>
      rw [onStore_some _ _ _ found]
      exact kept store before.history
  cases deletion with
  | acked | expired | oldest | counted => exact onStore fun _ _ => ⟨rfl, rfl⟩

end Deletion

namespace Move

variable {batches batches' : List (List PendingEvent)} {before after : Spool}

section

variable (move : Move codec turn batches before batches' after)
include move

theorem accounted
    (accounted : Accounted batches.flatten before) : Accounted batches'.flatten after := by
  cases move with
  | idle _ same =>
    refine accounted.of_counts (by rw [same.history]) ?_
    intro event
    rw [storedEvents, storedEvents, same.store, same.buf, same.history]
  | queue _ _ ticket => exact accounted.enqueue ticket
  | take =>
    refine accounted.of_counts rfl ?_
    simp only [storedEvents, flatten_append, flatten_singleton, count_append, count_nil]
    omega
  | trim => exact accounted.trimMemoryLocked
  | store _ opened => exact (accounted.of_perm flatten_insert_perm).storeBatch opened
  | requeue => exact (accounted.of_perm flatten_insert_perm).requeue
  | delete _ deletion => exact deletion.accounted accounted

theorem nonempty (nonempty : ∀ batch ∈ batches, batch ≠ []) : ∀ batch ∈ batches', batch ≠ [] := by
  cases move with
  | take _ buffered =>
    intro batch mem
    rcases mem_snoc.mp mem with old | rfl
    · exact nonempty batch old
    · exact buffered
  | store | requeue =>
    intro batch mem
    apply nonempty
    simp only [mem_append] at mem ⊢
    tauto
  | _ => exact nonempty

theorem serialized (serialized : before.Serialized codec) : after.Serialized codec := by
  cases move with
  | idle _ same =>
    intro pending mem
    rw [same.history] at mem
    exact serialized pending mem
  | queue _ _ _ written =>
    intro pending mem
    rcases mem_snoc.mp mem with old | rfl
    · exact serialized pending old
    · exact written
  | take | trim | requeue => exact serialized
  | store _ opened =>
    intro pending mem
    obtain ⟨store, found⟩ := isSome_iff_exists.mp opened
    rw [storeBatch, onStore_some _ _ _ found] at mem
    exact serialized pending mem
  | delete _ deletion =>
    intro pending mem
    rw [deletion.frame.2.1] at mem
    exact serialized pending mem

theorem committed (accounted : Accounted batches.flatten before)
    (committed : ∀ row ∈ before.history.stored, row.event ∈ before.history.accepted) :
    ∀ row ∈ after.history.stored, row.event ∈ after.history.accepted := by
  cases move with
  | idle _ same =>
    rw [same.history]
    exact committed
  | queue =>
    intro row mem
    exact mem_append_left _ (committed row mem)
  | take | trim | requeue => exact committed
  | @store left right batch _ oldest opened =>
    obtain ⟨store, found⟩ := isSome_iff_exists.mp opened
    rw [storeBatch, onStore_some _ _ _ found]
    intro row mem
    rcases mem_append.mp mem with old | new
    · exact committed row old
    have in_hand : row.event ∈ (left ++ batch :: right).flatten :=
      mem_flatten.mpr ⟨batch, by simp, event_mem_of_mem_numberFrom new⟩
    rw [accounted.places.mem_iff]
    simp only [mem_append]
    exact .inl (.inl (.inr in_hand))
  | delete _ deletion =>
    rw [deletion.frame.2.1, deletion.frame.2.2]
    exact committed

end

end Move

/-- The call writes a batch or puts one back. -/
def FlushCall.movesBatch : FlushCall → Bool
  | .append _ | .requeue => true
  | _ => false

variable {record : SpoolStore → History → History} {call : FlushCall} {action : Action}

namespace Machine

/-- A batch is written only when it is the oldest in hand and put back only when it is the
youngest. -/
def inTurn (agent : Machine) : Action → Bool
  | .flush index (.append true) =>
    agent.spool.store.isNone || ((agent.flushes.take index).filterMap Flush.batch).isEmpty
  | .flush index .requeue => ((agent.flushes.drop (index + 1)).filterMap Flush.batch).isEmpty
  | _ => true

section Frames

variable (agent : Machine) {index : Nat} {owner : FlushOwner} {ok : Bool} {flush : Option Flush}

theorem whole_of_open {store : SpoolStore} (found : agent.spool.store = some store) :
    agent.whole = agent.spool := by
  rw [whole, found]
  change { agent.spool with store := some store } = agent.spool
  rw [← found]

theorem batches_split {flush : Flush} (found : agent.flushes[index]? = some flush) :
    agent.batches = (agent.flushes.take index).filterMap Flush.batch ++ flush.batch.toList ++
      (agent.flushes.drop (index + 1)).filterMap Flush.batch := by
  obtain ⟨bound, rfl⟩ := List.getElem?_eq_some_iff.mp found
  have split : agent.flushes = agent.flushes.take index ++
      [agent.flushes[index]] ++ agent.flushes.drop (index + 1) := by
    rw [append_assoc, singleton_append, ← drop_eq_getElem_cons bound, take_append_drop]
  rw [batches]
  nth_rewrite 1 [split]
  rw [filterMap_append, filterMap_append]
  cases held : (agent.flushes[index]).batch <;> simp [held]

theorem setFlush_batches :
    (agent.setFlush index flush).batches = (agent.flushes.take index).filterMap Flush.batch ++
      (flush.bind Flush.batch).toList ++
        (agent.flushes.drop (index + 1)).filterMap Flush.batch := by
  rw [batches, setFlush, filterMap_append, filterMap_append]
  cases flush with
  | none => rfl
  | some flush => cases held : flush.batch <;> simp [held]

@[simp] theorem setFlush_whole : (agent.setFlush index flush).whole = agent.whole := rfl

@[simp] theorem flushReturned_whole : (agent.flushReturned owner ok).whole = agent.whole := by
  cases owner with
  | drain | close =>
    simp only [flushReturned]
    split <;> rfl
  | _ => rfl

@[simp] theorem flushReturned_batches : (agent.flushReturned owner ok).batches = agent.batches := by
  cases owner with
  | drain | close =>
    simp only [flushReturned]
    split <;> rfl
  | _ => rfl

@[simp] theorem endFlush_whole : (agent.endFlush index owner ok).whole = agent.whole := by
  rw [endFlush, flushReturned_whole, setFlush_whole]

theorem endFlush_batches :
    (agent.endFlush index owner ok).batches = (agent.flushes.take index).filterMap Flush.batch ++
        (agent.flushes.drop (index + 1)).filterMap Flush.batch := by
  rw [endFlush, flushReturned_batches, setFlush_batches]
  simp

theorem onHandle_whole {call : SpoolStore → SpoolStore} :
    (agent.onHandle (Spool.onStore call record)).whole = agent.whole.onStore call record := by
  cases found : agent.spool.store with
  | some store =>
    have opened : agent.spool.store.isSome := by rw [found]; rfl
    rw [onHandle, if_pos opened, agent.whole_of_open found]
    have opened_after : (agent.spool.onStore call record).store = some (call store) := by
      simp [found]
    exact whole_of_open _ opened_after
  | none =>
    have absent : ¬ agent.spool.store.isSome := by simp [found]
    rw [onHandle, if_neg absent]
    rfl

@[simp] theorem onHandle_flushes {call : Spool → Spool} :
    (agent.onHandle call).flushes = agent.flushes := by
  rw [onHandle]
  split <;> rfl

@[simp] theorem onHandle_batches (call : Spool → Spool) :
    (agent.onHandle call).batches = agent.batches := by
  rw [batches, onHandle_flushes]
  rfl

end Frames

abbrev Moves (codec : Codec) (turn : Prop) (before after : Machine) : Prop :=
  Move codec turn before.batches before.whole after.batches after.whole

theorem beginFlush_move (met : turn) {owner : FlushOwner} (agent : Machine) :
    Moves codec turn agent (agent.beginFlush owner).1 := by
  rcases agent.spool.takeBatch_cases with ⟨-, same⟩ | ⟨-, trimmed⟩ | ⟨nonempty, -, taken⟩
  · rw [beginFlush, same]
    exact Move.stay met
  · rw [beginFlush, trimmed]
    exact Move.trim met
  have move : Move codec turn agent.batches agent.whole (agent.batches ++ [agent.whole.buf])
      { agent.whole with buf := [], bufBytes := 0 } := Move.take met nonempty
  have shape : agent.batches ++ [agent.whole.buf] =
      (agent.flushes ++ [{ owner, pc := .append agent.spool.buf : Flush }]).filterMap
        Flush.batch := by
    simp [batches, Flush.batch, whole]
  rw [shape] at move
  rw [beginFlush, taken]
  exact move

/-- What the next call of a flush does. -/
inductive FlushStep (agent : Machine) (index : Nat) (owner : FlushOwner) :
    FlushPc → FlushCall → Machine → Prop
  | nilStore {batch ok} (absent : agent.spool.store = none) :
      FlushStep agent index owner (.append batch) (.append ok)
        { agent with faults := agent.faults ++ [.nilStore] }
  | stored {batch store} (opened : agent.spool.store = some store) :
      FlushStep agent index owner (.append batch) (.append true)
        ({ agent with spool := agent.spool.storeBatch batch }.setFlush index
          (some { owner, pc := .capture }))
  | refused {batch} (opened : agent.spool.store.isSome) :
      FlushStep agent index owner (.append batch) (.append false)
        (agent.setFlush index (some { owner, pc := .requeue batch }))
  | requeued {batch} : FlushStep agent index owner (.requeue batch) .requeue
      ({ agent with spool := agent.spool.requeue batch }.endFlush index owner false)
  | ended {pc call} (ok : Bool) (free : (Flush.mk owner pc).batch = none)
      (plain : call.movesBatch = false) :
      FlushStep agent index owner pc call (agent.endFlush index owner ok)
  | closed {pc call} (gone : agent.closed) (free : (Flush.mk owner pc).batch = none)
      (unwritten : pc ≠ .capture) (plain : call.movesBatch = false) :
      FlushStep agent index owner pc call (agent.fault.endFlush index owner false)
  | moved {pc call} (pc' : FlushPc) (free : (Flush.mk owner pc).batch = none)
      (free' : (Flush.mk owner pc').batch = none)
      (opened : pc = .capture → agent.spool.store.isSome)
      (plain : call.movesBatch = false) :
      FlushStep agent index owner pc call (agent.setFlush index (some { owner, pc := pc' }))
  | dropped {target outcome} (ok : Bool) (done : outcome ≠ .refused) :
      FlushStep agent index owner (.deleteOldest target) (.deleteOldest outcome)
        ((agent.onHandle (dropOldest target)).endFlush index owner ok)
  | reclaimed {target outcome} (n : Nat) (done : outcome ≠ .refused) :
      FlushStep agent index owner (.deleteOldest target) (.deleteOldest outcome)
        ((agent.onHandle (dropOldest target)).setFlush index
          (some { owner, pc := .addDropped n }))
  | counted {n} : FlushStep agent index owner (.addDropped n) (.addDropped true)
      ((agent.onHandle (countDropped n)).endFlush index owner true)

theorem flushStep_of_step {agent after : Machine} {index : Nat}
    (step : agent.stepFlush index call = some after) :
    ∃ owner pc, agent.flushes[index]? = some { owner, pc } ∧
      FlushStep agent index owner pc call after := by
  rw [stepFlush] at step
  cases found : agent.flushes[index]? with
  | none => simp [found] at step
  | some flush =>
    obtain ⟨owner, pc⟩ := flush
    refine ⟨owner, pc, rfl, ?_⟩
    simp only [found] at step
    cases pc <;> cases call <;> simp only [reduceCtorEq] at step
    case append.append batch ok =>
      cases opened : agent.spool.store with
      | none =>
        simp only [opened] at step
        cases step
        exact .nilStore opened
      | some =>
        simp only [opened] at step
        split at step <;> cases step
        · subst ok
          exact .stored opened
        next failed =>
          rw [Bool.not_eq_true] at failed
          subst failed
          exact .refused (by rw [opened]; rfl)
    case requeue.requeue =>
      cases step
      exact .requeued
    case capture.capture =>
      split at step <;> cases step
      · exact .ended true rfl rfl
      next bounded =>
        rw [not_or, isNone_iff_eq_none] at bounded
        exact .moved _ rfl rfl (fun _ => isSome_iff_ne_none.mpr bounded.2) rfl
    case sizeBytes.sizeBytes =>
      split at step
      · cases step
        exact .closed ‹_› rfl nofun rfl
      split at step
      · cases step
        exact .ended false rfl rfl
      · split at step <;> cases step
        · exact .ended true rfl rfl
        · exact .moved _ rfl rfl nofun rfl
    case deleteOldest.deleteOldest target outcome =>
      split at step
      · cases step
        exact .closed ‹_› rfl nofun rfl
      split at step
      · cases step
        exact .ended false rfl rfl
      rename_i done
      split at step
      · cases step
        exact .dropped true done
      · split at step <;> cases step
        · exact .dropped false done
        · exact .reclaimed _ done
    case addDropped.addDropped n ok =>
      split at step
      · cases step
        exact .closed ‹_› rfl nofun rfl
      split at step <;> cases step
      · subst ok
        exact .counted
      · exact .ended false rfl rfl

theorem inTurn_of_plain (agent : Machine) {index : Nat}
    (plain : call.movesBatch = false) : agent.inTurn (.flush index call) = true := by
  cases call with
  | append | requeue => cases plain
  | _ => rfl

theorem stepFlush_move {agent after : Machine} {index : Nat}
    (step : agent.stepFlush index call = some after) :
    Moves codec (agent.inTurn (.flush index call)) agent after := by
  obtain ⟨owner, pc, found, stepped⟩ := flushStep_of_step step
  have split := agent.batches_split found
  -- Apart from the append and the requeue the flush holds no batch, so removing it or moving
  -- it to another such point leaves the batches alone.
  have ended : ∀ (other : Machine) (ok : Bool), other.flushes = agent.flushes →
      (Flush.mk owner pc).batch = none →
      (other.endFlush index owner ok).batches = agent.batches := by
    intro other ok same held
    rw [endFlush_batches, same, split, held]
    simp
  have moved : ∀ (other : Machine) (pc' : FlushPc), other.flushes = agent.flushes →
      (Flush.mk owner pc).batch = none → (Flush.mk owner pc').batch = none →
      (other.setFlush index (some { owner, pc := pc' })).batches = agent.batches := by
    intro other pc' same held held'
    rw [setFlush_batches, same, split, held, bind_some, held']
  rw [Moves]
  cases stepped with
  | nilStore absent =>
    refine Move.stay ?_
    cases ‹Bool› <;> simp [inTurn, absent]
  | @stored batch store opened =>
    have stored : ({ agent with spool := agent.spool.storeBatch batch } : Machine).whole =
        agent.whole.storeBatch batch := by
      rw [agent.whole_of_open opened]
      have opened_after : (agent.spool.storeBatch batch).store = some (store.append batch) := by
        simp [storeBatch, opened]
      exact whole_of_open _ opened_after
    rw [setFlush_batches, setFlush_whole, split, stored]
    simp only [append_assoc]
    refine Move.store ?_ ?_
    · simp [inTurn, opened]
    · rw [agent.whole_of_open opened, opened]
      rfl
  | refused =>
    rw [setFlush_batches, split]
    exact Move.stay rfl
  | requeued =>
    rw [endFlush_batches, endFlush_whole, split]
    simp only [append_assoc]
    refine Move.requeue ?_
    simp [inTurn]
  | ended ok free plain =>
    rw [ended agent ok rfl free, endFlush_whole]
    exact Move.stay (agent.inTurn_of_plain plain)
  | closed _ free _ plain =>
    rw [ended agent.fault false rfl free, endFlush_whole]
    exact Move.stay (agent.inTurn_of_plain plain)
  | moved pc' free free' _ plain =>
    rw [moved agent pc' rfl free free']
    exact Move.stay (agent.inTurn_of_plain plain)
  | @dropped target outcome ok done =>
    rw [ended _ ok agent.onHandle_flushes rfl, endFlush_whole, dropOldest, agent.onHandle_whole]
    exact Move.delete rfl (.oldest _ target)
  | @reclaimed target outcome n done =>
    rw [moved _ (.addDropped n) agent.onHandle_flushes rfl rfl, setFlush_whole,
      dropOldest, agent.onHandle_whole]
    exact Move.delete rfl (.oldest _ target)
  | @counted n =>
    rw [ended _ true agent.onHandle_flushes rfl, endFlush_whole, countDropped, agent.onHandle_whole]
    exact Move.delete rfl (.counted _ n)

section Threads

variable {agent after : Machine}

section

variable {row : SpooledEvent} {event : AgentEvent} {rows : List SpooledEvent} {gen seq cursor : Nat}
  {attachedAt now : Int} {ok : Bool}

theorem stepSend_move (met : turn) :
    Moves codec turn agent (agent.stepSend codec event now ok) := by
  rw [stepSend]
  split
  · split <;> exact Move.stay met
  split
  · split <;> exact Move.idle met ⟨rfl, rfl, rfl, rfl⟩
  split
  · exact Move.stay met
  next pending found =>
    obtain ⟨payload, written, rfl⟩ := map_eq_some_iff.mp found
    exact Move.queue met _ rfl ⟨event, written⟩

theorem sameEvents_advance (moved : agent.spool.advance gen seq = some spool) :
    SameEvents agent.whole ({ agent with spool } : Machine).whole := by
  obtain ⟨-, ⟨⟩⟩ := ite_none_right_eq_some.mp moved
  exact ⟨rfl, rfl, rfl, rfl⟩

theorem stepRead_move (met : turn) :
    Moves codec turn agent (agent.stepRead ok cursor gen attachedAt) := by
  rw [stepRead]
  split
  · exact Move.stay met
  · split
    · split <;> exact Move.stay met
    · exact Move.stay met

theorem stepRow_move (met : turn) :
    Moves codec turn agent (agent.stepRow codec ok gen attachedAt rows) := by
  rw [stepRow.eq_def]
  split
  · exact Move.stay met
  split
  · exact Move.stay met
  split
  · split
    · exact Move.stay met
    next moved => exact Move.idle met (sameEvents_advance moved)
  · split <;> exact Move.stay met

theorem stepSendRow_move (met : turn) :
    Moves codec turn agent (agent.stepSendRow ok gen attachedAt row event rows) := by
  rw [stepSendRow]
  split <;> exact Move.stay met

theorem stepAcked_move (met : turn) : Moves codec turn agent (agent.stepAcked seq) := by
  rw [stepAcked]
  split
  · exact Move.stay met
  rename_i recorded
  obtain ⟨-, ⟨⟩⟩ := ite_none_left_eq_some.mp recorded
  split <;> exact Move.idle met ⟨rfl, rfl, rfl, rfl⟩

theorem delete_move (met : turn) {call : SpoolStore → SpoolStore}
    (deletion : Deletion agent.whole (agent.whole.onStore call record))
    (whole : after.whole = (agent.onHandle (onStore call record)).whole)
    (batches : after.batches = (agent.onHandle (onStore call record)).batches) :
    Moves codec turn agent after := by
  rw [Moves, whole, batches, onHandle_whole, onHandle_batches]
  exact Move.delete met deletion

theorem stepPurgeAcked_move (met : turn) :
    Moves codec turn agent (agent.stepPurgeAcked ok seq) := by
  rw [stepPurgeAcked]
  split
  · exact Move.stay met
  split
  · exact delete_move met (.acked _ seq) rfl rfl
  · exact Move.stay met

theorem stepExpire_move (met : turn) : Moves codec turn agent (agent.stepExpire now ok) := by
  rw [stepExpire]
  split
  · exact Move.stay met
  split
  · exact delete_move met (.expired _ (unix (now - agent.spool.cfg.maxAge))) rfl rfl
  · exact Move.stay met

end

/-- What one step of the threads does. -/
inductive Stepped (codec : Codec) (agent : Machine) : Action → Machine → Prop
  | send {event now delivered} (unnumbered : event.seq = 0) :
      Stepped codec agent (.send event now delivered) (agent.stepSend codec event now delivered)
  | resendSnapshot {kind delivered} (event : AgentEvent) (unnumbered : event.seq = 0) :
      Stepped codec agent (.resendSnapshot kind delivered) (agent.put event)
  | sendFlush : Stepped codec agent .sendFlush
      ({ agent with senders := agent.senders - 1 }.beginFlush .send).1
  | loopFlush : Stepped codec agent .loopFlush (agent.beginFlush .flushLoop).1
  | flush {index call after} (step : agent.stepFlush index call = some after) :
      Stepped codec agent (.flush index call) after
  | expireStart (opened : agent.spool.store.isSome) :
      Stepped codec agent .expireStart { agent with expiring := true }
  | expireDelete {now ok} (expiring : agent.expiring) :
      Stepped codec agent (.expireDelete now ok) (agent.stepExpire now ok)
  | attach {now} (detached : agent.drain = .off) :
      Stepped codec agent (.attach now)
        { agent with
          spool := agent.spool.bindSink now, drain := .attaching, wire := [], lastSent := 0 }
  | attachRewind (bound : agent.drain = .attaching) :
      Stepped codec agent .attachRewind
        { agent with spool := agent.spool.rewind, drain := .waiting }
  | drainStart (waiting : agent.drain = .waiting) :
      Stepped codec agent .drainStart
        { (agent.beginFlush .drain).1 with
          drain := if (agent.beginFlush .drain).2 then .flushing else .looping }
  | drainWait {now} (looping : agent.drain = .looping) :
      Stepped codec agent (.drainCapture now) { agent with drain := .waiting }
  | drainCapture {now} (looping : agent.drain = .looping) (opened : agent.spool.store.isSome) :
      Stepped codec agent (.drainCapture now)
        { agent with
          drain := .reading agent.spool.sendSeq agent.spool.generation agent.spool.attachedAt }
  | drainRead {ok cursor gen attachedAt} (reading : agent.drain = .reading cursor gen attachedAt) :
      Stepped codec agent (.drainRead ok) (agent.stepRead ok cursor gen attachedAt)
  | drainRow {live gen attachedAt rows} (page : agent.drain = .page gen attachedAt rows) :
      Stepped codec agent (.drainRow live) (agent.stepRow codec live gen attachedAt rows)
  | drainSend {ok gen attachedAt row event rest}
      (sending : agent.drain = .sending gen attachedAt row event rest) :
      Stepped codec agent (.drainSend ok) (agent.stepSendRow ok gen attachedAt row event rest)
  | drainRewound {gen attachedAt row rest}
      (advancing : agent.drain = .advancing gen attachedAt row rest) :
      Stepped codec agent .drainAdvance { agent with drain := .looping }
  | drainAdvance {gen attachedAt row rest spool}
      (advancing : agent.drain = .advancing gen attachedAt row rest)
      (moved : agent.spool.advance gen row.seq = some spool) :
      Stepped codec agent .drainAdvance { agent with spool, drain := .page gen attachedAt rest }
  | detach : Stepped codec agent .detach { agent with spool := agent.spool.detach, drain := .off }
  | acked {seq} (idle : agent.recv = .idle) : Stepped codec agent (.acked seq) (agent.stepAcked seq)
  | purgeAcked {ok seq} (purging : agent.recv = .purging seq) :
      Stepped codec agent (.purgeAcked ok) (agent.stepPurgeAcked ok seq)
  | rateLimited {retryAfter now} :
      Stepped codec agent (.rateLimited retryAfter now)
        { agent with spool := agent.spool.rateLimited retryAfter now }
  | rewind : Stepped codec agent .rewind { agent with spool := agent.spool.rewind }
  | closeStart (running : agent.closing = .running) :
      Stepped codec agent .closeStart
        { agent with closing := .started agent.spool.history.accepted.length }
  | closeFlush {before} (started : agent.closing = .started before) :
      Stepped codec agent .closeFlush
        { (agent.beginFlush .close).1 with
          closing := if (agent.beginFlush .close).2 then .flushing before else .flushed before }
  | closeRelease {before} (flushed : agent.closing = .flushed before) :
      Stepped codec agent .closeRelease
        { agent with
          spool := { agent.spool with store := none }
          released := agent.whole.store
          closing := .released before }
  | closeDatabase {before} (released : agent.closing = .released before) :
      Stepped codec agent .closeDatabase { agent with closing := .returned before }

theorem stepped_of_next (step : agent.next codec action = some after) :
    Stepped codec agent action after := by
  obtain ⟨-, step⟩ := ite_none_left_eq_some.mp step
  cases action with
  | flush => exact .flush step
  | resendSnapshot =>
    simp only at step
    split at step
    · cases step
    · obtain ⟨⟨unnumbered, -⟩, ⟨⟩⟩ := ite_none_right_eq_some.mp step
      exact .resendSnapshot _ unnumbered
  | expireStart =>
    obtain ⟨allowed, ⟨⟩⟩ := ite_none_left_eq_some.mp step
    simp only [not_or, isNone_iff_eq_none] at allowed
    exact .expireStart (isSome_iff_ne_none.mpr allowed.2.2)
  | drainCapture =>
    simp only at step
    split at step
    · split at step <;> cases step
      · exact .drainWait ‹_›
      next allowed =>
        simp only [not_or, isNone_iff_eq_none] at allowed
        exact .drainCapture ‹_› (isSome_iff_ne_none.mpr allowed.2.1)
    · cases step
  | drainAdvance =>
    simp only at step
    split at step
    · split at step <;> cases step
      · exact .drainRewound ‹_›
      · exact .drainAdvance ‹_› ‹_›
    · cases step
  | drainStart =>
    simp only at step
    split at step
    · obtain ⟨-, ⟨⟩⟩ := ite_none_right_eq_some.mp step
      exact .drainStart ‹_›
    · cases step
  | closeFlush =>
    simp only at step
    split at step <;> cases step
    exact .closeFlush ‹_›
  | _ =>
    simp only at step
    repeat' split at step
    all_goals cases step
    all_goals constructor <;> assumption

theorem next_move (step : agent.next codec action = some after) :
    Moves codec (agent.inTurn action) agent after := by
  cases stepped_of_next step with
  | send => exact stepSend_move rfl
  | sendFlush => exact beginFlush_move rfl { agent with senders := agent.senders - 1 }
  | loopFlush => exact beginFlush_move rfl agent
  | flush step => exact stepFlush_move step
  | expireDelete => exact stepExpire_move rfl
  | drainStart => exact beginFlush_move rfl agent
  | drainRead => exact stepRead_move rfl
  | drainRow => exact stepRow_move rfl
  | drainSend => exact stepSendRow_move rfl
  | drainAdvance _ moved => exact Move.idle rfl (sameEvents_advance moved)
  | acked => exact stepAcked_move rfl
  | purgeAcked => exact stepPurgeAcked_move rfl
  | closeFlush => exact beginFlush_move rfl agent
  | _ => exact Move.idle rfl ⟨rfl, rfl, rfl, rfl⟩

end Threads

end Machine

end Maintenant.Agent
