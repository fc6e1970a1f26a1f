import Maintenant.Agent.Refinement

/-!
# Closing the spool

`Close` flushes what is buffered, sets the store field to nil and closes the database, while the
flush loop and the drain may be anywhere.  Nothing accepted before is lost and no thread meets a
missing store as long as, at the release, no thread is between taking the store or a batch and being
done with it.  `Close` does not wait for that.
-/

namespace Maintenant.Agent

open Spool List Option Execution

/-- The batch of this flush could not be written. -/
def Flush.requeues (flush : Flush) : Bool :=
  match flush.pc with
  | .requeue _ => true
  | _ => false

/-- The batch is written and the store not yet captured again. -/
def Flush.written (flush : Flush) : Bool := decide (flush.pc = .capture)

/-- The drain captured the store and has not read from it yet. -/
def DrainPc.holdsStore : DrainPc → Bool
  | .reading _ _ _ => true
  | _ => false

theorem Accounted.ticket_lt_of_take {flight : List PendingEvent} {spool : Spool}
    (accounted : Accounted flight spool) {count : Nat} {event : PendingEvent}
    (mem : event ∈ spool.history.accepted.take count) : event.ticket < count := by
  have mapped := mem_map_of_mem (f := PendingEvent.ticket) mem
  rw [map_take, accounted.tickets, take_range] at mapped
  have := mem_range.mp mapped
  omega

variable {ok : Bool} {index : Nat} {event : AgentEvent} {now : Int}

namespace Machine

/-- A purge, the receive loop or the drain is between capturing the store and calling it. -/
def storeInHand (agent : Machine) : Bool :=
  agent.expiring || decide (agent.recv ≠ .idle) || agent.drain.holdsStore

/-- Batches are written, and the store is released only when no thread holds it or a batch. -/
def releasesQuietly (agent : Machine) : Action → Bool
  | .flush _ (.append ok) => ok
  | .closeRelease => agent.flushes.all Flush.written && !agent.storeInHand
  | _ => true

/-- Events accepted before `Close` began have left the buffer. -/
def Flushed (agent : Machine) (before : Nat) : Prop :=
  before ≤ agent.spool.history.accepted.length ∧ ∀ event ∈ agent.spool.buf, before ≤ event.ticket

/-- The store is released, and nobody uses it. -/
def Idle (agent : Machine) : Prop :=
  agent.spool.store = none ∧ (∀ flush ∈ agent.flushes, flush.written) ∧ agent.storeInHand = false

/-- What holds at each point of `Close`. -/
def Phase (agent : Machine) : ClosePc → Prop
  | .running => agent.spool.store.isSome
  | .started before => agent.spool.store.isSome ∧ before ≤ agent.spool.history.accepted.length
  | .flushing before => agent.spool.store.isSome ∧ agent.Flushed before
  | .flushed before => agent.spool.store.isSome ∧ agent.Flushed before
  | .released before => agent.Idle ∧ agent.Flushed before
  | .returned before => agent.Idle ∧ agent.Flushed before

/-- No missing store was met, no write failed, and `Close` is where it should be. -/
structure Orderly (agent : Machine) : Prop where
  faults : agent.faults = []
  writes : ∀ flush ∈ agent.flushes, flush.requeues = false
  phase : agent.Phase agent.closing

/-- A step that `Close` need not notice. -/
structure Quiet (before after : Machine) : Prop where
  faults : after.faults = before.faults
  closing : after.closing = before.closing
  opened : after.spool.store.isSome = before.spool.store.isSome
  flushes : ∀ flush ∈ after.flushes, flush ∈ before.flushes ∨
    before.spool.store.isSome ∧ flush.requeues = false
  hands : after.storeInHand → before.storeInHand ∨ before.spool.store.isSome
  accepted : before.spool.history.accepted.length ≤ after.spool.history.accepted.length
  buf : ∀ event ∈ after.spool.buf, event ∈ before.spool.buf ∨
    before.spool.history.accepted.length ≤ event.ticket

variable {codec : Codec} {agent after : Machine}

variable {before : Nat}

theorem Quiet.flushed (quiet : Quiet agent after) (flushed : agent.Flushed before) :
    after.Flushed before := by
  refine ⟨Nat.le_trans flushed.1 quiet.accepted, ?_⟩
  intro event mem
  rcases quiet.buf event mem with old | new
  · exact flushed.2 event old
  · exact Nat.le_trans flushed.1 new

theorem Quiet.idle (quiet : Quiet agent after) (idle : agent.Idle) : after.Idle := by
  obtain ⟨gone, written, free⟩ := idle
  have closed_before : agent.spool.store.isSome = false := by rw [gone]; rfl
  refine ⟨?_, ?_, ?_⟩
  · rw [← isNone_iff_eq_none, ← not_isSome, quiet.opened, closed_before]
    rfl
  · intro flush mem
    rcases quiet.flushes flush mem with old | ⟨opened, -⟩
    · exact written flush old
    · rw [closed_before] at opened
      cases opened
  · by_contra busy
    rcases quiet.hands (by simpa using busy) with held | opened
    · rw [free] at held
      cases held
    · rw [closed_before] at opened
      cases opened

theorem Quiet.orderly (quiet : Quiet agent after) (orderly : agent.Orderly) : after.Orderly where
  faults := quiet.faults.trans orderly.faults
  writes := by
    intro flush mem
    rcases quiet.flushes flush mem with old | ⟨-, written⟩
    · exact orderly.writes flush old
    · exact written
  phase := by
    have phase := orderly.phase
    rw [quiet.closing]
    generalize agent.closing = point at phase ⊢
    cases point with
    | running => exact quiet.opened.trans phase
    | started => exact ⟨quiet.opened.trans phase.1, Nat.le_trans phase.2 quiet.accepted⟩
    | flushing | flushed => exact ⟨quiet.opened.trans phase.1, quiet.flushed phase.2⟩
    | released | returned => exact ⟨quiet.idle phase.1, quiet.flushed phase.2⟩

theorem Orderly.open_of_busy (orderly : agent.Orderly)
    (busy : (∃ flush ∈ agent.flushes, flush.written = false) ∨ agent.storeInHand) :
    agent.spool.store.isSome ∧ agent.closed = false := by
  have phase := orderly.phase
  have not_idle : ¬ agent.Idle := by
    rintro ⟨-, written, free⟩
    rcases busy with ⟨flush, mem, unwritten⟩ | held
    · rw [written flush mem] at unwritten
      cases unwritten
    · rw [free] at held
      cases held
  rw [closed]
  generalize agent.closing = point at phase ⊢
  cases point with
  | running => exact ⟨phase, rfl⟩
  | started | flushing | flushed => exact ⟨phase.1, rfl⟩
  | released | returned => exact absurd phase.1 not_idle

theorem Quiet.of_frame (faults : after.faults = agent.faults)
    (closing : after.closing = agent.closing)
    (opened : after.spool.store.isSome = agent.spool.store.isSome)
    (flushes : after.flushes = agent.flushes)
    (hands : after.storeInHand → agent.storeInHand ∨ agent.spool.store.isSome)
    (accepted : after.spool.history.accepted = agent.spool.history.accepted)
    (buf : after.spool.buf = agent.spool.buf) : Quiet agent after where
  faults := faults
  closing := closing
  opened := opened
  flushes := by
    rw [flushes]
    exact fun _ => .inl
  hands := hands
  accepted := by rw [accepted]
  buf := by
    rw [buf]
    exact fun _ => .inl

variable {spool : Spool}

theorem Quiet.of_spool (opened : spool.store.isSome = agent.spool.store.isSome)
    (accepted : spool.history.accepted = agent.spool.history.accepted)
    (buf : spool.buf = agent.spool.buf) : Quiet agent { agent with spool } :=
  Quiet.of_frame rfl rfl opened rfl .inl accepted buf

variable {pc : DrainPc}

theorem Orderly.drained (orderly : agent.Orderly)
    (free : pc.holdsStore = false ∨ agent.spool.store.isSome) :
    ({ agent with drain := pc } : Machine).Orderly := by
  refine Quiet.orderly ?_ orderly
  refine Quiet.of_frame rfl rfl rfl rfl ?_ rfl rfl
  intro held
  rcases free with free | opened
  · left
    simp only [storeInHand, free, Bool.or_false, Bool.or_eq_true] at held ⊢
    exact .inl held
  · exact .inr opened

theorem beginFlush_quiet (owner : FlushOwner) (agent : Machine) :
    Quiet agent (agent.beginFlush owner).1 := by
  rcases agent.spool.takeBatch_cases with ⟨-, same⟩ | ⟨-, trimmed⟩ | ⟨-, opened, taken⟩
  · rw [beginFlush, same]
    exact Quiet.of_frame rfl rfl rfl rfl .inl rfl rfl
  · obtain ⟨split, -⟩ :=
      trimLoop_spec agent.spool.cfg.maxMemoryBytes agent.spool.bufBytes agent.spool.buf
    rw [beginFlush, trimmed]
    refine ⟨rfl, rfl, rfl, fun _ => .inl, .inl, le_rfl, ?_⟩
    intro event mem
    left
    rw [← split]
    exact mem_append_right _ mem
  · rw [beginFlush, taken]
    refine ⟨rfl, rfl, rfl, ?_, .inl, le_rfl, ?_⟩
    · intro flush mem
      rcases mem_snoc.mp mem with old | rfl
      · exact .inl old
      · exact .inr ⟨opened, rfl⟩
    · intro event mem
      cases mem

variable {call : SpoolStore → SpoolStore} {record : SpoolStore → History → History}

theorem onHandle_quiet (opened : agent.spool.store.isSome)
    (same : ∀ store history, (record store history).accepted = history.accepted) :
    Quiet agent (agent.onHandle (onStore call record)) := by
  obtain ⟨store, found⟩ := isSome_iff_exists.mp opened
  rw [onHandle, if_pos opened, onStore_some _ _ _ found]
  refine Quiet.of_frame rfl rfl ?_ rfl .inl (same store _) rfl
  rw [opened]
  rfl

theorem setFlush_quiet {flush : Flush}
    (opened : agent.spool.store.isSome) (written : flush.requeues = false) :
    Quiet agent (agent.setFlush index (some flush)) := by
  refine ⟨rfl, rfl, rfl, ?_, .inl, le_rfl, fun _ => .inl⟩
  intro other mem
  simp only [setFlush, toList_some, mem_append, mem_singleton] at mem
  rcases mem with (early | rfl) | late
  · exact .inl (mem_of_mem_take early)
  · exact .inr ⟨opened, written⟩
  · exact .inl (mem_of_mem_drop late)

/-- When a flush returns, `Close` may go on. -/
theorem Orderly.endFlush (orderly : agent.Orderly) {owner : FlushOwner} :
    (agent.endFlush index owner ok).Orderly := by
  have removed : Quiet agent (agent.setFlush index none) := by
    refine ⟨rfl, rfl, rfl, ?_, .inl, le_rfl, fun _ => .inl⟩
    intro other mem
    simp only [setFlush, toList_none, append_nil, mem_append] at mem
    rcases mem with early | late
    · exact .inl (mem_of_mem_take early)
    · exact .inl (mem_of_mem_drop late)
  have without := removed.orderly orderly
  rw [Machine.endFlush]
  cases owner with
  | send | flushLoop => exact without
  | drain =>
    simp only [flushReturned]
    split
    · refine without.drained (.inl ?_)
      cases ok <;> rfl
    · exact without
  | close =>
    simp only [flushReturned]
    split
    next before flushing =>
      have phase := without.phase
      rw [flushing] at phase
      exact ⟨without.faults, without.writes, phase⟩
    · exact without

theorem Orderly.stepFlush (orderly : agent.Orderly) {call : FlushCall}
    (quietly : agent.releasesQuietly (.flush index call))
    (step : agent.stepFlush index call = some after) : after.Orderly := by
  obtain ⟨owner, pc, found, stepped⟩ := flushStep_of_step step
  have mem : ({ owner, pc } : Flush) ∈ agent.flushes := mem_of_getElem? found
  have busy : pc ≠ .capture → agent.spool.store.isSome ∧ agent.closed = false :=
    fun unwritten => orderly.open_of_busy (.inl ⟨_, mem, decide_eq_false unwritten⟩)
  cases stepped with
  | nilStore absent =>
    obtain ⟨opened, -⟩ := busy (by simp)
    rw [absent] at opened
    cases opened
  | @stored batch store here =>
    obtain ⟨opened, -⟩ := busy (by simp)
    have stored : Quiet agent { agent with spool := agent.spool.storeBatch batch } := by
      rw [storeBatch, onStore_some _ _ _ here]
      refine Quiet.of_frame rfl rfl ?_ rfl .inl rfl rfl
      rw [opened]
      rfl
    have stored_open := stored.opened.trans opened
    exact (setFlush_quiet stored_open rfl).orderly (stored.orderly orderly)
  | refused => cases quietly
  | requeued => cases orderly.writes _ mem
  | ended => exact orderly.endFlush
  | closed gone _ unwritten =>
    rw [(busy unwritten).2] at gone
    cases gone
  | moved pc' _ free' here =>
    have opened : agent.spool.store.isSome := by
      by_cases captured : pc = .capture
      · exact here captured
      · exact (busy captured).1
    refine (setFlush_quiet opened ?_).orderly orderly
    cases pc' with
    | requeue => cases free'
    | _ => rfl
  | @dropped target outcome ok =>
    have dropped : Quiet agent (agent.onHandle (dropOldest target)) :=
      onHandle_quiet (busy (by simp)).1 fun _ _ => rfl
    exact (dropped.orderly orderly).endFlush
  | @reclaimed target outcome n =>
    have dropped : Quiet agent (agent.onHandle (dropOldest target)) :=
      onHandle_quiet (busy (by simp)).1 fun _ _ => rfl
    have dropped_open := dropped.opened.trans (busy (by simp)).1
    exact (setFlush_quiet dropped_open rfl).orderly (dropped.orderly orderly)
  | @counted n =>
    have counted : Quiet agent (agent.onHandle (countDropped n)) :=
      onHandle_quiet (busy (by simp)).1 fun _ _ => rfl
    exact (counted.orderly orderly).endFlush

theorem stepSend_quiet {delivered : Bool} :
    Quiet agent (agent.stepSend codec event now delivered) := by
  have same : Quiet agent agent := Quiet.of_spool rfl rfl rfl
  rw [stepSend]
  split
  · split
    · exact Quiet.of_frame rfl rfl rfl rfl .inl rfl rfl
    · exact same
  split
  · split <;> exact Quiet.of_frame rfl rfl rfl rfl .inl rfl rfl
  split
  · exact same
  rename_i pending made
  obtain ⟨payload, -, rfl⟩ := map_eq_some_iff.mp made
  refine ⟨rfl, rfl, rfl, fun _ => .inl, .inl, ?_, ?_⟩
  · simp [enqueue]
  intro other mem
  rcases mem_snoc.mp mem with old | rfl
  · exact .inl old
  · exact .inr (le_rfl)

variable {seq : Nat} {attachedAt : Int} {gen : Nat}

section

variable (orderly : agent.Orderly)
include orderly

theorem Orderly.advance
    (moved : agent.spool.advance gen seq = some spool) (free : pc.holdsStore = false) :
    ({ agent with spool, drain := pc } : Machine).Orderly := by
  obtain ⟨-, rfl⟩ := advance_eq moved
  have advanced : Quiet agent { agent with spool := { agent.spool with sendSeq := seq } } :=
    Quiet.of_spool rfl rfl rfl
  exact (advanced.orderly orderly).drained (.inl free)

theorem Orderly.stepRow {live : Bool} {rows : List SpooledEvent} :
    (agent.stepRow codec live gen attachedAt rows).Orderly := by
  rw [stepRow.eq_def]
  cases rows with
  | nil => exact orderly.drained (.inl rfl)
  | cons =>
    simp only
    split
    · exact orderly.drained (.inl rfl)
    split
    · split
      · exact orderly.drained (.inl rfl)
      · rename_i moved
        exact orderly.advance moved rfl
    · split
      · exact orderly.drained (.inl rfl)
      · exact orderly.drained (.inl rfl)

theorem Orderly.stepRead {cursor : Nat} (reading : agent.drain = .reading cursor gen attachedAt) :
    (agent.stepRead ok cursor gen attachedAt).Orderly := by
  have held : agent.storeInHand := by simp [storeInHand, reading, DrainPc.holdsStore]
  obtain ⟨-, live⟩ := orderly.open_of_busy (.inr held)
  rw [Machine.stepRead, live]
  simp only [Bool.false_eq_true, if_false]
  split
  · split <;> exact orderly.drained (.inl rfl)
  · exact orderly.drained (.inl rfl)

theorem Orderly.stepSendRow {row : SpooledEvent} {rest : List SpooledEvent} :
    (agent.stepSendRow ok gen attachedAt row event rest).Orderly := by
  rw [Machine.stepSendRow]
  split
  · have sent : Quiet agent { agent.put (wireEvent attachedAt row event) with
          lastSent := row.seq
          firsts := if row ∈ agent.firsts then agent.firsts else agent.firsts ++ [row] } :=
      Quiet.of_frame rfl rfl rfl rfl .inl rfl rfl
    exact (sent.orderly orderly).drained (.inl rfl)
  · exact orderly.drained (.inl rfl)

end

theorem stepAcked_quiet (seq : Nat) : Quiet agent (agent.stepAcked seq) := by
  rw [stepAcked]
  split
  · exact Quiet.of_spool rfl rfl rfl
  rename_i spool recorded
  obtain ⟨-, ⟨⟩⟩ := ite_none_left_eq_some.mp recorded
  split
  · exact Quiet.of_spool rfl rfl rfl
  next present =>
    refine Quiet.of_frame rfl rfl rfl rfl (fun _ => .inr ?_) rfl rfl
    simpa [isSome_iff_ne_none] using present

section

variable (orderly : agent.Orderly)
include orderly

/-- The deletion an acknowledgement or the retention window asked for, done by a thread that held
the store, which lets go of it. -/
theorem Orderly.purged (held : agent.storeInHand) {expiring : Bool}
    {recv : RecvPc} (same : ∀ store history, (record store history).accepted = history.accepted) :
    ({ agent.onHandle (onStore call record) with expiring, recv } : Machine).Orderly := by
  obtain ⟨opened, -⟩ := orderly.open_of_busy (.inr held)
  have deleted : Quiet agent (agent.onHandle (onStore call record)) :=
    onHandle_quiet opened same
  have still := deleted.opened.trans opened
  have freed : Quiet (agent.onHandle (onStore call record))
      { agent.onHandle (onStore call record) with expiring, recv } :=
    Quiet.of_frame rfl rfl rfl rfl (fun _ => .inr still) rfl rfl
  exact freed.orderly (deleted.orderly orderly)

theorem Orderly.stepPurgeAcked
    (purging : agent.recv = .purging seq) : (agent.stepPurgeAcked ok seq).Orderly := by
  have held : agent.storeInHand := by simp [storeInHand, purging]
  obtain ⟨opened, live⟩ := orderly.open_of_busy (.inr held)
  rw [Machine.stepPurgeAcked, live]
  simp only [Bool.false_eq_true, if_false]
  split
  · exact orderly.purged held fun _ _ => rfl
  · have freed : Quiet agent { agent with recv := .idle } :=
      Quiet.of_frame rfl rfl rfl rfl (fun _ => .inr opened) rfl rfl
    exact freed.orderly orderly

theorem Orderly.stepExpire (expiring : agent.expiring) : (agent.stepExpire now ok).Orderly := by
  have held : agent.storeInHand := by simp [storeInHand, expiring]
  obtain ⟨opened, live⟩ := orderly.open_of_busy (.inr held)
  rw [Machine.stepExpire, live]
  simp only [Bool.false_eq_true, if_false]
  split
  · exact orderly.purged held fun _ _ => rfl
  · have freed : Quiet agent { agent with expiring := false } :=
      Quiet.of_frame rfl rfl rfl rfl (fun _ => .inr opened) rfl rfl
    exact freed.orderly orderly

/-- `Close` flushes: what was accepted before leaves the buffer. -/
theorem Orderly.closeFlush (started : agent.closing = .started before) :
    ({ (agent.beginFlush .close).1 with
      closing := if (agent.beginFlush .close).2 then .flushing before else .flushed before }
      : Machine).Orderly := by
  have begun := agent.beginFlush_quiet .close
  have phase := orderly.phase
  rw [started] at phase
  obtain ⟨opened, below⟩ := phase
  have kept := begun.orderly orderly
  have emptied : (agent.beginFlush .close).1.spool.buf = [] := by
    rcases agent.spool.takeBatch_cases with ⟨empty, same⟩ | ⟨absent, -⟩ | ⟨-, -, same⟩
    · rw [beginFlush, same]
      exact empty
    · rw [absent] at opened
      cases opened
    · rw [beginFlush, same]
  have flushed : (agent.beginFlush .close).1.Flushed before := by
    refine ⟨Nat.le_trans below begun.accepted, ?_⟩
    rw [emptied]
    intro event mem
    cases mem
  have still := begun.opened.trans opened
  refine ⟨kept.faults, kept.writes, ?_⟩
  cases (agent.beginFlush .close).2 with
  | true | false => exact ⟨still, flushed⟩

theorem Orderly.next {action : Action}
    (quietly : agent.releasesQuietly action) (step : agent.next codec action = some after) :
    after.Orderly := by
  cases stepped_of_next step with
  | send => exact stepSend_quiet.orderly orderly
  | resendSnapshot event =>
    have put : Quiet agent (agent.put event) := Quiet.of_frame rfl rfl rfl rfl .inl rfl rfl
    exact put.orderly orderly
  | sendFlush =>
    have taken : Quiet agent { agent with senders := agent.senders - 1 } :=
      Quiet.of_frame rfl rfl rfl rfl .inl rfl rfl
    exact (beginFlush_quiet .send _).orderly (taken.orderly orderly)
  | loopFlush => exact (beginFlush_quiet .flushLoop agent).orderly orderly
  | flush step => exact orderly.stepFlush quietly step
  | expireStart opened =>
    have expiring : Quiet agent { agent with expiring := true } :=
      Quiet.of_frame rfl rfl rfl rfl (fun _ => .inr opened) rfl rfl
    exact expiring.orderly orderly
  | expireDelete expiring => exact orderly.stepExpire expiring
  | attach detached =>
    refine Quiet.orderly ?_ orderly
    refine Quiet.of_frame rfl rfl rfl rfl ?_ rfl rfl
    intro held
    left
    simpa [storeInHand, detached, DrainPc.holdsStore] using held
  | attachRewind =>
    have rewound : Quiet agent { agent with spool := agent.spool.rewind } :=
      Quiet.of_spool rfl rfl rfl
    exact (rewound.orderly orderly).drained (.inl rfl)
  | drainStart =>
    have begun := (beginFlush_quiet .drain agent).orderly orderly
    refine begun.drained (.inl ?_)
    split <;> rfl
  | drainWait | drainRewound => exact orderly.drained (.inl rfl)
  | drainCapture _ opened => exact orderly.drained (.inr opened)
  | drainRead reading => exact orderly.stepRead reading
  | drainRow => exact orderly.stepRow
  | drainSend => exact orderly.stepSendRow
  | drainAdvance _ moved => exact orderly.advance moved rfl
  | detach =>
    have unbound : Quiet agent { agent with spool := agent.spool.detach } :=
      Quiet.of_spool rfl rfl rfl
    exact (unbound.orderly orderly).drained (.inl rfl)
  | acked => exact (agent.stepAcked_quiet _).orderly orderly
  | purgeAcked purging => exact orderly.stepPurgeAcked purging
  | rateLimited | rewind => exact Quiet.orderly (Quiet.of_spool rfl rfl rfl) orderly
  | closeStart running =>
    have phase := orderly.phase
    rw [running] at phase
    exact ⟨orderly.faults, orderly.writes, phase, le_rfl⟩
  | closeFlush started => exact orderly.closeFlush started
  | closeRelease flushed =>
    have phase := orderly.phase
    rw [flushed] at phase
    simp only [releasesQuietly, Bool.and_eq_true, List.all_eq_true, Bool.not_eq_true'] at quietly
    exact ⟨orderly.faults, orderly.writes, ⟨rfl, quietly.1, quietly.2⟩, phase.2⟩
  | closeDatabase released =>
    have phase := orderly.phase
    rw [released] at phase
    exact ⟨orderly.faults, orderly.writes, phase⟩

end

theorem init_orderly {cfg : SpoolConfig} (enabled : cfg.enabled) : (init cfg true).Orderly where
  faults := rfl
  writes := by
    intro flush mem
    cases mem
  phase := by
    simp only [init, newSpool, enabled]
    rfl

/-- Events in the database that `Close` closed. -/
def keptEvents (agent : Machine) : List PendingEvent :=
  (agent.released.elim [] SpoolStore.rows).map SpooledEvent.event

/-- No thread met a missing store, and an event accepted before a `Close` that has returned is in
the database, was acknowledged, dropped or expired. -/
def LosesNothing (agent : Machine) : Prop :=
  agent.faults = [] ∧ ∀ before, agent.closing = .returned before →
    ∀ event ∈ agent.spool.history.accepted.take before,
      event ∈ agent.keptEvents ∨ event ∈ agent.spool.history.removed

theorem Orderly.losesNothing (orderly : agent.Orderly) (sound : Sound codec agent) :
    agent.LosesNothing := by
  refine ⟨orderly.faults, ?_⟩
  intro before returned event mem
  have phase := orderly.phase
  rw [returned] at phase
  obtain ⟨⟨gone, written, -⟩, -, later⟩ := phase
  have early : event.ticket < before := sound.accounted.ticket_lt_of_take mem
  have none_in_hand : agent.batches = [] := by
    rw [batches, filterMap_eq_nil_iff]
    intro flush in_list
    have := written flush in_list
    simp only [Flush.written, decide_eq_true_eq] at this
    rw [Flush.batch, this]
  have kept : agent.whole.storedEvents = agent.keptEvents := by
    rw [whole, gone]
    rfl
  have somewhere := sound.accounted.places.mem_iff.mp (mem_of_mem_take mem)
  rw [none_in_hand, kept] at somewhere
  simp only [flatten_nil, append_nil, mem_append] at somewhere
  rcases somewhere with (buffered | stored) | removed
  · have := later event buffered
    omega
  · exact .inl stored
  · exact .inr removed

/-- In every interleaving in which no write fails and the store is released while no thread holds
it or a batch, closing the spool loses nothing. -/
theorem close_loses_nothing (codec : Codec) (cfg : SpoolConfig) (enabled : cfg.enabled)
    (actions : List Action)
    (quietly : Guarded (next codec) (fun agent action => agent.releasesQuietly action)
      (init cfg true) actions) : Always (next codec) LosesNothing (init cfg true) actions := by
  refine always_of_guarded (fun agent => Sound codec agent ∧ agent.Orderly) ?_ ?_ ?_ quietly
  · rintro before after action ⟨sound, orderly⟩ allowed step
    exact ⟨sound.next step, orderly.next allowed step⟩
  · rintro agent ⟨sound, orderly⟩
    exact orderly.losesNothing sound
  · exact ⟨Sound.init, init_orderly enabled⟩

/-- The flush loop has taken a batch when `Close` runs from start to end. -/
def closeDuringFlush : List Action :=
  [.send (containerEvent "e1") 0 true, .loopFlush, .closeStart, .closeFlush, .closeRelease,
    .closeDatabase]

/-- `Close` waits until the batch is written. -/
def closeAfterFlush : List Action :=
  [.send (containerEvent "e1") 0 true, .loopFlush, .closeStart, .closeFlush,
    .flush 0 (.append true), .closeRelease, .flush 0 .capture, .closeDatabase]

/-- The batch in the hands of the flush loop is in no place when `Close` returns, and the write that
follows dereferences the nil store. -/
theorem close_during_flush_loses :
    (∃ final, run (next oneEvent) (init roomyConfig true) closeDuringFlush = some final ∧
      ¬ final.LosesNothing) ∧ (run (next oneEvent) (init roomyConfig true)
      (closeDuringFlush ++ [.flush 0 (.append true)])).map Machine.faults = some [.nilStore] := by
  refine ⟨?_, by decide⟩
  have reached : ((run (next oneEvent) (init roomyConfig true) closeDuringFlush).map
      fun final => (final.closing, final.spool.history.accepted.length, final.keptEvents,
        final.spool.history.removed)) = some (.returned 1, 1, [], []) := by
    decide
  obtain ⟨final, execution, shown⟩ := map_eq_some_iff.mp reached
  simp only [Prod.mk.injEq] at shown
  obtain ⟨returned, accepted, kept, removed⟩ := shown
  refine ⟨final, execution, ?_⟩
  rintro ⟨-, found⟩
  obtain ⟨event, single⟩ := length_eq_one_iff.mp accepted
  have lost := found 1 returned event (by simp [single])
  rw [kept, removed] at lost
  simp at lost

theorem close_loses_nothing_after_flush :
    Always (next oneEvent) LosesNothing (init roomyConfig true) closeAfterFlush ∧
      (run (next oneEvent) (init roomyConfig true) closeAfterFlush).isSome :=
  ⟨close_loses_nothing oneEvent roomyConfig (by decide) closeAfterFlush (by decide), by decide⟩

end Machine

end Maintenant.Agent
