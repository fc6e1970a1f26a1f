import Maintenant.Agent.Moves
import Maintenant.Agent.Replay

/-!
# The agent refines the replay cursor

Each step of the threads is a short sequence of replay steps, so what is proved of the cursor holds
of the agent whatever its threads do.
-/

namespace Maintenant.Agent

open Spool Replay.Step List

/-- Rows a budget or the retention window removed. -/
def History.lost (history : History) : List SpooledEvent := history.overBudget ++ history.expired

/-- The replay of a spool, a drain, a receive loop and a stream. -/
def Replay.of (spool : Spool) (drain : DrainPc) (wire : List AgentEvent) (lastSent : Nat)
    (firsts : List SpooledEvent) (recv : RecvPc) : Replay where
  rows := spool.store.elim [] SpoolStore.rows
  stored := spool.history.stored
  lastSeq := spool.store.elim 0 SpoolStore.lastSeq
  sendSeq := spool.sendSeq
  ackSeq := spool.ackSeq
  generation := spool.generation
  drain := drain
  wire := wire
  lastSent := lastSent
  firsts := firsts
  recv := recv
  acked := spool.history.acked
  lost := spool.history.lost

/-- The stream's other end opens it or answers on it. -/
def Action.fromServer : Action → Bool
  | .attach _ => true
  | .acked _ => true
  | .rateLimited _ _ => true
  | _ => false

variable {index : Nat} {owner : FlushOwner} {cfg : SpoolConfig} {action : Action} {opened ok : Bool}

namespace Machine

/-- The replay of the agent. -/
def replay (agent : Machine) : Replay :=
  Replay.of agent.whole agent.drain agent.wire agent.lastSent agent.firsts agent.recv

/-- Rows a step removes for a budget or for their age. -/
def drops (agent : Machine) : Action → List SpooledEvent
  | .flush index (.deleteOldest outcome) =>
    match agent.flushes[index]? with
    | some { owner := _, pc := .deleteOldest target } =>
      if outcome = .refused then []
      else agent.whole.store.elim [] fun store => (store.deleteOldestBytes target).2
    | _ => []
  | .expireDelete now ok =>
    if ok then
      agent.whole.store.elim [] fun store =>
        (store.deleteOlderThan (unix (now - agent.spool.cfg.maxAge))).2
    else []
  | _ => []

def cause (agent : Machine) (action : Action) : Cause where
  server := action.fromServer
  drops := agent.drops action

/-- Batches in hand can be decoded. -/
def Readable (codec : Codec) (agent : Machine) : Prop :=
  ∀ batch ∈ agent.batches, ∀ event ∈ batch, (codec.unmarshal event.payload).isSome

variable {codec : Codec} {cause : Cause}

abbrev Replays (codec : Codec) (cause : Cause) (before after : Machine) : Prop :=
  Relation.ReflTransGen (Replay.Step codec cause) before.replay after.replay

variable {before after : Machine}

theorem Replays.of_eq (same : after.replay = before.replay) : Replays codec cause before after := by
  rw [Replays, same]

theorem Replays.of_step (step : Replay.Step codec cause before.replay
    after.replay) : Replays codec cause before after :=
  Relation.ReflTransGen.single step

theorem Replays.preserves (replays : Replays codec cause before after) (inv : Replay → Prop)
    (kept : ∀ {first last : Replay}, inv first → Replay.Step codec cause first last → inv last)
    (initial : inv before.replay) : inv after.replay := by
  have along : ∀ {last : Replay},
      Relation.ReflTransGen (Replay.Step codec cause) before.replay last → inv last := by
    intro last steps
    induction steps with
    | refl => exact initial
    | tail _ one ih => exact kept ih one
  exact along replays

section

variable (agent : Machine)

theorem replays_park {pc : DrainPc} (parked : pc.parked)
    (from_attached : pc = .off ∨ agent.drain.attached) :
    Replays codec cause agent { agent with drain := pc } :=
  Replays.of_step (park agent.replay pc parked from_attached)

theorem endFlush_replays : Replays codec cause agent (agent.endFlush index owner ok) := by
  cases owner with
  | send | flushLoop => exact Replays.of_eq rfl
  | close =>
    simp only [endFlush, flushReturned]
    split <;> rfl
  | drain =>
    simp only [endFlush, flushReturned]
    split
    · rename_i flushing
      have from_attached : agent.drain.attached := by
        change agent.drain = .flushing at flushing
        rw [flushing]
        rfl
      cases ok with
      | true => exact replays_park _ rfl (Or.inr from_attached)
      | false => exact replays_park _ rfl (Or.inr from_attached)
    · exact Replays.of_eq rfl

theorem onHandle_drain (call : Spool → Spool) :
    (agent.onHandle call).drain = agent.drain ∧ (agent.onHandle call).wire = agent.wire ∧
      (agent.onHandle call).lastSent = agent.lastSent ∧
      (agent.onHandle call).firsts = agent.firsts ∧ (agent.onHandle call).recv = agent.recv := by
  rw [onHandle]
  split <;> exact ⟨rfl, rfl, rfl, rfl, rfl⟩

theorem onHandle_replays {call : SpoolStore → SpoolStore}
    {record : SpoolStore → History → History} (rows : ∀ store, (call store).rows.Sublist store.rows)
    (lastSeq : ∀ store, (call store).lastSeq = store.lastSeq)
    (same : ∀ store history, (record store history).stored = history.stored ∧
      (record store history).acked = history.acked)
    (grown : ∀ store history, ∀ row ∈ history.lost, row ∈ (record store history).lost)
    (moved : ∀ store history, agent.whole.store = some store → ∀ row ∈ store.rows,
      row ∈ (call store).rows ∨ row ∈ (record store history).lost ∧ row ∈ cause.drops) :
    Replays codec cause agent (agent.onHandle (onStore call record)) := by
  apply Replays.of_step
  obtain ⟨drain, wire, lastSent, firsts, recv⟩ := agent.onHandle_drain (onStore call record)
  change Replay.Step codec cause agent.replay (Replay.of _ _ _ _ _ _)
  rw [agent.onHandle_whole, drain, wire, lastSent, firsts, recv]
  cases found : agent.whole.store with
  | none =>
    rw [onStore_none _ _ _ found]
    exact stay agent.replay
  | some store =>
    have table : agent.replay.rows = store.rows := by simp [replay, Replay.of, found]
    have deleted : Replay.Step codec cause agent.replay { agent.replay with
          rows := (call store).rows
          lost := (record store agent.whole.history).lost } := by
      apply delete
      · rw [table]
        exact rows store
      · exact grown store agent.whole.history
      · rw [table]
        exact moved store agent.whole.history found
    obtain ⟨stored, acked⟩ := same store agent.whole.history
    rw [onStore_some _ _ _ found]
    simp only [replay, Replay.of, found, Option.elim_some, lastSeq, stored, acked] at deleted ⊢
    exact deleted

end

/-- A `WHERE` deletion keeps a row or returns it. -/
theorem kept_or_deleted {store : SpoolStore} {selected : SpooledEvent → Bool} {row : SpooledEvent}
    (mem : row ∈ store.rows) :
    row ∈ (store.deleteWhere selected).1.rows ∨ row ∈ (store.deleteWhere selected).2 := by
  have split := (store.deleteWhere_perm selected).mem_iff.mpr mem
  rw [mem_append] at split
  exact split.symm

theorem dropOldest_replays (agent : Machine) (target : Int)
    (drops : ∀ store, agent.whole.store = some store →
      ∀ row ∈ (store.deleteOldestBytes target).2, row ∈ cause.drops) :
    Replays codec cause agent (agent.onHandle (dropOldest target)) := by
  apply agent.onHandle_replays
  · intro store
    obtain ⟨bound, deletion⟩ := store.deleteOldestBytes_eq
    rw [deletion]
    exact filter_sublist
  · intro store
    obtain ⟨bound, deletion⟩ := store.deleteOldestBytes_eq
    rw [deletion]
    rfl
  · exact fun _ _ => ⟨rfl, rfl⟩
  · intro store history row mem
    simp only [History.lost, mem_append] at mem ⊢
    exact mem.imp_left .inl
  intro store history found row mem
  have dropped := drops store found row
  obtain ⟨bound, deletion⟩ := store.deleteOldestBytes_eq
  simp only [History.lost, mem_append]
  rw [deletion] at dropped ⊢
  rcases kept_or_deleted mem with kept | deleted
  · exact .inl kept
  · exact .inr ⟨.inl (.inr deleted), dropped deleted⟩

theorem deleteExpired_replays (agent : Machine) (cutoff : Int)
    (drops : ∀ store, agent.whole.store = some store →
      ∀ row ∈ (store.deleteOlderThan cutoff).2, row ∈ cause.drops) :
    Replays codec cause agent (agent.onHandle (deleteExpired cutoff)) := by
  apply agent.onHandle_replays
  · exact fun _ => filter_sublist
  · exact fun _ => rfl
  · exact fun _ _ => ⟨rfl, rfl⟩
  · intro store history row mem
    simp only [History.lost, mem_append] at mem ⊢
    exact mem.imp_right .inl
  intro store history found row mem
  have dropped := drops store found row
  simp only [History.lost, mem_append]
  rcases kept_or_deleted mem with
    kept | deleted
  · exact .inl kept
  · exact .inr ⟨.inr (.inr deleted), dropped deleted⟩

variable {seq : Nat}

theorem deleteAcked_replays (agent : Machine) (purging : agent.recv = .purging seq) :
    Replays codec cause agent { agent.onHandle (deleteAcked seq) with recv := .idle } := by
  apply Replays.of_step
  obtain ⟨drain, wire, lastSent, firsts, -⟩ := agent.onHandle_drain (deleteAcked seq)
  have whole : ({ agent.onHandle (deleteAcked seq) with recv := .idle } : Machine).whole =
      deleteAcked seq agent.whole := agent.onHandle_whole
  change Replay.Step codec cause agent.replay (Replay.of _ _ _ _ _ _)
  rw [whole]
  simp only [drain, wire, lastSent, firsts]
  cases found : agent.whole.store with
  | none =>
    rw [deleteAcked, onStore_none _ _ _ found]
    exact release agent.replay
  | some =>
    have purged : Replay.Step codec cause agent.replay _ :=
      purge agent.replay seq purging
    rw [deleteAcked, onStore_some _ _ _ found]
    simp only [replay, Replay.of, found] at purged ⊢
    exact purged

variable {agent : Machine}

theorem storeBatch_replays {batch : List PendingEvent} (opened : agent.spool.store.isSome)
    (readable : ∀ event ∈ batch, (codec.unmarshal event.payload).isSome) :
    Replays codec cause agent { agent with spool := agent.spool.storeBatch batch } := by
  obtain ⟨store, found⟩ := Option.isSome_iff_exists.mp opened
  have stored : ({ agent with spool := agent.spool.storeBatch batch } : Machine).whole =
      { agent.spool with
        store := some (store.append batch)
        history := { agent.spool.history with
          stored := agent.spool.history.stored ++ numberFrom store.lastSeq batch } } := by
    have opened_after : (agent.spool.storeBatch batch).store = some (store.append batch) := by
      simp [storeBatch, found]
    have kept := whole_of_open { agent with spool := agent.spool.storeBatch batch } opened_after
    rw [kept, storeBatch, onStore_some _ _ _ found]
  have appended : Replay.Step codec cause agent.replay _ := .append agent.replay batch readable
  apply Replays.of_step
  change Replay.Step codec cause agent.replay (Replay.of _ _ _ _ _ _)
  rw [stored]
  simp only [replay, Replay.of, agent.whole_of_open found, found] at appended ⊢
  exact appended

theorem dropped_replays {target : Int} {outcome : DropOutcome}
    (found : agent.flushes[index]? = some { owner, pc := .deleteOldest target })
    (done : outcome ≠ .refused) :
    Replays codec (agent.cause (.flush index (.deleteOldest outcome))) agent
      (agent.onHandle (dropOldest target)) := by
  apply agent.dropOldest_replays
  intro store here row mem
  simpa [cause, drops, found, done, here] using mem

theorem stepFlush_replays {call : FlushCall} (readable : agent.Readable codec)
    (step : agent.stepFlush index call = some after) :
    Replays codec (agent.cause (.flush index call)) agent after := by
  obtain ⟨owner, pc, found, stepped⟩ := flushStep_of_step step
  cases stepped with
  | nilStore | refused | moved => exact Replays.of_eq rfl
  | @stored batch store opened =>
    have in_hand : batch ∈ agent.batches := by
      rw [agent.batches_split found]
      simp [Flush.batch]
    exact storeBatch_replays (by rw [opened]; rfl) (readable batch in_hand)
  | @requeued batch =>
    exact endFlush_replays { agent with spool := agent.spool.requeue batch }
  | ended => exact agent.endFlush_replays
  | closed => exact agent.fault.endFlush_replays
  | dropped ok done =>
    exact (dropped_replays found done).trans (endFlush_replays _)
  | reclaimed n done => exact dropped_replays found done
  | @counted n =>
    have counted : Replays codec (agent.cause (.flush index (.addDropped true))) agent
        (agent.onHandle (countDropped n)) :=
      agent.onHandle_replays (fun store => Sublist.refl store.rows) (fun _ => rfl)
        (fun _ _ => ⟨rfl, rfl⟩) (fun _ _ _ => id) fun _ _ _ _ => .inl
    exact counted.trans (endFlush_replays _)

theorem beginFlush_replay (owner : FlushOwner) : (agent.beginFlush owner).1.replay = agent.replay ∧
      (agent.beginFlush owner).1.drain = agent.drain := by
  rcases agent.spool.takeBatch_cases with ⟨-, same⟩ | ⟨-, same⟩ | ⟨-, -, same⟩
  · rw [beginFlush, same]
    exact ⟨rfl, rfl⟩
  · rw [beginFlush, same]
    exact ⟨rfl, rfl⟩
  · rw [beginFlush, same]
    exact ⟨rfl, rfl⟩

theorem stepSend_replays {event : AgentEvent} (now : Int) (delivered : Bool)
    (plain : event.seq = 0) :
      Replays codec cause agent (agent.stepSend codec event now delivered) := by
  have put : Replay.Step codec cause agent.replay _ := .unnumbered agent.replay event plain
  rw [stepSend]
  split
  · split
    · exact Replays.of_step put
    · exact Replays.of_eq rfl
  split
  · split
    · exact Replays.of_step put
    · exact Replays.of_eq rfl
  · split <;> exact Replays.of_eq rfl

variable {gen : Nat}

theorem advance_eq {before after : Spool} (moved : before.advance gen seq = some after) :
    before.generation = gen ∧ after = { before with sendSeq := seq } := by
  obtain ⟨same, moved⟩ := Option.ite_none_right_eq_some.mp moved
  exact ⟨same, (Option.some.inj moved).symm⟩

variable {attachedAt : Int}

theorem stepRow_replays {live : Bool} {rows : List SpooledEvent}
    (page : agent.drain = .page gen attachedAt rows) :
    Replays codec cause agent (agent.stepRow codec live gen attachedAt rows) := by
  have from_attached : agent.drain.attached := by rw [page]; rfl
  cases rows with
  | nil => exact replays_park _ rfl (.inr from_attached)
  | cons row rest =>
    rw [stepRow]
    split
    · exact replays_park _ rfl (.inr from_attached)
    split
    next unreadable =>
      split
      · exact replays_park _ rfl (.inr from_attached)
      next spool moved =>
        obtain ⟨rfl, rfl⟩ := advance_eq moved
        exact Replays.of_step (skip agent.replay attachedAt row rest page unreadable)
    next event readable =>
      split
      next same =>
        subst same
        exact Replays.of_step (clear agent.replay attachedAt row event rest page readable)
      · exact replays_park _ rfl (.inr from_attached)

theorem stepRead_replays {cursor : Nat} (reading : agent.drain = .reading cursor gen attachedAt) :
    Replays codec cause agent (agent.stepRead ok cursor gen attachedAt) := by
  have from_attached : agent.drain.attached := by rw [reading]; rfl
  rw [stepRead]
  split
  · exact replays_park agent.fault rfl (.inr from_attached)
  split
  · split
    · exact replays_park _ rfl (.inr from_attached)
    have page : (agent.whole.store.elim [] fun store => store.readFrom cursor spoolDrainBatch) =
        (agent.replay.rows.filter fun row => cursor < row.seq).take spoolDrainBatch := by
      cases found : agent.whole.store <;> simp [replay, Replay.of, found, SpoolStore.readFrom]
    rw [page]
    exact Replays.of_step (read agent.replay cursor gen spoolDrainBatch attachedAt reading)
  · exact replays_park _ rfl (.inr from_attached)

theorem stepAcked_replays (seq : Nat) (server : cause.server)
    (idle : agent.recv = .idle) : Replays codec cause agent (agent.stepAcked seq) := by
  rw [stepAcked]
  split
  · exact Replays.of_eq rfl
  rename_i spool recorded
  rw [recordAck] at recorded
  split at recorded
  · cases recorded
  cases recorded
  have new : agent.replay.ackSeq < seq := by
    change agent.spool.ackSeq < seq
    omega
  split
  · have acked : Replay.Step codec cause agent.replay { agent.replay with
        ackSeq := seq, recv := agent.recv } :=
      .ack agent.replay seq agent.recv server new (.inl idle)
    exact Replays.of_step acked
  have acked : Replay.Step codec cause agent.replay { agent.replay with
      ackSeq := seq, recv := .purging seq } :=
    .ack agent.replay seq (.purging seq) server new (.inr rfl)
  exact Replays.of_step acked

theorem next_replays (readable : agent.Readable codec)
    (step : agent.next codec action = some after) :
    Replays codec (agent.cause action) agent after := by
  cases stepped_of_next step with
  | send unnumbered => exact agent.stepSend_replays _ _ unnumbered
  | resendSnapshot event unnumbered =>
    exact Replays.of_step (Replay.Step.unnumbered agent.replay event unnumbered)
  | sendFlush =>
    exact Replays.of_eq (beginFlush_replay .send).1
  | loopFlush => exact Replays.of_eq (agent.beginFlush_replay .flushLoop).1
  | flush step => exact stepFlush_replays readable step
  | @expireDelete now ok =>
    rw [stepExpire]
    split
    · exact Replays.of_eq rfl
    split
    next done =>
      apply agent.deleteExpired_replays
      intro store here row mem
      simpa [cause, drops, done, here] using mem
    · exact Replays.of_eq rfl
  | attach detached => exact Replays.of_step (attach agent.replay rfl detached)
  | attachRewind bound => exact Replays.of_step (start agent.replay bound)
  | drainStart waiting =>
    obtain ⟨same, drain⟩ := agent.beginFlush_replay .drain
    have from_attached : (agent.beginFlush .drain).1.drain.attached := by
      rw [drain, waiting]
      rfl
    have begun : Replays codec (agent.cause .drainStart) agent (agent.beginFlush .drain).1 :=
      Replays.of_eq same
    refine begun.trans (replays_park _ ?_ (.inr from_attached))
    split <;> rfl
  | drainWait looping => exact replays_park _ rfl (.inr (by rw [looping]; rfl))
  | drainCapture looping =>
    exact Replays.of_step (capture agent.replay agent.spool.attachedAt looping)
  | drainRead reading => exact stepRead_replays reading
  | drainRow page => exact stepRow_replays page
  | drainSend sending =>
    rw [stepSendRow]
    split
    · exact Replays.of_step (send agent.replay _ _ _ _ _ sending)
    · exact replays_park _ rfl (.inr (by rw [sending]; rfl))
  | drainRewound advancing => exact replays_park _ rfl (.inr (by rw [advancing]; rfl))
  | drainAdvance advancing moved =>
    obtain ⟨rfl, rfl⟩ := advance_eq moved
    exact Replays.of_step (advance agent.replay _ _ _ advancing)
  | detach => exact replays_park _ rfl (.inl rfl)
  | acked idle => exact agent.stepAcked_replays _ rfl idle
  | @purgeAcked ok seq purging =>
    have released : Replay.Step codec (agent.cause (.purgeAcked ok)) agent.replay _ :=
      .release agent.replay
    rw [stepPurgeAcked]
    split
    · exact Replays.of_step released
    · split
      · exact agent.deleteAcked_replays purging
      · exact Replays.of_step released
  | rateLimited | rewind => exact Replays.of_step (rewind agent.replay)
  | closeFlush => exact Replays.of_eq (agent.beginFlush_replay .close).1
  | expireStart | closeStart | closeRelease | closeDatabase => exact Replays.of_eq rfl

/-! ## What the server makes the agent do -/

variable {now : Int}

theorem attach_replay (step : agent.next codec (.attach now) = some after) :
    after.replay = { agent.replay with drain := .attaching, wire := [], lastSent := 0 } := by
  cases stepped_of_next step
  rfl

theorem acked_replay (step : agent.next codec (.acked seq) = some after) :
    after.replay = agent.replay ∨
      ∃ recv, after.replay = { agent.replay with ackSeq := seq, recv } := by
  cases stepped_of_next step
  rw [stepAcked]
  split
  · exact .inl rfl
  rename_i spool recorded
  rw [recordAck] at recorded
  split at recorded
  · cases recorded
  cases recorded
  right
  split
  · exact ⟨agent.recv, rfl⟩
  · exact ⟨.purging seq, rfl⟩

theorem rateLimited_replay {retryAfter : Int}
    (step : agent.next codec (.rateLimited retryAfter now) = some after) :
    after.replay = { agent.replay with
      sendSeq := agent.replay.ackSeq
      generation := agent.replay.generation + 1 } := by
  cases stepped_of_next step
  rfl

/-- What holds of the agent in every interleaving of its threads. -/
structure Sound (codec : Codec) (agent : Machine) : Prop where
  accounted : Accounted agent.batches.flatten agent.whole
  nonempty : ∀ batch ∈ agent.batches, batch ≠ []
  serialized : agent.whole.Serialized codec
  committed : ∀ row ∈ agent.whole.history.stored, row.event ∈ agent.whole.history.accepted
  formed : Replay.WellFormed codec agent.replay
  paced : Replay.Paced agent.replay
  inOrder : Replay.InOrder agent.replay

namespace Sound

theorem readable (sound : Sound codec agent) : agent.Readable codec := by
  intro batch in_hand event mem
  have accepted : event ∈ agent.whole.history.accepted := by
    rw [sound.accounted.places.mem_iff]
    simp only [mem_append]
    exact .inl (.inl (.inr (mem_flatten.mpr ⟨batch, in_hand, mem⟩)))
  obtain ⟨source, written⟩ := sound.serialized event accepted
  rw [codec.unmarshal_marshal source _ written]
  rfl

theorem next (sound : Sound codec agent)
    (step : agent.next codec action = some after) : Sound codec after := by
  have move := next_move step
  have replays := next_replays sound.readable step
  have kept : Replay.WellFormed codec after.replay ∧ Replay.Paced after.replay ∧
      Replay.InOrder after.replay := by
    refine replays.preserves (fun replay => Replay.WellFormed codec replay ∧
      Replay.Paced replay ∧ Replay.InOrder replay) ?_ ⟨sound.formed, sound.paced, sound.inOrder⟩
    rintro first last ⟨formed, paced, inOrder⟩ one
    exact ⟨formed.step one, paced.step formed one, inOrder.step formed paced one⟩
  obtain ⟨formed, paced, inOrder⟩ := kept
  exact
    { accounted := move.accounted sound.accounted
      nonempty := move.nonempty sound.nonempty
      serialized := move.serialized sound.serialized
      committed := move.committed sound.accounted sound.committed
      formed := formed
      paced := paced
      inOrder := inOrder }

theorem init : Sound codec (Machine.init cfg opened) := by
  have whole : (Machine.init cfg opened).whole.store.elim [] SpoolStore.rows = [] := by
    simp only [Machine.init, newSpool]
    split <;> rfl
  exact
    { accounted :=
        { tickets := rfl
          places := by
            rw [storedEvents, whole]
            exact Perm.refl [] }
      nonempty := by simp [Machine.init, batches]
      serialized := by
        intro pending mem
        cases mem
      committed := by
        intro row mem
        cases mem
      formed :=
        { sorted := List.Pairwise.nil
          bounded := by simp [Machine.init, replay, Replay.of, Machine.whole, newSpool]
          readable := by simp [Machine.init, replay, Replay.of, Machine.whole, newSpool]
          rows_stored := by
            intro row mem
            simp only [replay, Replay.of, whole] at mem
            cases mem
          rows_sorted := by
            simp only [replay, Replay.of, whole]
            exact List.Pairwise.nil
          page_stored := by simp [Machine.init, replay, Replay.of, DrainPc.rows]
          page_sorted := List.Pairwise.nil
          read_event := by simp [Machine.init, replay, Replay.of]
          gen_le := by simp [Machine.init, replay, Replay.of, DrainPc.gen]
          cursor := .inr (le_rfl)
          purging := by simp [Machine.init, replay, Replay.of]
          acked_le := by simp [Machine.init, replay, Replay.of, Machine.whole, newSpool]
          places := by simp [Machine.init, replay, Replay.of, Machine.whole, newSpool] }
      paced :=
        { cursor := by
            intro attached
            cases attached
          point := trivial }
      inOrder :=
        { order := List.Pairwise.nil
          firsts_stored := by simp [Machine.init, replay, Replay.of]
          ahead := by simp [Machine.init, replay, Replay.of]
          behind := by
            intro row mem
            simp only [replay, Replay.of, whole] at mem
            cases mem
          cursor := by
            intro row mem
            simp only [replay, Replay.of, whole] at mem
            cases mem
          reading := by simp [Machine.init, replay, Replay.of]
          gap := by simp [Machine.init, replay, Replay.of, DrainPc.rows]
          delivered := by simp [Machine.init, replay, Replay.of] } }

end Sound

end Machine

end Maintenant.Agent
