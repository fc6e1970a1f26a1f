import Maintenant.Agent.Accounting

/-!
# The agent as concurrent threads

Collectors, the flush loop, the drain of the attached stream, its receive loop and `Close` share one
spool.  A thread is the point it has reached; one action is one lock section or one store call, with
what the environment decides (clock, context, outcome of the call) as its arguments.  A thread that
captured the store keeps using it after `Close` set the field to nil, until the database is closed.
-/

namespace Maintenant.Agent

/-- Who runs the flush. -/
inductive FlushOwner
  | send
  | flushLoop
  | drain
  | close
  deriving DecidableEq

/-- The point a flush has reached; the store call or section it names comes next. -/
inductive FlushPc
  | append (batch : List PendingEvent)
  | requeue (batch : List PendingEvent)
  | capture
  | sizeBytes
  | deleteOldest (target : Int)
  | addDropped (n : Nat)
  deriving DecidableEq

/-- A flush in progress. -/
structure Flush where
  owner : FlushOwner
  pc : FlushPc

/-- Events the flush took and has neither written nor put back. -/
def Flush.batch (flush : Flush) : Option (List PendingEvent) :=
  match flush.pc with
  | .append batch => some batch
  | .requeue batch => some batch
  | _ => none

/-- The point the stream's thread has reached, from `Attach` to `Detach`. -/
inductive DrainPc
  | off
  | attaching
  | waiting
  | flushing
  | looping
  | reading (after gen : Nat) (attachedAt : Int)
  | page (gen : Nat) (attachedAt : Int) (rows : List SpooledEvent)
  | sending (gen : Nat) (attachedAt : Int) (row : SpooledEvent) (event : AgentEvent)
      (rest : List SpooledEvent)
  | advancing (gen : Nat) (attachedAt : Int) (row : SpooledEvent) (rest : List SpooledEvent)
  | failed

/-- Where the receive loop is. -/
inductive RecvPc
  | idle
  | purging (seq : Nat)
  deriving DecidableEq

/-- The point `Close` has reached, with the number of events accepted when it began. -/
inductive ClosePc
  | running
  | started (before : Nat)
  | flushing (before : Nat)
  | flushed (before : Nat)
  | released (before : Nat)
  | returned (before : Nat)
  deriving DecidableEq

/-- Use of a store that is gone. -/
inductive Fault
  | nilStore
  | closedStore
  deriving DecidableEq

/-- The spool with the threads that share it. -/
structure Machine where
  spool : Spool
  /-- The database once `Close` has set the field of the spool to nil. -/
  released : Option SpoolStore := none
  /-- `Send` calls past the memory budget that have not begun their flush. -/
  senders : Nat := 0
  /-- Flushes under way, in the order in which they took their batch. -/
  flushes : List Flush := []
  expiring : Bool := false
  drain : DrainPc := .off
  recv : RecvPc := .idle
  closing : ClosePc := .running
  /-- Events handed to the current stream and not yet taken by the server. -/
  wire : List AgentEvent := []
  /-- History variable: last sequence handed to the current stream, zero when there is none. -/
  lastSent : Nat := 0
  /-- History variable: rows handed to a stream, each listed at its first delivery. -/
  firsts : List SpooledEvent := []
  faults : List Fault := []

/-- The next call of a flush, with its outcome. -/
inductive FlushCall
  | append (ok : Bool)
  | requeue
  | capture
  | sizeBytes (size : Option Int)
  | deleteOldest (outcome : DropOutcome)
  | addDropped (ok : Bool)
  deriving DecidableEq

/-- One lock section or store call of one thread. -/
inductive Action
  | send (event : AgentEvent) (now : Int) (delivered : Bool)
  | resendSnapshot (kind : SnapshotKind) (delivered : Bool)
  | sendFlush
  | loopFlush
  | flush (index : Nat) (call : FlushCall)
  | expireStart
  | expireDelete (now : Int) (ok : Bool)
  | attach (now : Int)
  | attachRewind
  | drainStart
  | drainCapture (now : Int)
  | drainRead (ok : Bool)
  | drainRow (live : Bool)
  | drainSend (ok : Bool)
  | drainAdvance
  | detach
  | acked (seq : Nat)
  | purgeAcked (ok : Bool)
  | rateLimited (retryAfter now : Int)
  | rewind
  | closeStart
  | closeFlush
  | closeRelease
  | closeDatabase

namespace Machine

def init (cfg : SpoolConfig) (opened : Bool) : Machine := { spool := Spool.newSpool cfg opened }

/-- `Close` has returned from closing the database. -/
def closed (agent : Machine) : Bool :=
  match agent.closing with
  | .returned _ => true
  | _ => false

/-- The spool with its database put back after `Close` took it out. -/
def whole (agent : Machine) : Spool :=
  { agent.spool with store := agent.spool.store.or agent.released }

/-- Batches in the hands of a flush, oldest first. -/
def batches (agent : Machine) : List (List PendingEvent) := agent.flushes.filterMap Flush.batch

/-- Run on the store, open or captured. -/
def onHandle (call : Spool → Spool) (agent : Machine) : Machine :=
  if agent.spool.store.isSome then
    { agent with spool := call agent.spool }
  else
    let after := call agent.whole
    { agent with spool := { after with store := none }, released := after.store }

/-- A call through a captured store finds the database closed. -/
def fault (agent : Machine) : Machine := { agent with faults := agent.faults ++ [.closedStore] }

/-- Put flush number `index` at another point, or remove it. -/
def setFlush (index : Nat) (flush : Option Flush) (agent : Machine) : Machine :=
  { agent with
    flushes := agent.flushes.take index ++ flush.toList ++ agent.flushes.drop (index + 1) }

/-- A flush returns to its caller: the drain goes on or returns the error, `Close` goes on. -/
def flushReturned (owner : FlushOwner) (ok : Bool) (agent : Machine) : Machine :=
  match owner with
  | .send => agent
  | .flushLoop => agent
  | .drain =>
    match agent.drain with
    | .flushing => { agent with drain := if ok then .looping else .failed }
    | _ => agent
  | .close =>
    match agent.closing with
    | .flushing before => { agent with closing := .flushed before }
    | _ => agent

/-- Flush number `index` returns. -/
def endFlush (index : Nat) (owner : FlushOwner) (ok : Bool) (agent : Machine) : Machine :=
  (agent.setFlush index none).flushReturned owner ok

def beginFlush (owner : FlushOwner) (agent : Machine) : Machine × Bool :=
  match agent.spool.takeBatch with
  | (spool, none) => ({ agent with spool }, false)
  | (spool, some batch) =>
    ({ agent with spool, flushes := agent.flushes ++ [{ owner, pc := .append batch }] }, true)

def put (event : AgentEvent) (agent : Machine) : Machine :=
  { agent with wire := agent.wire ++ [event] }

/-- The section of `Send`, with the hand-over of an event that is not queued. -/
def stepSend (codec : Codec) (event : AgentEvent) (now : Int) (delivered : Bool) (agent : Machine) :
    Machine :=
  if agent.spool.cfg.enabled = false then
    if agent.spool.sink && delivered then agent.put event else agent
  else
    match snapshotOf event with
    | some kind =>
      let kept := { agent with spool := agent.spool.keepSnapshot kind event }
      if agent.spool.sink && delivered then kept.put event else kept
    | none =>
      match agent.spool.pendingOf codec now event with
      | none => agent
      | some pending =>
        let spool := agent.spool.enqueue pending
        { agent with spool, senders := agent.senders + if spool.overMemory then 1 else 0 }

/-- The next call of flush number `index`. -/
def stepFlush (index : Nat) (call : FlushCall) (agent : Machine) : Option Machine :=
  match agent.flushes[index]? with
  | none => none
  | some { owner, pc } =>
    match pc, call with
    | .append batch, .append ok =>
      match agent.spool.store with
      | none => some { agent with faults := agent.faults ++ [.nilStore] }
      | some _ =>
        if ok then
          some ({ agent with spool := agent.spool.storeBatch batch }.setFlush index
            (some { owner, pc := .capture }))
        else
          some (agent.setFlush index (some { owner, pc := .requeue batch }))
    | .requeue batch, .requeue =>
      some ({ agent with spool := agent.spool.requeue batch }.endFlush index owner false)
    | .capture, .capture =>
      if agent.spool.cfg.maxDiskBytes ≤ 0 ∨ agent.spool.store.isNone then
        some (agent.endFlush index owner true)
      else
        some (agent.setFlush index (some { owner, pc := .sizeBytes }))
    | .sizeBytes, .sizeBytes size =>
      if agent.closed then
        some (agent.fault.endFlush index owner false)
      else
        match size with
        | none => some (agent.endFlush index owner false)
        | some size =>
          if size ≤ agent.spool.cfg.maxDiskBytes then
            some (agent.endFlush index owner true)
          else
            some (agent.setFlush index
              (some { owner, pc := .deleteOldest (Spool.dropTarget agent.spool.cfg size) }))
    | .deleteOldest target, .deleteOldest outcome =>
      if agent.closed then
        some (agent.fault.endFlush index owner false)
      else if outcome = .refused then
        some (agent.endFlush index owner false)
      else
        let dropped := agent.whole.oldestCount target
        let after := agent.onHandle (Spool.dropOldest target)
        if dropped = 0 then
          some (after.endFlush index owner true)
        else if outcome = .reclaimFailed then
          some (after.endFlush index owner false)
        else
          some (after.setFlush index (some { owner, pc := .addDropped dropped }))
    | .addDropped n, .addDropped ok =>
      if agent.closed then
        some (agent.fault.endFlush index owner false)
      else if ok then
        some ((agent.onHandle (Spool.countDropped n)).endFlush index owner true)
      else
        some (agent.endFlush index owner false)
    | _, _ => none

/-- `ReadFrom` through the captured store. -/
def stepRead (ok : Bool) (after gen : Nat) (attachedAt : Int) (agent : Machine) : Machine :=
  if agent.closed then
    { agent.fault with drain := .failed }
  else if ok then
    match agent.whole.store.elim [] fun store => store.readFrom after spoolDrainBatch with
    | [] => { agent with drain := .waiting }
    | rows => { agent with drain := .page gen attachedAt rows }
  else
    { agent with drain := .failed }

/-- The loop body of `drainOnce` up to the generation check. -/
def stepRow (codec : Codec) (live : Bool) (gen : Nat) (attachedAt : Int)
    (rows : List SpooledEvent) (agent : Machine) : Machine :=
  match rows with
  | [] => { agent with drain := .looping }
  | row :: rest =>
    if live = false then
      { agent with drain := .waiting }
    else
      match codec.unmarshal row.event.payload with
      | none =>
        match agent.spool.advance gen row.seq with
        | none => { agent with drain := .looping }
        | some spool => { agent with spool, drain := .page gen attachedAt rest }
      | some event =>
        if agent.spool.generation = gen then
          { agent with drain := .sending gen attachedAt row event rest }
        else
          { agent with drain := .looping }

/-- `sink.Send` of one row. -/
def stepSendRow (ok : Bool) (gen : Nat) (attachedAt : Int) (row : SpooledEvent)
    (event : AgentEvent) (rest : List SpooledEvent) (agent : Machine) : Machine :=
  if ok then
    { agent.put (wireEvent attachedAt row event) with
      lastSent := row.seq
      firsts := if row ∈ agent.firsts then agent.firsts else agent.firsts ++ [row]
      drain := .advancing gen attachedAt row rest }
  else
    { agent with drain := .failed }

/-- The section of `Acked`. -/
def stepAcked (seq : Nat) (agent : Machine) : Machine :=
  match agent.spool.recordAck seq with
  | none => agent
  | some spool =>
    if agent.spool.store.isNone then { agent with spool }
    else { agent with spool, recv := .purging seq }

/-- `DeleteUpTo` through the captured store. -/
def stepPurgeAcked (ok : Bool) (seq : Nat) (agent : Machine) : Machine :=
  if agent.closed then
    { agent.fault with recv := .idle }
  else if ok then
    { agent.onHandle (Spool.deleteAcked seq) with recv := .idle }
  else
    { agent with recv := .idle }

/-- `DeleteOlderThan` through the captured store. -/
def stepExpire (now : Int) (ok : Bool) (agent : Machine) : Machine :=
  if agent.closed then
    { agent.fault with expiring := false }
  else if ok then
    { agent.onHandle (Spool.deleteExpired (unix (now - agent.spool.cfg.maxAge))) with
      expiring := false }
  else
    { agent with expiring := false }

/-- One step of the threads; a nil dereference ends the process. -/
def next (codec : Codec) (agent : Machine) (action : Action) : Option Machine :=
  if .nilStore ∈ agent.faults then
    none
  else
    match action with
    | .send event now delivered =>
      -- Collectors never number an event.
      if event.seq = 0 then some (agent.stepSend codec event now delivered) else none
    | .resendSnapshot kind delivered =>
      match agent.spool.snapshots.lookup kind with
      | none => none
      | some event =>
        if event.seq = 0 ∧ agent.spool.sink ∧ delivered then some (agent.put event) else none
    | .sendFlush =>
      if agent.senders = 0 then none
      else some ({ agent with senders := agent.senders - 1 }.beginFlush .send).1
    | .loopFlush =>
      if agent.flushes.any fun flush => flush.owner = .flushLoop then none
      else some (agent.beginFlush .flushLoop).1
    | .flush index call => agent.stepFlush index call
    | .expireStart =>
      if agent.expiring ∨ agent.spool.cfg.maxAge ≤ 0 ∨ agent.spool.store.isNone then none
      else some { agent with expiring := true }
    | .expireDelete now ok => if agent.expiring then some (agent.stepExpire now ok) else none
    | .attach now =>
      match agent.drain with
      | .off =>
        some { agent with
          spool := agent.spool.bindSink now
          drain := .attaching
          wire := []
          lastSent := 0 }
      | _ => none
    | .attachRewind =>
      match agent.drain with
      | .attaching => some { agent with spool := agent.spool.rewind, drain := .waiting }
      | _ => none
    | .drainStart =>
      match agent.drain with
      | .waiting =>
        if agent.spool.cfg.enabled then
          let begun := agent.beginFlush .drain
          some { begun.1 with drain := if begun.2 then .flushing else .looping }
        else
          none
      | _ => none
    | .drainCapture now =>
      match agent.drain with
      | .looping =>
        if agent.spool.sink = false ∨ agent.spool.store.isNone ∨ agent.spool.paused now then
          some { agent with drain := .waiting }
        else
          some { agent with
            drain := .reading agent.spool.sendSeq agent.spool.generation
              agent.spool.attachedAt }
      | _ => none
    | .drainRead ok =>
      match agent.drain with
      | .reading after gen attachedAt => some (agent.stepRead ok after gen attachedAt)
      | _ => none
    | .drainRow live =>
      match agent.drain with
      | .page gen attachedAt rows => some (agent.stepRow codec live gen attachedAt rows)
      | _ => none
    | .drainSend ok =>
      match agent.drain with
      | .sending gen attachedAt row event rest =>
        some (agent.stepSendRow ok gen attachedAt row event rest)
      | _ => none
    | .drainAdvance =>
      match agent.drain with
      | .advancing gen attachedAt row rest =>
        match agent.spool.advance gen row.seq with
        | none => some { agent with drain := .looping }
        | some spool => some { agent with spool, drain := .page gen attachedAt rest }
      | _ => none
    | .detach =>
      match agent.drain with
      | .waiting => some { agent with spool := agent.spool.detach, drain := .off }
      | .failed => some { agent with spool := agent.spool.detach, drain := .off }
      | _ => none
    | .acked seq =>
      match agent.recv with
      | .idle => some (agent.stepAcked seq)
      | _ => none
    | .purgeAcked ok =>
      match agent.recv with
      | .purging seq => some (agent.stepPurgeAcked ok seq)
      | _ => none
    | .rateLimited retryAfter now =>
      match agent.recv with
      | .idle => some { agent with spool := agent.spool.rateLimited retryAfter now }
      | _ => none
    | .rewind => some { agent with spool := agent.spool.rewind }
    | .closeStart =>
      match agent.closing with
      | .running => some { agent with closing := .started agent.spool.history.accepted.length }
      | _ => none
    | .closeFlush =>
      match agent.closing with
      | .started before =>
        let begun := agent.beginFlush .close
        some { begun.1 with
          closing := if begun.2 then .flushing before else .flushed before }
      | _ => none
    | .closeRelease =>
      match agent.closing with
      | .flushed before =>
        some { agent with
          spool := { agent.spool with store := none }
          released := agent.whole.store
          closing := .released before }
      | _ => none
    | .closeDatabase =>
      match agent.closing with
      | .released before => some { agent with closing := .returned before }
      | _ => none

end Machine

end Maintenant.Agent
