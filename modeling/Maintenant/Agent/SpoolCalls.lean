import Maintenant.Agent.Spool

/-!
# Spool calls run on their own

`Send`, `flush`, `drainOnce` and the other methods of the spool as functions of the state, made of
the lock sections and store calls of `Maintenant.Agent.Spool` in the order of the source.
-/

namespace Maintenant.Agent

/-- How `deleteOldestBytes` ends. -/
inductive DropOutcome
  | ok
  | refused
  | reclaimFailed
  deriving DecidableEq

/-- What the store calls of a flush answer. -/
structure FlushOutcome where
  append : Bool
  /-- Database size reported after the write, `none` when the pragma fails. -/
  sizeBytes : Option Int
  dropOldest : DropOutcome
  addDropped : Bool

/-- Every deletion of this flush that removed rows is also counted. -/
def FlushOutcome.counts (outcome : FlushOutcome) : Bool :=
  outcome.dropOldest ≠ .reclaimFailed && outcome.addDropped

/-- What the environment answers during a pass. -/
structure DrainOutcome where
  /-- Store calls of the flush the pass starts with. -/
  flush : FlushOutcome
  readFrom : Nat → Bool
  /-- The context is live when the loop reaches the row. -/
  ctxLive : SpooledEvent → Bool
  /-- The limiter lets the row go before the context ends. -/
  limiter : SpooledEvent → Bool
  sinkSend : AgentEvent → Bool

/-- The event handed to the stream for a row. -/
def wireEvent (attachedAt : Int) (row : SpooledEvent) (event : AgentEvent) : AgentEvent :=
  { event with
    replayed :=
      match event.observedAt with
      | none => false
      | some instant => decide (instant < attachedAt)
    seq := row.seq }

/-- How the loop over a page ends. -/
inductive PageEnd
  | finished
  | stopped
  | failed

namespace Spool

/-- Open the spool, degrading to memory only when the database cannot be opened. -/
def newSpool (cfg : SpoolConfig) (opened : Bool) : Spool :=
  { cfg, store := if cfg.enabled && opened then some SpoolStore.empty else none }

/-- Drop the oldest events once the database is past its budget. -/
def enforceDiskBudget (outcome : FlushOutcome) (spool : Spool) : Spool × Option SpoolError :=
  if spool.cfg.maxDiskBytes ≤ 0 ∨ spool.store.isNone then
    (spool, none)
  else
    match outcome.sizeBytes with
    | none => (spool, some .sizeBytes)
    | some size =>
      if size ≤ spool.cfg.maxDiskBytes then
        (spool, none)
      else if outcome.dropOldest = .refused then
        (spool, some .dropOldest)
      else
        let target := dropTarget spool.cfg size
        let dropped := spool.oldestCount target
        let after := spool.dropOldest target
        if dropped = 0 then
          (after, none)
        else if outcome.dropOldest = .reclaimFailed then
          (after, some .dropOldest)
        else if outcome.addDropped then
          (after.countDropped dropped, none)
        else
          (after, some .addDropped)

/-- Move the memory buffer into the store, or trim it when there is none. -/
def flush (outcome : FlushOutcome) (spool : Spool) : Spool × Option SpoolError :=
  match spool.takeBatch with
  | (after, none) => (after, none)
  | (after, some batch) =>
    if outcome.append then
      (after.storeBatch batch).enforceDiskBudget outcome
    else
      (after.requeue batch, some .append)

/-- Queue an event, or pass it straight to the stream if it is a snapshot or the spool is disabled;
with what is handed to the stream and the error. -/
def send (codec : Codec) (now : Int) (outcome : FlushOutcome) (sinkOk : Bool) (event : AgentEvent)
    (spool : Spool) : Spool × List AgentEvent × Option SpoolError :=
  if spool.cfg.enabled = false then
    if spool.sink = false then
      (spool, [], some .noStream)
    else if sinkOk then
      (spool, [event], none)
    else
      (spool, [], some .sinkSend)
  else
    match snapshotOf event with
    | some kind =>
      (spool.keepSnapshot kind event, if spool.sink && sinkOk then [event] else [], none)
    | none =>
      match spool.pendingOf codec now event with
      | none => (spool, [], some .marshal)
      | some pending =>
        let queued := spool.enqueue pending
        if queued.overMemory then
          ((queued.flush outcome).1, [], (queued.flush outcome).2)
        else
          (queued, [], none)

/-- Record the row the server has taken everything up to. -/
def acked (deleted : Bool) (seq : Nat) (spool : Spool) : Spool :=
  match spool.recordAck seq with
  | none => spool
  | some after => if deleted then after.deleteAcked seq else after

/-- Drop everything observed before the retention window. -/
def purgeExpired (deleted : Bool) (now : Int) (spool : Spool) : Spool :=
  if spool.cfg.maxAge ≤ 0 ∨ deleted = false then
    spool
  else
    spool.deleteExpired (unix (now - spool.cfg.maxAge))

/-- Bind the spool to a live stream, rewinding to the last ack. -/
def attach (now : Int) (spool : Spool) : Spool := (spool.bindSink now).rewind

/-- Drop the whole spool, for a revoked agent. -/
def discard (spool : Spool) : Spool :=
  { spool with
    store := none
    buf := []
    bufBytes := 0
    history := { spool.history with
      discarded := spool.history.discarded ++ spool.buf ++
        (spool.store.elim [] SpoolStore.rows).map SpooledEvent.event } }

/-- How many events were abandoned since the counter was last reset. -/
def droppedCount (spool : Spool) : Nat :=
  spool.dropped + spool.store.elim 0 SpoolStore.droppedSinceConnect

/-- Clear the per-connection drop counter; the stored part stays when its write fails. -/
def resetDropped (written : Bool) (spool : Spool) : Spool :=
  { spool with
    dropped := 0
    store := if written then spool.store.map SpoolStore.resetDroppedSinceConnect else spool.store
    history := { spool.history with
      trimmedTaken := spool.history.trimmed.length
      overBudgetTaken :=
        if written then spool.history.overBudget.length else spool.history.overBudgetTaken } }

/-- The loop of `drainOnce` over one page.  Returns what the stream was handed. -/
def drainPage (codec : Codec) (outcome : DrainOutcome) (gen : Nat) (attachedAt : Int) :
    List SpooledEvent → Spool → Spool × List AgentEvent × PageEnd
  | [], spool => (spool, [], .finished)
  | row :: rows, spool =>
    if outcome.ctxLive row = false then
      (spool, [], .stopped)
    else
      match codec.unmarshal row.event.payload with
      | none =>
        match spool.advance gen row.seq with
        | none => (spool, [], .finished)
        | some after => drainPage codec outcome gen attachedAt rows after
      | some event =>
        if outcome.limiter row = false then
          (spool, [], .stopped)
        else if spool.generation ≠ gen then
          (spool, [], .finished)
        else if outcome.sinkSend (wireEvent attachedAt row event) = false then
          (spool, [], .failed)
        else
          match spool.advance gen row.seq with
          | none => (spool, [wireEvent attachedAt row event], .finished)
          | some after =>
            let rest := drainPage codec outcome gen attachedAt rows after
            (rest.1, wireEvent attachedAt row event :: rest.2.1, rest.2.2)

/-- The outer loop of `drainOnce`, one page per unit of fuel. -/
def drainLoop (codec : Codec) (outcome : DrainOutcome) (now : Int) :
    Nat → Spool → Option (Spool × List AgentEvent × Option SpoolError)
  | 0, _ => none
  | fuel + 1, spool =>
    match spool.store with
    | none => some (spool, [], none)
    | some store =>
      if spool.sink = false ∨ spool.paused now then
        some (spool, [], none)
      else if outcome.readFrom spool.sendSeq = false then
        some (spool, [], some .readFrom)
      else if store.readFrom spool.sendSeq spoolDrainBatch = [] then
        some (spool, [], none)
      else
        let page := drainPage codec outcome spool.generation spool.attachedAt
          (store.readFrom spool.sendSeq spoolDrainBatch) spool
        match page.2.2 with
        | .stopped => some (page.1, page.2.1, none)
        | .failed => some (page.1, page.2.1, some .sinkSend)
        | .finished =>
          (drainLoop codec outcome now fuel page.1).map fun rest =>
            (rest.1, page.2.1 ++ rest.2.1, rest.2.2)

/-- Pages a drain pass can need: each one moves the cursor past a row. -/
def drainFuel (spool : Spool) : Nat := (spool.store.elim [] SpoolStore.rows).length + 1

/-- One drain pass: flush, then send every stored row above the cursor. -/
def drainOnce (codec : Codec) (outcome : DrainOutcome) (now : Int) (spool : Spool) :
    Option (Spool × List AgentEvent × Option SpoolError) :=
  match spool.flush outcome.flush with
  | (after, some error) => some (after, [], some error)
  | (after, none) => drainLoop codec outcome now after.drainFuel after

end Spool

/-- One call on the spool with what the environment decides about it. -/
inductive Call
  | send (event : AgentEvent) (now : Int) (outcome : FlushOutcome) (sinkOk : Bool)
  | flush (outcome : FlushOutcome)
  | purgeExpired (now : Int) (deleted : Bool)
  | acked (seq : Nat) (deleted : Bool)
  | rewind
  | rateLimited (retryAfter now : Int)
  | attach (now : Int)
  | detach
  | resetDropped (written : Bool)
  | discard
  | drainOnce (now : Int) (outcome : DrainOutcome)

def Spool.perform (codec : Codec) (spool : Spool) : Call → Spool
  | .send event now outcome sinkOk => (spool.send codec now outcome sinkOk event).1
  | .flush outcome => (spool.flush outcome).1
  | .purgeExpired now deleted => spool.purgeExpired deleted now
  | .acked seq deleted => spool.acked deleted seq
  | .rewind => spool.rewind
  | .rateLimited retryAfter now => spool.rateLimited retryAfter now
  | .attach now => spool.attach now
  | .detach => spool.detach
  | .resetDropped written => spool.resetDropped written
  | .discard => spool.discard
  | .drainOnce now outcome => ((spool.drainOnce codec outcome now).map Prod.fst).getD spool

def Spool.performAll (codec : Codec) (spool : Spool) (calls : List Call) : Spool :=
  calls.foldl (Spool.perform codec) spool

end Maintenant.Agent
