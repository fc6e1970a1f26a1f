import Maintenant.Agent.SpoolStore

/-!
# The agent spool

The state behind `Spool.mu` and its lock sections, each as one function, followed by the calls made
of them when nothing else runs.  What the environment decides (the clock, the outcome of each store
call, the size SQLite reports) is an argument.
-/

namespace Maintenant.Agent

/-- The budgets and the retention window. -/
structure SpoolConfig where
  maxMemoryBytes : Int
  maxDiskBytes : Int
  maxAge : Int

/-- Events are queued rather than passed straight through. -/
def SpoolConfig.enabled (cfg : SpoolConfig) : Bool :=
  decide (0 < cfg.maxMemoryBytes) || decide (0 < cfg.maxDiskBytes)

/-- Bounds under which one event stays in memory until it is flushed. -/
def roomyConfig : SpoolConfig := { maxMemoryBytes := 1000, maxDiskBytes := 0, maxAge := 0 }

def spoolDrainBatch : Nat := 200

/-- Largest sequence `Acked` takes. -/
def maxInt64 : Nat := 2 ^ 63 - 1

/-- History variables: what became of every event the spool took.  No code reads them. -/
structure History where
  /-- Events `Send` queued, in the order it queued them. -/
  accepted : List PendingEvent := []
  stored : List SpooledEvent := []
  /-- Rows deleted because an acknowledgement covers them. -/
  acked : List SpooledEvent := []
  trimmed : List PendingEvent := []
  overBudget : List SpooledEvent := []
  expired : List SpooledEvent := []
  discarded : List PendingEvent := []
  /-- Length of `trimmed` when the drop counter was last reset. -/
  trimmedTaken : Nat := 0
  /-- Length of `overBudget` when the stored drop counter was last reset. -/
  overBudgetTaken : Nat := 0

def History.removedByBudget (history : History) : List PendingEvent :=
  history.trimmed ++ history.overBudget.map SpooledEvent.event

def History.removed (history : History) : List PendingEvent :=
  history.acked.map SpooledEvent.event ++ history.removedByBudget ++
    history.expired.map SpooledEvent.event ++ history.discarded

/-- The fields `Spool.mu` protects. -/
structure Spool where
  cfg : SpoolConfig
  /-- The database, absent in the memory-only fallback and once released. -/
  store : Option SpoolStore
  buf : List PendingEvent := []
  bufBytes : Int := 0
  sink : Bool := false
  snapshots : List (SnapshotKind × AgentEvent) := []
  sendSeq : Nat := 0
  ackSeq : Nat := 0
  generation : Nat := 0
  attachedAt : Int := 0
  /-- Events trimmed from memory since the counter was last reset. -/
  dropped : Nat := 0
  pausedUntil : Option Int := none
  history : History := {}

/-- What a call can fail with. -/
inductive SpoolError
  | noStream
  | marshal
  | append
  | sizeBytes
  | dropOldest
  | addDropped
  | readFrom
  | sinkSend

namespace Spool

/-! ## Lock sections -/

def bindSink (now : Int) (spool : Spool) : Spool :=
  { spool with sink := true, attachedAt := now, pausedUntil := none }

def detach (spool : Spool) : Spool := { spool with sink := false }

/-- Keep a snapshot as the latest of its kind. -/
def keepSnapshot (kind : SnapshotKind) (event : AgentEvent) (spool : Spool) : Spool :=
  { spool with
    snapshots := (kind, event) :: spool.snapshots.filter fun entry => entry.1 ≠ kind }

/-- The buffer entry `Send` makes of an event. -/
def pendingOf (codec : Codec) (now : Int) (event : AgentEvent) (spool : Spool) :
    Option PendingEvent :=
  (codec.marshal event).map fun payload =>
    { eventId := event.eventId
      observedAt := unix (event.observedAt.getD now)
      payload
      ticket := spool.history.accepted.length }

def enqueue (event : PendingEvent) (spool : Spool) : Spool :=
  { spool with
    buf := spool.buf ++ [event]
    bufBytes := spool.bufBytes + event.size
    history := { spool.history with accepted := spool.history.accepted ++ [event] } }

def overMemory (spool : Spool) : Bool := decide (spool.cfg.maxMemoryBytes ≤ spool.bufBytes)

/-- The loop of `trimMemoryLocked`, with the counter, the dropped events and the others. -/
def trimLoop (budget : Int) : Int → List PendingEvent → Int × List PendingEvent × List PendingEvent
  | bytes, [] => (bytes, [], [])
  | bytes, event :: events =>
    if budget < bytes then
      let rest := trimLoop budget (bytes - event.size) events
      (rest.1, event :: rest.2.1, rest.2.2)
    else
      (bytes, [], event :: events)

/-- Drop the oldest buffered events past the memory budget. -/
def trimMemoryLocked (spool : Spool) : Spool :=
  let trim := trimLoop spool.cfg.maxMemoryBytes spool.bufBytes spool.buf
  { spool with
    bufBytes := trim.1
    buf := trim.2.2
    dropped := spool.dropped + trim.2.1.length
    history := { spool.history with trimmed := spool.history.trimmed ++ trim.2.1 } }

/-- First section of `flush`: take the whole buffer, or trim it when there is no store. -/
def takeBatch (spool : Spool) : Spool × Option (List PendingEvent) :=
  if spool.buf = [] then
    (spool, none)
  else
    match spool.store with
    | none => (spool.trimMemoryLocked, none)
    | some _ => ({ spool with buf := [], bufBytes := 0 }, some spool.buf)

theorem takeBatch_cases (spool : Spool) : spool.buf = [] ∧ spool.takeBatch = (spool, none) ∨
      spool.store = none ∧ spool.takeBatch = (spool.trimMemoryLocked, none) ∨
        spool.buf ≠ [] ∧ spool.store.isSome ∧
          spool.takeBatch = ({ spool with buf := [], bufBytes := 0 }, some spool.buf) := by
  by_cases empty : spool.buf = []
  · exact .inl ⟨empty, by rw [takeBatch, if_pos empty]⟩
  cases found : spool.store with
  | none => exact .inr (.inl ⟨rfl, by rw [takeBatch, if_neg empty, found]⟩)
  | some =>
    refine .inr (.inr ⟨empty, rfl, ?_⟩)
    rw [takeBatch, if_neg empty]
    simp only [found]

/-- Put a batch whose write failed back in front of the buffer. -/
def requeue (batch : List PendingEvent) (spool : Spool) : Spool :=
  { spool with
    buf := batch ++ spool.buf
    bufBytes := spool.bufBytes + totalSize batch }

/-- Move the send cursor back to the last acknowledged event. -/
def rewind (spool : Spool) : Spool :=
  { spool with sendSeq := spool.ackSeq, generation := spool.generation + 1 }

/-- Rewind, and hold the drain for the delay the server asked for. -/
def rateLimited (retryAfter now : Int) (spool : Spool) : Spool :=
  let delay := if retryAfter ≤ 0 then nanosPerSecond else retryAfter
  { spool.rewind with pausedUntil := some (now + delay) }

/-- The drain is held at `now`. -/
def paused (now : Int) (spool : Spool) : Bool :=
  match spool.pausedUntil with
  | none => false
  | some deadline => decide (now < deadline)

/-- Move the send cursor to `seq` unless a rewind happened since `gen` was read. -/
def advance (gen seq : Nat) (spool : Spool) : Option Spool :=
  if spool.generation = gen then some { spool with sendSeq := seq } else none

/-- The section of `Acked`: `none` when the acknowledgement tells nothing new. -/
def recordAck (seq : Nat) (spool : Spool) : Option Spool :=
  if maxInt64 < seq ∨ seq ≤ spool.ackSeq then none else some { spool with ackSeq := seq }

/-! ## Store calls -/

/-- A call on the database: nothing happens without a store. -/
def onStore (call : SpoolStore → SpoolStore) (record : SpoolStore → History → History)
    (spool : Spool) : Spool :=
  match spool.store with
  | none => spool
  | some store => { spool with store := some (call store), history := record store spool.history }

def storeBatch (batch : List PendingEvent) : Spool → Spool :=
  onStore (fun store => store.append batch) fun store history =>
    { history with stored := history.stored ++ numberFrom store.lastSeq batch }

def deleteAcked (seq : Nat) : Spool → Spool :=
  onStore (fun store => (store.deleteUpTo seq).1) fun store history =>
    { history with acked := history.acked ++ (store.deleteUpTo seq).2 }

/-- Delete what the retention window no longer covers. -/
def deleteExpired (cutoff : Int) : Spool → Spool :=
  onStore (fun store => (store.deleteOlderThan cutoff).1) fun store history =>
    { history with expired := history.expired ++ (store.deleteOlderThan cutoff).2 }

def dropOldest (target : Int) : Spool → Spool :=
  onStore (fun store => (store.deleteOldestBytes target).1) fun store history =>
    { history with overBudget := history.overBudget ++ (store.deleteOldestBytes target).2 }

/-- How many rows a deletion of the oldest would remove. -/
def oldestCount (target : Int) (spool : Spool) : Nat :=
  spool.store.elim 0 fun store => (store.deleteOldestBytes target).2.length

def countDropped (n : Nat) : Spool → Spool :=
  onStore (fun store => store.addDropped n) fun _ history => history

/-- The bytes a budget enforcement tries to free: the overshoot plus a tenth of the budget. -/
def dropTarget (cfg : SpoolConfig) (size : Int) : Int :=
  size - cfg.maxDiskBytes + Int.tdiv cfg.maxDiskBytes 10

section OnStore

variable (call : SpoolStore → SpoolStore) (record : SpoolStore → History → History)
  (spool : Spool)

theorem onStore_none (absent : spool.store = none) : spool.onStore call record = spool := by
  simp [onStore, absent]

theorem onStore_some {store : SpoolStore} (found : spool.store = some store) :
    spool.onStore call record =
      { spool with store := some (call store), history := record store spool.history } := by
  simp [onStore, found]

theorem onStore_frame : ∃ store history,
    spool.onStore call record = { spool with store := store, history := history } := by
  cases found : spool.store with
  | none => exact ⟨none, spool.history, by rw [onStore_none _ _ _ found, ← found]⟩
  | some => exact ⟨_, _, onStore_some call record spool found⟩

@[simp] theorem onStore_store : (spool.onStore call record).store = spool.store.map call := by
  cases found : spool.store <;> simp [onStore, found]

@[simp] theorem onStore_buf : (spool.onStore call record).buf = spool.buf := by
  obtain ⟨_, _, frame⟩ := onStore_frame call record spool
  rw [frame]

@[simp] theorem onStore_bufBytes : (spool.onStore call record).bufBytes = spool.bufBytes := by
  obtain ⟨_, _, frame⟩ := onStore_frame call record spool
  rw [frame]

end OnStore

end Spool

end Maintenant.Agent
