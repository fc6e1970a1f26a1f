import Maintenant.Agent.Event
import Maintenant.Keyed

/-!
# Heartbeats and their tables

The rows of a heartbeat, its executions, pings and pauses, and the statements the heartbeat service
sends to them.  Columns hold whole seconds.  Every statement is atomic and may fail, in which case
it changes nothing.
-/

namespace Maintenant.Heartbeats

open Agent (unix nanosPerSecond)

abbrev HeartbeatId := Nat

abbrev Payload := List UInt8

inductive HeartbeatStatus
  | new
  | up
  | down
  /-- A start ping waits for its finish. -/
  | started
  | paused
  deriving DecidableEq

/-- Whether an alert was raised. -/
inductive AlertState
  | normal
  | alerting
  deriving DecidableEq

theorem AlertState.eq_normal {state : AlertState} (quiet : state ≠ .alerting) :
    state = .normal := by
  cases state with
  | normal => rfl
  | alerting => exact absurd rfl quiet

/-- The three kinds of pings. -/
inductive PingType
  | success
  | start
  | exitCode
  deriving DecidableEq

/-- How a run of the job ended. -/
inductive ExecutionOutcome
  | success
  | failure
  | timeout
  | inProgress
  deriving DecidableEq

/-- The columns that `UpdateHeartbeatState` writes. -/
structure HeartbeatState where
  status : HeartbeatStatus
  alertState : AlertState
  lastPingAt : Option Int
  nextDeadlineAt : Option Int
  currentRunStartedAt : Option Int
  lastExitCode : Option Int
  lastDurationMs : Option Int
  consecutiveFailures : Nat
  consecutiveSuccesses : Nat

/-- A row of `heartbeats`. -/
structure Heartbeat extends HeartbeatState where
  id : HeartbeatId
  pingToken : String
  name : String
  intervalSeconds : Int
  graceSeconds : Int

/-- A row of `heartbeat_executions`. -/
structure HeartbeatExecution where
  id : Nat
  heartbeatId : HeartbeatId
  startedAt : Option Int
  completedAt : Option Int
  durationMs : Option Int
  exitCode : Option Int
  outcome : ExecutionOutcome
  payload : Option Payload

/-- A row of `heartbeat_pings`. -/
structure HeartbeatPing where
  heartbeatId : HeartbeatId
  pingType : PingType
  exitCode : Option Int
  payload : Option Payload
  timestamp : Int

/-- A row of `heartbeat_pauses`. -/
structure HeartbeatPause where
  heartbeatId : HeartbeatId
  pausedAt : Int
  resumedAt : Option Int

/-- The columns an edit may change; `none` leaves a column as it is. -/
structure UpdateHeartbeatInput where
  name : Option String
  intervalSeconds : Option Int
  graceSeconds : Option Int

/-- The row is one `ListOverdueHeartbeats` looks for. -/
def Heartbeat.overdue (now : Int) (h : Heartbeat) : Bool :=
  (h.status = .up ∨ h.status = .started) ∧ ∃ deadline ∈ h.nextDeadlineAt, deadline < unix now

/-- The new row of `UpdateHeartbeat`: the deadline moves with its window. -/
def Heartbeat.edit (input : UpdateHeartbeatInput) (h : Heartbeat) : Heartbeat :=
  let interval := input.intervalSeconds.getD h.intervalSeconds
  let grace := input.graceSeconds.getD h.graceSeconds
  { h with
    name := input.name.getD h.name
    intervalSeconds := interval
    graceSeconds := grace
    nextDeadlineAt :=
      if (input.intervalSeconds.isSome ∨ input.graceSeconds.isSome) ∧
          (h.status = .up ∨ h.status = .started) then
        h.nextDeadlineAt.map fun deadline =>
          deadline - h.intervalSeconds - h.graceSeconds + interval + grace
      else h.nextDeadlineAt }

def Heartbeat.set (state : HeartbeatState) (h : Heartbeat) : Heartbeat :=
  { h with toHeartbeatState := state }

/-- What the alert callback is told. -/
inductive Notice
  | recovery
  | deadlineMissed (message : String)
  | exitCodeFailure (exitCode : Int)

/-- The tables, and what the alert callback was told. -/
structure HeartbeatStore where
  heartbeats : Keyed Heartbeat.id
  executions : Keyed HeartbeatExecution.id
  pings : List HeartbeatPing
  pauses : List HeartbeatPause
  notices : List (HeartbeatId × Notice)
  /-- The next id `uid.New` gives: ids are time-ordered. -/
  nextId : Nat

namespace HeartbeatStore

def empty : HeartbeatStore where
  heartbeats := .empty Heartbeat.id
  executions := .empty HeartbeatExecution.id
  pings := []
  pauses := []
  notices := []
  nextId := 0

/-! ### Heartbeats -/

def getHeartbeatByID (id : HeartbeatId) (store : HeartbeatStore) : Option Heartbeat :=
  store.heartbeats.lookup id

/-- The heartbeat exists; rows that refer to one that does not are refused. -/
def known (id : HeartbeatId) (store : HeartbeatStore) : Bool := (store.getHeartbeatByID id).isSome

def getHeartbeatByPingToken (token : String) (store : HeartbeatStore) : Option Heartbeat :=
  store.heartbeats.items.find? fun h => h.pingToken = token

def listOverdueHeartbeats (now : Int) (store : HeartbeatStore) : List Heartbeat :=
  store.heartbeats.items.filter (Heartbeat.overdue now)

/-- `CreateHeartbeat` with a fresh id. -/
def createHeartbeat (token name : String) (intervalSeconds graceSeconds : Int)
    (store : HeartbeatStore) : HeartbeatStore :=
  { store with
    heartbeats := store.heartbeats.insert
      { status := .new
        alertState := .normal
        lastPingAt := none
        nextDeadlineAt := none
        currentRunStartedAt := none
        lastExitCode := none
        lastDurationMs := none
        consecutiveFailures := 0
        consecutiveSuccesses := 0
        id := store.nextId
        pingToken := token
        name
        intervalSeconds
        graceSeconds }
    nextId := store.nextId + 1 }

/-- Change one row of `heartbeats` without changing its id. -/
def modify (id : HeartbeatId) (change : Heartbeat → Heartbeat)
    (keeps : ∀ h, (change h).id = h.id) (store : HeartbeatStore) : HeartbeatStore :=
  { store with heartbeats := store.heartbeats.update id change keeps }

def updateHeartbeatState (id : HeartbeatId) (state : HeartbeatState) :
    HeartbeatStore → HeartbeatStore :=
  modify id (Heartbeat.set state) fun _ => rfl

def updateHeartbeat (id : HeartbeatId) (input : UpdateHeartbeatInput) :
    HeartbeatStore → HeartbeatStore :=
  modify id (Heartbeat.edit input) fun _ => rfl

/-- `DeleteHeartbeat`: what refers to the heartbeat goes with it. -/
def deleteHeartbeat (id : HeartbeatId) (store : HeartbeatStore) : HeartbeatStore :=
  { store with
    heartbeats := store.heartbeats.erase id
    executions := store.executions.filter fun exec => exec.heartbeatId ≠ id
    pings := store.pings.filter fun ping => ping.heartbeatId ≠ id
    pauses := store.pauses.filter fun pause => pause.heartbeatId ≠ id }

/-! ### Pings and pauses -/

def insertPing (ping : HeartbeatPing) (store : HeartbeatStore) : HeartbeatStore :=
  { store with pings := store.pings ++ [ping] }

/-- `PauseHeartbeat`, one transaction. -/
def pauseHeartbeat (id : HeartbeatId) (at_ : Int) (store : HeartbeatStore) : HeartbeatStore :=
  { store.modify id
      (fun h => { h with status := .paused, alertState := .normal, nextDeadlineAt := none })
      (fun _ => rfl) with
    pauses := store.pauses ++ [⟨id, unix at_, none⟩] }

def endPause (id : HeartbeatId) (at_ : Int) (store : HeartbeatStore) : HeartbeatStore :=
  { store with
    pauses := store.pauses.map fun pause =>
      if pause.heartbeatId = id ∧ pause.resumedAt = none then
        { pause with resumedAt := some (unix at_) }
      else pause }

/-- `ResumeHeartbeat`, one transaction. -/
def resumeHeartbeat (id : HeartbeatId) (at_ deadline : Int) (store : HeartbeatStore) :
    HeartbeatStore :=
  (store.modify id (fun h => { h with status := .up, nextDeadlineAt := some (unix deadline) })
    fun _ => rfl).endPause id at_

/-! ### Executions -/

/-- `InsertExecution`, under a fresh id. -/
def insertExecution (heartbeatId : HeartbeatId)
    (startedAt completedAt durationMs exitCode : Option Int) (outcome : ExecutionOutcome)
    (payload : Option Payload) (store : HeartbeatStore) : HeartbeatStore :=
  { store with
    executions := store.executions.insert
      { id := store.nextId
        heartbeatId
        startedAt := startedAt.map unix
        completedAt := completedAt.map unix
        durationMs
        exitCode
        outcome
        payload }
    nextId := store.nextId + 1 }

def updateExecution (id : Nat) (completedAt durationMs exitCode : Option Int)
    (outcome : ExecutionOutcome) (payload : Option Payload) (store : HeartbeatStore) :
    HeartbeatStore :=
  { store with
    executions := store.executions.update id
      (fun exec =>
        { exec with
          completedAt := completedAt.map unix
          durationMs
          exitCode
          outcome
          payload })
      fun _ => rfl }

/-- The execution is in progress for this heartbeat. -/
def running (heartbeatId : HeartbeatId) (exec : HeartbeatExecution) : Bool :=
  exec.heartbeatId = heartbeatId ∧ exec.outcome = .inProgress

def later (best : Option HeartbeatExecution) (exec : HeartbeatExecution) :
    Option HeartbeatExecution :=
  match best with
  | none => some exec
  | some best => if best.id < exec.id then some exec else some best

/-- Executions in progress for this heartbeat. -/
def inProgress (heartbeatId : HeartbeatId) (store : HeartbeatStore) : List HeartbeatExecution :=
  store.executions.items.filter (running heartbeatId)

/-- `GetCurrentExecution`: the latest one in progress. -/
def getCurrentExecution (heartbeatId : HeartbeatId) (store : HeartbeatStore) :
    Option HeartbeatExecution :=
  (store.inProgress heartbeatId).foldl later none

def notify (id : HeartbeatId) (notice : Notice) (store : HeartbeatStore) : HeartbeatStore :=
  { store with notices := store.notices ++ [(id, notice)] }

end HeartbeatStore

end Maintenant.Heartbeats
