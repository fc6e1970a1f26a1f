import Maintenant.Heartbeats.Store
import Maintenant.Program

/-!
# The heartbeat service

Pings of the three kinds, the deadline pass, pause, resume and edit, as programs that call the
store one statement at a time.  The clock is read once by each operation, so its reading is an
argument.  A failed statement that the service only logs leaves the operation going on.
-/

namespace Maintenant.Heartbeats

open Agent (unix nanosPerSecond)
open Program (perform reading writing)

/-- Statements of the service and its alerts. A read answers `none` when it failed, a write whether
it succeeded. -/
inductive Call : Type → Type
  | getHeartbeatByPingToken (token : String) : Call (Option (Option Heartbeat))
  | getHeartbeatByID (id : HeartbeatId) : Call (Option (Option Heartbeat))
  | listOverdueHeartbeats (now : Int) : Call (Option (List Heartbeat))
  | createHeartbeat (token name : String) (intervalSeconds graceSeconds : Int) : Call Bool
  | updateHeartbeat (id : HeartbeatId) (input : UpdateHeartbeatInput) : Call Bool
  | deleteHeartbeat (id : HeartbeatId) : Call Bool
  | updateHeartbeatState (id : HeartbeatId) (state : HeartbeatState) : Call Bool
  | pauseHeartbeat (id : HeartbeatId) (at_ : Int) : Call Bool
  | resumeHeartbeat (id : HeartbeatId) (at_ deadline : Int) : Call Bool
  | endPause (id : HeartbeatId) (at_ : Int) : Call Bool
  | insertPing (ping : HeartbeatPing) : Call Bool
  | getCurrentExecution (heartbeatId : HeartbeatId) : Call (Option (Option HeartbeatExecution))
  | insertExecution (heartbeatId : HeartbeatId)
      (startedAt completedAt durationMs exitCode : Option Int) (outcome : ExecutionOutcome)
      (payload : Option Payload) : Call Bool
  | updateExecution (id : Nat) (completedAt durationMs exitCode : Option Int)
      (outcome : ExecutionOutcome) (payload : Option Payload) : Call Bool
  | alertCallback (id : HeartbeatId) (notice : Notice) : Call Unit

/-- Answer a call, which may fail. A row of a heartbeat that is gone is refused, and so is a second
heartbeat with the same token. -/
def exec (fails : Bool) : {β : Type} → Call β → HeartbeatStore → β × HeartbeatStore
  | _, .getHeartbeatByPingToken token, store =>
    (reading fails (store.getHeartbeatByPingToken token), store)
  | _, .getHeartbeatByID id, store => (reading fails (store.getHeartbeatByID id), store)
  | _, .listOverdueHeartbeats now, store => (reading fails (store.listOverdueHeartbeats now), store)
  | _, .createHeartbeat token name interval grace, store =>
    writing (fails || (store.getHeartbeatByPingToken token).isSome) store
      (store.createHeartbeat token name interval grace)
  | _, .updateHeartbeat id input, store => writing fails store (store.updateHeartbeat id input)
  | _, .deleteHeartbeat id, store => writing fails store (store.deleteHeartbeat id)
  | _, .updateHeartbeatState id state, store =>
    writing fails store (store.updateHeartbeatState id state)
  | _, .pauseHeartbeat id at_, store =>
    writing (fails || !store.known id) store (store.pauseHeartbeat id at_)
  | _, .resumeHeartbeat id at_ deadline, store =>
    writing fails store (store.resumeHeartbeat id at_ deadline)
  | _, .endPause id at_, store => writing fails store (store.endPause id at_)
  | _, .insertPing ping, store =>
    writing (fails || !store.known ping.heartbeatId) store (store.insertPing ping)
  | _, .getCurrentExecution id, store => (reading fails (store.getCurrentExecution id), store)
  | _, .insertExecution id startedAt completedAt durationMs exitCode outcome payload, store =>
    writing (fails || !store.known id) store
      (store.insertExecution id startedAt completedAt durationMs exitCode outcome payload)
  | _, .updateExecution id completedAt durationMs exitCode outcome payload, store =>
    writing fails store
      (store.updateExecution id completedAt durationMs exitCode outcome payload)
  | _, .alertCallback id notice, store => ((), store.notify id notice)

abbrev Text := Program Call

/-! ### What pings make of a row -/

namespace Heartbeat

/-- When a ping that comes now is followed by the next at the latest. -/
def deadline (now : Int) (h : Heartbeat) : Int :=
  now + (h.intervalSeconds + h.graceSeconds) * nanosPerSecond

def finishing (h : Heartbeat) : Bool := h.status = .started ∧ h.currentRunStartedAt.isSome

/-- The duration of a run that ends now, in whole milliseconds. -/
def durationMs (now : Int) (h : Heartbeat) : Option Int :=
  if h.finishing then
    h.currentRunStartedAt.map fun started => (now - started * nanosPerSecond).tdiv 1000000
  else none

def recovering (h : Heartbeat) : Bool := h.status = .down ∨ h.alertState = .alerting

def pinged (now : Int) (h : Heartbeat) : HeartbeatState where
  status := .up
  alertState := if h.recovering then .normal else h.alertState
  lastPingAt := some (unix now)
  nextDeadlineAt := some (unix (h.deadline now))
  currentRunStartedAt := if h.finishing then none else h.currentRunStartedAt
  lastExitCode := h.lastExitCode
  lastDurationMs := (h.durationMs now).or h.lastDurationMs
  consecutiveFailures := 0
  consecutiveSuccesses := h.consecutiveSuccesses + 1

def startPinged (now : Int) (h : Heartbeat) : HeartbeatState :=
  { h.toHeartbeatState with
    status := .started
    nextDeadlineAt := some (unix (h.deadline now))
    currentRunStartedAt := some (unix now) }

/-- The columns after a ping with an exit code. -/
def exitPinged (now exitCode : Int) (h : Heartbeat) : HeartbeatState where
  status := .up
  alertState :=
    if exitCode = 0 then (if h.alertState = .alerting then .normal else h.alertState) else .alerting
  lastPingAt := some (unix now)
  nextDeadlineAt := some (unix (h.deadline now))
  currentRunStartedAt := if h.finishing then none else h.currentRunStartedAt
  lastExitCode := some exitCode
  lastDurationMs := (h.durationMs now).or h.lastDurationMs
  consecutiveFailures := if exitCode = 0 then 0 else h.consecutiveFailures + 1
  consecutiveSuccesses := if exitCode = 0 then h.consecutiveSuccesses + 1 else 0

def missed (h : Heartbeat) : HeartbeatState :=
  { h.toHeartbeatState with
    status := .down
    alertState := .alerting
    consecutiveFailures := h.consecutiveFailures + 1
    consecutiveSuccesses := 0 }

end Heartbeat

/-! ### Operations -/

def maxPayloadBytes : Nat := 10240

/-- `filterPayload`: what the edition keeps of the body of a ping. -/
def filterPayload (canStorePayload : Bool) (payload : Option Payload) : Option Payload :=
  if canStorePayload then payload.map (List.take maxPayloadBytes) else none

/-- Give an execution in progress its end, if there is one. -/
def endExecution (id : HeartbeatId) (now : Int) (durationMs exitCode : Option Int)
    (outcome : ExecutionOutcome) (payload : Option Payload) : Text Unit := do
  match ← perform (.getCurrentExecution id) with
  | some (some current) =>
    let _ ← perform (.updateExecution current.id (some now) durationMs exitCode outcome payload)
  | _ => pure ()

def endPause (h : Heartbeat) (now : Int) : Text Unit := do
  if h.status = .paused then
    let _ ← perform (.endPause h.id now)

/-- Write the state columns and, if that succeeds, end the pause and tell the alert callback. -/
def conclude (h : Heartbeat) (now : Int) (state : HeartbeatState) (notice : Option Notice) :
    Text Unit := do
  match ← perform (.updateHeartbeatState h.id state) with
  | true =>
    endPause h now
    match notice with
    | some notice =>
      perform (.alertCallback h.id notice)
    | none => pure ()
  | false => pure ()

def processPing (canStorePayload : Bool) (token : String) (payload : Option Payload) (now : Int) :
    Text Unit := do
  match ← perform (.getHeartbeatByPingToken token) with
  | some (some h) =>
    let storedPayload := filterPayload canStorePayload payload
    let _ ← perform (.insertPing ⟨h.id, .success, none, storedPayload, unix now⟩)
    if h.finishing then
      endExecution h.id now (h.durationMs now) none .success storedPayload
    else
      let _ ← perform (.insertExecution h.id none (some now) none none .success storedPayload)
    conclude h now (h.pinged now) (if h.recovering then some .recovery else none)
  | _ => pure ()

def processStartPing (token : String) (now : Int) : Text Unit := do
  match ← perform (.getHeartbeatByPingToken token) with
  | some (some h) =>
    let _ ← perform (.insertPing ⟨h.id, .start, none, none, unix now⟩)
    endExecution h.id now none none .timeout none
    let _ ← perform (.insertExecution h.id (some now) none none none .inProgress none)
    conclude h now (h.startPinged now) none
  | _ => pure ()

/-- Exit codes that are not refused with `ErrInvalidExitCode`. -/
def validExitCode (exitCode : Int) : Bool := 0 ≤ exitCode ∧ exitCode ≤ 255

def processExitCodePing (canStorePayload : Bool) (token : String) (exitCode : Int)
    (payload : Option Payload) (now : Int) : Text Unit := do
  if !validExitCode exitCode then pure ()
  else
    match ← perform (.getHeartbeatByPingToken token) with
    | some (some h) =>
      let storedPayload := filterPayload canStorePayload payload
      let _ ← perform (.insertPing ⟨h.id, .exitCode, some exitCode, storedPayload, unix now⟩)
      let outcome : ExecutionOutcome := if exitCode = 0 then .success else .failure
      match ← perform (.getCurrentExecution h.id) with
      | some (some current) =>
        let _ ← perform (.updateExecution current.id (some now) (h.durationMs now)
          (some exitCode) outcome storedPayload)
      | _ =>
        let _ ← perform (.insertExecution h.id none (some now) (h.durationMs now)
          (some exitCode) outcome storedPayload)
      conclude h now (h.exitPinged now exitCode)
        (if exitCode ≠ 0 then some (.exitCodeFailure exitCode)
        else if h.recovering then some .recovery
        else none)
    | _ => pure ()

/-- The body of the loop of `checkDeadlines`. -/
def missDeadline (now : Int) (h : Heartbeat) : Text Unit := do
  match ← perform (.updateHeartbeatState h.id h.missed) with
  | true =>
    if h.status = .started then
      endExecution h.id now none none .timeout none
    perform (.alertCallback h.id (.deadlineMissed
      (if h.status = .started then "Job started but never finished"
      else "Heartbeat missed deadline")))
  | false => pure ()

def checkDeadlines (now : Int) : Text Unit := do
  match ← perform (.listOverdueHeartbeats now) with
  | some overdue => Program.forEach (missDeadline now) overdue
  | none => pure ()

def pauseHeartbeat (id : HeartbeatId) (now : Int) : Text Unit := do
  match ← perform (.getHeartbeatByID id) with
  | some (some h) =>
    if h.status ≠ .paused then
      let _ ← perform (.pauseHeartbeat id now)
  | _ => pure ()

def resumeHeartbeat (id : HeartbeatId) (now : Int) : Text Unit := do
  match ← perform (.getHeartbeatByID id) with
  | some (some h) =>
    if h.status = .paused then
      let _ ← perform (.resumeHeartbeat id now (h.deadline now))
  | _ => pure ()

/-- `MaxNameLength`, in bytes. -/
def maxNameLength : Nat := 255

def minIntervalSeconds : Int := 60

def maxIntervalSeconds : Int := 604800

def validName (name : String) : Bool := 0 < name.utf8ByteSize ∧ name.utf8ByteSize ≤ maxNameLength

def validInterval (interval : Int) : Bool :=
  minIntervalSeconds ≤ interval ∧ interval ≤ maxIntervalSeconds

def validGrace (interval grace : Int) : Bool := 0 ≤ grace ∧ grace ≤ interval

/-- The checks of `UpdateHeartbeat`. -/
def validUpdate (h : Heartbeat) (input : UpdateHeartbeatInput) : Bool :=
  input.name.all validName && input.intervalSeconds.all validInterval &&
    ((input.intervalSeconds.isNone && input.graceSeconds.isNone) ||
      validGrace (input.intervalSeconds.getD h.intervalSeconds)
        (input.graceSeconds.getD h.graceSeconds))

def updateHeartbeat (id : HeartbeatId) (input : UpdateHeartbeatInput) : Text Unit := do
  match ← perform (.getHeartbeatByID id) with
  | some (some h) =>
    if validUpdate h input then
      let _ ← perform (.updateHeartbeat id input)
  | _ => pure ()

/-- `CreateHeartbeat`; the quota has been granted. -/
def createHeartbeat (token name : String) (interval grace : Int) : Text Unit := do
  if validName name && validInterval interval && validGrace interval grace then
    let _ ← perform (.createHeartbeat token name interval grace)

def deleteHeartbeat (id : HeartbeatId) : Text Unit := do
  match ← perform (.getHeartbeatByID id) with
  | some (some _) =>
    let _ ← perform (.deleteHeartbeat id)
  | _ => pure ()

/-- Operations on heartbeats, each with the time it reads from the clock and the answer of the
license checker. -/
inductive Op
  | ping (canStorePayload : Bool) (token : String) (payload : Option Payload) (now : Int)
  | startPing (token : String) (now : Int)
  | exitCodePing (canStorePayload : Bool) (token : String) (exitCode : Int)
      (payload : Option Payload) (now : Int)
  | deadlinePass (now : Int)
  | pause (id : HeartbeatId) (now : Int)
  | resume (id : HeartbeatId) (now : Int)
  | edit (id : HeartbeatId) (input : UpdateHeartbeatInput)
  | create (token name : String) (interval grace : Int)
  | delete (id : HeartbeatId)

def Op.code : Op → Text Unit
  | .ping canStorePayload token payload now => processPing canStorePayload token payload now
  | .startPing token now => processStartPing token now
  | .exitCodePing canStorePayload token exitCode payload now =>
    processExitCodePing canStorePayload token exitCode payload now
  | .deadlinePass now => checkDeadlines now
  | .pause id now => pauseHeartbeat id now
  | .resume id now => resumeHeartbeat id now
  | .edit id input => updateHeartbeat id input
  | .create token name interval grace => createHeartbeat token name interval grace
  | .delete id => deleteHeartbeat id

/-- Run an operation alone, no statement failing. -/
def Op.perform (op : Op) (store : HeartbeatStore) : HeartbeatStore :=
  (op.code.run exec (fun _ => false) store).2

end Maintenant.Heartbeats
