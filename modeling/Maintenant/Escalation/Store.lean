import Maintenant.Alerting.Notifier

/-!
# Escalation policies, runs and deliveries

The tables the escalation runner works on and the statements it sends to them.  Columns hold whole
seconds.  Beside the tables the state remembers the first terminal status that each run reached, and
which levels were executed and recorded.
-/

namespace Maintenant.Escalation

open Agent (unix nanosPerSecond)
open Alerting (Alert AlertId NotificationChannel)

/-- Whom a level pages, and how much later. -/
structure Level where
  delaySeconds : Int
  channelIds : List String
  deriving DecidableEq

/-- What a policy is restricted to. -/
structure Scope where
  kind : String
  refId : String
  deriving DecidableEq

/-- Which alerts a policy is for; an empty list matches all. -/
structure Filters where
  severities : List String
  scopes : List Scope
  deriving DecidableEq

/-- A row of `escalation_policies`. -/
structure Policy where
  id : Nat
  name : String
  active : Bool
  /-- It was active when the edition was downgraded. -/
  activeBeforeDowngrade : Bool
  filters : Filters
  levels : List Level
  deriving DecidableEq

inductive RunStatus
  | active
  | pausedByMaintenance
  | stoppedByAck
  | stoppedByResolution
  | stoppedByPolicyDelete
  | stoppedByPolicyDisabled
  | stoppedByDowngrade
  | exhausted
  deriving DecidableEq

def RunStatus.terminal : RunStatus → Bool
  | .active | .pausedByMaintenance => false
  | _ => true

def RunStatus.ending (status : RunStatus) : Option RunStatus :=
  if status.terminal then some status else none

/-- A row of `escalation_runs`. -/
structure Run where
  id : Nat
  policyId : Option Nat
  /-- The policy as it was at the start; none if the snapshot cannot be read. -/
  snapshot : Option Policy
  alertId : AlertId
  status : RunStatus
  lastExecutedLevelIndex : Int
  startedAt : Int
  endedAt : Option Int
  nextActionAt : Option Int
  deriving DecidableEq

inductive DeliveryStatus
  | pending
  | sent
  | failed
  | abandoned
  deriving DecidableEq

/-- A row of `escalation_deliveries`. -/
structure Delivery where
  id : Nat
  runId : Nat
  /-- Its level; negative for notifications that are not a level's. -/
  levelIndex : Int
  channelId : Option String
  status : DeliveryStatus
  error : String
  attemptStartedAt : Int
  sentAt : Option Int
  deriving DecidableEq

/-- A goroutine that sends an alert to a channel and writes the outcome to a delivery. -/
structure Launch where
  delivery : Delivery
  alert : Alert
  channel : NotificationChannel

/-- How a run ended, and in which cycle. -/
structure Ending where
  status : RunStatus
  cycles : Nat
  deriving DecidableEq

/-- An entry of the journal. -/
inductive Entry
  /-- A level was executed in this cycle, at this time. -/
  | executed (run level cycle : Nat) (at_ : Int)
  /-- The level was recorded as executed. -/
  | recorded (run level : Nat)
  deriving DecidableEq

/-- The tables, the outside world and what happened. -/
structure World where
  policies : Keyed Policy.id
  runs : Keyed Run.id
  deliveries : Keyed Delivery.id
  alerts : Keyed Alert.id
  channels : Keyed NotificationChannel.id
  /-- A maintenance window covers this source, entity type and entity. -/
  suppressed : String → String → String → Bool
  licensed : Bool
  /-- Goroutines that were started and have not run yet. -/
  launched : List Launch
  /-- The next id `uid.New` gives: ids are time-ordered. -/
  nextId : Nat
  cycles : Nat
  ended : Nat → Option Ending
  journal : List Entry

namespace World

def empty : World where
  policies := .empty Policy.id
  runs := .empty Run.id
  deliveries := .empty Delivery.id
  alerts := .empty Alert.id
  channels := .empty NotificationChannel.id
  suppressed _ _ _ := false
  licensed := true
  launched := []
  nextId := 0
  cycles := 0
  ended _ := none
  journal := []

/-- Statement on the runs.  A run whose row is terminal for the first time has ended. -/
def withRuns (runs : Keyed Run.id) (world : World) : World :=
  { world with
    runs
    ended := fun id => (world.ended id).or do
      let row ← runs.lookup id
      let status ← row.status.ending
      some ⟨status, world.cycles⟩ }

/-- Change one row of `escalation_runs` without changing its id. -/
def modifyRun (id : Nat) (change : Run → Run) (keeps : ∀ row, (change row).id = row.id)
    (world : World) : World :=
  world.withRuns (world.runs.update id change keeps)

/-! ### Policies -/

/-- `InsertPolicy`, under a fresh id. -/
def insertPolicy (name : String) (active : Bool) (filters : Filters) (levels : List Level)
    (world : World) : World :=
  { world with
    policies := world.policies.insert ⟨world.nextId, name, active, false, filters, levels⟩
    nextId := world.nextId + 1 }

def updatePolicy (policy : Policy) (world : World) : World :=
  { world with
    policies := world.policies.update policy.id (fun row => { policy with id := row.id })
      fun _ => rfl }

/-- `SelectPolicies`, by id. -/
def selectPolicies (activeOnly : Bool) (world : World) : List Policy :=
  world.policies.items.filter fun policy => !activeOnly || policy.active

def stop (status : RunStatus) (endedAt : Int) (row : Run) : Run :=
  { row with status, endedAt := some (unix endedAt), nextActionAt := none }

def stopRunning (status : RunStatus) (endedAt : Int) (row : Run) : Run :=
  if row.status.terminal then row else stop status endedAt row

def stopPolicyRuns (policyId : Nat) (status : RunStatus) (endedAt : Int) (world : World) : World :=
  world.withRuns (world.runs.map
    (fun row => if row.policyId = some policyId then stopRunning status endedAt row else row)
    (by
      intro row
      simp only [stopRunning]
      split
      · split <;> rfl
      · rfl))

/-- `DELETE FROM escalation_policies`: runs of the policy lose it. -/
def deletePolicyRow (id : Nat) (world : World) : World :=
  { world.withRuns (world.runs.map
      (fun row => if row.policyId = some id then { row with policyId := none } else row)
      (by
        intro row
        split <;> rfl)) with
    policies := world.policies.erase id }

def bulkDeactivateAllPolicies (world : World) : World :=
  { world with
    policies := world.policies.map
      (fun row =>
        if row.active then { row with active := false, activeBeforeDowngrade := true } else row)
      (by
        intro row
        split <;> rfl) }

def bulkRestorePoliciesFromDowngrade (world : World) : World :=
  { world with
    policies := world.policies.map
      (fun row =>
        if row.activeBeforeDowngrade then
          { row with active := true, activeBeforeDowngrade := false }
        else row)
      (by
        intro row
        split <;> rfl) }

def bulkStopActiveRuns (status : RunStatus) (endedAt : Int) (world : World) : World :=
  world.withRuns (world.runs.map (stopRunning status endedAt)
    (by
      intro row
      simp only [stopRunning]
      split <;> rfl))

/-! ### Runs -/

def newRun (policyId : Option Nat) (snapshot : Policy) (alertId : AlertId) (status : RunStatus)
    (lastExecutedLevelIndex startedAt : Int) (nextActionAt : Option Int) (world : World) : Run where
  id := world.nextId
  policyId := policyId
  snapshot := some snapshot
  alertId := alertId
  status := status
  lastExecutedLevelIndex := lastExecutedLevelIndex
  startedAt := unix startedAt
  endedAt := none
  nextActionAt := nextActionAt.map unix

/-- `InsertRun`, under a fresh id. -/
def insertRun (policyId : Option Nat) (snapshot : Policy) (alertId : AlertId) (status : RunStatus)
    (lastExecutedLevelIndex startedAt : Int) (nextActionAt : Option Int) (world : World) : World :=
  let row := world.newRun policyId snapshot alertId status lastExecutedLevelIndex startedAt
    nextActionAt
  { world.withRuns (world.runs.insert row) with nextId := world.nextId + 1 }

/-- The row refers to an alert and a policy that exist. -/
def runAccepted (policyId : Option Nat) (alertId : AlertId) (world : World) : Bool :=
  (world.alerts.lookup alertId).isSome && policyId.all fun id => (world.policies.lookup id).isSome

def updateRunProgress (runId level : Nat) (nextActionAt : Option Int) (status : RunStatus)
    (world : World) : World :=
  { world.modifyRun runId
      (fun row =>
        { row with
          lastExecutedLevelIndex := level
          nextActionAt := nextActionAt.map unix
          status })
      (fun _ => rfl) with
    journal :=
      if (world.runs.lookup runId).isSome then .recorded runId level :: world.journal
      else world.journal }

def terminateRun (runId : Nat) (status : RunStatus) (endedAt : Int) : World → World :=
  modifyRun runId (stop status endedAt) fun _ => rfl

def pauseRunForMaintenance (runId : Nat) (recheckAt : Int) : World → World :=
  modifyRun runId
    (fun row =>
      if row.status.terminal then row
      else { row with status := .pausedByMaintenance, nextActionAt := some (unix recheckAt) })
    (by
      intro row
      split <;> rfl)

def resumeRunFromMaintenance (runId : Nat) (nextActionAt : Int) : World → World :=
  modifyRun runId
    (fun row =>
      if row.status = .pausedByMaintenance then
        { row with status := .active, nextActionAt := some (unix nextActionAt) }
      else row)
    (by
      intro row
      split <;> rfl)

/-- `SelectActiveRunsByAlert`, by id. -/
def selectActiveRunsByAlert (alertId : AlertId) (world : World) : List Run :=
  world.runs.items.filter fun row => row.alertId = alertId ∧ !row.status.terminal

/-- The run is to be looked at. -/
def due (now : Int) (row : Run) : Bool :=
  !row.status.terminal && row.nextActionAt.any fun next => next ≤ unix now

/-- `SelectDueRuns`, the longest due first. -/
def selectDueRuns (now : Int) (world : World) : List Run :=
  (world.runs.items.filter (due now)).insertionSort
    fun left right => left.nextActionAt.getD 0 ≤ right.nextActionAt.getD 0

/-- Delete runs, and their deliveries with them. -/
def deleteRuns (gone : Run → Bool) (world : World) : World :=
  { world.withRuns (world.runs.filter fun row => !gone row) with
    deliveries := world.deliveries.filter fun delivery =>
      !(world.runs.items.any fun row => row.id = delivery.runId && gone row) }

def expired (before : Int) (row : Run) : Bool := row.endedAt.any fun ended => ended < unix before

/-- One statement of `PurgeRunsAndDeliveriesOlderThan`: at most 1000 runs. -/
def purgeBatch (before : Int) (world : World) : World :=
  let batch := (world.runs.items.filter (expired before)).take 1000
  world.deleteRuns fun row => row ∈ batch

/-! ### Deliveries -/

/-- What `InsertDelivery` answers. -/
inductive Inserted
  | inserted (delivery : Delivery)
  /-- The run has a delivery for the level and the channel. -/
  | duplicate
  | failed

/-- A delivery of the run for the level and the channel exists. -/
def reserved (runId : Nat) (levelIndex : Int) (channelId : String) (world : World) : Bool :=
  world.deliveries.items.any fun delivery =>
    delivery.runId = runId && delivery.levelIndex = levelIndex &&
      delivery.channelId = some channelId

/-- `InsertDelivery`, under a fresh id, of a pending delivery to a channel. -/
def insertDelivery (runId : Nat) (levelIndex : Int) (channelId : String) (attemptStartedAt : Int)
    (world : World) : Inserted × World :=
  if world.reserved runId levelIndex channelId then (.duplicate, world)
  else if (world.runs.lookup runId).isSome && (world.channels.lookup channelId).isSome then
    let delivery : Delivery :=
      ⟨world.nextId, runId, levelIndex, some channelId, .pending, "", unix attemptStartedAt, none⟩
    (.inserted delivery,
      { world with
        deliveries := world.deliveries.insert delivery
        nextId := world.nextId + 1 })
  else (.failed, world)

def updateDelivery (id : Nat) (status : DeliveryStatus) (error : String) (sentAt : Option Int)
    (world : World) : World :=
  { world with
    deliveries := world.deliveries.update id (fun row => { row with status, error, sentAt })
      fun _ => rfl }

/-- `SelectRunDeliveries`, by id. -/
def selectRunDeliveries (runId : Nat) (world : World) : List Delivery :=
  world.deliveries.items.filter fun delivery => delivery.runId = runId

/-- The delivery is pending since before this time. -/
def orphaned (before : Int) (delivery : Delivery) : Bool :=
  delivery.status = .pending && delivery.attemptStartedAt < unix before

/-- `SelectOrphanPendingDeliveries`, the oldest first. -/
def selectOrphanPendingDeliveries (before : Int) (world : World) : List Delivery :=
  (world.deliveries.items.filter (orphaned before)).insertionSort
    fun left right => left.attemptStartedAt ≤ right.attemptStartedAt

/-! ### Alerts and channels -/

def setEscalatedAt (id : AlertId) (at_ : Int) (world : World) : World :=
  { world with
    alerts := world.alerts.update id
      (fun row => { row with escalatedAt := some (Alerting.wholeSecond at_) }) fun _ => rfl }

/-- The alert table changes; runs of alerts that are gone go with them. -/
def changeAlerts (alerts : Keyed Alert.id) (world : World) : World :=
  { world.deleteRuns fun row => (alerts.lookup row.alertId).isNone with alerts }

/-- The channel table changes; deliveries to channels that are gone lose them. -/
def changeChannels (channels : Keyed NotificationChannel.id) (world : World) : World :=
  { world with
    channels
    deliveries := world.deliveries.map
      (fun row =>
        { row with channelId := row.channelId.filter fun id => (channels.lookup id).isSome })
      fun _ => rfl }

end World

end Maintenant.Escalation
