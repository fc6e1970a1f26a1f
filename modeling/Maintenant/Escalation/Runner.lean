import Maintenant.Escalation.Store

/-!
# The escalation runner

Alert hooks, the evaluation cycle and the policy service as programs that call the store one
statement at a time.  The runner reads the clock once at the start of an operation, so that reading
is an argument; the reading of a dispatch is a call of its own.  A failed statement that is only
logged leaves the operation going on.
-/

namespace Maintenant.Escalation

open Agent (unix nanosPerSecond)
open Alerting (Alert AlertId NotificationChannel)
open Program (perform reading writing)

/-- What the runner and the service ask for. A read answers `none` when the statement failed, a
write whether it succeeded. -/
inductive Call : Type → Type
  | allows : Call Bool
  | clock : Call Int
  | selectActiveRunsByAlert (alertId : AlertId) : Call (Option (List Run))
  | selectDueRuns (now : Int) : Call (Option (List Run))
  | selectRun (id : Nat) : Call (Option (Option Run))
  | selectPolicy (id : Nat) : Call (Option (Option Policy))
  | selectPolicies (activeOnly : Bool) : Call (Option (List Policy))
  | selectRunDeliveries (runId : Nat) : Call (Option (List Delivery))
  | selectOrphanPendingDeliveries (before : Int) : Call (Option (List Delivery))
  | getAlert (id : AlertId) : Call (Option (Option Alert))
  | getChannel (id : String) : Call (Option (Option NotificationChannel))
  /-- `IsSuppressed`, which answers false when it fails. -/
  | isSuppressed (source entityType entityId : String) : Call Bool
  | insertRun (policyId : Option Nat) (snapshot : Policy) (alertId : AlertId) (status : RunStatus)
      (lastExecutedLevelIndex startedAt : Int) (nextActionAt : Option Int) : Call Bool
  | updateRunProgress (runId level : Nat) (nextActionAt : Option Int) (status : RunStatus) :
      Call Bool
  | terminateRun (runId : Nat) (status : RunStatus) (endedAt : Int) : Call Bool
  | pauseRunForMaintenance (runId : Nat) (recheckAt : Int) : Call Bool
  | resumeRunFromMaintenance (runId : Nat) (nextActionAt : Int) : Call Bool
  | insertDelivery (runId : Nat) (levelIndex : Int) (channelId : String) (attemptStartedAt : Int) :
      Call World.Inserted
  | updateDelivery (id : Nat) (status : DeliveryStatus) (error : String) (sentAt : Option Int) :
      Call Bool
  | setEscalatedAt (id : AlertId) (at_ : Int) : Call Bool
  | insertPolicy (name : String) (active : Bool) (filters : Filters) (levels : List Level) :
      Call Bool
  | updatePolicy (policy : Policy) : Call Bool
  | deletePolicyRow (id : Nat) : Call Bool
  | stopPolicyRuns (policyId : Nat) (status : RunStatus) (endedAt : Int) : Call Bool
  | bulkDeactivateAllPolicies : Call Bool
  | bulkRestorePoliciesFromDowngrade : Call Bool
  | bulkStopActiveRuns (status : RunStatus) (endedAt : Int) : Call Bool
  | purgeBatch (before : Int) : Call Bool
  | launch (launch : Launch) : Call Unit
  /-- The scheduler runs one of the goroutines that were started. -/
  | claim (index : Nat) : Call (Option Launch)
  /-- `SendNow`: what it failed with, as `truncateErr` leaves it. -/
  | sendNow (alert : Alert) (channel : NotificationChannel) : Call (Option String)
  /-- The execution of a level begins; this only leaves a trace. -/
  | executing (runId level : Nat) (now : Int) : Call Unit
  | changeAlerts (alerts : Keyed Alert.id) : Call Unit
  | changeChannels (channels : Keyed NotificationChannel.id) : Call Unit
  | changeSuppression (suppressed : String → String → String → Bool) : Call Unit
  | changeLicence (licensed : Bool) : Call Unit

/-- What the outside answers to a call. -/
structure Input where
  fails : Bool
  clock : Int
  error : Option String

def fine : Input := ⟨false, 0, none⟩

def exec (input : Input) : {β : Type} → Call β → World → β × World
  | _, .allows, world => (world.licensed, world)
  | _, .clock, world => (input.clock, world)
  | _, .selectActiveRunsByAlert alertId, world =>
    (reading input.fails (world.selectActiveRunsByAlert alertId), world)
  | _, .selectDueRuns now, world => (reading input.fails (world.selectDueRuns now), world)
  | _, .selectRun id, world => (reading input.fails (world.runs.lookup id), world)
  | _, .selectPolicy id, world => (reading input.fails (world.policies.lookup id), world)
  | _, .selectPolicies activeOnly, world =>
    (reading input.fails (world.selectPolicies activeOnly), world)
  | _, .selectRunDeliveries runId, world =>
    (reading input.fails (world.selectRunDeliveries runId), world)
  | _, .selectOrphanPendingDeliveries before, world =>
    (reading input.fails (world.selectOrphanPendingDeliveries before), world)
  | _, .getAlert id, world => (reading input.fails (world.alerts.lookup id), world)
  | _, .getChannel id, world => (reading input.fails (world.channels.lookup id), world)
  | _, .isSuppressed source entityType entityId, world =>
    (!input.fails && world.suppressed source entityType entityId, world)
  | _, .insertRun policyId snapshot alertId status last startedAt nextActionAt, world =>
    writing (input.fails || !world.runAccepted policyId alertId) world
      (world.insertRun policyId snapshot alertId status last startedAt nextActionAt)
  | _, .updateRunProgress runId level nextActionAt status, world =>
    writing input.fails world (world.updateRunProgress runId level nextActionAt status)
  | _, .terminateRun runId status endedAt, world =>
    writing input.fails world (world.terminateRun runId status endedAt)
  | _, .pauseRunForMaintenance runId recheckAt, world =>
    writing input.fails world (world.pauseRunForMaintenance runId recheckAt)
  | _, .resumeRunFromMaintenance runId nextActionAt, world =>
    writing input.fails world (world.resumeRunFromMaintenance runId nextActionAt)
  | _, .insertDelivery runId levelIndex channelId attemptStartedAt, world =>
    if input.fails then (.failed, world)
    else world.insertDelivery runId levelIndex channelId attemptStartedAt
  | _, .updateDelivery id status error sentAt, world =>
    writing input.fails world (world.updateDelivery id status error sentAt)
  | _, .setEscalatedAt id at_, world => writing input.fails world (world.setEscalatedAt id at_)
  | _, .insertPolicy name active filters levels, world =>
    writing input.fails world (world.insertPolicy name active filters levels)
  | _, .updatePolicy policy, world => writing input.fails world (world.updatePolicy policy)
  | _, .deletePolicyRow id, world => writing input.fails world (world.deletePolicyRow id)
  | _, .stopPolicyRuns policyId status endedAt, world =>
    writing input.fails world (world.stopPolicyRuns policyId status endedAt)
  | _, .bulkDeactivateAllPolicies, world =>
    writing input.fails world world.bulkDeactivateAllPolicies
  | _, .bulkRestorePoliciesFromDowngrade, world =>
    writing input.fails world world.bulkRestorePoliciesFromDowngrade
  | _, .bulkStopActiveRuns status endedAt, world =>
    writing input.fails world (world.bulkStopActiveRuns status endedAt)
  | _, .purgeBatch before, world => writing input.fails world (world.purgeBatch before)
  | _, .launch launch, world => ((), { world with launched := world.launched ++ [launch] })
  | _, .claim index, world =>
    (world.launched[index]?, { world with launched := world.launched.eraseIdx index })
  | _, .sendNow _ _, world => (input.error, world)
  | _, .executing runId level now, world =>
    ((), { world with journal := .executed runId level world.cycles now :: world.journal })
  | _, .changeAlerts alerts, world => ((), world.changeAlerts alerts)
  | _, .changeChannels channels, world => ((), world.changeChannels channels)
  | _, .changeSuppression suppressed, world => ((), { world with suppressed })
  | _, .changeLicence licensed, world => ((), { world with licensed })

abbrev Text := Program Call

def specialLevelAck : Int := -1

def specialLevelExhausted : Int := -3

def maintenanceRecheck : Int := 60 * nanosPerSecond

def defaultOrphanTimeout : Int := 120 * nanosPerSecond

/-- The orphan timeout `NewRunner` uses. -/
def orphanTimeout (configured : Int) : Int :=
  if configured ≤ 0 then defaultOrphanTimeout else configured

/-! ### Sending -/

def dispatchToChannel (runId : Nat) (levelIndex : Int) (a : Alert) (now : Int) (chId : String) :
    Text Unit := do
  match ← perform (.getChannel chId) with
  | some (some ch) =>
    match ← perform (.insertDelivery runId levelIndex chId now) with
    | .inserted delivery =>
      if ch.enabled then
        perform (.launch ⟨delivery, a, ch⟩)
      else
        let _ ← perform (.updateDelivery delivery.id .failed "channel disabled" none)
    | _ => pure ()
  | _ => pure ()

/-- The loop of `executeLevel` and `dispatchSpecial`, with its own reading of the clock. -/
def dispatchSpecial (runId : Nat) (levelIndex : Int) (channelIds : List String) (a : Alert) :
    Text Unit := do
  let now ← perform .clock
  Program.forEach (dispatchToChannel runId levelIndex a now) channelIds

/-- `executeLevel`, in a cycle of time `now`. -/
def executeLevel (runId level : Nat) (channelIds : List String) (a : Alert) (now : Int) :
    Text Unit := do
  perform (.executing runId level now)
  dispatchSpecial runId level channelIds a

def deliverAndUpdate (launch : Launch) : Text Unit := do
  match ← perform (.sendNow launch.alert launch.channel) with
  | some err =>
    let _ ← perform (.updateDelivery launch.delivery.id .failed err launch.delivery.sentAt)
  | none =>
    let now ← perform .clock
    let _ ← perform (.updateDelivery launch.delivery.id .sent launch.delivery.error
      (some (unix now)))

def goroutine (index : Nat) : Text Unit := do
  match ← perform (.claim index) with
  | some launch => deliverAndUpdate launch
  | none => pure ()

/-! ### Alert hooks -/

def matchPolicyFilters (a : Alert) (p : Policy) : Bool :=
  (p.filters.severities.isEmpty || p.filters.severities.contains a.severity) &&
    (p.filters.scopes.isEmpty ||
      p.filters.scopes.any fun scope => scope.kind = a.entityType && scope.refId = a.entityId)

/-- Start a run of a policy whose first level is this one. -/
def startRun (a : Alert) (now : Int) (p : Policy) (first : Level) : Text Unit := do
  let _ ← perform (.insertRun (some p.id) p a.id .active (-1) now
    (some (now + first.delaySeconds * nanosPerSecond)))

def onAlertCreated (a : Alert) (now : Int) : Text Unit := do
  match ← perform .allows with
  | false => pure ()
  | true =>
    match ← perform (.selectActiveRunsByAlert a.id) with
    | none => pure ()
    | some existing =>
      match ← perform (.selectPolicies true) with
      | none => pure ()
      | some policies =>
        let covered := existing.filterMap Run.policyId
        Program.forEach (fun p =>
          if p.id ∈ covered then pure ()
          else if matchPolicyFilters a p then
            match p.levels with
            | [] => pure ()
            | first :: _ => startRun a now p first
          else pure ()) policies

/-- Who acknowledged an alert, and when as RFC 3339. -/
structure Acknowledgment where
  by_ : String
  at_ : String

def formatAckAlert (a : Alert) (ack : Acknowledgment) : Alert :=
  { a with
    status := .resolved
    message :=
      if ack.by_ = "" then "Acknowledged at " ++ ack.at_ ++ ": " ++ a.message
      else "Acknowledged by " ++ ack.by_ ++ " at " ++ ack.at_ ++ ": " ++ a.message }

def formatExhaustedAlert (a : Alert) (totalLevels : Nat) : Alert :=
  { a with
    message := "Escalation exhausted after " ++ toString totalLevels ++ " " ++
      (if totalLevels = 1 then "level" else "levels") ++
      " without acknowledgment, human action required: " ++ a.message }

/-- The channel a delivery of a level was sent to or is being sent to. -/
def notifiedChannel (d : Delivery) : Option String :=
  if d.levelIndex < 0 then none
  else if d.status = .sent ∨ d.status = .pending then d.channelId
  else none

/-- `notifiedChannels`: each channel once, in delivery order. -/
def notifiedChannels (deliveries : List Delivery) : List String :=
  (deliveries.filterMap notifiedChannel).foldl
    (fun ids id => if id ∈ ids then ids else ids ++ [id]) []

/-- The body of the loop of `OnAlertAcknowledged`. -/
def acknowledgeRun (a : Option Alert) (ack : Acknowledgment) (now : Int) (run : Run) :
    Text Unit := do
  match ← perform (.terminateRun run.id .stoppedByAck now) with
  | false => pure ()
  | true =>
    match a with
    | none => pure ()
    | some a =>
      if run.lastExecutedLevelIndex < 0 then pure ()
      else
        match ← perform (.selectRunDeliveries run.id) with
        | none => pure ()
        | some deliveries =>
          dispatchSpecial run.id specialLevelAck (notifiedChannels deliveries)
            (formatAckAlert a ack)

def onAlertAcknowledged (alertId : AlertId) (ack : Acknowledgment) (now : Int) : Text Unit := do
  match ← perform (.selectActiveRunsByAlert alertId) with
  | none => pure ()
  | some runs =>
    if runs.isEmpty then pure ()
    else
      let found ← perform (.getAlert alertId)
      Program.forEach (acknowledgeRun found.join ack now) runs

def onAlertResolved (alertId : AlertId) (resolvedAt : Int) : Text Unit := do
  match ← perform (.selectActiveRunsByAlert alertId) with
  | none => pure ()
  | some runs =>
    Program.forEach (fun run => do
      let _ ← perform (.terminateRun run.id .stoppedByResolution resolvedAt)) runs

/-! ### The evaluation cycle -/

def abandonDelivery (d : Delivery) (reason : String) : Text Unit := do
  let _ ← perform (.updateDelivery d.id .abandoned reason d.sentAt)

/-- The body of the loop of `recoverOrphans`. -/
def recoverOrphan (d : Delivery) : Text Unit := do
  match ← perform (.selectRun d.runId) with
  | some (some run) =>
    if run.status.terminal then abandonDelivery d "run terminated"
    else
      match ← perform (.getAlert run.alertId) with
      | some (some a) =>
        if a.status ≠ .active then abandonDelivery d "alert no longer active"
        else
          match d.channelId with
          | none => abandonDelivery d "channel removed"
          | some channelId =>
            match ← perform (.getChannel channelId) with
            | some (some ch) => perform (.launch ⟨d, a, ch⟩)
            | _ => abandonDelivery d "channel unavailable"
      | _ => abandonDelivery d "alert no longer active"
  | _ => abandonDelivery d "run vanished"

def recoverOrphans (timeout now : Int) : Text Unit := do
  match ← perform (.selectOrphanPendingDeliveries (now - timeout)) with
  | none => pure ()
  | some orphans => Program.forEach recoverOrphan orphans

/-- `TerminateRun`, whose error the cycle only logs. -/
def terminate (runId : Nat) (status : RunStatus) (now : Int) : Text Unit := do
  let _ ← perform (.terminateRun runId status now)

/-- When a run is due after the level with this index. -/
def nextActionTime (now : Int) (run : Run) (policy : Policy) (nextLevel : Nat) (level : Level) :
    Int :=
  match policy.levels[nextLevel + 1]? with
  | none => now
  | some next =>
    -- Delays count from the start of the run, so the step is from the due time and not from now.
    (run.nextActionAt.map (· * nanosPerSecond)).getD now +
      (next.delaySeconds - level.delaySeconds) * nanosPerSecond

/-- The end of `processRun`: execute the next level, or end a run that has none left. -/
def advanceRun (now : Int) (run : Run) (a : Alert) (policy : Policy) : Text Unit := do
  let nextLevel := (run.lastExecutedLevelIndex + 1).toNat
  match policy.levels[nextLevel]? with
  | none =>
    if run.lastExecutedLevelIndex < 0 then pure ()
    else
      match policy.levels[run.lastExecutedLevelIndex.toNat]? with
      | none => pure ()
      | some last =>
        dispatchSpecial run.id specialLevelExhausted last.channelIds
          (formatExhaustedAlert a policy.levels.length)
    terminate run.id .exhausted now
  | some level =>
    executeLevel run.id nextLevel level.channelIds a now
    let _ ← perform (.setEscalatedAt a.id now)
    let _ ← perform (.updateRunProgress run.id nextLevel
      (some (nextActionTime now run policy nextLevel level)) .active)

def processRun (now : Int) (run : Run) : Text Unit := do
  match ← perform (.getAlert run.alertId) with
  | none => pure ()
  | some none => terminate run.id .stoppedByResolution now
  | some (some a) =>
    if a.status ≠ .active then terminate run.id .stoppedByResolution now
    else if a.acknowledgedAt.isSome then terminate run.id .stoppedByAck now
    else
      match ← perform (.isSuppressed a.source a.entityType a.entityId) with
      | true =>
        let _ ← perform (.pauseRunForMaintenance run.id (now + maintenanceRecheck))
      | false =>
        if run.status = .pausedByMaintenance then
          let _ ← perform (.resumeRunFromMaintenance run.id now)
        else
          match run.snapshot with
          | none => terminate run.id .stoppedByPolicyDelete now
          | some policy => advanceRun now run a policy

def evaluateCycle (timeout now : Int) : Text Unit := do
  match ← perform .allows with
  | false => pure ()
  | true =>
    recoverOrphans timeout now
    match ← perform (.selectDueRuns now) with
    | none => pure ()
    | some runs => Program.forEach (processRun now) runs

/-! ### The policy service -/

/-- A request to create or change a policy. -/
structure PolicyRequest where
  name : String
  active : Bool
  filters : Filters
  levels : List Level

def maxLevels : Nat := 5

/-- The checks on the level with this index, given the one before it. -/
def validateLevel (index : Nat) (previous : Option Level) (level : Level) : Except String Unit := do
  if level.delaySeconds < 60 ∨ level.delaySeconds > 86400 then
    throw ("field=levels[" ++ toString index ++
      "].delay_seconds: must be between 60 and 86400: validation_failed")
  if level.channelIds.isEmpty then
    throw ("field=levels[" ++ toString index ++
      "].channel_ids: at least one channel is required: validation_failed")
  if previous.any fun before => level.delaySeconds - before.delaySeconds < 60 then
    throw ("field=levels[" ++ toString index ++
      "].delay_seconds: must be at least 60 seconds after the previous level: validation_failed")

/-- The checks on the levels from this index on. -/
def validateLevels : (index : Nat) → (previous : Option Level) → List Level → Except String Unit
  | _, _, [] => pure ()
  | index, previous, level :: levels => do
      validateLevel index previous level
      validateLevels (index + 1) (some level) levels

def validateRequest (req : PolicyRequest) : Except String Unit := do
  if req.name = "" then throw "field=name: validation_failed"
  if req.name.utf8ByteSize > 120 then
    throw "field=name: name must be 120 characters or fewer: validation_failed"
  if req.levels.length < 1 then
    throw "field=levels: at least one level is required: validation_failed"
  if req.levels.length > maxLevels then
    throw ("field=levels: at most " ++ toString maxLevels ++ " levels are allowed, got " ++
      toString req.levels.length ++ ": validation_failed")
  validateLevels 0 none req.levels

def createPolicy (req : PolicyRequest) : Text Unit := do
  match validateRequest req with
  | .error _ => pure ()
  | .ok _ =>
    let _ ← perform (.insertPolicy req.name req.active req.filters req.levels)

/-- Store a changed policy and, if it was switched off, end its runs. -/
def savePolicy (existing changed : Policy) (now : Int) : Text Unit := do
  match ← perform (.updatePolicy changed) with
  | false => pure ()
  | true =>
    if existing.active && !changed.active then
      let _ ← perform (.stopPolicyRuns existing.id .stoppedByPolicyDisabled now)

def updatePolicy (id : Nat) (req : PolicyRequest) (now : Int) : Text Unit := do
  match ← perform (.selectPolicy id) with
  | some (some existing) =>
    match validateRequest req with
    | .error _ => pure ()
    | .ok _ =>
      savePolicy existing
        { existing with
          name := req.name
          active := req.active
          filters := req.filters
          levels := req.levels } now
  | _ => pure ()

def setPolicyActive (id : Nat) (active : Bool) (now : Int) : Text Unit := do
  match ← perform (.selectPolicy id) with
  | some (some existing) => savePolicy existing { existing with active } now
  | _ => pure ()

def deletePolicy (id : Nat) (now : Int) : Text Unit := do
  match ← perform (.selectPolicy id) with
  | some (some _) =>
    match ← perform (.stopPolicyRuns id .stoppedByPolicyDelete now) with
    | false => pure ()
    | true =>
      let _ ← perform (.deletePolicyRow id)
  | _ => pure ()

def onEditionDowngraded (now : Int) : Text Unit := do
  match ← perform .bulkDeactivateAllPolicies with
  | false => pure ()
  | true =>
    let _ ← perform (.bulkStopActiveRuns .stoppedByDowngrade now)

def onEditionUpgraded : Text Unit := do
  let _ ← perform .bulkRestorePoliciesFromDowngrade

def purge (before : Int) : Text Unit := do
  let _ ← perform (.purgeBatch before)

/-! ### Who does what -/

/-- Operations, each with the time it reads from the clock. -/
inductive Op
  | cycle (now : Int)
  | created (alert : Alert) (now : Int)
  | acknowledged (alertId : AlertId) (ack : Acknowledgment) (now : Int)
  | resolved (alertId : AlertId) (resolvedAt : Int)
  | goroutine (index : Nat)
  | createPolicy (req : PolicyRequest)
  | updatePolicy (id : Nat) (req : PolicyRequest) (now : Int)
  | setPolicyActive (id : Nat) (active : Bool) (now : Int)
  | deletePolicy (id : Nat) (now : Int)
  | downgraded (now : Int)
  | upgraded
  | purge (before : Int)
  /-- The rest of the program changes the alerts. -/
  | alerts (alerts : Keyed Alert.id)
  | channels (channels : Keyed NotificationChannel.id)
  | suppression (suppressed : String → String → String → Bool)
  | licence (licensed : Bool)

/-- The text of an operation, for a runner with this orphan timeout. -/
def Op.code (timeout : Int) : Op → Text Unit
  | .cycle now => evaluateCycle timeout now
  | .created alert now => onAlertCreated alert now
  | .acknowledged alertId ack now => onAlertAcknowledged alertId ack now
  | .resolved alertId resolvedAt => onAlertResolved alertId resolvedAt
  | .goroutine index => Escalation.goroutine index
  | .createPolicy req => Escalation.createPolicy req
  | .updatePolicy id req now => Escalation.updatePolicy id req now
  | .setPolicyActive id active now => Escalation.setPolicyActive id active now
  | .deletePolicy id now => Escalation.deletePolicy id now
  | .downgraded now => onEditionDowngraded now
  | .upgraded => onEditionUpgraded
  | .purge before => Escalation.purge before
  | .alerts table => perform (.changeAlerts table)
  | .channels table => perform (.changeChannels table)
  | .suppression suppressed => perform (.changeSuppression suppressed)
  | .licence licensed => perform (.changeLicence licensed)

def Op.isCycle : Op → Bool
  | .cycle _ => true
  | _ => false

/-- The runner among everything else. Thread 0 is the engine's loop, which alone runs cycles; any
thread may crash anywhere. -/
def shop (configured : Int) : Workshop Call Input World Op where
  exec _ _ input _ request := exec input request
  enabled _ _ _ _ := true
  enter _ op world := if op.isCycle then { world with cycles := world.cycles + 1 } else world
  code := Op.code (orphanTimeout configured)
  may who op := who = 0 || !op.isCycle
  mortal _ := true

end Maintenant.Escalation
