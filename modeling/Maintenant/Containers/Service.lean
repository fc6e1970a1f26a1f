import Maintenant.Alerting.Model
import Maintenant.Containers.Store
import Maintenant.Multihost.Session
import Maintenant.StableSort

/-!
# The container service, as far as agents are concerned

What the events and inventories of an agent do to the containers and their timeline.  A live event
is folded over the row of its container, a replayed one over the timeline at the time it was
observed.  No store call fails.
-/

namespace Maintenant.Containers

open Agent (unix)
open Alerting (uidAgent isSpace)
open Multihost (EventMeta HandlerError)

/-! ### What agents report -/

/-- `agentpb.ContainerState`. -/
inductive ReportedState
  | unspecified
  | running
  | exited
  | paused
  | restarting
  | dead
  | created
  deriving DecidableEq

/-- `agentpb.ContainerEvent`. -/
structure ContainerReport where
  containerId : String
  state : ReportedState
  statusMessage : String
  oomKilled : Bool
  healthStatus : String
  startedAt : Option Int
  destroyed : Bool
  labels : List (String × String)
  deriving DecidableEq

def maxInventoryContainers : Nat := 10000

def maxContainerLabels : Nat := 256

def shortID (id : String) : String := if 12 < id.length then (id.take 12).toString else id

def checkLabelCount (report : ContainerReport) : Option HandlerError :=
  if maxContainerLabels < report.labels.length then
    some ⟨true, "invalid agent event: container " ++ shortID report.containerId ++
      " has too many labels (" ++ toString report.labels.length ++ ", limit " ++
      toString maxContainerLabels ++ ")"⟩
  else none

/-- The labels say that the container is not to be monitored. -/
def ignoredByLabels (labels : List (String × String)) : Bool :=
  labels.lookup "maintenant.ignore" = some "true" ∨ labels.lookup "maintenant.ignore" = some "1"

/-- `parseExitCode`: the number a text begins with, and zero if there is none. -/
def parseExitCode (text : String) : Int :=
  let chars := text.toList.dropWhile fun char => isSpace char && char != '\n'
  let (negative, digits) := match chars with
    | '-' :: rest => (true, rest)
    | '+' :: rest => (false, rest)
    | rest => (false, rest)
  let number : Int := (digits.takeWhile Char.isDigit).foldl
    (fun value digit => 10 * value + ((digit.toNat : Int) - 48)) 0
  let code := if negative then -number else number
  if -(2 : Int) ^ 63 ≤ code ∧ code < (2 : Int) ^ 63 then code else 0

def isCleanExit (code : Int) (oomKilled : Bool) : Bool :=
  if code = 0 ∨ code = 143 then true else if code = 137 then !oomKilled else false

def readHealth : String → HealthStatus
  | "healthy" => .healthy
  | "unhealthy" => .unhealthy
  | "starting" => .starting
  | text => .other text

def containerStateToState : ReportedState → ContainerState
  | .running => .running
  | .exited => .exited
  | .paused => .paused
  | .restarting => .restarting
  | .dead => .dead
  | .created => .created
  | .unspecified => .running

def agentContainerState (report : ContainerReport) : ContainerState :=
  let state := containerStateToState report.state
  if state = .exited ∧ report.statusMessage ≠ "" ∧
      isCleanExit (parseExitCode report.statusMessage) report.oomKilled then .completed
  else state

/-- What a runtime event reports. -/
inductive EventAction
  | start
  | stop
  | die
  | pause
  | unpause
  | restart
  | create
  | destroy
  | healthStatus
  deriving DecidableEq

def containerStateToAction (report : ContainerReport) : Option EventAction :=
  match report.state with
  | .running => some .start
  | .exited => if report.statusMessage = "" then some .stop else some .die
  | .paused => some .pause
  | .restarting => some .restart
  | .dead => some .die
  | .created => some .create
  | .unspecified => none

def agentEventTime (report : ContainerReport) (info : EventMeta) : Int :=
  report.startedAt.getD info.observedAt

/-! ### Events -/

/-- A container event on its way to the tables. -/
structure ContainerEvent where
  agentId : String
  externalId : String
  timestamp : Int
  replayed : Bool
  eventId : String
  action : EventAction
  exitCode : String
  oomKilled : Bool
  healthStatus : String

namespace ContainerEvent

def container (evt : ContainerEvent) : ContainerId := ⟨uidAgent evt.agentId, evt.externalId⟩

def recordID (evt : ContainerEvent) (record : RecordKind) : Option TransitionId :=
  if evt.eventId = "" then none
  else some (.derived (uidAgent evt.agentId) evt.eventId record evt.externalId)

end ContainerEvent

/-! ### Statements -/

def Container.archive (seconds : Int) (c : Container) : Container :=
  if c.archived then c else { c with archived := true, archivedAt := some seconds }

theorem Container.id_archive {seconds : Int} (c : Container) : (c.archive seconds).id = c.id := by
  rw [archive]
  split
  · rfl
  · rfl

def Container.setState (state : ContainerState) (c : Container) : Container := { c with state }

theorem Container.id_setState {state : ContainerState} (c : Container) :
    (c.setState state).id = c.id := rfl

def Container.setHealth (health : HealthStatus) (c : Container) : Container :=
  { c with healthStatus := some health }

theorem Container.id_setHealth {health : HealthStatus} (c : Container) :
    (c.setHealth health).id = c.id := rfl

/-- What a live report makes of a row, but for its state and health. -/
def Container.refresh (labels : List (String × String)) (c : Container) : Container :=
  { c with
    isIgnored := if labels = [] then c.isIgnored else ignoredByLabels labels
    archived := false
    archivedAt := none }

theorem Container.id_refresh {labels : List (String × String)} (c : Container) :
    (c.refresh labels).id = c.id := rfl

def replayTimelineDepth : Nat := 50

/-- `ORDER BY timestamp DESC`, rows of one second in the order of the index. -/
def newestFirst (rows : List StateTransition) : List StateTransition :=
  StableSort.sortOn (fun t => -t.timestamp) rows

namespace ContainerStore

/-- `GetContainerByExternalID`. -/
def lookup (store : ContainerStore) (id : ContainerId) : Option Container :=
  store.containers.lookup id

/-- `UpdateContainer`, with the change made to the row. -/
def updateContainer (id : ContainerId) (change : Container → Container)
    (keeps : ∀ c, (change c).id = c.id) (store : ContainerStore) : ContainerStore :=
  { store with containers := store.containers.update id change keeps }

def archiveContainer (id : ContainerId) (seconds : Int) (store : ContainerStore) : ContainerStore :=
  store.updateContainer id (Container.archive seconds) Container.id_archive

/-- `InsertTransition`; a row without an id gets a new one. -/
def record (id : Option TransitionId) (row : TransitionId → StateTransition)
    (store : ContainerStore) : ContainerStore :=
  match id with
  | some id => store.insertTransition (row id)
  | none =>
    { store.insertTransition (row (.fresh store.nextUid)) with nextUid := store.nextUid + 1 }

/-- The transitions of a container up to a second. -/
def upTo (store : ContainerStore) (id : ContainerId) (second : Int) : List StateTransition :=
  (transitionsOf id store.transitions.items).filter fun t => t.timestamp ≤ second

def timelineAt (c : Container) (at_ : Int) (store : ContainerStore) :
    ContainerState × Option HealthStatus :=
  let transitions := (newestFirst (store.upTo c.id (unix at_))).take replayTimelineDepth
  ((transitions.head?.map StateTransition.newState).getD c.state,
    (transitions.findSome? StateTransition.newHealth).or c.healthStatus)

/-! ### Processing -/

def stateRow (evt : ContainerEvent) (previous new : ContainerState) (id : TransitionId) :
    StateTransition where
  id := id
  containerId := evt.container
  previousState := previous
  newState := new
  previousHealth := none
  newHealth := none
  exitCode := if evt.exitCode = "" then none else some (parseExitCode evt.exitCode)
  timestamp := unix evt.timestamp

def healthRow (evt : ContainerEvent) (state : ContainerState) (previous : Option HealthStatus)
    (id : TransitionId) : StateTransition where
  id := id
  containerId := evt.container
  previousState := state
  newState := state
  previousHealth := previous
  newHealth := some (readHealth evt.healthStatus)
  exitCode := none
  timestamp := unix evt.timestamp

/-- `handleStateChange` of an agent's container. -/
def handleStateChange (evt : ContainerEvent) (newState : ContainerState) (store : ContainerStore) :
    ContainerStore :=
  match store.lookup evt.container with
  | none => store
  | some c =>
    if c.isIgnored then store
    else
      let previousState :=
        if evt.replayed then (store.timelineAt c evt.timestamp).1 else c.state
      if previousState = newState then store
      else
        let store := if evt.replayed then store
          else store.updateContainer c.id (Container.setState newState) Container.id_setState
        store.record (evt.recordID .stateTransition) (stateRow evt previousState newState)

def handleHealthChange (evt : ContainerEvent) (store : ContainerStore) : ContainerStore :=
  match store.lookup evt.container with
  | none => store
  | some c =>
    if c.isIgnored then store
    else
      let newHealth := readHealth evt.healthStatus
      let now := if evt.replayed then store.timelineAt c evt.timestamp
        else (c.state, c.healthStatus)
      if evt.replayed ∧ now.2 = some newHealth then store
      else
        let store := if evt.replayed then store
          else store.updateContainer c.id (Container.setHealth newHealth)
            Container.id_setHealth
        store.record (evt.recordID .healthTransition) (healthRow evt now.1 now.2)

def handleDestroy (evt : ContainerEvent) (store : ContainerStore) : ContainerStore :=
  match store.lookup evt.container with
  | none => store
  | some c => store.archiveContainer c.id (unix evt.timestamp)

/-- `ProcessEvent`.  A stop after a clean exit is not a change. -/
def processEvent (evt : ContainerEvent) (store : ContainerStore) : ContainerStore :=
  match evt.action with
  | .start => store.handleStateChange evt .running
  | .stop =>
    if (store.lookup evt.container).map Container.state = some .completed then store
    else store.handleStateChange evt .exited
  | .die =>
    if evt.exitCode ≠ "" ∧ isCleanExit (parseExitCode evt.exitCode) evt.oomKilled then
      store.handleStateChange evt .completed
    else store.handleStateChange evt .exited
  | .pause => store.handleStateChange evt .paused
  | .unpause => store.handleStateChange evt .running
  | .destroy => store.handleDestroy evt
  | .healthStatus => store.handleHealthChange evt
  | .restart => store
  | .create => store

/-- The row of a container that an agent reports for the first time. -/
def agentContainer (agentId : String) (report : ContainerReport) : Container where
  id := ⟨uidAgent agentId, report.containerId⟩
  state := agentContainerState report
  healthStatus := if report.healthStatus = "" then none else some (readHealth report.healthStatus)
  isIgnored := ignoredByLabels report.labels
  archived := false
  archivedAt := none

/-- `insertAgentContainer`.  A container that only a replay mentions is gone. -/
def insertAgentContainer (agentId : String) (report : ContainerReport) (info : EventMeta)
    (store : ContainerStore) : ContainerStore :=
  let c := agentContainer agentId report
  let now := unix (agentEventTime report info)
  let store := { store with containers := store.containers.insert c }
  let store := if info.replayed then store.archiveContainer c.id now else store
  if c.state = .created then store
  else store.record none fun id => ⟨id, c.id, .created, c.state, none, none, none, now⟩

/-- The event a report stands for, but for what happened. -/
def agentEvent (agentId : String) (report : ContainerReport) (info : EventMeta)
    (action : EventAction) : ContainerEvent where
  agentId := agentId
  externalId := report.containerId
  timestamp := agentEventTime report info
  replayed := info.replayed
  eventId := info.eventId
  action := action
  exitCode := ""
  oomKilled := false
  healthStatus := ""

/-- What a report says about the health of a known container. -/
def reportHealth (agentId : String) (report : ContainerReport) (info : EventMeta) (c : Container)
    (store : ContainerStore) : ContainerStore :=
  if report.healthStatus ≠ "" ∧
      (info.replayed ∨ c.healthStatus ≠ some (readHealth report.healthStatus)) then
    store.processEvent { agentEvent agentId report info .healthStatus with
      healthStatus := report.healthStatus }
  else store

/-- What a report says about the state of a known container. -/
def reportState (agentId : String) (report : ContainerReport) (info : EventMeta)
    (store : ContainerStore) : ContainerStore :=
  match containerStateToAction report with
  | none => store
  | some action =>
    store.processEvent { agentEvent agentId report info action with
      exitCode := report.statusMessage
      oomKilled := report.oomKilled }

def handleAgentEvent (agentId : String) (report : ContainerReport) (info : EventMeta)
    (store : ContainerStore) : Except HandlerError ContainerStore :=
  if report.containerId = "" then .ok store
  else
    match checkLabelCount report with
    | some err => .error err
    | none =>
      let id : ContainerId := ⟨uidAgent agentId, report.containerId⟩
      if report.destroyed then .ok (store.processEvent (agentEvent agentId report info .destroy))
      else
        match store.lookup id with
        | none => .ok (store.insertAgentContainer agentId report info)
        | some c =>
          let store := if info.replayed then store
            else store.updateContainer id (Container.refresh report.labels)
              Container.id_refresh
          .ok ((store.reportHealth agentId report info c).reportState agentId report info)

/-- The containers of an agent that are there. -/
def present (agentId : String) (store : ContainerStore) : List Container :=
  store.containers.items.filter fun c => !c.archived && c.id.agent = agentId

def handleAgentInventory (agentId : String) (reported : List ContainerReport) (complete : Bool)
    (info : EventMeta) (now : Int) (store : ContainerStore) : Except HandlerError ContainerStore :=
  if reported = [] ∧ !complete then .ok store
  else if maxInventoryContainers < reported.length then
    .error ⟨true, "invalid agent event: inventory too large (" ++ toString reported.length ++
      " containers, limit " ++ toString maxInventoryContainers ++ ")"⟩
  else
    match reported.findSome? checkLabelCount with
    | some err => .error err
    | none => do
        let store ← reported.foldlM (fun store report =>
          store.handleAgentEvent agentId report info) store
        let gone := (store.present agentId).filter fun c =>
          c.id.external ∉ reported.map ContainerReport.containerId
        return gone.foldl (fun store c => store.archiveContainer c.id (unix now)) store

end ContainerStore

end Maintenant.Containers
