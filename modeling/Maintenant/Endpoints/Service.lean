import Maintenant.Alerting.Engine
import Maintenant.Endpoints.Store
import Maintenant.Multihost.Session

/-!
# The endpoint service

Check results, the thresholds at which they raise and end alerts, and the label synchronisations,
container events and sweeps that activate and deactivate endpoints, each run to its end over the
endpoint tables and the alert engine.  No store call fails, and the engine has processed the events
of a call when the next one starts.
-/

namespace Maintenant.Endpoints

open Alerting
open Multihost (EventMeta)

/-- The result of a probe. -/
structure CheckResult where
  /-- Id of its row, if the event that brought it has one. -/
  id : Option CheckId
  success : Bool
  /-- It answered, but its certificate is not trusted. -/
  degraded : Bool
  degradedReason : String
  responseTimeMs : Int
  httpStatus : Option Int
  errorMessage : String
  timestamp : Int
  replayed : Bool

/-- An endpoint that the labels of a container declare. -/
structure ParsedEndpoint where
  labelKey : String
  endpointType : EndpointType
  target : String
  config : EndpointConfig

/-- The endpoint tables and the engine. -/
structure EndpointMonitor where
  store : EndpointStore
  engine : Engine

def statusForResult (result : CheckResult) : EndpointStatus :=
  if result.success && result.degraded then .degraded
  else if result.success then .up
  else .down

/-! ### Thresholds -/

/-- A value of the details of an alert event. -/
inductive Detail
  | text (value : String)
  | number (value : Int)

/-- What the service is given. `uid` is the text of an id, in the source a hash that is taken to
tell endpoints apart. -/
structure ServiceDeps where
  engine : EngineDeps
  /-- How the details of an alert are encoded. -/
  json : List (String × Detail) → Option String
  uid : EndpointId → String
  uid_injective : Function.Injective uid

section Bare

/-! Ids can also be written out, and the other parts can be missing. -/

open List

/-- Write a text so that its end can be told from what follows. -/
def delimited (text : List Char) : List Char := text.flatMap (fun char => ['+', char]) ++ ['.']

theorem delimited_cons (char : Char) (text : List Char) :
    delimited (char :: text) = '+' :: char :: delimited text := rfl

theorem delimited_append_inj {left right rest others : List Char}
    (same : delimited left ++ rest = delimited right ++ others) : left = right ∧ rest = others := by
  induction left generalizing right with
  | nil =>
    cases right with
    | nil =>
      simp only [delimited, flatMap_nil, nil_append, cons_append, cons.injEq, true_and] at same
      exact ⟨rfl, same⟩
    | cons => simp [delimited] at same
  | cons char left ih =>
    cases right with
    | nil => simp [delimited] at same
    | cons =>
      rw [delimited_cons, delimited_cons] at same
      simp only [cons_append, cons.injEq, true_and] at same
      obtain ⟨rfl, same⟩ := same
      obtain ⟨rfl, rfl⟩ := ih same
      exact ⟨rfl, rfl⟩

/-- An id written out. -/
def EndpointId.text (id : EndpointId) : String :=
  String.ofList (delimited id.agent.toList ++
    (delimited id.containerName.toList ++ delimited id.labelKey.toList))

theorem EndpointId.text_injective : Function.Injective EndpointId.text := by
  rintro ⟨agent, name, key⟩ ⟨other_agent, other_name, other_key⟩ same
  obtain ⟨agents, rest⟩ := delimited_append_inj (String.ofList_injective same)
  obtain ⟨names, rest⟩ := delimited_append_inj rest
  have keys : key.toList = other_key.toList := by
    have ended : delimited key.toList ++ [] = delimited other_key.toList ++ [] := by
      rw [append_nil, append_nil, rest]
    exact (delimited_append_inj ended).1
  obtain rfl : agent = other_agent := String.toList_inj.mp agents
  obtain rfl : name = other_name := String.toList_inj.mp names
  obtain rfl : key = other_key := String.toList_inj.mp keys
  rfl

/-- No broadcasts, notifications or details. -/
def ServiceDeps.bare : ServiceDeps :=
  ⟨⟨false, false⟩, fun _ => none, EndpointId.text, EndpointId.text_injective⟩

end Bare

/-- `EndpointAlert`, whose type is whether it is a recovery. -/
structure EndpointAlert where
  /-- The threshold of recovery was crossed, not that of failure. -/
  recovery : Bool
  failures : Int
  successes : Int
  threshold : Int
  lastError : String

def evaluateCheckResult (ep : Endpoint) (result : CheckResult) : Option EndpointAlert :=
  if !result.success then
    if ep.config.failureThreshold ≤ ep.consecutiveFailures ∧ ep.alertState = .normal then
      some ⟨false, ep.consecutiveFailures, 0, ep.config.failureThreshold, result.errorMessage⟩
    else none
  else if ep.config.recoveryThreshold ≤ ep.consecutiveSuccesses ∧ ep.alertState = .alerting then
    some ⟨true, 0, ep.consecutiveSuccesses, ep.config.recoveryThreshold, ""⟩
  else none

/-- The state an alert leaves the endpoint in. -/
def EndpointAlert.alertState (al : EndpointAlert) : AlertState :=
  if al.recovery then .normal else .alerting

def displayName (ep : Endpoint) : String :=
  if ep.id.containerName = "" then ep.name else ep.id.containerName

section Events

variable (deps : ServiceDeps)

def endpointTrustEvent (ep : Endpoint) (result : CheckResult) : Option Event :=
  let evt : Event :=
    { source := "endpoint"
      alertType := "certificate_untrusted"
      severity := ""
      isRecover := false
      message := ""
      entityType := "endpoint"
      entityId := deps.uid ep.id
      entityName := displayName ep
      agentId := ep.id.agent
      details := none
      timestamp := result.timestamp }
  if result.degraded then
    some { evt with
      severity := "warning"
      message := "Endpoint " ++ ep.target ++
        " is reachable but its certificate is not trusted: " ++ result.degradedReason
      details := deps.json [("target", .text ep.target), ("reason", .text result.degradedReason)] }
  else if result.success then
    some { evt with
      severity := "info"
      isRecover := true
      message := "Endpoint " ++ ep.target ++ " now presents a trusted certificate" }
  else none

def endpointThresholdAlert (ep : Endpoint) (al : EndpointAlert) (now : Int) : Event :=
  let evt : Event :=
    { source := "endpoint"
      alertType := "consecutive_failure"
      severity := "critical"
      isRecover := false
      message := "Endpoint " ++ ep.target ++ " failed " ++ toString al.failures ++
        " consecutive checks"
      entityType := "endpoint"
      entityId := deps.uid ep.id
      entityName := displayName ep
      agentId := ep.id.agent
      details := deps.json [("target", .text ep.target), ("failures", .number al.failures),
        ("threshold", .number al.threshold), ("last_error", .text al.lastError)]
      timestamp := now }
  if al.recovery then
    { evt with
      severity := "info"
      isRecover := true
      message := "Endpoint " ++ ep.target ++ " recovered after " ++ toString al.successes ++
        " consecutive successes"
      details := deps.json [("target", .text ep.target), ("successes", .number al.successes),
        ("threshold", .number al.threshold)] }
  else evt

end Events

/-! ### Operations -/

/-- The row of a result; one without an id gets a new one. -/
def checkRow (endpointId : EndpointId) (result : CheckResult) (store : EndpointStore) :
    CheckRow where
  id := result.id.getD (.fresh store.nextUid)
  endpointId := endpointId
  success := result.success
  responseTimeMs := result.responseTimeMs
  httpStatus := result.httpStatus
  errorMessage := result.errorMessage
  timestamp := Agent.unix result.timestamp

/-- `InsertCheckResult`. -/
def EndpointStore.record (endpointId : EndpointId) (result : CheckResult) (store : EndpointStore) :
    EndpointStore :=
  let recorded := store.insertCheckResult (checkRow endpointId result store)
  if result.id.isSome then recorded else { recorded with nextUid := store.nextUid + 1 }

/-- What an agent reports of a target. -/
inductive ProbeStatus
  | unspecified
  | up
  | down
  | degraded
  deriving DecidableEq

/-- A probe result of an agent. -/
structure EndpointEvent where
  url : String
  status : ProbeStatus
  latencyMs : Int
  statusCode : Int
  /-- Why it failed, or why its certificate is not trusted. -/
  errorMessage : String
  deriving DecidableEq

/-- The result an agent's event is processed as. -/
def agentResult (agentId : String) (ev : EndpointEvent) (info : EventMeta) : CheckResult where
  id := if info.eventId = "" then none else some (.derived agentId info.eventId)
  success := ev.status = .up ∨ ev.status = .degraded
  degraded := ev.status = .degraded
  degradedReason := ev.errorMessage
  responseTimeMs := ev.latencyMs
  httpStatus := some ev.statusCode
  errorMessage := ev.errorMessage
  timestamp := info.observedAt
  replayed := info.replayed

/-- What a live result sets, but for the alert state, which it leaves. -/
def liveUpdate (ep : Endpoint) (result : CheckResult) : CheckUpdate where
  status := statusForResult result
  alertState := ep.alertState
  consecutiveFailures := if result.success then 0 else ep.consecutiveFailures + 1
  consecutiveSuccesses := if result.success then ep.consecutiveSuccesses + 1 else 0
  responseTimeMs := result.responseTimeMs
  httpStatus := result.httpStatus
  lastError := result.errorMessage

namespace EndpointMonitor

variable (deps : ServiceDeps)

/-- `emitAlert`, as far as the engine is concerned. -/
def emit (env : Environment) (engine : Engine) (evt : Event) : Engine :=
  (processEvent deps.engine env evt engine).1

def processCheckResult (env : Environment) (id : EndpointId) (result : CheckResult)
    (monitor : EndpointMonitor) : EndpointMonitor :=
  match monitor.store.getEndpointByID id with
  | none => monitor
  | some ep =>
    if result.replayed then { monitor with store := monitor.store.record id result }
    else
      let update := liveUpdate ep result
      let store := (monitor.store.updateCheckResult id update env.now).record id result
      let updated := update.apply env.now ep
      let engine := (endpointTrustEvent deps updated result).elim monitor.engine
        (emit deps env monitor.engine)
      match evaluateCheckResult updated result with
      | none => ⟨store, engine⟩
      | some al =>
        ⟨store.updateCheckResult id { update with alertState := al.alertState } env.now,
          emit deps env engine (endpointThresholdAlert deps updated al env.now)⟩

/-- `HandleAgentEvent`.  A result for a target without an active endpoint is dropped. -/
def handleAgentEvent (env : Environment) (agentId : String) (ev : EndpointEvent) (info : EventMeta)
    (monitor : EndpointMonitor) : EndpointMonitor :=
  if ev.url = "" then monitor
  else
    match monitor.store.getActiveAgentEndpointByTarget (uidAgent agentId) ev.url with
    | none => monitor
    | some ep => monitor.processCheckResult deps env ep.id (agentResult agentId ev info)

/-- Deactivate an endpoint and resolve its alerts. -/
def retire (now : Int) (monitor : EndpointMonitor) (id : EndpointId) : EndpointMonitor where
  store := monitor.store.deactivateEndpoint id
  engine := (resolveByEntity deps.engine now (fun _ => true) "endpoint" (deps.uid id)
    monitor.engine).1

/-- What a synchronisation reports for a declared endpoint. -/
def report (agent containerName externalId : String) (p : ParsedEndpoint) : EndpointReport where
  id := ⟨agent, containerName, p.labelKey⟩
  externalId := externalId
  endpointType := p.endpointType
  target := p.target
  config := p.config
  source := .label
  name := ""

/-- The endpoints stored for a container, by label. -/
def existingByKey (agent externalId : String) (store : EndpointStore) :
    Keyed fun e : Endpoint => e.id.labelKey :=
  (store.listEndpointsByExternalID agent externalId).foldl Keyed.insert (.empty _)

/-- Endpoints that the labels no longer declare. -/
def undeclared (agent externalId : String) (parsed : List ParsedEndpoint) (store : EndpointStore) :
    List EndpointId :=
  ((existingByKey agent externalId store).items.filter fun e =>
    e.id.labelKey ∉ parsed.map ParsedEndpoint.labelKey).map Endpoint.id

/-- What `SyncEndpoints` and `SyncAgentEndpoints` have in common. -/
def syncLabels (now : Int) (agent containerName externalId : String) (parsed : List ParsedEndpoint)
    (monitor : EndpointMonitor) : EndpointMonitor :=
  let gone := undeclared agent externalId parsed monitor.store
  let store := parsed.foldl
    (fun store p => store.upsertEndpoint (report agent containerName externalId p) now)
    monitor.store
  gone.foldl (retire deps now) { monitor with store }

/-- `SyncEndpoints`, given what `ParseEndpointLabels` reads off the labels. -/
def syncEndpoints (now : Int) (containerName externalId : String) (parsed : List ParsedEndpoint) :
    EndpointMonitor → EndpointMonitor :=
  syncLabels deps now localAgent containerName externalId parsed

def syncAgentEndpoints (now : Int) (agentId containerName externalId : String)
    (parsed : List ParsedEndpoint) : EndpointMonitor → EndpointMonitor :=
  syncLabels deps now (uidAgent agentId) containerName externalId parsed

/-- What the stop of its container sets on an endpoint. -/
def stoppedUpdate (ep : Endpoint) : CheckUpdate where
  status := .unknown
  alertState := ep.alertState
  consecutiveFailures := ep.consecutiveFailures
  consecutiveSuccesses := ep.consecutiveSuccesses
  responseTimeMs := 0
  httpStatus := none
  lastError := "container stopped"

def handleContainerStop (now : Int) (externalId : String) (monitor : EndpointMonitor) :
    EndpointMonitor :=
  { monitor with
    store := (monitor.store.listEndpointsByExternalID localAgent externalId).foldl
      (fun store ep => store.updateCheckResult ep.id (stoppedUpdate ep) now) monitor.store }

def handleContainerDestroy (now : Int) (externalId : String) (monitor : EndpointMonitor) :
    EndpointMonitor :=
  ((monitor.store.listEndpointsByExternalID localAgent externalId).map Endpoint.id).foldl
    (retire deps now) monitor

/-- The endpoints whose container was not seen. -/
def orphans (seen : List String) (store : EndpointStore) : List EndpointId :=
  ((store.listEndpoints .label).filter fun e => e.externalId ∉ seen).map Endpoint.id

def sweepOrphanedLabelEndpoints (now : Int) (seen : List String) (monitor : EndpointMonitor) :
    EndpointMonitor :=
  (orphans seen monitor.store).foldl (retire deps now) monitor

/-- `Delete`.  An endpoint that labels declare is refused while it is active. -/
def delete (now : Int) (id : EndpointId) (monitor : EndpointMonitor) : EndpointMonitor :=
  match monitor.store.getEndpointByID id with
  | none => monitor
  | some existing =>
    if existing.source ≠ .standalone ∧ existing.active then monitor
    else
      ⟨monitor.store.deleteEndpoint id,
        (resolveByEntity deps.engine now (fun _ => true) "endpoint" (deps.uid id)
          monitor.engine).1⟩

end EndpointMonitor

/-- A call of the service. -/
inductive EndpointAction
  /-- A check result, of the server's own probe or of an agent. -/
  | check (env : Environment) (id : EndpointId) (result : CheckResult)
  /-- The labels of a local container, also when it starts. -/
  | sync (now : Int) (containerName externalId : String) (parsed : List ParsedEndpoint)
  /-- The labels of an agent's container. -/
  | syncAgent (now : Int) (agentId containerName externalId : String)
      (parsed : List ParsedEndpoint)
  | stop (now : Int) (externalId : String)
  /-- A local container is destroyed. -/
  | destroy (now : Int) (externalId : String)
  /-- The sweep after a discovery of the local containers. -/
  | sweep (now : Int) (seen : List String)

def EndpointMonitor.perform (deps : ServiceDeps)
    (monitor : EndpointMonitor) : EndpointAction → EndpointMonitor
  | .check env id result => monitor.processCheckResult deps env id result
  | .sync now containerName externalId parsed =>
    monitor.syncEndpoints deps now containerName externalId parsed
  | .syncAgent now agentId containerName externalId parsed =>
    monitor.syncAgentEndpoints deps now agentId containerName externalId parsed
  | .stop now externalId => monitor.handleContainerStop now externalId
  | .destroy now externalId => monitor.handleContainerDestroy deps now externalId
  | .sweep now seen => monitor.sweepOrphanedLabelEndpoints deps now seen

/-- One call as a step that is always possible. -/
def EndpointMonitor.next (deps : ServiceDeps)
    (monitor : EndpointMonitor) (action : EndpointAction) : Option EndpointMonitor :=
  some (monitor.perform deps action)

def EndpointMonitor.empty : EndpointMonitor := ⟨⟨.empty _, .empty _, 0⟩, .empty⟩

end Maintenant.Endpoints
