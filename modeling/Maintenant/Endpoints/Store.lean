import Maintenant.Agent.Event
import Maintenant.Keyed

/-!
# Endpoints and their check results

The rows of `endpoints` and `check_results`, and the statements on them.
-/

namespace Maintenant.Endpoints

open List Keyed
open Agent (unix)

/-! ### Ids -/

/-- `uid.EndpointLabel`: the id of an endpoint is derived from its agent, its container's name and
its label. -/
structure EndpointId where
  agent : String
  /-- Name of its container; empty for a standalone endpoint. -/
  containerName : String
  labelKey : String
  deriving DecidableEq

/-- Id of a check result. -/
inductive CheckId
  | fresh (number : Nat)
  /-- `uid.EventRecord`: derived from the event of an agent that brought the result. -/
  | derived (agent event : String)
  deriving DecidableEq

/-! ### Rows -/

/-- How an endpoint is probed. -/
inductive EndpointType
  | http
  | tcp
  deriving DecidableEq

/-- What the last check found. -/
inductive EndpointStatus
  | up
  | down
  /-- It answers, but its certificate is not trusted. -/
  | degraded
  | unknown
  deriving DecidableEq

/-- Whether an alert was raised. -/
inductive AlertState
  | normal
  | alerting
  deriving DecidableEq

/-- Who created the endpoint. -/
inductive EndpointSource
  | label
  | standalone
  deriving DecidableEq

/-- Thresholds and the settings of the probe. -/
structure EndpointConfig where
  failureThreshold : Int
  recoveryThreshold : Int
  probe : String
  deriving DecidableEq

/-- A row of `endpoints`. -/
structure Endpoint where
  /-- Id, with the agent, the container's name and the label. -/
  id : EndpointId
  externalId : String
  endpointType : EndpointType
  target : String
  status : EndpointStatus
  alertState : AlertState
  consecutiveFailures : Int
  consecutiveSuccesses : Int
  lastCheckAt : Option Int
  lastResponseTimeMs : Option Int
  lastHTTPStatus : Option Int
  lastError : String
  config : EndpointConfig
  active : Bool
  firstSeenAt : Int
  lastSeenAt : Int
  source : EndpointSource
  name : String
  deriving DecidableEq

/-- A row of `check_results`. -/
structure CheckRow where
  id : CheckId
  endpointId : EndpointId
  success : Bool
  responseTimeMs : Int
  httpStatus : Option Int
  errorMessage : String
  timestamp : Int
  deriving DecidableEq

/-- The endpoint tables. -/
structure EndpointStore where
  endpoints : Keyed Endpoint.id
  results : Keyed CheckRow.id
  nextUid : Nat

/-- What `UpsertEndpoint` is given. -/
structure EndpointReport where
  id : EndpointId
  externalId : String
  endpointType : EndpointType
  target : String
  config : EndpointConfig
  source : EndpointSource
  name : String

/-- The row of an endpoint that is seen for the first time. -/
def EndpointReport.created (report : EndpointReport) (now : Int) : Endpoint where
  id := report.id
  externalId := report.externalId
  endpointType := report.endpointType
  target := report.target
  status := .unknown
  alertState := .normal
  consecutiveFailures := 0
  consecutiveSuccesses := 0
  lastCheckAt := none
  lastResponseTimeMs := none
  lastHTTPStatus := none
  lastError := ""
  config := report.config
  active := true
  firstSeenAt := unix now
  lastSeenAt := unix now
  source := report.source
  name := report.name

def EndpointReport.updates (report : EndpointReport) (now : Int) (e : Endpoint) : Endpoint :=
  { e with
    externalId := report.externalId
    endpointType := report.endpointType
    target := report.target
    config := report.config
    active := true
    lastSeenAt := unix now }

variable {now : Int}

@[simp] theorem EndpointReport.id_updates (report : EndpointReport) (e : Endpoint) :
    (report.updates now e).id = e.id := rfl

def Endpoint.deactivated (e : Endpoint) : Endpoint := { e with active := false }

@[simp] theorem Endpoint.id_deactivated (e : Endpoint) : e.deactivated.id = e.id := rfl

/-- The columns `UpdateCheckResult` sets. -/
structure CheckUpdate where
  status : EndpointStatus
  alertState : AlertState
  consecutiveFailures : Int
  consecutiveSuccesses : Int
  responseTimeMs : Int
  httpStatus : Option Int
  lastError : String

/-- What `UpdateCheckResult` makes of a row. -/
def CheckUpdate.apply (update : CheckUpdate) (now : Int) (e : Endpoint) : Endpoint :=
  { e with
    status := update.status
    alertState := update.alertState
    consecutiveFailures := update.consecutiveFailures
    consecutiveSuccesses := update.consecutiveSuccesses
    lastCheckAt := some (unix now)
    lastResponseTimeMs := some update.responseTimeMs
    lastHTTPStatus := update.httpStatus
    lastError := update.lastError }

@[simp] theorem CheckUpdate.id_apply (update : CheckUpdate) (e : Endpoint) :
    (update.apply now e).id = e.id := rfl

namespace EndpointStore

/-! ### Statements -/

def getEndpointByID (store : EndpointStore) (id : EndpointId) : Option Endpoint :=
  store.endpoints.lookup id

def upsertEndpoint (report : EndpointReport) (now : Int) (store : EndpointStore) : EndpointStore :=
  { store with
    endpoints :=
      if (store.getEndpointByID report.id).isSome then
        store.endpoints.update report.id (report.updates now) report.id_updates
      else store.endpoints.insert (report.created now) }

def listEndpointsByExternalID (agent externalId : String) (store : EndpointStore) :
    List Endpoint :=
  store.endpoints.items.filter fun e => e.id.agent = agent ∧ e.externalId = externalId ∧ e.active

/-- `ListEndpoints` of the active endpoints of a source. -/
def listEndpoints (source : EndpointSource) (store : EndpointStore) : List Endpoint :=
  store.endpoints.items.filter fun e => e.active ∧ e.source = source

def getActiveAgentEndpointByTarget (agent target : String) (store : EndpointStore) :
    Option Endpoint :=
  store.endpoints.items.find? fun e => e.id.agent = agent ∧ e.target = target ∧ e.active

def deactivateEndpoint (id : EndpointId) (store : EndpointStore) : EndpointStore :=
  { store with
    endpoints := store.endpoints.update id Endpoint.deactivated Endpoint.id_deactivated }

def updateCheckResult (id : EndpointId) (update : CheckUpdate) (now : Int) (store : EndpointStore) :
    EndpointStore :=
  { store with endpoints := store.endpoints.update id (update.apply now) update.id_apply }

/-- `InsertCheckResult` of a row that has an id. -/
def insertCheckResult (row : CheckRow) (store : EndpointStore) : EndpointStore :=
  { store with results := store.results.upsert row }

def deleteCheckResultsBefore (before : Int) (store : EndpointStore) : EndpointStore :=
  { store with results := store.results.filter fun row => ¬row.timestamp < unix before }

/-- The endpoint is inactive and was last seen before an instant. -/
def retired (before : Int) (e : Endpoint) : Bool := !e.active && e.lastSeenAt < unix before

def deleteInactiveEndpointsBefore (before : Int) (store : EndpointStore) : EndpointStore :=
  { store with
    results := store.results.filter fun row =>
      ¬∃ e ∈ store.endpoints.items, e.id = row.endpointId ∧ retired before e
    endpoints := store.endpoints.filter fun e => !retired before e }

def deleteEndpoint (id : EndpointId) (store : EndpointStore) : EndpointStore :=
  { store with
    results := store.results.filter fun row => row.endpointId ≠ id
    endpoints := store.endpoints.erase id }

/-! ### What is found afterwards -/

section Lookup

variable (store : EndpointStore) (id other : EndpointId)

theorem getEndpointByID_upsert (report : EndpointReport) (now : Int) :
    (store.upsertEndpoint report now).getEndpointByID other = if other = report.id then
        some ((store.getEndpointByID other).elim (report.created now) (report.updates now))
      else store.getEndpointByID other := by
  cases found : store.getEndpointByID report.id with
  | none =>
    have created : (store.upsertEndpoint report now).endpoints =
        store.endpoints.insert (report.created now) := by
      rw [upsertEndpoint, found]
      rfl
    rw [getEndpointByID, created]
    split
    next same =>
      rw [same, found]
      exact lookup_insert_self store.endpoints (report.created now)
    next differs => exact lookup_insert_of_ne differs
  | some e =>
    have updated : (store.upsertEndpoint report now).endpoints =
        store.endpoints.update report.id (report.updates now) report.id_updates := by
      rw [upsertEndpoint, found]
      rfl
    rw [getEndpointByID, updated, lookup_update_eq]
    split
    next same =>
      have there : store.endpoints.lookup report.id = some e := found
      rw [same, found, there]
      rfl
    · rfl

theorem getEndpointByID_deactivate : (store.deactivateEndpoint id).getEndpointByID other =
      if other = id then (store.getEndpointByID other).map Endpoint.deactivated
      else store.getEndpointByID other :=
  lookup_update_eq Endpoint.id_deactivated other

theorem getEndpointByID_updateCheckResult (update : CheckUpdate) (now : Int) :
    (store.updateCheckResult id update now).getEndpointByID other =
      if other = id then (store.getEndpointByID other).map (update.apply now)
      else store.getEndpointByID other :=
  lookup_update_eq update.id_apply other

variable {store}

theorem getEndpointByID_of_mem {e : Endpoint} (mem : e ∈ store.endpoints) :
    store.getEndpointByID e.id = some e :=
  lookup_eq_some.mpr ⟨mem, rfl⟩

end Lookup

end EndpointStore

end Maintenant.Endpoints
