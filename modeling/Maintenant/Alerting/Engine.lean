import Maintenant.Alerting.AlertStore

/-!
# The alert engine

`processEvent` with its three outcomes (first fire, severity raise, recovery), `ResolveByEntity`,
`Acknowledge` and the reload at startup, each run on its own.  Store calls may fail: the environment
says which.  What an operation does besides the two tables is returned as a list of outputs.
-/

namespace Maintenant.Alerting

open Keyed

/-- Which of the optional dependencies are set. -/
structure EngineDeps where
  notifier : Bool
  broadcaster : Bool

/-- Everything an operation learns from the clock, the stores and the extensions. -/
structure Environment where
  now : Int
  /-- `GetActiveSilenceRules`; `none` when it fails. -/
  silenceRules : Option (List SilenceRule)
  /-- `IsSuppressed`; `none` when it fails. -/
  suppressed : Option Bool
  insertAlert : Bool
  /-- `UpdateAlertOnEscalation` succeeds. -/
  updateAlertOnEscalation : Bool
  getAlert : Bool
  /-- `UpdateAlertStatus` succeeds. -/
  updateAlertStatus : Bool
  /-- `ListEnabledTriggers`; `none` when it fails. -/
  triggers : Option (List AlertTrigger)
  /-- `GetChannel` finds an enabled channel. -/
  channelEnabled : String → Bool
  /-- `InsertDelivery` succeeds for a channel. -/
  insertDelivery : String → Bool

/-- Every store call succeeds. -/
def Environment.Reliable (env : Environment) : Prop :=
  env.insertAlert ∧ env.updateAlertOnEscalation ∧ env.getAlert ∧ env.updateAlertStatus

instance (env : Environment) : Decidable env.Reliable :=
  inferInstanceAs (Decidable (_ ∧ _ ∧ _ ∧ _))

/-- What listeners are told of an alert. -/
inductive Topic
  | fired
  | silenced
  | resolved

/-- What the engine does besides changing its map and the table. -/
inductive Output
  /-- A broadcast to the dashboard. -/
  | broadcast (topic : Topic) (payload : List (String × Value))
  /-- The broadcast of an acknowledged alert. -/
  | acknowledged (alert : Alert)
  | created (alert : Alert)
  | stopped (id : AlertId) (by_ : String) (at_ : Int)
  | ended (id : AlertId) (at_ : Int)
  /-- A notification queued for a channel. -/
  | notify (channel : String) (payload : List (String × Value))

/-- The map `activeAlerts` and the table. -/
structure Engine where
  active : Keyed Alert.key
  store : AlertStore

def Engine.empty : Engine where
  active := .empty Alert.key
  store := .empty

/-! ### Alerts made and changed in memory -/

def newAlert (evt : Event) (silenced : Bool) : Alert where
  id := 0
  source := evt.source
  alertType := evt.alertType
  severity := evt.severity
  status := if silenced then .silenced else .active
  message := evt.message
  entityType := evt.entityType
  entityId := evt.entityId
  entityName := evt.entityName
  agentId := uidAgent evt.agentId
  details := evt.detailsJSON
  resolvedById := none
  firedAt := evt.timestamp
  resolvedAt := none
  acknowledgedAt := none
  acknowledgedBy := ""
  escalatedAt := none
  createdAt := none

/-- The record a recovery of `original` makes. -/
def recoveryAlert (evt : Event) (original : Alert) : Alert :=
  { newAlert evt false with status := .resolved, agentId := original.agentId }

variable {alert : Alert} {row : Option Alert}

namespace Alert

/-- The fields a severity raise takes from its event. -/
def refresh (evt : Event) (alert : Alert) : Alert :=
  { alert with
    severity := evt.severity
    message := evt.message
    entityName := evt.entityName
    details := evt.detailsJSON }

/-- The fields a severity raise takes from the row it reads back. -/
def reload (row : Option Alert) (alert : Alert) : Alert :=
  match row with
  | none => alert
  | some row =>
    { alert with acknowledgedAt := row.acknowledgedAt, acknowledgedBy := row.acknowledgedBy }

def markResolved (at_ : Int) (alert : Alert) : Alert :=
  { alert with status := .resolved, resolvedAt := some at_ }

def markRecovered (at_ : Int) (recoveryId : AlertId) (alert : Alert) : Alert :=
  { alert.markResolved at_ with resolvedById := some recoveryId }

def concerns (entityType entityId : String) (alert : Alert) : Bool :=
  alert.entityType = entityType ∧ alert.entityId = entityId

theorem concerns_of_key {left right : Alert} (same : left.key = right.key)
    {entityType entityId : String} :
    left.concerns entityType entityId = right.concerns entityType entityId := by
  have types : left.entityType = right.entityType := congrArg ActiveAlertKey.entityType same
  have ids : left.entityId = right.entityId := congrArg ActiveAlertKey.entityId same
  rw [concerns, concerns, types, ids]

@[simp] theorem key_refresh {evt : Event} (alert : Alert) : (alert.refresh evt).key = alert.key :=
  rfl

@[simp] theorem key_reload : (alert.reload row).key = alert.key := by
  cases row <;> rfl

@[simp] theorem id_reload : (alert.reload row).id = alert.id := by
  cases row <;> rfl

end Alert

/-! ### Silence, broadcasts and notifications -/

section Operations

variable (deps : EngineDeps) (env : Environment)

def checkSilenceRules (evt : Event) : Bool :=
  match env.silenceRules with
  | none => false
  | some rules => rules.any (matchesSilenceRule · evt) || env.suppressed == some true

def broadcastAlert (alert : Alert) (silenced : Bool) : List Output :=
  if deps.broadcaster then
    [.broadcast (if silenced then .silenced else .fired) (alertToMap alert)]
  else []

def broadcastResolved (alert : Alert) : List Output :=
  if deps.broadcaster then [.broadcast .resolved (alertToMap alert)] else []

/-- Channels that get a delivery, in order.  A channel counts as served once it was found enabled,
even if its delivery could not be stored. -/
def deliveries : (channels served : List String) → List String
  | [], _ => []
  | channel :: channels, served =>
    if channel ∈ served then deliveries channels served
    else if env.channelEnabled channel then
      (if env.insertDelivery channel then [channel] else [])
        ++ deliveries channels (channel :: served)
    else deliveries channels served

/-- The channels of all triggers that match, as the loops visit them. -/
def triggeredChannels (routeBy : Alert) : List String :=
  ((env.triggers.getD []).filter (matchesTrigger · routeBy)).flatMap AlertTrigger.channelIds

def dispatchNotifications (routeBy payload : Alert) : List Output :=
  if deps.notifier then
    (deliveries env (triggeredChannels env routeBy) []).map (.notify · (alertToMap payload))
  else []

/-! ### Events -/

def raisedMessage (oldSeverity : String) (alert : Alert) : String :=
  "Severity raised from " ++ oldSeverity ++ " to " ++ alert.severity ++ ": " ++ alert.message

/-- The rest of `escalateAlert` once the entry is written back. -/
def escalationOutputs (oldSeverity : String) (alert : Alert) : List Output :=
  broadcastAlert deps alert false
    ++ (if alert.acknowledgedAt = none then [.created alert] else [])
    ++ dispatchNotifications deps env alert
      { alert with message := raisedMessage oldSeverity alert }

def escalateAlert (existing : Alert) (evt : Event) (engine : Engine) : Engine × List Output :=
  -- The map holds a pointer to `existing`, so its entry changes before anything is stored.
  let active := engine.active.update existing.key (Alert.refresh evt) Alert.key_refresh
  if env.updateAlertOnEscalation then
    let store := engine.store.updateAlertOnEscalation existing.id evt.severity evt.message
      evt.entityName evt.detailsJSON
    let row := if env.getAlert then store.getAlert existing.id else none
    let alert := (existing.refresh evt).reload row
    ({ active := active.insert alert, store }, escalationOutputs deps env existing.severity alert)
  else ({ engine with active }, [])

/-- The rest of `processEvent` for a new alert once it is stored. -/
def fireOutputs (alert : Alert) (silenced : Bool) : List Output :=
  broadcastAlert deps alert silenced
    ++ (if silenced then [] else .created alert :: dispatchNotifications deps env alert alert)

/-- `processEvent` for a key without an active alert. -/
def fireAlert (evt : Event) (engine : Engine) : Engine × List Output :=
  let silenced := checkSilenceRules env evt
  if env.insertAlert then
    let alert := engine.store.prepare env.now (newAlert evt silenced)
    let store := engine.store.insertAlert env.now (newAlert evt silenced)
    ({ active := if silenced then engine.active else engine.active.insert alert, store },
      fireOutputs deps env alert silenced)
  else (engine, [])

/-- The rest of `processRecovery` once the original alert is resolved. -/
def recoveryOutputs (evt : Event) (original : Alert) (recoveryId : AlertId) : List Output :=
  let resolved := original.markRecovered evt.timestamp recoveryId
  .ended original.id evt.timestamp :: broadcastResolved deps resolved
    ++ dispatchNotifications deps env resolved
      { resolved with message := evt.message, severity := evt.severity }

def processRecovery (evt : Event) (engine : Engine) : Engine × List Output :=
  match engine.active.lookup evt.key with
  | none => (engine, [])
  | some original =>
    -- The entry leaves the map before anything is stored.
    let active := engine.active.erase evt.key
    if env.insertAlert then
      let recoveryId := engine.store.nextId
      let store := engine.store.insertAlert env.now (recoveryAlert evt original)
      let store :=
        if env.updateAlertStatus then
          store.updateAlertStatus original.id .resolved (some evt.timestamp) (some recoveryId)
        else store
      ({ active, store }, recoveryOutputs deps env evt original recoveryId)
    else ({ engine with active }, [])

def processEvent (evt : Event) (engine : Engine) : Engine × List Output :=
  if evt.isRecover then processRecovery deps env evt engine
  else
    match engine.active.lookup evt.key with
    | none => fireAlert deps env evt engine
    | some existing =>
      if existing.rank < evt.rank then escalateAlert deps env existing evt engine
      else (engine, [])

end Operations

/-! ### Entity removal, acknowledgment and startup -/

/-- The loop of `ResolveByEntity` over the entries it took, one `UpdateAlertStatus` each. -/
def resolveEach (deps : EngineDeps) (now : Int) (updated : AlertId → Bool) :
    List Alert → AlertStore → AlertStore × List Output
  | [], store => (store, [])
  | alert :: alerts, store =>
    if updated alert.id then
      let after := resolveEach deps now updated alerts
        (store.updateAlertStatus alert.id .resolved (some now) none)
      (after.1, .ended alert.id now :: broadcastResolved deps (alert.markResolved now) ++ after.2)
    else resolveEach deps now updated alerts store

/-- `ResolveByEntity`.  Go visits the map in any order; the rows it updates are different ones. -/
def resolveByEntity (deps : EngineDeps) (now : Int) (updated : AlertId → Bool)
    (entityType entityId : String) (engine : Engine) : Engine × List Output :=
  let toResolve := engine.active.items.filter (Alert.concerns entityType entityId)
  let after := resolveEach deps now updated toResolve engine.store
  ({ active := engine.active.filter fun alert => !alert.concerns entityType entityId
     store := after.1 }, after.2)

/-- Errors of `Acknowledge`. -/
inductive AcknowledgeError
  | store
  | alertNotFound
  | notAcknowledgeable

/-- `Acknowledge`, where `read` and `written` say whether its two store calls succeed. -/
def acknowledge (deps : EngineDeps) (read written : Bool) (id : AlertId) (by_ : String) (now : Int)
    (engine : Engine) : Engine × Except AcknowledgeError (List Output) :=
  if !read then (engine, .error .store)
  else
    match engine.store.getAlert id with
    | none => (engine, .error .alertNotFound)
    | some row =>
      if !AlertStore.acknowledgeable row then (engine, .error .notAcknowledgeable)
      else if !written then (engine, .error .store)
      else
        let at_ := wholeSecond now
        let alert := { row with acknowledgedAt := some at_, acknowledgedBy := by_ }
        ({ engine with store := engine.store.acknowledgeAlert id by_ at_ },
          .ok ((if deps.broadcaster then [.acknowledged alert] else []) ++ [.stopped id by_ at_]))

/-- `reloadActiveAlerts` into an empty map. -/
def reloadActiveAlerts (store : AlertStore) : Engine where
  active := store.listActiveAlerts.foldl Keyed.insert (.empty Alert.key)
  store := store

theorem mem_rows_of_mem_reload {store : AlertStore}
    (mem : alert ∈ (reloadActiveAlerts store).active) :
    alert ∈ store.rows ∧ alert.status = .active := by
  rcases mem_of_mem_foldl_insert mem with old | listed
  · exact absurd old (not_mem_empty alert)
  · exact AlertStore.mem_listActiveAlerts.mp listed

/-! ### What is tracked -/

/-- The engine has an active alert under the key. -/
def Engine.tracks (engine : Engine) (key : ActiveAlertKey) : Bool :=
  (engine.active.lookup key).isSome

section Tracked

variable {deps : EngineDeps} {env : Environment} {evt : Event} {engine : Engine}
  {key : ActiveAlertKey}

theorem lookup_processEvent_of_ne (differs : key ≠ evt.key) :
    (processEvent deps env evt engine).1.active.lookup key = engine.active.lookup key := by
  rw [processEvent]
  split
  · rw [processRecovery]
    split
    · rfl
    · split
      · exact lookup_erase_of_ne differs
      · exact lookup_erase_of_ne differs
  · split
    · rw [fireAlert]
      split
      · split
        · rfl
        · exact lookup_insert_of_ne differs
      · rfl
    · rename_i existing found
      have here : existing.key = evt.key := (lookup_eq_some.mp found).2
      have ne : key ≠ existing.key := here ▸ differs
      split
      · have refreshed : (engine.active.update existing.key (Alert.refresh evt)
            Alert.key_refresh).lookup key = engine.active.lookup key := by
          rw [lookup_update_eq, if_neg ne]
        rw [escalateAlert]
        split
        · refine (lookup_insert_of_ne ?_).trans refreshed
          rw [Alert.key_reload]
          exact ne
        · exact refreshed
      · rfl

theorem tracks_processEvent_of_ne (differs : key ≠ evt.key) :
    (processEvent deps env evt engine).1.tracks key = engine.tracks key := by
  rw [Engine.tracks, lookup_processEvent_of_ne differs, Engine.tracks]

theorem tracks_processEvent_fired (fires : evt.isRecover = false)
    (fresh : engine.tracks evt.key = false) (stored : env.insertAlert = true)
    (loud : checkSilenceRules env evt = false) :
    (processEvent deps env evt engine).1.tracks evt.key = true := by
  have missing : engine.active.lookup evt.key = none := Option.not_isSome_iff_eq_none.mp
    (Bool.eq_false_iff.mp fresh)
  have tracked : (processEvent deps env evt engine).1.active =
      engine.active.insert (engine.store.prepare env.now (newAlert evt false)) := by
    simp only [processEvent, fires, missing, fireAlert, stored, loud, Bool.false_eq_true, if_false,
      if_true]
  have found := lookup_insert_self engine.active (engine.store.prepare env.now (newAlert evt false))
  have key_eq : (engine.store.prepare env.now (newAlert evt false)).key = evt.key := rfl
  rw [key_eq] at found
  rw [Engine.tracks, tracked, found]
  rfl

theorem tracks_processEvent_recovered (recovers : evt.isRecover = true) :
    (processEvent deps env evt engine).1.tracks evt.key = false := by
  rw [Engine.tracks, processEvent, if_pos recovers, processRecovery]
  cases found : engine.active.lookup evt.key with
  | none => simp [found]
  | some =>
    dsimp only
    split
    · simp [lookup_erase_self]
    · simp [lookup_erase_self]

theorem tracks_resolveByEntity (now : Int) (updated : AlertId → Bool)
    (entityType entityId : String) :
    (resolveByEntity deps now updated entityType entityId engine).1.tracks key =
      (engine.tracks key && !decide (key.entityType = entityType ∧ key.entityId = entityId)) := by
  rw [Engine.tracks, resolveByEntity, lookup_filter, Engine.tracks]
  cases found : engine.active.lookup key with
  | none => rfl
  | some alert =>
    have here : alert.key = key := (lookup_eq_some.mp found).2
    subst here
    rw [Option.filter_some]
    cases concerned : alert.concerns entityType entityId with
    | true =>
      have same : alert.key.entityType = entityType ∧ alert.key.entityId = entityId :=
        of_decide_eq_true concerned
      simp [same]
    | false =>
      have other : ¬(alert.key.entityType = entityType ∧ alert.key.entityId = entityId) :=
        of_decide_eq_false concerned
      simp [other]

end Tracked

/-! ### Fixed inputs -/

/-- An environment in which every call succeeds and nothing is silenced; one trigger sends
everything to the channel `ops`. -/
def calmEnvironment : Environment where
  now := 0
  silenceRules := some []
  suppressed := some false
  insertAlert := true
  updateAlertOnEscalation := true
  getAlert := true
  updateAlertStatus := true
  triggers := some [⟨"", "", "", true, ["ops"]⟩]
  channelEnabled _ := true
  insertDelivery _ := true

def endpointEvent (severity : String) (isRecover : Bool) : Event where
  source := "endpoint"
  alertType := "down"
  severity := severity
  isRecover := isRecover
  message := severity
  entityType := "endpoint"
  entityId := "e1"
  entityName := "shop"
  agentId := ""
  details := none
  timestamp := 0

end Maintenant.Alerting
