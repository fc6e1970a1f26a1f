import Maintenant.Agent.Event
import Mathlib.Data.List.DropRight

/-!
# Alerts and how they are routed

Alert events, alert records, silence rules and triggers as the alert engine reads them, and the
rendering under which an alert leaves the engine.  Instants are nanoseconds since the epoch; the
database and every rendering keep whole seconds only.
-/

namespace Maintenant.Alerting

open Agent (unix nanosPerSecond)

/-- Alert ids.  `uid.New` mints a fresh time-ordered UUID; only freshness is used. -/
abbrev AlertId := Nat

/-- Status of an alert record. -/
inductive Status
  | active
  | resolved
  | silenced
  deriving DecidableEq

/-- What identifies an active alert for deduplication and recovery. -/
structure ActiveAlertKey where
  source : String
  alertType : String
  entityType : String
  entityId : String
  deriving DecidableEq

/-- An alert event sent by a monitoring service. -/
structure Event where
  source : String
  alertType : String
  severity : String
  isRecover : Bool
  message : String
  entityType : String
  entityId : String
  entityName : String
  /-- Host of the entity; empty for the local runtime. -/
  agentId : String
  /-- JSON text of the details; `none` when there are none or they cannot be serialized. -/
  details : Option String
  timestamp : Int

/-- A row of `alerts`, and an entry of the map. -/
@[ext] structure Alert where
  id : AlertId
  source : String
  alertType : String
  severity : String
  status : Status
  message : String
  entityType : String
  entityId : String
  entityName : String
  agentId : String
  details : String
  resolvedById : Option AlertId
  firedAt : Int
  resolvedAt : Option Int
  acknowledgedAt : Option Int
  acknowledgedBy : String
  escalatedAt : Option Int
  /-- When the record was made; `none` is Go's zero time. -/
  createdAt : Option Int
  deriving DecidableEq

def Event.key (evt : Event) : ActiveAlertKey where
  source := evt.source
  alertType := evt.alertType
  entityType := evt.entityType
  entityId := evt.entityId

def Alert.key (alert : Alert) : ActiveAlertKey where
  source := alert.source
  alertType := alert.alertType
  entityType := alert.entityType
  entityId := alert.entityId

/-- Numeric rank for severity comparison, higher is more severe. -/
def severityRank (severity : String) : Int :=
  if severity = "info" then 0
  else if severity = "warning" then 1
  else if severity = "critical" then 2
  else -1

def Event.rank (evt : Event) : Int := severityRank evt.severity

def Alert.rank (alert : Alert) : Int := severityRank alert.severity

/-- `detailsJSON`: the details as stored. -/
def Event.detailsJSON (evt : Event) : String := evt.details.getD "\x7b\x7d"

def localAgent : String := "00000000-0000-0000-0000-000000000000"

/-- The blanks `strings.TrimSpace` removes. -/
def isSpace (char : Char) : Bool :=
  let code := char.toNat
  9 ≤ code ∧ code ≤ 13 ∨ code = 32 ∨ code = 0x85 ∨ code = 0xA0 ∨ code = 0x1680 ∨
    0x2000 ≤ code ∧ code ≤ 0x200A ∨ code = 0x2028 ∨ code = 0x2029 ∨ code = 0x202F ∨
    code = 0x205F ∨ code = 0x3000

/-- `uid.Agent`: a blank agent id means the local runtime. -/
def uidAgent (agentId : String) : String :=
  if agentId.toList.all isSpace then localAgent else agentId

/-! ### Whole seconds -/

/-- An instant as read back from a column of Unix seconds. -/
def wholeSecond (instant : Int) : Int := unix instant * nanosPerSecond

@[simp] theorem unix_wholeSecond (instant : Int) : unix (wholeSecond instant) = unix instant := by
  simp only [wholeSecond, unix, nanosPerSecond]
  omega

@[simp] theorem wholeSecond_wholeSecond (instant : Int) :
    wholeSecond (wholeSecond instant) = wholeSecond instant := by
  rw [wholeSecond, unix_wholeSecond, wholeSecond]

/-- An alert as read back from the database: instants have lost their fraction of a second. -/
def Alert.stored (alert : Alert) : Alert :=
  { alert with
    firedAt := wholeSecond alert.firedAt
    resolvedAt := alert.resolvedAt.map wholeSecond
    acknowledgedAt := alert.acknowledgedAt.map wholeSecond
    escalatedAt := alert.escalatedAt.map wholeSecond
    createdAt := alert.createdAt.map wholeSecond }

@[simp] theorem Alert.stored_stored (alert : Alert) : alert.stored.stored = alert.stored := by
  simp [Alert.stored, Function.comp_def]

variable {alert : Alert}

@[simp] theorem Alert.key_stored : alert.stored.key = alert.key := rfl

/-! ### Rendering -/

/-- A value of a rendered alert. -/
inductive Value
  | text (value : String)
  | id (value : AlertId)
  | status (value : Status)
  /-- An RFC 3339 time in UTC, which has whole seconds. -/
  | time (seconds : Int)
  deriving DecidableEq

/-- An instant formatted with `time.RFC3339`, in UTC. -/
def Value.ofInstant (instant : Int) : Value := .time (unix instant)

/-- A creation time formatted with `time.RFC3339`, in UTC. -/
def Value.ofCreatedAt : Option Int → Value
  | none => .text "0001-01-01T00:00:00Z"
  | some instant => .ofInstant instant

def optionalEntry (name : String) (value : Option Value) : List (String × Value) :=
  match value with
  | none => []
  | some value => [(name, value)]

/-- The rendering of an alert in broadcasts and notifications.  `details` stays the JSON text, from
which the source's map is parsed. -/
def alertToMap (alert : Alert) : List (String × Value) :=
  [("id", .id alert.id), ("source", .text alert.source), ("alert_type", .text alert.alertType),
    ("severity", .text alert.severity), ("status", .status alert.status),
    ("message", .text alert.message), ("entity_type", .text alert.entityType),
    ("entity_id", .text alert.entityId), ("entity_name", .text alert.entityName),
    ("agent_id", .text alert.agentId), ("fired_at", .ofInstant alert.firedAt),
    ("created_at", .ofCreatedAt alert.createdAt)]
  ++ (if alert.details ≠ "" ∧ alert.details ≠ "\x7b\x7d" then [("details", .text alert.details)]
    else [])
  ++ optionalEntry "resolved_by_id" (alert.resolvedById.map .id)
  ++ optionalEntry "resolved_at" (alert.resolvedAt.map .ofInstant)
  ++ optionalEntry "acknowledged_at" (alert.acknowledgedAt.map .ofInstant)
  ++ (if alert.acknowledgedBy ≠ "" then [("acknowledged_by", .text alert.acknowledgedBy)] else [])
  ++ optionalEntry "escalated_at" (alert.escalatedAt.map .ofInstant)

theorem Value.ofInstant_wholeSecond {instant : Int} :
    Value.ofInstant (wholeSecond instant) = Value.ofInstant instant := by
  rw [Value.ofInstant, unix_wholeSecond, Value.ofInstant]

@[simp] theorem alertToMap_stored : alertToMap alert.stored = alertToMap alert := by
  have instants (instant : Option Int) :
      (instant.map wholeSecond).map Value.ofInstant = instant.map Value.ofInstant := by
    rw [Option.map_map]
    exact Option.map_congr fun _ _ => Value.ofInstant_wholeSecond
  have created : Value.ofCreatedAt (alert.createdAt.map wholeSecond) =
      Value.ofCreatedAt alert.createdAt := by
    cases alert.createdAt with
    | none => rfl
    | some => exact Value.ofInstant_wholeSecond
  simp only [alertToMap, Alert.stored, instants, created, Value.ofInstant_wholeSecond]
  rfl

/-! ### Silence rules -/

/-- A silence rule; empty texts and a missing entity id match everything. -/
structure SilenceRule where
  entityType : String
  entityId : Option String
  source : String
  deriving DecidableEq

def matchesSilenceRule (rule : SilenceRule) (evt : Event) : Bool :=
  if rule.entityType = "" ∧ rule.source = "" ∧ rule.entityId = none then true
  else if rule.source ≠ "" ∧ rule.source ≠ evt.source then false
  else if rule.entityType ≠ "" ∧ rule.entityType ≠ evt.entityType then false
  else if rule.entityId ≠ none ∧ rule.entityId ≠ some evt.entityId then false
  else true

/-! ### Triggers -/

/-- A routing rule from alerts to channels; filters are comma-separated lists. -/
structure AlertTrigger where
  filterSeverities : String
  filterSources : String
  /-- Entities it accepts, each as `type:id`. -/
  filterScopes : String
  notifyOnResolve : Bool
  channelIds : List String

/-- Remove spaces, and no other blanks, at both ends. -/
def trimSpace (text : List Char) : List Char :=
  (text.dropWhile (· = ' ')).rdropWhile (· = ' ')

/-- The non-empty items of a comma-separated list. -/
def splitCSV (text : String) : List String :=
  (((text.toList.splitOn ',').map trimSpace).filter (· ≠ [])).map String.ofList

/-- Whether a comma-separated list has an item. -/
def containsCSV (csv value : String) : Bool := value ∈ splitCSV csv

/-- Whether an alert meets all of a trigger's non-empty filters. -/
def matchesTrigger (trigger : AlertTrigger) (alert : Alert) : Bool :=
  if alert.status = .resolved ∧ !trigger.notifyOnResolve then false
  else if trigger.filterSeverities ≠ "" ∧ !containsCSV trigger.filterSeverities alert.severity then
    false
  else if trigger.filterSources ≠ "" ∧ !containsCSV trigger.filterSources alert.source then false
  else if trigger.filterScopes ≠ "" ∧
      !containsCSV trigger.filterScopes (alert.entityType ++ ":" ++ alert.entityId) then false
  else true

@[simp] theorem matchesTrigger_stored {trigger : AlertTrigger} :
    matchesTrigger trigger alert.stored = matchesTrigger trigger alert := rfl

example : splitCSV " critical, warning ,,info" = ["critical", "warning", "info"] := by decide

end Maintenant.Alerting
