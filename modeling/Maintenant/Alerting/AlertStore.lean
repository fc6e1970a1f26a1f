import Maintenant.Keyed
import Maintenant.Alerting.Model
import Mathlib.Data.List.Sort

/-!
# The alert table

The `alerts` table as rows with distinct ids.  Every statement of the alert store is one operation
here; a statement that fails is one the caller does not perform.
-/

namespace Maintenant.Alerting

open Keyed

/-- The `alerts` table. -/
structure AlertStore where
  rows : Keyed Alert.id
  nextId : AlertId
  fresh : ∀ row ∈ rows, row.id < nextId
  whole : ∀ row ∈ rows, row.stored = row

namespace AlertStore

def empty : AlertStore where
  rows := .empty Alert.id
  nextId := 0
  fresh row mem := absurd mem (not_mem_empty row)
  whole row mem := absurd mem (not_mem_empty row)

/-- What `InsertAlert` writes into the alert it is given. -/
def prepare (store : AlertStore) (now : Int) (alert : Alert) : Alert :=
  { alert with
    id := store.nextId
    agentId := uidAgent alert.agentId
    createdAt := some (alert.createdAt.getD now) }

/-- The row `InsertAlert` writes: it names no column for acknowledgment and escalation. -/
def newRow (store : AlertStore) (now : Int) (alert : Alert) : Alert :=
  { (store.prepare now alert).stored with
    acknowledgedAt := none
    acknowledgedBy := ""
    escalatedAt := none }

/-- `InsertAlert`; the alert it writes to is `prepare`. -/
def insertAlert (store : AlertStore) (now : Int) (alert : Alert) : AlertStore where
  rows := store.rows.insert (store.newRow now alert)
  nextId := store.nextId + 1
  fresh row mem := by
    rcases mem_insert.mp mem with ⟨old, -⟩ | rfl
    · exact (store.fresh row old).trans (Nat.lt_succ_self _)
    · exact Nat.lt_succ_self _
  whole row mem := by
    rcases mem_insert.mp mem with ⟨old, -⟩ | rfl
    · exact store.whole row old
    · simp [newRow, Alert.stored, Function.comp_def]

def getAlert (store : AlertStore) (id : AlertId) : Option Alert := store.rows.lookup id

/-- `UPDATE alerts SET … WHERE id = ?`. -/
def modify (store : AlertStore) (id : AlertId) (change : Alert → Alert)
    (keeps : ∀ row, (change row).id = row.id)
    (whole : ∀ row : Alert, row.stored = row → (change row).stored = change row) : AlertStore where
  rows := store.rows.update id change keeps
  nextId := store.nextId
  fresh row mem := by
    rcases (mem_update keeps).mp mem with ⟨old, -⟩ | ⟨old, old_mem, -, rfl⟩
    · exact store.fresh row old
    · rw [keeps]
      exact store.fresh old old_mem
  whole row mem := by
    rcases (mem_update keeps).mp mem with ⟨old, -⟩ | ⟨old, old_mem, -, rfl⟩
    · exact store.whole row old
    · exact whole old (store.whole old old_mem)

/-- The columns `UpdateAlertStatus` sets. -/
def setStatus (status : Status) (resolvedAt : Option Int) (resolvedById : Option AlertId)
    (row : Alert) : Alert :=
  { row with status, resolvedAt := resolvedAt.map wholeSecond, resolvedById }

def updateAlertStatus (store : AlertStore) (id : AlertId) (status : Status)
    (resolvedAt : Option Int) (resolvedById : Option AlertId) : AlertStore :=
  store.modify id (setStatus status resolvedAt resolvedById) (fun _ => rfl) (by
    intro row whole
    simp only [Alert.ext_iff, Alert.stored] at whole
    simp [Alert.stored, setStatus, Function.comp_def, whole])

/-- The columns `UpdateAlertOnEscalation` sets. -/
def setEscalation (severity message entityName details : String) (row : Alert) : Alert :=
  { row with severity, message, entityName, details }

def updateAlertOnEscalation (store : AlertStore) (id : AlertId)
    (severity message entityName details : String) : AlertStore :=
  store.modify id (setEscalation severity message entityName details) (fun _ => rfl) (by
    intro row whole
    simp only [Alert.ext_iff, Alert.stored] at whole
    simp [Alert.stored, setEscalation, whole])

/-- The condition of `AcknowledgeAlert`. -/
def acknowledgeable (row : Alert) : Bool := row.status = .active ∧ row.acknowledgedAt = none

/-- The columns `AcknowledgeAlert` sets, where its condition holds. -/
def setAcknowledged (by_ : String) (at_ : Int) (row : Alert) : Alert :=
  if acknowledgeable row then
    { row with acknowledgedAt := some (wholeSecond at_), acknowledgedBy := by_ }
  else row

def acknowledgeAlert (store : AlertStore) (id : AlertId) (by_ : String) (at_ : Int) : AlertStore :=
  store.modify id (setAcknowledged by_ at_)
    (by
      intro row
      unfold setAcknowledged
      split <;> rfl)
    (by
      intro row whole
      unfold setAcknowledged
      split
      · simp only [Alert.ext_iff, Alert.stored] at whole
        simp [Alert.stored, whole]
      · exact whole)

/-- `ListActiveAlerts`: latest first. -/
def listActiveAlerts (store : AlertStore) : List Alert :=
  (store.rows.items.filter (·.status = .active)).insertionSort
    fun left right => right.firedAt ≤ left.firedAt

/-- The condition of `DeleteInactiveAlertsOlderThan`. -/
def expired (before : Int) (row : Alert) : Bool :=
  row.status ≠ .active &&
    match row.resolvedAt <|> row.createdAt with
    | none => false
    | some instant => Agent.unix instant < Agent.unix before

def deleteInactiveAlertsOlderThan (store : AlertStore) (before : Int) : AlertStore where
  rows := store.rows.filter fun row => !expired before row
  nextId := store.nextId
  fresh row mem := store.fresh row (mem_filter.mp mem).1
  whole row mem := store.whole row (mem_filter.mp mem).1

/-! ### Rows after a statement -/

variable {store : AlertStore} {now : Int} {alert row : Alert}

theorem mem_insertAlert : row ∈ (store.insertAlert now alert).rows ↔
      row ∈ store.rows ∨ row = store.newRow now alert := by
  rw [insertAlert, mem_insert]
  constructor
  · rintro (⟨old, -⟩ | new)
    · exact .inl old
    · exact .inr new
  · rintro (old | new)
    · exact .inl ⟨old, (store.fresh row old).ne⟩
    · exact .inr new

theorem newRow_eq_stored (unacknowledged : alert.acknowledgedAt = none)
    (nobody : alert.acknowledgedBy = "") (unescalated : alert.escalatedAt = none) :
    store.newRow now alert = (store.prepare now alert).stored := by
  simp [newRow, prepare, Alert.stored, unacknowledged, nobody, unescalated]

variable {id : AlertId}

theorem mem_modify {change : Alert → Alert} (keeps : ∀ row, (change row).id = row.id)
    (whole : ∀ row : Alert, row.stored = row → (change row).stored = change row) :
    row ∈ (store.modify id change keeps whole).rows ↔
      row ∈ store.rows ∧ row.id ≠ id ∨ ∃ old ∈ store.rows, old.id = id ∧ change old = row :=
  mem_update keeps

theorem mem_updateAlertStatus {status : Status} {resolvedAt : Option Int}
    {resolvedById : Option AlertId} :
    row ∈ (store.updateAlertStatus id status resolvedAt resolvedById).rows ↔
      row ∈ store.rows ∧ row.id ≠ id ∨
        ∃ old ∈ store.rows, old.id = id ∧ setStatus status resolvedAt resolvedById old = row :=
  mem_modify _ _

theorem mem_updateAlertOnEscalation {severity message entityName details : String} :
    row ∈ (store.updateAlertOnEscalation id severity message entityName details).rows ↔
      row ∈ store.rows ∧ row.id ≠ id ∨ ∃ old ∈ store.rows, old.id = id ∧
          setEscalation severity message entityName details old = row :=
  mem_modify _ _

theorem mem_listActiveAlerts :
    row ∈ store.listActiveAlerts ↔ row ∈ store.rows ∧ row.status = .active := by
  rw [listActiveAlerts, List.mem_insertionSort, List.mem_filter, decide_eq_true_eq]
  exact .rfl

variable {before : Int}

theorem expired_eq_false_of_active (active : row.status = .active) :
    expired before row = false := by
  simp [expired, active]

end AlertStore

end Maintenant.Alerting
