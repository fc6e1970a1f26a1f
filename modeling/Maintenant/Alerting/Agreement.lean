import Maintenant.Alerting.Engine

/-!
# Memory against the table

The entries of `activeAlerts` and the rows the table holds as active, compared by key, id, severity
and status.  A severity raise, a recovery and an entity removal change the map before they call the
store, so agreement lasts exactly as long as those store calls succeed.
-/

namespace Maintenant.Alerting

open Keyed Execution AlertStore

/-- What is compared of an alert. -/
structure Entry where
  key : ActiveAlertKey
  id : AlertId
  severity : String
  status : Status
  deriving DecidableEq

def Alert.entry (alert : Alert) : Entry where
  key := alert.key
  id := alert.id
  severity := alert.severity
  status := alert.status

/-- The entries of `activeAlerts`. -/
def trackedEntries (active : Keyed Alert.key) : List Entry := active.items.map Alert.entry

def AlertStore.activeEntries (store : AlertStore) : List Entry :=
  (store.rows.items.filter (·.status = .active)).map Alert.entry

/-- The map and the table have the same entries. -/
def Engine.Agrees (engine : Engine) : Prop :=
  (∀ entry ∈ trackedEntries engine.active, entry ∈ engine.store.activeEntries) ∧
    ∀ entry ∈ engine.store.activeEntries, entry ∈ trackedEntries engine.active

instance (engine : Engine) : Decidable engine.Agrees :=
  inferInstanceAs (Decidable (_ ∧ _))

/-- One operation of the engine with the answers of its environment. -/
inductive Call
  | process (env : Environment) (evt : Event)
  | resolveByEntity (now : Int) (updated : AlertId → Bool) (entityType entityId : String)
  | acknowledge (read written : Bool) (id : AlertId) (by_ : String) (now : Int)
  | deleteInactive (before : Int)

def Engine.perform (deps : EngineDeps) (engine : Engine) : Call → Engine
  | .process env evt => (processEvent deps env evt engine).1
  | .resolveByEntity now updated entityType entityId =>
    (Alerting.resolveByEntity deps now updated entityType entityId engine).1
  | .acknowledge read written id by_ now =>
    (Alerting.acknowledge deps read written id by_ now engine).1
  | .deleteInactive before =>
    { engine with store := engine.store.deleteInactiveAlertsOlderThan before }

def Engine.next (deps : EngineDeps) (engine : Engine) (call : Call) : Option Engine :=
  some (engine.perform deps call)

/-- The store calls behind a change of the map succeed: those of a recovery, of a severity raise and
of a removed entity's alerts. -/
def Engine.Persists (engine : Engine) : Call → Prop
  | .process env evt =>
    match engine.active.lookup evt.key with
    | none => True
    | some existing =>
      if evt.isRecover then env.insertAlert ∧ env.updateAlertStatus
      else existing.rank < evt.rank → env.updateAlertOnEscalation
  | .resolveByEntity _ updated entityType entityId =>
    ∀ alert ∈ engine.active.items, alert.concerns entityType entityId → updated alert.id
  | .acknowledge .. => True
  | .deleteInactive _ => True

@[simp] theorem Alert.entry_reload (row : Option Alert) (alert : Alert) :
    (alert.reload row).entry = alert.entry := by
  cases row <;> rfl

/-! ### Entries of the table -/

variable {deps : EngineDeps} {by_ : String} {updated : AlertId → Bool} {alert : Alert} {at_ : Int}
  {severity : String} {right left : Entry}

namespace AlertStore

variable {store : AlertStore} {entry : Entry}

theorem mem_activeEntries :
    entry ∈ store.activeEntries ↔ ∃ row ∈ store.rows, row.status = .active ∧ row.entry = entry := by
  simp only [activeEntries, List.mem_map, List.mem_filter, decide_eq_true_eq, and_assoc]
  exact .rfl

theorem activeEntries_eq_of_id (left_mem : left ∈ store.activeEntries)
    (right_mem : right ∈ store.activeEntries) (same : left.id = right.id) : left = right := by
  obtain ⟨row, row_mem, -, rfl⟩ := mem_activeEntries.mp left_mem
  obtain ⟨other, other_mem, -, rfl⟩ := mem_activeEntries.mp right_mem
  rw [eq_of_key row_mem other_mem same]

variable {now : Int}

theorem activeEntries_insertAlert :
    entry ∈ (store.insertAlert now alert).activeEntries ↔ entry ∈ store.activeEntries ∨
        alert.status = .active ∧ entry = (store.prepare now alert).entry := by
  simp only [mem_activeEntries, mem_insertAlert]
  constructor
  · rintro ⟨row, old | rfl, active, rfl⟩
    · exact .inl ⟨row, old, active, rfl⟩
    · exact .inr ⟨active, rfl⟩
  · rintro (⟨row, old, active, rfl⟩ | ⟨active, rfl⟩)
    · exact ⟨row, .inl old, active, rfl⟩
    · exact ⟨store.newRow now alert, .inr rfl, active, rfl⟩

variable {id : AlertId}

theorem activeEntries_updateAlertStatus {at_ : Option Int} {by_ : Option AlertId} :
    entry ∈ (store.updateAlertStatus id .resolved at_ by_).activeEntries ↔
      entry ∈ store.activeEntries ∧ entry.id ≠ id := by
  simp only [mem_activeEntries, mem_updateAlertStatus]
  constructor
  · rintro ⟨row, ⟨old, other⟩ | ⟨old, -, -, rfl⟩, active, rfl⟩
    · exact ⟨⟨row, old, active, rfl⟩, other⟩
    · cases active
  · rintro ⟨⟨row, old, active, rfl⟩, other⟩
    exact ⟨row, .inl ⟨old, other⟩, active, rfl⟩

theorem activeEntries_updateAlertOnEscalation {message entityName details : String} :
    entry ∈ (store.updateAlertOnEscalation id severity message entityName details).activeEntries ↔
      entry ∈ store.activeEntries ∧ entry.id ≠ id ∨
        ∃ old ∈ store.activeEntries, old.id = id ∧ entry = { old with severity } := by
  simp only [mem_activeEntries, mem_updateAlertOnEscalation]
  constructor
  · rintro ⟨row, ⟨old, other⟩ | ⟨old, mem, this, rfl⟩, active, rfl⟩
    · exact .inl ⟨⟨row, old, active, rfl⟩, other⟩
    · exact .inr ⟨old.entry, ⟨old, mem, active, rfl⟩, this, rfl⟩
  rintro (⟨⟨row, old, active, rfl⟩, other⟩ | ⟨-, ⟨row, old, active, rfl⟩, this, rfl⟩)
  · exact ⟨row, .inl ⟨old, other⟩, active, rfl⟩
  · exact ⟨setEscalation severity message entityName details row,
      .inr ⟨row, old, this, rfl⟩, active, rfl⟩

theorem setAcknowledged_entry {row : Alert} : (setAcknowledged by_ at_ row).entry = row.entry := by
  unfold setAcknowledged
  split <;> rfl

theorem setAcknowledged_status (by_ : String) (at_ : Int) (row : Alert) :
    (setAcknowledged by_ at_ row).status = row.status :=
  congrArg Entry.status setAcknowledged_entry

theorem activeEntries_acknowledgeAlert :
    entry ∈ (store.acknowledgeAlert id by_ at_).activeEntries ↔ entry ∈ store.activeEntries := by
  simp only [mem_activeEntries, acknowledgeAlert, mem_modify]
  constructor
  · rintro ⟨row, ⟨old, -⟩ | ⟨old, mem, -, rfl⟩, active, rfl⟩
    · exact ⟨row, old, active, rfl⟩
    · rw [setAcknowledged_status] at active
      exact ⟨old, mem, active, setAcknowledged_entry.symm⟩
  rintro ⟨row, old, active, rfl⟩
  by_cases this : row.id = id
  · refine ⟨setAcknowledged by_ at_ row, .inr ⟨row, old, this, rfl⟩, ?_, ?_⟩
    · rw [setAcknowledged_status, active]
    · exact setAcknowledged_entry
  · exact ⟨row, .inl ⟨old, this⟩, active, rfl⟩

theorem activeEntries_deleteInactive {before : Int} :
    entry ∈ (store.deleteInactiveAlertsOlderThan before).activeEntries ↔
      entry ∈ store.activeEntries := by
  simp only [mem_activeEntries, deleteInactiveAlertsOlderThan, mem_filter,
    Bool.not_eq_true']
  constructor
  · rintro ⟨row, ⟨old, -⟩, active, rfl⟩
    exact ⟨row, old, active, rfl⟩
  · rintro ⟨row, old, active, rfl⟩
    exact ⟨row, ⟨old, expired_eq_false_of_active active⟩, active, rfl⟩

theorem activeEntries_resolveEach {alerts : List Alert} :
    entry ∈ (resolveEach deps now updated alerts store).1.activeEntries ↔
      entry ∈ store.activeEntries ∧ ∀ alert ∈ alerts, updated alert.id → entry.id ≠ alert.id := by
  induction alerts generalizing store with
  | nil => simp [resolveEach]
  | cons alert alerts ih =>
    rw [resolveEach]
    split
    case isTrue done =>
      simp only [ih, activeEntries_updateAlertStatus, List.forall_mem_cons, done, true_implies,
        and_assoc]
    case isFalse failed =>
      simp only [ih, List.forall_mem_cons, failed, false_implies, true_and, Bool.false_eq_true]

end AlertStore

/-! ### Entries of the map -/

variable {active : Keyed Alert.key} {entry : Entry}

theorem mem_trackedEntries :
    entry ∈ trackedEntries active ↔ ∃ alert ∈ active, alert.entry = entry :=
  List.mem_map

theorem trackedEntries_eq_of_key (left_mem : left ∈ trackedEntries active)
    (right_mem : right ∈ trackedEntries active) (same : left.key = right.key) : left = right := by
  obtain ⟨alert, alert_mem, rfl⟩ := mem_trackedEntries.mp left_mem
  obtain ⟨other, other_mem, rfl⟩ := mem_trackedEntries.mp right_mem
  rw [eq_of_key alert_mem other_mem same]

theorem trackedEntries_erase {key : ActiveAlertKey} : entry ∈ trackedEntries (active.erase key) ↔
      entry ∈ trackedEntries active ∧ entry.key ≠ key := by
  simp only [mem_trackedEntries, mem_erase]
  constructor
  · rintro ⟨alert, ⟨mem, other⟩, rfl⟩
    exact ⟨⟨alert, mem, rfl⟩, other⟩
  · rintro ⟨⟨alert, mem, rfl⟩, other⟩
    exact ⟨alert, ⟨mem, other⟩, rfl⟩

theorem trackedEntries_insert : entry ∈ trackedEntries (active.insert alert) ↔
      entry ∈ trackedEntries active ∧ entry.key ≠ alert.key ∨ entry = alert.entry := by
  simp only [mem_trackedEntries, mem_insert]
  constructor
  · rintro ⟨old, ⟨mem, other⟩ | rfl, rfl⟩
    · exact .inl ⟨⟨old, mem, rfl⟩, other⟩
    · exact .inr rfl
  · rintro (⟨⟨old, mem, rfl⟩, other⟩ | rfl)
    · exact ⟨old, .inl ⟨mem, other⟩, rfl⟩
    · exact ⟨alert, .inr rfl, rfl⟩

/-! ### One operation -/

namespace Engine

variable {engine : Engine} {store : AlertStore}

theorem agrees_iff : engine.Agrees ↔
      ∀ entry, entry ∈ trackedEntries engine.active ↔ entry ∈ engine.store.activeEntries := by
  constructor
  · rintro ⟨sound, complete⟩ entry
    exact ⟨sound entry, complete entry⟩
  · intro same
    exact ⟨fun entry => (same entry).mp, fun entry => (same entry).mpr⟩

theorem Agrees.key_ne_iff (agrees : engine.Agrees) (left_mem : left ∈ engine.store.activeEntries)
    (right_mem : right ∈ engine.store.activeEntries) :
    left.key ≠ right.key ↔ left.id ≠ right.id := by
  rw [not_iff_not]
  constructor
  · intro same
    have left_tracked := (agrees_iff.mp agrees left).mpr left_mem
    have right_tracked := (agrees_iff.mp agrees right).mpr right_mem
    rw [trackedEntries_eq_of_key left_tracked right_tracked same]
  · intro same
    rw [activeEntries_eq_of_id left_mem right_mem same]

theorem Agrees.active_of_mem (agrees : engine.Agrees) (mem : alert ∈ engine.active) :
    alert.entry ∈ engine.store.activeEntries :=
  (agrees_iff.mp agrees alert.entry).mp (mem_trackedEntries.mpr ⟨alert, mem, rfl⟩)

theorem not_agrees_of_dropped (held : entry ∈ engine.store.activeEntries)
    (dropped : entry ∉ trackedEntries engine.active) : ¬engine.Agrees := by
  intro agrees
  exact dropped (agrees.2 entry held)

theorem Agrees.drop (agrees : engine.Agrees) (mem : alert ∈ engine.active)
    (resolved : ∀ entry, entry ∈ store.activeEntries ↔
      entry ∈ engine.store.activeEntries ∧ entry.id ≠ alert.id) :
    Agrees { active := engine.active.erase alert.key, store } := by
  rw [agrees_iff]
  intro entry
  rw [trackedEntries_erase, resolved, agrees_iff.mp agrees]
  refine and_congr_right fun held => ?_
  exact agrees.key_ne_iff held (agrees.active_of_mem mem)

theorem Agrees.raise {after : Engine} (agrees : engine.Agrees)
    (mem : alert ∈ engine.active)
    (tracked : ∀ entry, entry ∈ trackedEntries after.active ↔
      entry ∈ trackedEntries engine.active ∧ entry.key ≠ alert.key ∨
        entry = { alert.entry with severity })
    (raised : ∀ entry, entry ∈ after.store.activeEntries ↔
      entry ∈ engine.store.activeEntries ∧ entry.id ≠ alert.id ∨
        ∃ old ∈ engine.store.activeEntries, old.id = alert.id ∧ entry = { old with severity }) :
    after.Agrees := by
  have held := agrees.active_of_mem mem
  rw [agrees_iff]
  intro entry
  rw [tracked, raised, agrees_iff.mp agrees]
  refine or_congr (and_congr_right fun other => agrees.key_ne_iff other held) ?_
  constructor
  · rintro rfl
    exact ⟨alert.entry, held, rfl, rfl⟩
  · rintro ⟨old, old_held, same, rfl⟩
    rw [activeEntries_eq_of_id old_held held same]

variable {evt : Event} {now : Int}

section

variable (deps : EngineDeps)

section

variable (env : Environment)

variable (agrees : engine.Agrees)
include agrees

theorem processRecovery_agrees_iff
    {original : Alert} (found : engine.active.lookup evt.key = some original) :
    (processRecovery deps env evt engine).1.Agrees ↔ env.insertAlert ∧ env.updateAlertStatus := by
  obtain ⟨mem, here⟩ := lookup_eq_some.mp found
  have held := agrees.active_of_mem mem
  have dropped : original.entry ∉ trackedEntries (engine.active.erase evt.key) := by
    rw [trackedEntries_erase]
    exact fun present => present.2 here
  simp only [processRecovery, found]
  cases env.insertAlert with
  | false =>
    simp only [Bool.false_eq_true, false_and, iff_false]
    exact not_agrees_of_dropped held dropped
  | true =>
    have inserted (entry : Entry) :
        entry ∈ (engine.store.insertAlert env.now (recoveryAlert evt original)).activeEntries ↔
          entry ∈ engine.store.activeEntries := by
      rw [activeEntries_insertAlert]
      simp [recoveryAlert]
    cases env.updateAlertStatus with
    | false =>
      simp only [Bool.false_eq_true, and_false, iff_false]
      exact not_agrees_of_dropped ((inserted _).mpr held) dropped
    | true =>
      simp only [if_true, and_self, iff_true]
      rw [← here]
      refine agrees.drop mem ?_
      intro entry
      rw [activeEntries_updateAlertStatus, inserted]

theorem fireAlert_agrees (absent : engine.active.lookup evt.key = none) :
    (fireAlert deps env evt engine).1.Agrees := by
  rw [fireAlert]
  cases env.insertAlert with
  | false => exact agrees
  | true =>
    cases silenced : checkSilenceRules env evt with
    | true =>
      rw [agrees_iff]
      intro entry
      simp [activeEntries_insertAlert, newAlert, agrees_iff.mp agrees entry]
    | false =>
      rw [agrees_iff]
      intro entry
      have other : entry ∈ trackedEntries engine.active →
          entry.key ≠ (engine.store.prepare env.now (newAlert evt false)).key := by
        intro tracked
        obtain ⟨alert, mem, rfl⟩ := mem_trackedEntries.mp tracked
        exact lookup_eq_none.mp absent alert mem
      simp only [Bool.false_eq_true, if_true, if_false, trackedEntries_insert,
        activeEntries_insertAlert, ← agrees_iff.mp agrees entry]
      constructor
      · rintro (⟨tracked, -⟩ | new)
        · exact .inl tracked
        · exact .inr ⟨rfl, new⟩
      · rintro (tracked | ⟨-, new⟩)
        · exact .inl ⟨tracked, other tracked⟩
        · exact .inr new

theorem escalateAlert_agrees_iff
    {existing : Alert} (mem : existing ∈ engine.active) (higher : existing.rank < evt.rank) :
    (escalateAlert deps env existing evt engine).1.Agrees ↔ env.updateAlertOnEscalation := by
  have held := agrees.active_of_mem mem
  rw [escalateAlert]
  cases env.updateAlertOnEscalation with
  | false =>
    simp only [Bool.false_eq_true, iff_false]
    refine not_agrees_of_dropped held ?_
    -- The entry under this key already shows the severity that was not stored.
    rintro tracked
    obtain ⟨alert, present, same⟩ := mem_trackedEntries.mp tracked
    rcases (mem_update Alert.key_refresh).mp present with ⟨-, other⟩ | ⟨old, -, -, rfl⟩
    · exact other (congrArg Entry.key same)
    · have same_rank := congrArg (fun entry => severityRank entry.severity) same
      exact higher.ne same_rank.symm
  | true =>
    simp only [if_true, iff_true]
    refine agrees.raise mem (fun entry => ?_) fun entry =>
      activeEntries_updateAlertOnEscalation
    generalize (if env.getAlert then _ else none) = row
    have here : ((existing.refresh evt).reload row).key = existing.key := by
      rw [Alert.key_reload, Alert.key_refresh]
    rw [insert_update _ here, trackedEntries_insert, here, Alert.entry_reload]
    rfl

theorem processEvent_agrees_iff :
    (processEvent deps env evt engine).1.Agrees ↔ engine.Persists (.process env evt) := by
  rw [processEvent, Persists]
  cases found : engine.active.lookup evt.key with
  | none =>
    refine iff_of_true ?_ trivial
    split
    · rw [processRecovery, found]
      exact agrees
    · exact fireAlert_agrees deps env agrees found
  | some =>
    obtain ⟨mem, -⟩ := lookup_eq_some.mp found
    simp only
    split
    · exact processRecovery_agrees_iff deps env agrees found
    split
    case isTrue higher =>
      simp only [higher, true_implies]
      exact escalateAlert_agrees_iff deps env agrees mem higher
    case isFalse lower =>
      simp only [lower, false_implies, iff_true]
      exact agrees

end

theorem resolveByEntity_agrees_iff {entityType entityId : String} (agrees : engine.Agrees) :
    (resolveByEntity deps now updated entityType entityId engine).1.Agrees ↔
      engine.Persists (.resolveByEntity now updated entityType entityId) := by
  generalize swept : (resolveByEntity deps now updated entityType entityId engine).1 = left
  have resolved (entry : Entry) : entry ∈ left.store.activeEntries ↔
      entry ∈ engine.store.activeEntries ∧ ∀ alert ∈ engine.active,
        alert.concerns entityType entityId → updated alert.id → entry.id ≠ alert.id := by
    simp only [← swept, resolveByEntity, activeEntries_resolveEach, List.mem_filter, and_imp]
    exact .rfl
  have tracked (entry : Entry) : entry ∈ trackedEntries left.active ↔
      ∃ alert ∈ engine.active, alert.concerns entityType entityId = false ∧
        alert.entry = entry := by
    simp only [← swept, resolveByEntity, mem_trackedEntries, mem_filter, Bool.not_eq_true',
      and_assoc]
  constructor
  · intro after alert mem concerned
    by_contra failed
    have kept : alert.entry ∈ trackedEntries left.active := by
      refine after.2 _ ((resolved _).mpr ⟨agrees.active_of_mem mem, ?_⟩)
      intro other _ _ done same
      have same_id : alert.id = other.id := same
      rw [same_id] at failed
      exact failed done
    obtain ⟨other, -, unconcerned, same⟩ := (tracked _).mp kept
    rw [Alert.concerns_of_key (congrArg Entry.key same), concerned] at unconcerned
    cases unconcerned
  · intro persists
    rw [agrees_iff]
    intro entry
    rw [tracked, resolved]
    constructor
    · rintro ⟨alert, mem, unconcerned, rfl⟩
      refine ⟨agrees.active_of_mem mem, ?_⟩
      intro other other_mem concerned _ same
      have equal := activeEntries_eq_of_id (agrees.active_of_mem mem)
        (agrees.active_of_mem other_mem) same
      rw [Alert.concerns_of_key (congrArg Entry.key equal), concerned] at unconcerned
      cases unconcerned
    · rintro ⟨held, others⟩
      obtain ⟨alert, mem, rfl⟩ := mem_trackedEntries.mp ((agrees_iff.mp agrees entry).mpr held)
      refine ⟨alert, mem, ?_, rfl⟩
      by_contra concerned
      rw [Bool.not_eq_false] at concerned
      exact others alert mem concerned (persists alert mem concerned) rfl

end

theorem Agrees.of_store (agrees : engine.Agrees)
    (same : ∀ entry, entry ∈ store.activeEntries ↔ entry ∈ engine.store.activeEntries) :
    Agrees { engine with store } := by
  rw [agrees_iff]
  intro entry
  rw [same, agrees_iff.mp agrees]

theorem acknowledge_agrees {read written : Bool} {id : AlertId} (agrees : engine.Agrees) :
    (acknowledge deps read written id by_ now engine).1.Agrees := by
  rw [acknowledge.eq_def]
  split
  · exact agrees
  split
  · exact agrees
  split
  · exact agrees
  · split
    · exact agrees
    · exact agrees.of_store fun _ => activeEntries_acknowledgeAlert

theorem perform_agrees_iff (agrees : engine.Agrees) {call : Call} :
    (engine.perform deps call).Agrees ↔ engine.Persists call := by
  cases call with
  | process env => exact processEvent_agrees_iff deps env agrees
  | resolveByEntity =>
    exact resolveByEntity_agrees_iff deps agrees
  | acknowledge =>
    exact iff_of_true (acknowledge_agrees agrees) trivial
  | deleteInactive =>
    exact iff_of_true (agrees.of_store fun _ => activeEntries_deleteInactive) trivial

/-- Memory agrees with the table all along exactly when it does at the start and the store calls
behind every change of the map succeed. -/
theorem memory_agrees_iff_persisted (deps : EngineDeps) (engine : Engine) (calls : List Call) :
    Always (next deps) Agrees engine calls ↔
      engine.Agrees ∧ Guarded (next deps) Persists engine calls := by
  have total (engine : Engine) (call : Call) : ∃ after, next deps engine call = some after :=
    ⟨engine.perform deps call, rfl⟩
  obtain ⟨final, execution⟩ := run_of_total total engine calls
  have exactly (agrees : engine.Agrees) : Always (next deps) Agrees engine calls ↔
        Guarded (next deps) Persists engine calls := by
    refine @Execution.always_iff_guarded _ _ _ _ (fun _ => True) _ (fun _ _ => trivial) ?_ _ _ _
      trivial agrees execution
    intro before after call _ agreed step
    cases step
    exact perform_agrees_iff agreed
  constructor
  · intro always
    exact ⟨always.head, (exactly always.head).mp always⟩
  · rintro ⟨agrees, persists⟩
    exact (exactly agrees).mpr persists

/-- The engine after a first warning about one endpoint. -/
def warned (deps : EngineDeps) : Engine :=
  empty.perform deps (.process calmEnvironment (endpointEvent "warning" false))

/-- A raise that could not be stored shows a severity the table does not hold, and a recovery whose
update failed leaves an active row. -/
theorem failed_update_disagrees :
    let deps : EngineDeps := ⟨true, true⟩
    let raised := (warned deps).perform deps
      (.process { calmEnvironment with updateAlertOnEscalation := false }
        (endpointEvent "critical" false))
    let recovered := (warned deps).perform deps
      (.process { calmEnvironment with updateAlertStatus := false } (endpointEvent "info" true))
    (warned deps).Agrees ∧ (¬raised.Agrees ∧
        (trackedEntries raised.active).map Entry.severity = ["critical"] ∧
        raised.store.activeEntries.map Entry.severity = ["warning"]) ∧
      ¬recovered.Agrees ∧ trackedEntries recovered.active = [] ∧
        recovered.store.activeEntries.map Entry.severity = ["warning"] := by
  decide

end Engine

end Maintenant.Alerting
