import Maintenant.Alerting.Deduplication

/-!
# Restart is invisible

An engine rebuilt from the table by `reloadActiveAlerts` differs from the one it replaces in the
fractions of seconds of its alerts only.  Nothing the engine stores or sends depends on those, so
the two go on alike.  With the closed form of deduplication this gives the specification of the
engine over any sequence of events.
-/

namespace Maintenant.Alerting

open Keyed Alert Option

/-! ### Alerts that differ in fractions of seconds -/

variable {deps : EngineDeps} {env : Environment} {other : Alert}

section Congruence

variable {left right : Alert}

theorem alertToMap_congr (same : left.stored = right.stored) :
    alertToMap left = alertToMap right := by
  rw [← alertToMap_stored, same, alertToMap_stored]

theorem dispatchNotifications_congr (same : left.stored = right.stored) {payload : Alert}
    (same_payload : payload.stored = other.stored) :
    dispatchNotifications deps env left payload = dispatchNotifications deps env right other := by
  have same_channels : triggeredChannels env left = triggeredChannels env right := by
    have matching : (matchesTrigger · left) = (matchesTrigger · right) := by
      funext trigger
      rw [← matchesTrigger_stored, same, matchesTrigger_stored]
    rw [triggeredChannels, triggeredChannels, matching]
  rw [dispatchNotifications, dispatchNotifications, same_channels, alertToMap_congr same_payload]

/-- An output with its alert in whole seconds. -/
def Output.stored : Output → Output
  | .acknowledged alert => .acknowledged alert.stored
  | .created alert => .created alert.stored
  | output => output

theorem escalationOutputs_congr {oldSeverity : String} (same : left.stored = right.stored) :
    (escalationOutputs deps env oldSeverity left).map Output.stored =
      (escalationOutputs deps env oldSeverity right).map Output.stored := by
  have texts : raisedMessage oldSeverity left = raisedMessage oldSeverity right :=
    (congrArg (raisedMessage oldSeverity) same :)
  have acknowledged : left.acknowledgedAt = none ↔ right.acknowledgedAt = none := by
    have times : left.acknowledgedAt.map wholeSecond = right.acknowledgedAt.map wholeSecond :=
      (congrArg acknowledgedAt same :)
    rw [← map_eq_none_iff (f := wholeSecond), times, map_eq_none_iff]
  have payloads : ({ left with message := raisedMessage oldSeverity left } : Alert).stored =
      ({ right with message := raisedMessage oldSeverity right } : Alert).stored := by
    rw [texts]
    exact (congrArg (fun alert : Alert =>
      { alert with message := raisedMessage oldSeverity right }) same :)
  have creations : (if left.acknowledgedAt = none then [Output.created left] else []).map
        Output.stored =
      (if right.acknowledgedAt = none then [Output.created right] else []).map Output.stored := by
    simp only [acknowledged]
    split
    · simp only [List.map_cons, Output.stored, same]
    · rfl
  simp only [escalationOutputs, List.map_append, creations, broadcastAlert, alertToMap_congr same,
    dispatchNotifications_congr same payloads]

theorem recoveryOutputs_congr {evt : Event}
    {recoveryId : AlertId} (same : left.stored = right.stored) :
    recoveryOutputs deps env evt left recoveryId =
      recoveryOutputs deps env evt right recoveryId := by
  have ids : left.id = right.id := (congrArg Alert.id same :)
  have resolved : (left.markRecovered evt.timestamp recoveryId).stored =
      (right.markRecovered evt.timestamp recoveryId).stored :=
    congrArg (fun alert : Alert => { alert with
      status := .resolved
      resolvedAt := some (wholeSecond evt.timestamp)
      resolvedById := some recoveryId }) same
  have payloads : ({ left.markRecovered evt.timestamp recoveryId with
        message := evt.message, severity := evt.severity } : Alert).stored =
      ({ right.markRecovered evt.timestamp recoveryId with
        message := evt.message, severity := evt.severity } : Alert).stored :=
    congrArg (fun alert : Alert => { alert with
      message := evt.message, severity := evt.severity }) resolved
  simp only [recoveryOutputs, ids, broadcastResolved, alertToMap_congr resolved,
    dispatchNotifications_congr resolved payloads]

end Congruence

/-! ### Engines that differ in fractions of seconds -/

/-- Maps with the same alerts, in whole seconds. -/
def MapsAlike (left right : Keyed Alert.key) : Prop :=
  ∀ key, (left.lookup key).map stored = (right.lookup key).map stored

namespace MapsAlike

variable {left right : Keyed Alert.key}

variable (alike : MapsAlike left right)
include alike

theorem insert {alert : Alert}
    (same : alert.stored = other.stored) : MapsAlike (left.insert alert) (right.insert other) := by
  have same_key : alert.key = other.key := (congrArg key same :)
  intro key
  by_cases here : key = alert.key
  · rw [here, lookup_insert_self, same_key, lookup_insert_self, map_some,
      map_some, same]
  · rw [lookup_insert_of_ne here, lookup_insert_of_ne (same_key ▸ here)]
    exact alike key

theorem erase (erased : ActiveAlertKey) : MapsAlike (left.erase erased) (right.erase erased) := by
  intro key
  by_cases here : key = erased
  · rw [here, lookup_erase_self, lookup_erase_self]
  · rw [lookup_erase_of_ne here, lookup_erase_of_ne here]
    exact alike key

theorem refresh (refreshed : ActiveAlertKey) (evt : Event) :
    MapsAlike (left.update refreshed (Alert.refresh evt) key_refresh)
      (right.update refreshed (Alert.refresh evt) key_refresh) := by
  intro key
  have commutes : (stored ∘ fun alert : Alert =>
        if alert.key = refreshed then alert.refresh evt else alert) =
      (fun alert : Alert => if alert.key = refreshed then alert.refresh evt else alert) ∘
        stored := by
    funext alert
    by_cases here : alert.key = refreshed
    · have stored_here : alert.stored.key = refreshed := here
      simp only [Function.comp_apply, if_pos here, if_pos stored_here]
      rfl
    · have stored_other : ¬alert.stored.key = refreshed := here
      simp only [Function.comp_apply, if_neg here, if_neg stored_other]
  rw [update, update, lookup_map, lookup_map, map_map,
    map_map, commutes, ← map_map, ← map_map, alike key]

theorem lookup (key : ActiveAlertKey) :
    left.lookup key = none ∧ right.lookup key = none ∨
      ∃ alert other, left.lookup key = some alert ∧ right.lookup key = some other ∧
        alert.stored = other.stored := by
  have same := alike key
  cases found : left.lookup key with
  | none =>
    rw [found, map_none, eq_comm, map_eq_none_iff] at same
    exact .inl ⟨rfl, same⟩
  | some alert =>
    rw [found, map_some, eq_comm, map_eq_some_iff] at same
    obtain ⟨other, other_found, same⟩ := same
    exact .inr ⟨alert, other, rfl, other_found, same.symm⟩

end MapsAlike

/-- Engines over the same table with the same alerts, in whole seconds. -/
structure Engine.Alike (left right : Engine) : Prop where
  store : left.store = right.store
  active : MapsAlike left.active right.active

/-- Two operations leave engines alike and send the same, in whole seconds. -/
def Indistinguishable (left right : Engine × List Output) : Prop :=
  left.1.Alike right.1 ∧ left.2.map Output.stored = right.2.map Output.stored

section Simulation

variable (deps : EngineDeps) (env : Environment) {evt : Event} {left right : Engine}

variable (alike : left.Alike right)
include alike

theorem escalateAlert_alike {existing : Alert} (same : existing.stored = other.stored) :
    Indistinguishable (escalateAlert deps env existing evt left)
      (escalateAlert deps env other evt right) := by
  have ids : existing.id = other.id := (congrArg Alert.id same :)
  have keys : existing.key = other.key := (congrArg key same :)
  have severities : existing.severity = other.severity := (congrArg severity same :)
  have refreshed := alike.active.refresh other.key evt
  simp only [escalateAlert, keys, ids, severities, alike.store]
  generalize (if env.getAlert then _ else none) = row
  have reloaded : ((existing.refresh evt).reload row).stored =
      ((other.refresh evt).reload row).stored := by
    cases row with
    | none => exact (congrArg (refresh evt) same :)
    | some row =>
      exact (congrArg (fun alert : Alert => { alert.refresh evt with
        acknowledgedAt := row.acknowledgedAt.map wholeSecond
        acknowledgedBy := row.acknowledgedBy }) same :)
  split
  · exact ⟨⟨rfl, refreshed.insert reloaded⟩,
      escalationOutputs_congr reloaded⟩
  · exact ⟨⟨rfl, refreshed⟩, rfl⟩

theorem fireAlert_alike :
    Indistinguishable (fireAlert deps env evt left) (fireAlert deps env evt right) := by
  simp only [fireAlert, alike.store]
  split
  · refine ⟨⟨rfl, ?_⟩, rfl⟩
    split
    · exact alike.active
    · exact alike.active.insert rfl
  · exact ⟨alike, rfl⟩

theorem processRecovery_alike :
    Indistinguishable (processRecovery deps env evt left) (processRecovery deps env evt right) := by
  have erased := alike.active.erase evt.key
  rcases alike.active.lookup evt.key with ⟨absent, other_absent⟩ |
    ⟨original, other, found, other_found, same⟩
  · simp only [processRecovery, absent, other_absent]
    exact ⟨alike, rfl⟩
  have ids : original.id = other.id := (congrArg Alert.id same :)
  have agents : original.agentId = other.agentId := (congrArg agentId same :)
  have records : recoveryAlert evt original = recoveryAlert evt other := by
    rw [recoveryAlert, recoveryAlert, agents]
  simp only [processRecovery, found, other_found, alike.store, ids, records]
  split
  · exact ⟨⟨rfl, erased⟩, by rw [recoveryOutputs_congr same]⟩
  · exact ⟨⟨rfl, erased⟩, rfl⟩

theorem processEvent_alike :
    Indistinguishable (processEvent deps env evt left) (processEvent deps env evt right) := by
  rw [processEvent, processEvent]
  split
  · exact processRecovery_alike deps env alike
  rcases alike.active.lookup evt.key with ⟨absent, other_absent⟩ |
    ⟨existing, other, found, other_found, same⟩
  · simp only [absent, other_absent]
    exact fireAlert_alike deps env alike
  have ranks : existing.rank = other.rank := (congrArg rank same :)
  simp only [found, other_found, ranks]
  split
  · exact escalateAlert_alike deps env alike same
  · exact ⟨alike, rfl⟩

end Simulation

theorem processAll_alike {occurrences : List Occurrence} {left right : Engine}
    (alike : left.Alike right) :
    Indistinguishable (processAll deps occurrences left) (processAll deps occurrences right) := by
  induction occurrences generalizing left right with
  | nil => exact ⟨alike, rfl⟩
  | cons occurrence occurrences ih =>
    obtain ⟨env, evt⟩ := occurrence
    obtain ⟨first_alike, first_sent⟩ := processEvent_alike deps env alike
    obtain ⟨rest_alike, rest_sent⟩ := ih first_alike
    refine ⟨rest_alike, ?_⟩
    simp only [processAll, List.map_append, first_sent, rest_sent]

/-! ### Reloading -/

theorem Engine.Mirrors.alike_reload {engine : Engine} (mirrors : engine.Mirrors) :
    engine.Alike (reloadActiveAlerts engine.store) := by
  refine ⟨rfl, fun key => ?_⟩
  cases found : engine.active.lookup key with
  | none =>
    have absent : (reloadActiveAlerts engine.store).active.lookup key = none := by
      rw [lookup_eq_none] at found ⊢
      intro row mem
      obtain ⟨alert, tracked, rfl⟩ := (mirrors row).mp (mem_rows_of_mem_reload mem)
      exact found alert tracked
    rw [absent]
  | some alert =>
    obtain ⟨mem, rfl⟩ := lookup_eq_some.mp found
    have row := mirrors.row_of_mem mem
    have reloaded : alert.stored ∈ (reloadActiveAlerts engine.store).active := by
      refine mem_foldl_insert (AlertStore.mem_listActiveAlerts.mpr row) ?_
      intro other listed same
      exact mirrors.active_unique (AlertStore.mem_listActiveAlerts.mp listed) row same
    rw [lookup_eq_some.mpr ⟨reloaded, key_stored⟩, map_some,
      map_some, stored_stored]

def notifications (outputs : List Output) : List (String × List (String × Value)) :=
  outputs.filterMap fun output =>
    match output with
    | .notify channel payload => some (channel, payload)
    | _ => none

theorem notifications_stored (outputs : List Output) :
    notifications (outputs.map Output.stored) = notifications outputs := by
  rw [notifications, List.filterMap_map]
  congr 1
  funext output
  cases output <;> rfl

/-- After any events, without failures or silence, one row is active per key exactly when an event
fired since the key's last recovery, and it reads like the first event since then of the highest
rank. Whatever comes next, an engine rebuilt from the table does the same as the one it replaces. -/
theorem deduplicates_and_restarts (deps : EngineDeps) (past future : List Occurrence)
    (calm : ∀ occurrence ∈ past, Calm occurrence.1 occurrence.2) :
    let engine := (processAll deps past .empty).1
    let events := past.map Prod.snd
    (∀ left ∈ engine.store.rows, ∀ right ∈ engine.store.rows, left.status = .active →
      right.status = .active → left.key = right.key → left = right) ∧
    (∀ key, (∃ row ∈ engine.store.rows, row.status = .active ∧ row.key = key) ↔
      FiredSinceRecovery key events) ∧ (∀ row ∈ engine.store.rows, row.status = .active →
      ∃ evt, FirstHighest (sinceRecovery row.key events) evt ∧ row.severity = evt.severity ∧
        row.message = evt.message ∧ row.details = evt.detailsJSON) ∧
    (processAll deps future (reloadActiveAlerts engine.store)).1.store =
      (processAll deps future engine).1.store ∧
    notifications (processAll deps future (reloadActiveAlerts engine.store)).2 =
      notifications (processAll deps future engine).2 := by
  obtain ⟨mirrors, shows⟩ :=
    Engine.processAll_calm calm Engine.empty_mirrors Engine.empty_shows
  obtain ⟨alike, sent⟩ := processAll_alike mirrors.alike_reload
  refine ⟨?_, ?_, ?_, alike.store.symm, ?_⟩
  · intro left left_mem right right_mem left_active right_active same
    exact mirrors.active_unique ⟨left_mem, left_active⟩ ⟨right_mem, right_active⟩ same
  · exact fun _ => mirrors.active_iff_fired shows
  · exact mirrors.row_reads_expected shows
  · rw [← notifications_stored, ← sent, notifications_stored]

/-- A warning about one endpoint and a raise of it. -/
def endpointPast : List Occurrence :=
  [(calmEnvironment, endpointEvent "warning" false),
    (calmEnvironment, endpointEvent "critical" false)]

def endpointFuture : List Occurrence := [(calmEnvironment, endpointEvent "info" true)]

/-- The raised alert is the only active row, and its recovery is notified alike after a restart. -/
theorem deduplicates_and_restarts_endpoint :
    let engine := (processAll ⟨true, true⟩ endpointPast .empty).1
    (engine.store.rows.items.map fun row => (row.status, row.severity)) = [(.active, "critical")] ∧
      (notifications (processAll ⟨true, true⟩ endpointFuture engine).2).map Prod.fst = ["ops"] ∧
      notifications (processAll ⟨true, true⟩ endpointFuture (reloadActiveAlerts engine.store)).2 =
        notifications (processAll ⟨true, true⟩ endpointFuture engine).2 :=
  ⟨by decide, by decide,
    (deduplicates_and_restarts ⟨true, true⟩ endpointPast endpointFuture (by decide)).2.2.2.2⟩

end Maintenant.Alerting
