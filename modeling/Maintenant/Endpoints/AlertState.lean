import Maintenant.Endpoints.Service

/-!
# Alert states and the alert engine

An endpoint's row says whether an alert was raised for it, and the engine holds the alert.  Check
results change both together.  Deactivation resolves the alert and leaves the row, so the two fall
apart when an endpoint is deactivated while it is alerting; as long as none is, they agree.
-/

namespace Maintenant.Endpoints

open Alerting EndpointStore Option Execution

/-- The key of the alert that failed checks raise. -/
def ServiceDeps.failureKey (deps : ServiceDeps) (id : EndpointId) : ActiveAlertKey where
  source := "endpoint"
  alertType := "consecutive_failure"
  entityType := "endpoint"
  entityId := deps.uid id

theorem failureKey_injective (deps : ServiceDeps) : Function.Injective deps.failureKey := by
  intro left right same
  exact deps.uid_injective (congrArg ActiveAlertKey.entityId same)

/-- The alert state in the row of an endpoint. -/
def EndpointStore.alertStateOf (store : EndpointStore) (id : EndpointId) : Option AlertState :=
  (store.getEndpointByID id).map Endpoint.alertState

/-- No silence rule and no maintenance window is in force. -/
def Unsilenced (env : Environment) : Prop :=
  env.silenceRules = some [] ∧ env.suppressed = some false

instance (env : Environment) : Decidable (Unsilenced env) :=
  inferInstanceAs (Decidable (_ ∧ _))

theorem Unsilenced.loud {env : Environment} (unsilenced : Unsilenced env) {evt : Event} :
    checkSilenceRules env evt = false := by
  rw [checkSilenceRules, unsilenced.1, unsilenced.2]
  rfl

variable {externalId : String}

namespace EndpointMonitor

/-- An endpoint is alerting exactly when the engine holds its alert. -/
def Agrees (deps : ServiceDeps) (monitor : EndpointMonitor) : Prop :=
  ∀ id : EndpointId, monitor.store.alertStateOf id = some .alerting ↔
    monitor.engine.tracks (deps.failureKey id) = true

/-- An endpoint whose failed checks reach the threshold has an alert. -/
def Raises (deps : ServiceDeps) (monitor : EndpointMonitor) : Prop :=
  ∀ (env : Environment) (id : EndpointId) (e : Endpoint) (result : CheckResult),
    env.Reliable → Unsilenced env → monitor.store.getEndpointByID id = some e →
    result.success = false → result.replayed = false →
    e.config.failureThreshold ≤ e.consecutiveFailures + 1 →
    (monitor.processCheckResult deps env id result).engine.tracks (deps.failureKey id) = true

/-- The endpoints that the call deactivates. -/
def retires (monitor : EndpointMonitor) : EndpointAction → List EndpointId
  | .check _ _ _ => []
  | .sync _ _ externalId parsed => undeclared localAgent externalId parsed monitor.store
  | .syncAgent _ agentId _ externalId parsed =>
    undeclared (uidAgent agentId) externalId parsed monitor.store
  | .stop _ _ => []
  | .destroy _ externalId =>
    (monitor.store.listEndpointsByExternalID localAgent externalId).map Endpoint.id
  | .sweep _ seen => orphans seen monitor.store

/-- The environment a call runs in is one without failures and silence. -/
def Undisturbed : EndpointAction → Prop
  | .check env _ _ => env.Reliable ∧ Unsilenced env
  | _ => True

/-- The call deactivates no endpoint that is alerting. -/
def Calm (monitor : EndpointMonitor) (action : EndpointAction) : Prop :=
  Undisturbed action ∧
    ∀ id ∈ monitor.retires action, monitor.store.alertStateOf id ≠ some .alerting

instance : DecidablePred Undisturbed := fun _ => by
  unfold Undisturbed
  split <;> infer_instance

instance (monitor : EndpointMonitor) (action : EndpointAction) : Decidable (monitor.Calm action) :=
  inferInstanceAs (Decidable (_ ∧ ∀ id ∈ monitor.retires action,
    monitor.store.alertStateOf id ≠ some .alerting))

/-! ### Rows -/

variable {id : EndpointId} {result : CheckResult} {now : Int}

section Rows

variable {store : EndpointStore} {other : EndpointId} {update : CheckUpdate}

theorem alertStateOf_updateCheckResult :
    (store.updateCheckResult id update now).alertStateOf other =
      if other = id then (store.alertStateOf other).map fun _ => update.alertState
      else store.alertStateOf other := by
  rw [alertStateOf, getEndpointByID_updateCheckResult]
  split
  · rw [map_map, alertStateOf, map_map]
    rfl
  · rfl

theorem alertStateOf_updateCheckResult_same
    (same : store.alertStateOf id = some update.alertState) :
    (store.updateCheckResult id update now).alertStateOf other = store.alertStateOf other := by
  rw [alertStateOf_updateCheckResult]
  split
  next here =>
    rw [here, same]
    rfl
  · rfl

theorem alertStateOf_deactivate :
    (store.deactivateEndpoint id).alertStateOf other = store.alertStateOf other := by
  rw [alertStateOf, getEndpointByID_deactivate]
  split
  · rw [map_map]
    rfl
  · rfl

theorem alertStateOf_upsert {report : EndpointReport} :
    (store.upsertEndpoint report now).alertStateOf other = some .alerting ↔
      store.alertStateOf other = some .alerting := by
  rw [alertStateOf, getEndpointByID_upsert, alertStateOf]
  split
  · cases store.getEndpointByID other with
    | none => simp [EndpointReport.created]
    | some => simp [EndpointReport.updates]
  · rfl

theorem endpoints_record : (store.record id result).endpoints = store.endpoints := by
  rw [record]
  split
  · rfl
  · rfl

theorem alertStateOf_record :
    (store.record id result).alertStateOf other = store.alertStateOf other := by
  rw [alertStateOf, getEndpointByID, endpoints_record]
  rfl

end Rows

/-! ### Deactivation -/

section Calls

variable {deps : ServiceDeps} {monitor : EndpointMonitor} {env : Environment}

theorem tracks_retire (other : EndpointId) :
    (monitor.retire deps now id).engine.tracks (deps.failureKey other) =
      (monitor.engine.tracks (deps.failureKey other) && !decide (other = id)) := by
  rw [retire, tracks_resolveByEntity]
  congr 2
  rw [decide_eq_decide]
  constructor
  · rintro ⟨-, same⟩
    exact deps.uid_injective same
  · rintro rfl
    exact ⟨rfl, rfl⟩

theorem Agrees.retire (agrees : monitor.Agrees deps) {ids : List EndpointId}
    (calm : ∀ id ∈ ids, monitor.store.alertStateOf id ≠ some .alerting) :
    (ids.foldl (EndpointMonitor.retire deps now) monitor).Agrees deps := by
  induction ids generalizing monitor with
  | nil => exact agrees
  | cons first ids ih =>
    obtain ⟨first_calm, calm⟩ := List.forall_mem_cons.mp calm
    have rows : ∀ id, (monitor.retire deps now first).store.alertStateOf id =
        monitor.store.alertStateOf id := fun id => alertStateOf_deactivate
    refine ih ?_ (fun id mem => by rw [rows]; exact calm id mem)
    intro id
    rw [rows, tracks_retire, agrees id]
    by_cases here : id = first
    · subst here
      have untracked : monitor.engine.tracks (deps.failureKey id) = false := by
        rw [Bool.eq_false_iff]
        exact fun tracked => first_calm ((agrees id).mpr tracked)
      simp [untracked]
    · simp [here]

theorem Agrees.syncLabels (agrees : monitor.Agrees deps) {agent containerName : String}
    {parsed : List ParsedEndpoint} (calm : ∀ id ∈ undeclared agent externalId parsed monitor.store,
      monitor.store.alertStateOf id ≠ some .alerting) :
    (monitor.syncLabels deps now agent containerName externalId parsed).Agrees deps := by
  have rows : ∀ (store : EndpointStore) (id : EndpointId), (parsed.foldl (fun store p =>
      store.upsertEndpoint (report agent containerName externalId p) now) store).alertStateOf id =
        some .alerting ↔ store.alertStateOf id = some .alerting := by
    intro store id
    generalize parsed = declared
    induction declared generalizing store with
    | nil => exact .rfl
    | cons p declared ih => rw [List.foldl_cons, ih, alertStateOf_upsert]
  refine Agrees.retire ?_ ?_
  · intro id
    exact (rows monitor.store id).trans (agrees id)
  · intro id mem alerting
    exact calm id mem ((rows monitor.store id).mp alerting)

theorem Agrees.stop (agrees : monitor.Agrees deps) :
    (monitor.handleContainerStop now externalId).Agrees deps := by
  have rows : ∀ (listed : List Endpoint) (store : EndpointStore),
      (∀ e ∈ listed, store.alertStateOf e.id = some e.alertState) →
      ∀ id, (listed.foldl (fun store ep =>
        store.updateCheckResult ep.id (stoppedUpdate ep) now) store).alertStateOf id =
          store.alertStateOf id := by
    intro listed
    induction listed with
    | nil => exact fun _ _ _ => rfl
    | cons e listed ih =>
      intro store states id
      obtain ⟨first, rest⟩ := List.forall_mem_cons.mp states
      have kept : ∀ other, (store.updateCheckResult e.id (stoppedUpdate e) now).alertStateOf other =
          store.alertStateOf other := fun other => alertStateOf_updateCheckResult_same first
      rw [List.foldl_cons, ih _ (fun other mem => (kept other.id).trans (rest other mem)), kept]
  intro id
  have kept : (monitor.handleContainerStop now externalId).store.alertStateOf id =
      monitor.store.alertStateOf id := by
    refine rows _ monitor.store ?_ id
    intro e mem
    rw [alertStateOf, getEndpointByID_of_mem (List.mem_of_mem_filter mem)]
    rfl
  rw [kept]
  exact agrees id

/-! ### Check results -/

variable {engine : Engine} {ep : Endpoint} {al : EndpointAlert}

theorem tracks_trust (other : EndpointId) :
    ((endpointTrustEvent deps ep result).elim engine (emit deps env engine)).tracks
        (deps.failureKey other) = engine.tracks (deps.failureKey other) := by
  cases raised : endpointTrustEvent deps ep result with
  | none => rfl
  | some evt =>
    refine tracks_processEvent_of_ne ?_
    have type : evt.alertType = "certificate_untrusted" := by
      rw [endpointTrustEvent] at raised
      split at raised
      · cases raised
        rfl
      split at raised
      · cases raised
        rfl
      · cases raised
    intro same
    have alert_type : "consecutive_failure" = evt.alertType :=
      congrArg ActiveAlertKey.alertType same
    rw [type] at alert_type
    exact absurd alert_type (by decide)

theorem key_endpointThresholdAlert :
    (endpointThresholdAlert deps ep al now).key = deps.failureKey ep.id := by
  rw [endpointThresholdAlert]
  split
  · rfl
  · rfl

theorem isRecover_endpointThresholdAlert :
    (endpointThresholdAlert deps ep al now).isRecover = al.recovery := by
  rw [endpointThresholdAlert]
  split
  next recovery => exact recovery.symm
  next failure => exact (Bool.eq_false_iff.mpr failure).symm

theorem alertState_of_evaluate (crossed : evaluateCheckResult ep result = some al) :
    ep.alertState = if al.recovery then .alerting else .normal := by
  rw [evaluateCheckResult] at crossed
  split at crossed
  · obtain ⟨reached, ⟨⟩⟩ := ite_none_right_eq_some.mp crossed
    exact reached.2
  · obtain ⟨reached, ⟨⟩⟩ := ite_none_right_eq_some.mp crossed
    exact reached.2

theorem tracks_threshold (reliable : env.Reliable) (unsilenced : Unsilenced env)
    (fresh : al.recovery = false → engine.tracks (deps.failureKey ep.id) = false)
    (other : EndpointId) :
    (emit deps env engine (endpointThresholdAlert deps ep al now)).tracks (deps.failureKey other) =
      if other = ep.id then !al.recovery else engine.tracks (deps.failureKey other) := by
  have key : (endpointThresholdAlert deps ep al now).key = deps.failureKey ep.id :=
    key_endpointThresholdAlert
  split
  next here =>
    subst here
    rw [← key]
    cases recovery : al.recovery with
    | true =>
      refine tracks_processEvent_recovered ?_
      rw [isRecover_endpointThresholdAlert, recovery]
    | false =>
      refine tracks_processEvent_fired ?_ ?_ reliable.1 unsilenced.loud
      · rw [isRecover_endpointThresholdAlert, recovery]
      · rw [key]
        exact fresh recovery
  next differs =>
    refine tracks_processEvent_of_ne ?_
    rw [key]
    exact fun same => differs (failureKey_injective deps same)

theorem Agrees.check (agrees : monitor.Agrees deps) (reliable : env.Reliable)
    (unsilenced : Unsilenced env) :
    (monitor.processCheckResult deps env id result).Agrees deps := by
  rw [processCheckResult]
  cases found : monitor.store.getEndpointByID id with
  | none => exact agrees
  | some ep =>
    have own : ep.id = id := (Keyed.lookup_eq_some.mp found).2
    have state : monitor.store.alertStateOf id = some (liveUpdate ep result).alertState := by
      rw [alertStateOf, found]
      rfl
    have recorded : ∀ other, ((monitor.store.updateCheckResult id (liveUpdate ep result)
        env.now).record id result).alertStateOf other = monitor.store.alertStateOf other := by
      intro other
      rw [alertStateOf_record, alertStateOf_updateCheckResult_same state]
    dsimp only
    split
    · intro other
      rw [alertStateOf_record]
      exact agrees other
    cases crossed : evaluateCheckResult ((liveUpdate ep result).apply env.now ep) result with
    | none =>
      intro other
      rw [tracks_trust, recorded]
      exact agrees other
    | some al =>
      have before : ((liveUpdate ep result).apply env.now ep).alertState =
          if al.recovery then .alerting else .normal := alertState_of_evaluate crossed
      have unchanged : (liveUpdate ep result).alertState =
          ((liveUpdate ep result).apply env.now ep).alertState := rfl
      have fresh : al.recovery = false → monitor.engine.tracks (deps.failureKey id) = false := by
        intro failure
        rw [Bool.eq_false_iff]
        intro tracked
        have alerting := (agrees id).mpr tracked
        rw [state, unchanged, before, failure] at alerting
        exact absurd alerting (by decide)
      intro other
      rw [tracks_threshold reliable unsilenced, alertStateOf_updateCheckResult, recorded,
        CheckUpdate.id_apply, own, tracks_trust]
      · split
        next here =>
          rw [here, state, EndpointAlert.alertState]
          cases al.recovery with
          | true | false => simp
        · exact agrees other
      · intro failure
        rw [tracks_trust, CheckUpdate.id_apply, own]
        exact fresh failure

theorem alertStateOf_failed {e : Endpoint} (found : monitor.store.getEndpointByID id = some e)
    (failed : result.success = false) (live : result.replayed = false)
    (reached : e.config.failureThreshold ≤ e.consecutiveFailures + 1) :
    (monitor.processCheckResult deps env id result).store.alertStateOf id = some .alerting := by
  have state : monitor.store.alertStateOf id = some (liveUpdate e result).alertState := by
    rw [alertStateOf, found]
    rfl
  have recorded : ((monitor.store.updateCheckResult id (liveUpdate e result)
      env.now).record id result).alertStateOf id = some e.alertState := by
    rw [alertStateOf_record, alertStateOf_updateCheckResult_same state, state]
    rfl
  have failures : ((liveUpdate e result).apply env.now e).config.failureThreshold ≤
      ((liveUpdate e result).apply env.now e).consecutiveFailures := by
    simp only [liveUpdate, CheckUpdate.apply, failed, Bool.false_eq_true, if_false]
    exact reached
  have same : ((liveUpdate e result).apply env.now e).alertState = e.alertState := rfl
  rw [processCheckResult, found]
  simp only [live, Bool.false_eq_true, if_false]
  generalize (liveUpdate e result).apply env.now e = updated at failures same ⊢
  cases kept : e.alertState with
  | normal =>
    have crossed : evaluateCheckResult updated result =
        some ⟨false, updated.consecutiveFailures, 0, updated.config.failureThreshold,
          result.errorMessage⟩ := by
      rw [evaluateCheckResult, failed, Bool.not_false, if_pos rfl,
        if_pos ⟨failures, same.trans kept⟩]
    rw [crossed]
    rw [alertStateOf_updateCheckResult, if_pos rfl, recorded]
    rfl
  | alerting =>
    have alerting : updated.alertState ≠ .normal := by
      rw [same, kept]
      decide
    have quiet : evaluateCheckResult updated result = none := by
      rw [evaluateCheckResult, failed, Bool.not_false, if_pos rfl, if_neg]
      exact fun crossing => alerting crossing.2
    rw [quiet]
    rw [recorded, kept]

theorem Agrees.raises (agrees : monitor.Agrees deps) : monitor.Raises deps := by
  intro env id e result reliable unsilenced found failed live reached
  exact (agrees.check reliable unsilenced id).mp (alertStateOf_failed found failed live reached)

theorem Agrees.perform {action : EndpointAction} (agrees : monitor.Agrees deps)
    (calm : monitor.Calm action) : (monitor.perform deps action).Agrees deps := by
  obtain ⟨undisturbed, calm⟩ := calm
  cases action with
  | check => exact agrees.check undisturbed.1 undisturbed.2
  | sync now containerName | syncAgent now _ containerName =>
    exact agrees.syncLabels calm
  | stop => exact agrees.stop
  | destroy | sweep => exact agrees.retire calm

end Calls

/-- In every run of a new server that deactivates no alerting endpoint, endpoints are alerting
exactly when the engine holds their alert, and failed checks that reach the threshold raise one. -/
theorem alert_state_matches_engine_when_calm (deps : ServiceDeps) (actions : List EndpointAction)
    (calm : Guarded (next deps) Calm empty actions) :
    Always (next deps) (fun monitor => monitor.Agrees deps ∧ monitor.Raises deps)
      empty actions := by
  have initial : empty.Agrees deps := by
    intro id
    have noRow : empty.store.alertStateOf id = none := rfl
    have noAlert : empty.engine.tracks (deps.failureKey id) = false := rfl
    simp [noRow, noAlert]
  refine always_of_guarded (Agrees deps) ?_ (fun _ agrees => ⟨agrees, agrees.raises⟩) initial calm
  intro before after action agrees met taken
  obtain rfl := some.inj taken
  exact agrees.perform met

/-! ### A container that comes and goes -/

section Scenario

open ServiceDeps (bare)

private def shop : EndpointId := ⟨localAgent, "shop", "maintenant.endpoint.http"⟩

private def appears : EndpointAction :=
  .sync 0 "shop" "c1" [⟨"maintenant.endpoint.http", .http, "http://shop", ⟨2, 1, ""⟩⟩]

private def probe (success : Bool) : EndpointAction :=
  .check calmEnvironment shop ⟨none, success, false, "", 5, none, "", 0, false⟩

private def calmActions : List EndpointAction :=
  [appears, probe false, probe false, probe true, .destroy 0 "c1", appears, probe false,
    probe false]

theorem alert_state_matches_engine_over_return : Guarded (next bare) Calm empty calmActions ∧
      Always (next bare)
        (fun monitor => monitor.Agrees bare ∧ monitor.Raises bare) empty calmActions := by
  have calm : Guarded (next bare) Calm empty calmActions := by
    decide +kernel
  exact ⟨calm, alert_state_matches_engine_when_calm bare calmActions calm⟩

private def abruptActions : List EndpointAction :=
  [appears, probe false, probe false, .destroy 0 "c1"]

/-- The endpoint stays alerting when its alert is resolved, and raises none when it is back. -/
theorem destroyed_endpoint_stays_alerting :
    ((run (next bare) empty abruptActions).map fun monitor =>
        (monitor.store.alertStateOf shop, monitor.engine.tracks (bare.failureKey shop))) =
      some (some .alerting, false) ∧ ((run (next bare) empty
        (abruptActions ++ [appears, probe false, probe false, probe false])).map fun monitor =>
          (monitor.store.alertStateOf shop, monitor.engine.tracks (bare.failureKey shop))) =
      some (some .alerting, false) := by
  decide +kernel

end Scenario

end EndpointMonitor

end Maintenant.Endpoints
