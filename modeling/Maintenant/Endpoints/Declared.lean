import Maintenant.Endpoints.Service

/-!
# What labels declare

Of an endpoint, labels set the container, the target and that it is active; checks set the rest.
Which endpoint a result of an agent is attached to, and what a label synchronisation changes,
depends on the declared part only.
-/

namespace Maintenant.Endpoints

open Alerting Keyed EndpointMonitor Endpoint List

/-- An endpoint, but for what neither attaches results to it nor finds it for a container. -/
def Endpoint.declared (e : Endpoint) : Endpoint where
  id := e.id
  externalId := e.externalId
  endpointType := .http
  target := e.target
  status := .unknown
  alertState := .normal
  consecutiveFailures := 0
  consecutiveSuccesses := 0
  lastCheckAt := none
  lastResponseTimeMs := none
  lastHTTPStatus := none
  lastError := ""
  config := ⟨0, 0, ""⟩
  active := e.active
  firstSeenAt := 0
  lastSeenAt := 0
  source := .label
  name := ""

theorem Endpoint.id_declared (e : Endpoint) : e.declared.id = e.id := rfl

/-- The declared part of every row. -/
def EndpointStore.declared (store : EndpointStore) : Keyed Endpoint.id :=
  store.endpoints.map Endpoint.declared id_declared

def EndpointReport.declares (report : EndpointReport) (e : Endpoint) : Endpoint :=
  { e with externalId := report.externalId, target := report.target, active := true }

theorem EndpointReport.id_declares (report : EndpointReport) (e : Endpoint) :
    (report.declares e).id = e.id := rfl

/-- A report as a change of what is declared. -/
def declare (report : EndpointReport) (table : Keyed Endpoint.id) : Keyed Endpoint.id :=
  if (table.lookup report.id).isSome then
    table.update report.id report.declares report.id_declares
  else table.insert (report.created 0).declared

/-- A deactivation as a change of what is declared. -/
def withdraw (table : Keyed Endpoint.id) (id : EndpointId) : Keyed Endpoint.id :=
  table.update id deactivated id_deactivated

section Statements

variable {store other : EndpointStore} {id : EndpointId}

theorem declared_upsertEndpoint (report : EndpointReport) (now : Int) :
    (store.upsertEndpoint report now).declared = declare report store.declared := by
  have known : ((store.declared.lookup report.id).isSome = true) =
      ((store.getEndpointByID report.id).isSome = true) := by
    rw [EndpointStore.declared, lookup_map, Option.isSome_map]
    rfl
  simp only [EndpointStore.upsertEndpoint, declare, known]
  split
  · exact map_update report.id_updates id_declared report.id_declares fun _ => rfl
  · exact map_insert _ _

theorem declared_deactivateEndpoint :
    (store.deactivateEndpoint id).declared = withdraw store.declared id :=
  map_update id_deactivated id_declared id_deactivated fun _ => rfl

theorem declared_updateCheckResult {update : CheckUpdate} {now : Int} :
    (store.updateCheckResult id update now).declared = store.declared := by
  have unread : (store.updateCheckResult id update now).declared =
      store.declared.update id (fun e => e) fun _ => rfl :=
    map_update update.id_apply id_declared (fun _ => rfl) fun _ => rfl
  rw [unread]
  exact update_eq_self _ fun _ _ _ => rfl

theorem declared_record {result : CheckResult} :
    (store.record id result).declared = store.declared := by
  rw [EndpointStore.record]
  split
  · rfl
  · rfl

/-- The endpoint a result for a target is attached to. -/
def EndpointStore.attached (store : EndpointStore) (agent target : String) : Option EndpointId :=
  (store.getActiveAgentEndpointByTarget agent target).map Endpoint.id

theorem attached_eq (agent target : String) : store.attached agent target =
      (store.declared.items.find? fun e =>
        e.id.agent = agent ∧ e.target = target ∧ e.active).map Endpoint.id := by
  have items : store.declared.items = store.endpoints.items.map declared := rfl
  rw [items, find?_map, Option.map_map]
  rfl

theorem attached_congr (same : store.declared = other.declared) (agent target : String) :
    store.attached agent target = other.attached agent target := by
  rw [attached_eq, attached_eq, same]

theorem undeclared_congr (same : store.declared = other.declared) (agent externalId : String)
    (parsed : List ParsedEndpoint) : undeclared agent externalId parsed store =
      undeclared agent externalId parsed other := by
  have key_declared : ∀ e : Endpoint, e.declared.id.labelKey = e.id.labelKey := fun _ => rfl
  -- what is found under each label is declared
  have listed : ∀ store : EndpointStore,
      (store.listEndpointsByExternalID agent externalId).map declared =
        store.declared.items.filter fun e =>
          e.id.agent = agent ∧ e.externalId = externalId ∧ e.active := by
    intro store
    have items : store.declared.items = store.endpoints.items.map declared := rfl
    rw [items, filter_map]
    rfl
  have table : ∀ store : EndpointStore,
      (existingByKey agent externalId store).map declared key_declared =
        (store.declared.items.filter fun e =>
          e.id.agent = agent ∧ e.externalId = externalId ∧ e.active).foldl Keyed.insert
            (.empty _) := by
    intro store
    rw [existingByKey, Keyed.map_foldl_insert, listed]
    rfl
  have ids : ∀ store : EndpointStore, undeclared agent externalId parsed store =
      (((existingByKey agent externalId store).map declared key_declared).items.filter fun e =>
          e.id.labelKey ∉ parsed.map ParsedEndpoint.labelKey).map Endpoint.id := by
    intro store
    have items : ((existingByKey agent externalId store).map declared key_declared).items =
          (existingByKey agent externalId store).items.map declared := rfl
    rw [items, filter_map, map_map]
    rfl
  rw [ids, ids, table, table, same]

end Statements

/-! ### Synchronisations -/

section Synchronisations

variable {deps : ServiceDeps} {monitor : EndpointMonitor} {now : Int}
  {agent containerName externalId : String} {parsed : List ParsedEndpoint}
  {reports : List EndpointReport}

theorem store_upserts : ∀ store : EndpointStore,
      (reports.foldl (fun store report => store.upsertEndpoint report now) store).declared =
          reports.foldl (fun table report => declare report table) store.declared ∧
        (reports.foldl (fun store report => store.upsertEndpoint report now) store).results =
          store.results := by
  induction reports with
  | nil => exact fun _ => ⟨rfl, rfl⟩
  | cons report reports ih =>
    intro store
    obtain ⟨declared, results⟩ := ih (store.upsertEndpoint report now)
    rw [declared_upsertEndpoint] at declared
    exact ⟨declared, results⟩

theorem store_retires {gone : List EndpointId} : ∀ monitor : EndpointMonitor,
      (gone.foldl (retire deps now) monitor).store.declared =
          gone.foldl withdraw monitor.store.declared ∧
        (gone.foldl (retire deps now) monitor).store.results = monitor.store.results := by
  induction gone with
  | nil => exact fun _ => ⟨rfl, rfl⟩
  | cons id gone ih =>
    intro monitor
    obtain ⟨declared, results⟩ := ih (retire deps now monitor id)
    have first : (retire deps now monitor id).store.declared =
        withdraw monitor.store.declared id := declared_deactivateEndpoint
    rw [first] at declared
    exact ⟨declared, results⟩

theorem syncLabels_upserts : parsed.foldl (fun store p => store.upsertEndpoint
        (EndpointMonitor.report agent containerName externalId p) now) monitor.store =
      (parsed.map (EndpointMonitor.report agent containerName externalId)).foldl
        (fun store report => store.upsertEndpoint report now) monitor.store := by
  rw [foldl_map]

theorem declared_syncLabels :
    (monitor.syncLabels deps now agent containerName externalId parsed).store.declared =
      (undeclared agent externalId parsed monitor.store).foldl withdraw
        ((parsed.map (EndpointMonitor.report agent containerName externalId)).foldl
          (fun table report => declare report table) monitor.store.declared) := by
  rw [syncLabels]
  rw [(store_retires _).1, syncLabels_upserts, (store_upserts _).1]

theorem results_syncLabels :
    (monitor.syncLabels deps now agent containerName externalId parsed).store.results =
      monitor.store.results := by
  rw [syncLabels]
  rw [(store_retires _).2, syncLabels_upserts, (store_upserts _).2]

theorem declared_syncLabels_congr {other : EndpointMonitor} (later : Int)
    (same : monitor.store.declared = other.store.declared) :
    (monitor.syncLabels deps now agent containerName externalId parsed).store.declared =
      (other.syncLabels deps later agent containerName externalId parsed).store.declared := by
  rw [declared_syncLabels, declared_syncLabels, same, undeclared_congr same]

/-- The labels declare what is stored for the container. -/
def Declares (agent containerName externalId : String) (parsed : List ParsedEndpoint)
    (store : EndpointStore) : Prop :=
  (∀ p ∈ parsed, ∃ e ∈ store.getEndpointByID ⟨agent, containerName, p.labelKey⟩,
    e.externalId = externalId ∧ e.target = p.target ∧ e.active = true) ∧
  ∀ e ∈ store.listEndpointsByExternalID agent externalId,
    e.id.labelKey ∈ parsed.map ParsedEndpoint.labelKey

instance (agent containerName externalId : String) (parsed : List ParsedEndpoint)
    (store : EndpointStore) : Decidable (Declares agent containerName externalId parsed store) :=
  inferInstanceAs (Decidable (_ ∧ _))

theorem declare_all_stored {table : Keyed Endpoint.id}
    (stored : ∀ report ∈ reports, ∃ e, table.lookup report.id = some e ∧
      e.externalId = report.externalId ∧ e.target = report.target ∧ e.active = true) :
    reports.foldl (fun table report => declare report table) table = table := by
  induction reports with
  | nil => rfl
  | cons report reports ih =>
    obtain ⟨⟨e, found, external, target, active⟩, rest⟩ := forall_mem_cons.mp stored
    have kept : declare report table = table := by
      rw [declare, if_pos (by rw [found]; rfl)]
      refine update_eq_self _ ?_
      intro item mem here
      obtain rfl : item = e := by
        have there := lookup_eq_some.mpr ⟨mem, here⟩
        rw [found] at there
        exact (Option.some.inj there).symm
      rw [EndpointReport.declares, ← external, ← target, ← active]
    rw [foldl_cons, kept]
    exact ih rest

theorem undeclared_eq_nil (all : ∀ e ∈ monitor.store.listEndpointsByExternalID agent externalId,
      e.id.labelKey ∈ parsed.map ParsedEndpoint.labelKey) :
    undeclared agent externalId parsed monitor.store = [] := by
  rw [undeclared, map_eq_nil_iff, filter_eq_nil_iff]
  intro e mem missing
  have listed : e ∈ monitor.store.listEndpointsByExternalID agent externalId := by
    rcases mem_of_mem_foldl_insert mem with absent | there
    · exact absurd absent (not_mem_empty e)
    · exact there
  exact of_decide_eq_true missing (all e listed)

theorem declared_syncLabels_of_declares
    (stored : Declares agent containerName externalId parsed monitor.store) :
    (monitor.syncLabels deps now agent containerName externalId parsed).store.declared =
      monitor.store.declared := by
  rw [declared_syncLabels, undeclared_eq_nil stored.2]
  refine declare_all_stored ?_
  intro report mem
  obtain ⟨p, p_mem, rfl⟩ := mem_map.mp mem
  obtain ⟨e, found, external, target, active⟩ := stored.1 p p_mem
  refine ⟨e.declared, ?_, external, target, active⟩
  rw [EndpointStore.declared, lookup_map]
  exact congrArg (Option.map declared) found

end Synchronisations

end Maintenant.Endpoints
