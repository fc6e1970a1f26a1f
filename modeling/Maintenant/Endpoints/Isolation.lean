import Maintenant.Endpoints.Service

/-!
# Local operations and the endpoints of agents

The operations that follow the local runtime ask for the endpoints of the local agent, all but the
sweep, which takes every label-discovered endpoint.  The endpoints of the other agents stay as they
are exactly in the runs whose sweeps find each of them, if it is active, among the containers seen.
-/

namespace Maintenant.Endpoints

open Alerting List Execution Endpoint EndpointStore

/-- The operations that follow the local runtime. -/
inductive LocalOperation
  | sync (now : Int) (containerName externalId : String) (parsed : List ParsedEndpoint)
  | stop (now : Int) (externalId : String)
  | destroy (now : Int) (externalId : String)
  /-- `SweepOrphanedLabelEndpoints`. -/
  | sweep (now : Int) (seen : List String)

def LocalOperation.action : LocalOperation → EndpointAction
  | .sync now containerName externalId parsed => .sync now containerName externalId parsed
  | .stop now externalId => .stop now externalId
  | .destroy now externalId => .destroy now externalId
  | .sweep now seen => .sweep now seen

namespace EndpointMonitor

variable (deps : ServiceDeps)

def nextLocal (monitor : EndpointMonitor) (operation : LocalOperation) : Option EndpointMonitor :=
  monitor.next deps operation.action

/-- The endpoints of the other agents are the same. -/
def SameRemote (monitor after : EndpointMonitor) : Prop :=
  ∀ id : EndpointId, id.agent ≠ localAgent →
    after.store.getEndpointByID id = monitor.store.getEndpointByID id

/-- A sweep finds the container of every active label-discovered endpoint of another agent among
those seen. -/
def Sees (monitor : EndpointMonitor) : LocalOperation → Prop
  | .sweep _ seen =>
    ∀ e ∈ monitor.store.listEndpoints .label, e.id.agent ≠ localAgent → e.externalId ∈ seen
  | _ => True

variable {monitor : EndpointMonitor} {now : Int}

theorem getEndpointByID_retire {ids : List EndpointId}
    (id : EndpointId) : (ids.foldl (retire deps now) monitor).store.getEndpointByID id =
      if id ∈ ids then (monitor.store.getEndpointByID id).map deactivated
      else monitor.store.getEndpointByID id := by
  induction ids generalizing monitor with
  | nil => simp
  | cons first ids ih =>
    have one : (monitor.retire deps now first).store.getEndpointByID id =
        if id = first then (monitor.store.getEndpointByID id).map deactivated
        else monitor.store.getEndpointByID id :=
      getEndpointByID_deactivate monitor.store first id
    rw [foldl_cons, ih, one]
    have again : ∀ row : Option Endpoint,
        (row.map deactivated).map deactivated = row.map deactivated := by
      intro row
      rw [Option.map_map]
      rfl
    by_cases here : id = first
    · simp only [here, if_true, mem_cons_self, again, ite_self]
    · simp only [here, if_false, mem_cons, false_or]

variable {agent externalId : String} {store : EndpointStore}

theorem agent_of_mem_list {e : Endpoint}
    (mem : e ∈ store.listEndpointsByExternalID agent externalId) : e.id.agent = agent := by
  rw [listEndpointsByExternalID, mem_filter, decide_eq_true_eq] at mem
  exact mem.2.1

variable {id : EndpointId} {parsed : List ParsedEndpoint}

theorem agent_of_mem_undeclared
    (mem : id ∈ undeclared agent externalId parsed store) : id.agent = agent := by
  obtain ⟨e, e_mem, rfl⟩ := mem_map.mp mem
  rcases Keyed.mem_of_mem_foldl_insert (mem_of_mem_filter e_mem) with old | listed
  · exact absurd old (Keyed.not_mem_empty e)
  · exact agent_of_mem_list listed

theorem getEndpointByID_syncLabels {containerName : String} (other : id.agent ≠ agent) :
    (monitor.syncLabels deps now agent containerName externalId parsed).store.getEndpointByID id =
      monitor.store.getEndpointByID id := by
  have declared : ∀ store : EndpointStore, (parsed.foldl (fun store p =>
      store.upsertEndpoint (report agent containerName externalId p) now)
        store).getEndpointByID id = store.getEndpointByID id := by
    intro store
    induction parsed generalizing store with
    | nil => rfl
    | cons p parsed ih =>
      rw [foldl_cons, ih, getEndpointByID_upsert, if_neg]
      rintro rfl
      exact other rfl
  rw [syncLabels, getEndpointByID_retire, if_neg, declared]
  intro mem
  exact other (agent_of_mem_undeclared mem)

theorem getEndpointByID_stop (other : id.agent ≠ localAgent) :
    (monitor.handleContainerStop now externalId).store.getEndpointByID id =
      monitor.store.getEndpointByID id := by
  have listed : ∀ (rows : List Endpoint) (store : EndpointStore),
      (∀ e ∈ rows, e.id.agent = localAgent) →
      (rows.foldl (fun store ep => store.updateCheckResult ep.id (stoppedUpdate ep) now)
        store).getEndpointByID id = store.getEndpointByID id := by
    intro rows
    induction rows with
    | nil => exact fun _ _ => rfl
    | cons e rows ih =>
      intro store own
      obtain ⟨first, rest⟩ := forall_mem_cons.mp own
      rw [foldl_cons, ih _ rest, getEndpointByID_updateCheckResult, if_neg]
      rintro rfl
      exact other first
  exact listed _ monitor.store fun e mem => agent_of_mem_list mem

theorem sameRemote_perform_iff {operation : LocalOperation} :
    SameRemote monitor (monitor.perform deps operation.action) ↔ monitor.Sees operation := by
  cases operation with
  | sync =>
    refine iff_of_true (fun id other => ?_) trivial
    exact getEndpointByID_syncLabels deps other
  | stop =>
    exact iff_of_true (fun id other => getEndpointByID_stop other) trivial
  | destroy now externalId =>
    refine iff_of_true (fun id other => ?_) trivial
    change ((monitor.store.listEndpointsByExternalID localAgent externalId).map
      Endpoint.id |>.foldl (retire deps now) monitor).store.getEndpointByID id = _
    rw [getEndpointByID_retire, if_neg]
    intro mem
    obtain ⟨e, e_mem, rfl⟩ := mem_map.mp mem
    exact other (agent_of_mem_list e_mem)
  | sweep now seen =>
    have swept : ∀ id, (monitor.perform deps
        (LocalOperation.sweep now seen).action).store.getEndpointByID id =
        if id ∈ orphans seen monitor.store then
          (monitor.store.getEndpointByID id).map deactivated
        else monitor.store.getEndpointByID id :=
      getEndpointByID_retire deps
    constructor
    · intro same e listed remote
      by_contra unseen
      have orphan : e.id ∈ orphans seen monitor.store :=
        mem_map.mpr ⟨e, mem_filter.mpr ⟨listed, decide_eq_true unseen⟩, rfl⟩
      rw [listEndpoints, mem_filter, decide_eq_true_eq] at listed
      have kept := same e.id remote
      rw [swept, if_pos orphan, getEndpointByID_of_mem listed.1] at kept
      have active : e.deactivated.active = e.active := by rw [Option.some.inj kept]
      rw [listed.2.1] at active
      cases active
    · intro sees id remote
      rw [swept, if_neg]
      intro orphan
      obtain ⟨e, e_mem, rfl⟩ := mem_map.mp orphan
      obtain ⟨listed, unseen⟩ := mem_filter.mp e_mem
      exact of_decide_eq_true unseen (sees e listed remote)

/-- Local operations leave the endpoints of other agents alone exactly when every sweep finds the
active ones that labels declare. -/
theorem remote_endpoints_kept_iff_seen (monitor : EndpointMonitor)
    (operations : List LocalOperation) :
    Always (nextLocal deps) (SameRemote monitor) monitor operations ↔
      Guarded (nextLocal deps) Sees monitor operations := by
  have total : ∀ before operation, ∃ after, nextLocal deps before operation = some after :=
    fun _ _ => ⟨_, rfl⟩
  have kept : ∀ {before after : EndpointMonitor} {operation : LocalOperation}, True →
      nextLocal deps before operation = some after → True := fun _ _ => trivial
  obtain ⟨final, ran⟩ := run_of_total total monitor operations
  refine always_iff_guarded kept ?_ trivial (fun _ _ => rfl) ran
  intro before after operation _ same taken
  obtain rfl := Option.some.inj taken
  rw [← sameRemote_perform_iff deps]
  constructor
  · intro kept id remote
    rw [kept id remote, same id remote]
  · intro kept id remote
    rw [kept id remote, same id remote]

/-! ### An agent's endpoint at startup -/

/-- The server knows one endpoint, which an agent probes. -/
private def agentMonitor : EndpointMonitor :=
  EndpointMonitor.empty.syncAgentEndpoints .bare 0 "agent-1" "web" "c1"
    [⟨"maintenant.endpoint.http", .http, "http://web", ⟨3, 2, ""⟩⟩]

/-- The sweep after a discovery that finds only local containers deactivates it. -/
theorem sweep_deactivates_agent_endpoint :
    (agentMonitor.store.endpoints.items.map fun e => (e.id.agent, e.active)) = [("agent-1", true)] ∧
      ((agentMonitor.perform .bare
          (LocalOperation.sweep 0 ["local-container"]).action).store.endpoints.items.map fun e =>
            (e.id.agent, e.active)) = [("agent-1", false)] := by
  decide +kernel

end EndpointMonitor

end Maintenant.Endpoints
