import Maintenant.Escalation.Runner

/-!
# What a call does to the runs

Most calls leave the runs and what happened to them alone.  The others change rows one at a time:
they stop runs, take their policy from them, delete them, insert new ones, or, in a cycle, move a
run forward.
-/

namespace Maintenant.Escalation

open Program
open Agent (unix nanosPerSecond)

/-- The call leaves the runs alone. -/
def Call.quiet : {β : Type} → Call β → Bool
  | _, .insertRun .. => false
  | _, .updateRunProgress .. => false
  | _, .terminateRun .. => false
  | _, .pauseRunForMaintenance .. => false
  | _, .resumeRunFromMaintenance .. => false
  | _, .deletePolicyRow _ => false
  | _, .stopPolicyRuns .. => false
  | _, .bulkStopActiveRuns .. => false
  | _, .purgeBatch _ => false
  | _, .executing .. => false
  | _, .changeAlerts _ => false
  | _, _ => true

/-- The runs and their past are as before. -/
structure Untouched (before after : World) : Prop where
  runs : after.runs = before.runs
  ended : after.ended = before.ended
  cycles : after.cycles = before.cycles
  journal : after.journal = before.journal
  nextId : before.nextId ≤ after.nextId

theorem Untouched.refl {world : World} : Untouched world world :=
  ⟨rfl, rfl, rfl, rfl, le_rfl⟩

variable {β : Type} {input : Input} {world before after : World}

variable {fails : Bool}

theorem Untouched.writing (untouched : Untouched world after) :
    Untouched world (Program.writing fails world after).2 :=
  writing_cases (.refl) fun _ => untouched

theorem untouched_of_quiet {request : Call β} (quiet : request.quiet) :
    Untouched world (exec input request world).2 := by
  have same : Untouched world world := .refl
  cases request with
  | insertDelivery =>
    simp only [exec]
    split
    · exact same
    simp only [World.insertDelivery]
    split
    · exact same
    · split
      · exact { same with nextId := Nat.le_succ _ }
      · exact same
  | insertPolicy =>
    exact Untouched.writing { same with nextId := Nat.le_succ _ }
  | updateDelivery | setEscalatedAt | updatePolicy | bulkDeactivateAllPolicies
  | bulkRestorePoliciesFromDowngrade => exact Untouched.writing { same with }
  | launch | claim | changeChannels | changeSuppression | changeLicence => exact { same with }
  | insertRun | updateRunProgress | terminateRun | pauseRunForMaintenance
  | resumeRunFromMaintenance | deletePolicyRow | stopPolicyRuns | bulkStopActiveRuns
  | purgeBatch | executing | changeAlerts => cases quiet
  | _ => exact same

/-! ### Rows -/

namespace World

theorem stopRunning_cases {status : RunStatus} {endedAt : Int} {row : Run} :
    stopRunning status endedAt row = row ∨
      row.status.terminal = false ∧ stopRunning status endedAt row = stop status endedAt row := by
  simp only [stopRunning]
  split
  · exact .inl rfl
  next running => exact .inr ⟨by simpa using running, rfl⟩

variable {status : RunStatus} {endedAt : Int} {row : Run}

theorem mem_stopPolicyRuns {policyId : Nat}
    (mem : row ∈ (world.stopPolicyRuns policyId status endedAt).runs) :
    ∃ old ∈ world.runs, row = old ∨ old.status.terminal = false ∧
      row = stop status endedAt old := by
  obtain ⟨old, old_mem, rfl⟩ := List.mem_map.mp mem
  refine ⟨old, old_mem, ?_⟩
  split
  · exact stopRunning_cases
  · exact Or.inl rfl

theorem mem_bulkStopActiveRuns (mem : row ∈ (world.bulkStopActiveRuns status endedAt).runs) :
    ∃ old ∈ world.runs, row = old ∨ old.status.terminal = false ∧
      row = stop status endedAt old := by
  obtain ⟨old, old_mem, rfl⟩ := List.mem_map.mp mem
  exact ⟨old, old_mem, stopRunning_cases⟩

variable {id : Nat}

theorem mem_deletePolicyRow (mem : row ∈ (world.deletePolicyRow id).runs) :
    ∃ old ∈ world.runs, row = old ∨ row = { old with policyId := none } := by
  obtain ⟨old, old_mem, rfl⟩ := List.mem_map.mp mem
  refine ⟨old, old_mem, ?_⟩
  split
  · exact .inr rfl
  · exact .inl rfl

theorem mem_modifyRun {change : Run → Run}
    (mem : row ∈ world.runs.items.map fun row => if row.id = id then change row else row) :
    row ∈ world.runs ∧ row.id ≠ id ∨ ∃ old ∈ world.runs, old.id = id ∧ row = change old := by
  obtain ⟨old, old_mem, rfl⟩ := List.mem_map.mp mem
  split
  next here => exact .inr ⟨old, old_mem, here, rfl⟩
  next elsewhere => exact .inl ⟨old_mem, elsewhere⟩

theorem mem_deleteRuns {gone : Run → Bool} (mem : row ∈ (world.deleteRuns gone).runs) :
    row ∈ world.runs :=
  (Keyed.mem_filter.mp mem).1

theorem mem_insertRun {policyId : Option Nat} {snapshot : Policy} {alertId : Alerting.AlertId}
    {last startedAt : Int} {nextActionAt : Option Int}
    (mem : row ∈ (world.insertRun policyId snapshot alertId status last startedAt
      nextActionAt).runs) : row ∈ world.runs ∨
      row = world.newRun policyId snapshot alertId status last startedAt nextActionAt := by
  rcases Keyed.mem_insert.mp mem with ⟨old, -⟩ | new
  · exact .inl old
  · exact .inr new

end World

/-! ### Which calls an operation makes -/

/-- The arguments of `InsertRun` are those of a new run: no level executed, due after the delay of
its first level. -/
def Begins (snapshot : Policy) (status : RunStatus) (last startedAt : Int)
    (nextActionAt : Option Int) : Prop :=
  status = .active ∧ last = -1 ∧ ∃ first, snapshot.levels[0]? = some first ∧
    nextActionAt = some (startedAt + first.delaySeconds * nanosPerSecond)

/-- What calls outside of a cycle's work on due runs are like: they start and stop runs. -/
def Call.foreign : {β : Type} → Call β → Prop
  | _, .insertRun _ snapshot _ status last startedAt nextActionAt =>
    Begins snapshot status last startedAt nextActionAt
  | _, .terminateRun _ status _ => status.terminal
  | _, .stopPolicyRuns _ status _ => status.terminal
  | _, .bulkStopActiveRuns status _ => status.terminal
  | _, .updateRunProgress .. => False
  | _, .pauseRunForMaintenance .. => False
  | _, .resumeRunFromMaintenance .. => False
  | _, .executing .. => False
  | _, _ => True

/-- The call leaves runs and history alone, as a condition on calls. -/
def Call.Quiet {β : Type} (request : Call β) : Prop := request.quiet

theorem Call.foreign_of_quiet (request : Call β) (quiet : request.Quiet) : request.foreign := by
  cases request <;> trivial

section Uses

variable {a : Alerting.Alert} {alertId : Alerting.AlertId} {ack : Acknowledgment} {d : Delivery}
  {existing changed : Policy} {req : PolicyRequest} {active : Bool} {chId reason : String}
  {channelIds : List String} {runId index id : Nat} {levelIndex timeout resolvedAt now : Int}

theorem uses_dispatchToChannel :
    (dispatchToChannel runId levelIndex a now chId).Uses Call.Quiet := by
  simp only [dispatchToChannel, bind_eq, perform_bind]
  refine uses_call rfl fun found => ?_
  split
  · refine uses_call rfl fun inserted => ?_
    split
    · split
      · exact ⟨rfl, fun _ => trivial⟩
      · exact ⟨rfl, fun _ => trivial⟩
    · trivial
  · trivial

theorem uses_dispatchSpecial : (dispatchSpecial runId levelIndex channelIds a).Uses Call.Quiet := by
  exact ⟨rfl, fun now => uses_forEach fun _ _ => uses_dispatchToChannel⟩

theorem uses_abandonDelivery : (abandonDelivery d reason).Uses Call.Quiet :=
  ⟨rfl, fun _ => trivial⟩

theorem uses_recoverOrphan : (recoverOrphan d).Uses Call.Quiet := by
  simp only [recoverOrphan, bind_eq, perform_bind]
  refine uses_call rfl fun found => ?_
  split
  · split
    · exact uses_abandonDelivery
    refine uses_call rfl fun found => ?_
    split
    · split
      · exact uses_abandonDelivery
      split
      · exact uses_abandonDelivery
      refine uses_call rfl fun found => ?_
      split
      · exact ⟨rfl, fun _ => trivial⟩
      · exact uses_abandonDelivery
    · exact uses_abandonDelivery
  · exact uses_abandonDelivery

theorem uses_recoverOrphans : (recoverOrphans timeout now).Uses Call.Quiet := by
  simp only [recoverOrphans, bind_eq, perform_bind]
  refine uses_call rfl fun found => ?_
  split
  · trivial
  · exact uses_forEach fun _ _ => uses_recoverOrphan

theorem uses_goroutine : (goroutine index).Uses Call.Quiet := by
  simp only [goroutine, deliverAndUpdate, bind_eq, perform_bind]
  refine uses_call rfl fun claimed => ?_
  split
  · refine uses_call rfl fun error => ?_
    split
    · exact ⟨rfl, fun _ => trivial⟩
    · exact ⟨rfl, fun _ => ⟨rfl, fun _ => trivial⟩⟩
  · trivial

theorem uses_onAlertCreated : (onAlertCreated a now).Uses Call.foreign := by
  simp only [onAlertCreated, bind_eq, perform_bind]
  refine uses_call trivial fun allowed => ?_
  split
  · trivial
  refine uses_call trivial fun existing => ?_
  split
  · trivial
  refine uses_call trivial fun policies => ?_
  split
  · trivial
  refine uses_forEach fun p _ => ?_
  split
  · trivial
  split
  · split
    · trivial
    next first rest levels =>
      exact ⟨⟨rfl, rfl, first, by rw [levels]; rfl, rfl⟩, fun _ => trivial⟩
  · trivial

theorem uses_onAlertAcknowledged : (onAlertAcknowledged alertId ack now).Uses Call.foreign := by
  simp only [onAlertAcknowledged, bind_eq, perform_bind]
  refine uses_call trivial fun found => ?_
  split
  · trivial
  split
  · trivial
  refine uses_call trivial fun alert => uses_forEach fun run _ => ?_
  simp only [acknowledgeRun, bind_eq, perform_bind]
  refine uses_call rfl fun terminated => ?_
  split
  · trivial
  split
  · trivial
  split
  · trivial
  refine uses_call trivial fun deliveries => ?_
  split
  · trivial
  · exact uses_dispatchSpecial.mono Call.foreign_of_quiet

theorem uses_onAlertResolved : (onAlertResolved alertId resolvedAt).Uses Call.foreign := by
  simp only [onAlertResolved, bind_eq, perform_bind]
  refine uses_call trivial fun found => ?_
  split
  · trivial
  · exact uses_forEach fun run _ => ⟨rfl, fun _ => trivial⟩

theorem uses_savePolicy : (savePolicy existing changed now).Uses Call.foreign := by
  simp only [savePolicy, bind_eq, perform_bind]
  refine uses_call trivial fun updated => ?_
  split
  · trivial
  · split
    · exact ⟨rfl, fun _ => trivial⟩
    · trivial

theorem uses_deletePolicy : (deletePolicy id now).Uses Call.foreign := by
  simp only [deletePolicy, bind_eq, perform_bind]
  refine uses_call trivial fun found => ?_
  split
  · refine uses_call rfl fun stopped => ?_
    split
    · trivial
    · exact ⟨trivial, fun _ => trivial⟩
  · trivial

theorem uses_createPolicy : (createPolicy req).Uses Call.foreign := by
  simp only [createPolicy]
  split
  · trivial
  · exact ⟨trivial, fun _ => trivial⟩

theorem uses_updatePolicy : (updatePolicy id req now).Uses Call.foreign := by
  simp only [updatePolicy, bind_eq, perform_bind]
  refine uses_call trivial fun found => ?_
  split
  · split
    · trivial
    · exact uses_savePolicy
  · trivial

theorem uses_setPolicyActive : (setPolicyActive id active now).Uses Call.foreign := by
  simp only [setPolicyActive, bind_eq, perform_bind]
  refine uses_call trivial fun found => ?_
  split
  · exact uses_savePolicy
  · trivial

theorem uses_onEditionDowngraded : (onEditionDowngraded now).Uses Call.foreign := by
  simp only [onEditionDowngraded, bind_eq, perform_bind]
  refine uses_call trivial fun deactivated => ?_
  split
  · trivial
  · exact ⟨rfl, fun _ => trivial⟩

end Uses

theorem Op.uses_foreign (timeout : Int) {op : Op} (other : op.isCycle = false) :
    (op.code timeout).Uses Call.foreign := by
  cases op with
  | cycle => cases other
  | created => exact uses_onAlertCreated
  | acknowledged => exact uses_onAlertAcknowledged
  | resolved => exact uses_onAlertResolved
  | goroutine => exact uses_goroutine.mono Call.foreign_of_quiet
  | createPolicy => exact uses_createPolicy
  | updatePolicy => exact uses_updatePolicy
  | setPolicyActive => exact uses_setPolicyActive
  | deletePolicy => exact uses_deletePolicy
  | downgraded => exact uses_onEditionDowngraded
  | upgraded | purge | alerts | channels | suppression | licence =>
    exact ⟨trivial, fun _ => trivial⟩

/-- An endpoint is down and nobody has acknowledged it. -/
def standingAlert : Alerting.Alert where
  id := 0
  source := "endpoint"
  alertType := "down"
  severity := "critical"
  status := .active
  message := "timeout"
  entityType := "endpoint"
  entityId := "1"
  entityName := "shop"
  agentId := ""
  details := ""
  resolvedById := none
  firedAt := 0
  resolvedAt := none
  acknowledgedAt := none
  acknowledgedBy := ""
  escalatedAt := none
  createdAt := none

end Maintenant.Escalation
