import Maintenant.Resources.Store

/-!
# Alerts on the resources of a container

An evaluation reads the configuration of its container and writes the whole row back with its
counters.  An operator may write the row in between.
-/

namespace Maintenant.Resources

open Execution

/-- Which of the two thresholds are exceeded. -/
inductive AlertState
  | normal
  | cpu
  | memory
  | both
  deriving DecidableEq

/-- A row of `resource_alert_configs`. -/
structure ResourceAlertConfig where
  cpuThreshold : ℚ
  memThreshold : ℚ
  enabled : Bool
  alertState : AlertState
  cpuConsecutiveBreaches : Nat
  memConsecutiveBreaches : Nat
  lastAlertedAt : Option Int

namespace ResourceAlertConfig

/-- What the operator sets. -/
def settings (cfg : ResourceAlertConfig) : ℚ × ℚ × Bool :=
  (cfg.cpuThreshold, cfg.memThreshold, cfg.enabled)

/-- What `evaluateAlerts` writes back over an enabled configuration. -/
def evaluated (cfg : ResourceAlertConfig) (snap : ResourceSnapshot) (now : Int) :
    ResourceAlertConfig :=
  let memPercent := if 0 < snap.memLimit then (snap.memUsed : ℚ) / snap.memLimit * 100 else 0
  let cpuBreaches :=
    if snap.cpuPercent ≥ cfg.cpuThreshold then cfg.cpuConsecutiveBreaches + 1 else 0
  let memBreaches := if memPercent ≥ cfg.memThreshold then cfg.memConsecutiveBreaches + 1 else 0
  { cfg with
    alertState := if 2 ≤ cpuBreaches ∧ 2 ≤ memBreaches then .both
      else if 2 ≤ cpuBreaches then .cpu
      else if 2 ≤ memBreaches then .memory
      else .normal
    cpuConsecutiveBreaches := cpuBreaches
    memConsecutiveBreaches := memBreaches
    lastAlertedAt :=
      if 2 ≤ cpuBreaches ∧ cfg.alertState ≠ .cpu ∧ cfg.alertState ≠ .both ∨
          2 ≤ memBreaches ∧ cfg.alertState ≠ .memory ∧ cfg.alertState ≠ .both then some now
      else cfg.lastAlertedAt }

end ResourceAlertConfig

/-- The row of a container, and what the evaluations under way have read of it. -/
structure AlertDesk where
  row : Option ResourceAlertConfig
  held : Nat → Option ResourceAlertConfig
  /-- History variable: the settings of the operator's last update. -/
  wanted : Option (ℚ × ℚ × Bool)

namespace AlertDesk

/-- Evaluations and the operator, one statement at a time. -/
inductive Action
  /-- An evaluation reads the row, and ends if there is none or it is not enabled. -/
  | read (id : Nat)
  | write (id : Nat) (snap : ResourceSnapshot) (now : Int)
  /-- The operator's `UpsertAlertConfig`. -/
  | upsert (cfg : ResourceAlertConfig)

/-- The row is there or not, and no evaluation has read it. -/
def start (row : Option ResourceAlertConfig) : AlertDesk :=
  ⟨row, fun _ => none, row.map (·.settings)⟩

/-- An evaluation writes back the whole row that it read. -/
def next (desk : AlertDesk) : Action → Option AlertDesk
  | .read id =>
    some { desk with held := Function.update desk.held id (desk.row.filter (·.enabled)) }
  | .write id snap now => (desk.held id).map fun cfg =>
    { desk with row := some (cfg.evaluated snap now), held := Function.update desk.held id none }
  | .upsert cfg => some { desk with row := some cfg, wanted := some cfg.settings }

/-- The row has the settings that the operator gave last. -/
def Kept (desk : AlertDesk) : Prop := desk.row.map (·.settings) = desk.wanted

/-- An evaluation that writes read the settings that are stored. -/
def Current (desk : AlertDesk) : Action → Prop
  | .write id _ _ => ∀ cfg ∈ desk.held id, some cfg.settings = desk.row.map (·.settings)
  | _ => True

/-- The settings stored are always the operator's exactly when no evaluation writes after settings
were stored that it did not read. -/
theorem alert_settings_kept_iff_current (row : Option ResourceAlertConfig) {actions : List Action}
    {final : AlertDesk} (execution : run next (start row) actions = some final) :
    Always next Kept (start row) actions ↔ Guarded next Current (start row) actions := by
  refine @always_iff_guarded _ _ _ Kept (fun _ => True) Current (fun _ _ => trivial) ?_ _ final
    actions trivial rfl execution
  rintro before after (id | ⟨id, snap, now⟩ | cfg) - kept step
  · cases step
    exact iff_of_true kept trivial
  · obtain ⟨cfg, found, rfl⟩ := Option.map_eq_some_iff.mp step
    simp only [Current, found, Option.mem_some_iff, forall_eq', show _ = _ from kept]
    rfl
  · cases step
    exact iff_of_true rfl trivial

private def limits (cpu : ℚ) : ResourceAlertConfig := ⟨cpu, 90, true, .normal, 0, 0, none⟩

private def load (cpu : ℚ) : ResourceSnapshot := ⟨.fresh 0, ⟨"", "web"⟩, cpu, 1, 2, 0, 0, 0, 0, 60⟩

theorem alert_settings_kept_between_evaluations :
    let actions := [.read 0, .write 0 (load 85) 60, .upsert (limits 50), .read 1,
      .write 1 (load 85) 120]
    (run next (start (some (limits 80))) actions).isSome ∧
      Always next Kept (start (some (limits 80))) actions := by
  refine ⟨rfl, (alert_settings_kept_iff_current _ rfl).mpr ?_⟩
  simp [Guarded, next, Current, start, limits, ResourceAlertConfig.settings, Option.filter]

/-- An evaluation that read the row before the operator's update restores the thresholds. -/
theorem alert_settings_restored : ∃ final, run next (start (some (limits 80)))
      [.read 0, .upsert (limits 50), .write 0 (load 85) 60] = some final ∧
    final.row.map (·.cpuThreshold) = some 80 ∧ final.wanted = some (limits 50).settings :=
  ⟨_, rfl, rfl, rfl⟩

end AlertDesk

end Maintenant.Resources
