import Maintenant.Alerting.Model
import Maintenant.Execution

/-!
# Certificate monitors

A label monitor belongs to the container whose labels created it, though others may declare the same
host and port.  Scans and the operator each read a monitor, change their columns and write all of
them.
-/

namespace Maintenant.Certificates

open Function Execution
open Alerting (localAgent)

/-! ### Label monitors -/

/-- Where a monitor comes from. -/
inductive CertSource
  | auto
  | standalone
  | label
  deriving DecidableEq

/-- What names a certificate monitor. -/
structure Monitor where
  hostname : String
  port : Nat
  serverName : String
  agentId : String
  source : CertSource
  externalId : String
  deriving DecidableEq

/-- `ParsedCertLabel`, a host and a port. -/
abbrev Target := String × Nat

def Monitor.target (m : Monitor) : Target := (m.hostname, m.port)

/-- Discovered in the labels of a local container. -/
def Monitor.labelled (m : Monitor) : Prop := m.agentId = localAgent ∧ m.source = .label

instance (m : Monitor) : Decidable m.labelled := inferInstanceAs (Decidable (_ ∧ _))

def labelMonitor (externalId : String) (target : Target) : Monitor :=
  ⟨target.1, target.2, "", localAgent, .label, externalId⟩

def getMonitorByHostPort (monitors : List Monitor) (target : Target) : Option Monitor :=
  monitors.find? fun m => m.target = target ∧ m.serverName = ""

def ensureMonitor (externalId : String) (monitors : List Monitor) (target : Target) :
    List Monitor :=
  match getMonitorByHostPort monitors target with
  | some _ => monitors
  | none => monitors ++ [labelMonitor externalId target]

def deleteLabelMonitors (externalId : String) (keep : List Target) (monitors : List Monitor) :
    List Monitor :=
  monitors.filter fun m => ¬(m.labelled ∧ m.externalId = externalId ∧ m.target ∉ keep)

/-- `parsed` is what `ParseCertificateLabels` makes of the labels. -/
def syncFromLabels (externalId : String) (parsed : List Target) (monitors : List Monitor) :
    List Monitor :=
  if parsed = [] then deleteLabelMonitors externalId [] monitors
  else deleteLabelMonitors externalId parsed (parsed.foldl (ensureMonitor externalId) monitors)

def handleContainerDestroy (externalId : String) (monitors : List Monitor) : List Monitor :=
  deleteLabelMonitors externalId [] monitors

/-- The monitors and what containers declare. -/
structure Fleet where
  monitors : List Monitor
  /-- History variable: what the labels of each container last declared, which is nothing once it
  is destroyed. -/
  declared : String → List Target

/-- Label synchronisation and its end. -/
inductive Fleet.Action
  | sync (externalId : String) (parsed : List Target)
  | destroy (externalId : String)

variable {m : Monitor}

namespace Fleet

def next (fleet : Fleet) : Action → Option Fleet
  | .sync externalId parsed => some
    ⟨syncFromLabels externalId parsed fleet.monitors,
      Function.update fleet.declared externalId parsed⟩
  | .destroy externalId => some
    ⟨handleContainerDestroy externalId fleet.monitors, Function.update fleet.declared externalId []⟩

/-- A host and port is monitored under its own name. -/
def Has (monitors : List Monitor) (target : Target) : Prop :=
  ∃ m ∈ monitors, m.target = target ∧ m.serverName = ""

/-- What is declared is monitored, and what is discovered in labels is declared. -/
def Matches (fleet : Fleet) : Prop :=
  (∀ id, ∀ target ∈ fleet.declared id, Has fleet.monitors target) ∧
    ∀ m ∈ fleet.monitors, m.labelled → ∃ id, m.target ∈ fleet.declared id

/-- No other container declares what the container owns and does not declare any more. -/
def SparesFor (fleet : Fleet) (externalId : String) (parsed : List Target) : Prop :=
  ∀ m ∈ fleet.monitors, m.labelled → m.externalId = externalId → m.target ∉ parsed →
    ∀ other ≠ externalId, m.target ∉ fleet.declared other

/-- It removes no monitor that another container declares. -/
def Spares (fleet : Fleet) : Action → Prop
  | .sync externalId parsed => fleet.SparesFor externalId parsed
  | .destroy externalId => fleet.SparesFor externalId []

/-- Each label monitor is declared by its owner, and no other has its host and port. -/
structure Owned (fleet : Fleet) : Prop where
  declared : ∀ m ∈ fleet.monitors, m.labelled → m.target ∈ fleet.declared m.externalId
  plain : ∀ m ∈ fleet.monitors, m.labelled → m.serverName = ""
  alone : ∀ m ∈ fleet.monitors, m.labelled → ∀ other ∈ fleet.monitors, other.target = m.target →
    other.serverName = "" → other = m

variable {fleet after : Fleet} {externalId : String} {parsed : List Target}
  {monitors : List Monitor}
  {target : Target}

theorem getMonitorByHostPort_eq_none :
    getMonitorByHostPort monitors target = none ↔ ¬Has monitors target := by
  simp [getMonitorByHostPort, Has]

theorem mem_ensureMonitor : m ∈ ensureMonitor externalId monitors target ↔
      m ∈ monitors ∨ ¬Has monitors target ∧ m = labelMonitor externalId target := by
  rw [ensureMonitor, ← getMonitorByHostPort_eq_none]
  cases getMonitorByHostPort monitors target <;> simp

theorem has_ensureMonitor {other : Target} :
    Has (ensureMonitor externalId monitors target) other ↔ Has monitors other ∨ other = target := by
  simp only [Has, mem_ensureMonitor]
  constructor
  · rintro ⟨m, old | ⟨-, rfl⟩, rfl, named⟩
    · exact .inl ⟨m, old, rfl, named⟩
    · exact .inr rfl
  rintro (⟨m, old, here, named⟩ | rfl)
  · exact ⟨m, .inl old, here, named⟩
  by_cases found : Has monitors other
  · obtain ⟨m, old, here, named⟩ := found
    exact ⟨m, .inl old, here, named⟩
  · exact ⟨_, .inr ⟨found, rfl⟩, rfl, rfl⟩

theorem mem_foldl_ensureMonitor (m : Monitor) :
    m ∈ parsed.foldl (ensureMonitor externalId) monitors ↔ m ∈ monitors ∨
      ∃ target ∈ parsed, ¬Has monitors target ∧ m = labelMonitor externalId target := by
  induction parsed generalizing monitors with
  | nil => simp
  | cons target parsed ih =>
    simp only [List.foldl_cons, ih, mem_ensureMonitor, has_ensureMonitor]
    grind

theorem syncFromLabels_eq : syncFromLabels externalId parsed monitors =
    deleteLabelMonitors externalId parsed (parsed.foldl (ensureMonitor externalId) monitors) := by
  rw [syncFromLabels]
  split
  case isTrue empty => rw [empty, List.foldl_nil]
  case isFalse => rfl

theorem mem_syncFromLabels : m ∈ syncFromLabels externalId parsed monitors ↔
    m ∈ monitors ∧ (m.labelled → m.externalId = externalId → m.target ∈ parsed) ∨
      ∃ target ∈ parsed, ¬Has monitors target ∧ m = labelMonitor externalId target := by
  rw [syncFromLabels_eq, deleteLabelMonitors, List.mem_filter, mem_foldl_ensureMonitor]
  simp only [decide_eq_true_eq, not_and, not_not]
  constructor
  · rintro ⟨old | new, kept⟩
    · exact .inl ⟨old, kept⟩
    · exact .inr new
  · rintro (⟨old, kept⟩ | ⟨target, mem, free, rfl⟩)
    · exact ⟨.inl old, kept⟩
    · exact ⟨.inr ⟨target, mem, free, rfl⟩, fun _ _ => mem⟩

theorem has_syncFromLabels :
    Has (syncFromLabels externalId parsed fleet.monitors) target ↔ target ∈ parsed ∨
      ∃ m ∈ fleet.monitors, m.target = target ∧ m.serverName = "" ∧
        ¬(m.labelled ∧ m.externalId = externalId) := by
  simp only [Has, mem_syncFromLabels]
  by_cases here : target ∈ parsed
  · by_cases found : Has fleet.monitors target
    · obtain ⟨m, mem, rfl, named⟩ := found
      simp only [here, true_or, iff_true]
      exact ⟨m, .inl ⟨mem, fun _ _ => here⟩, rfl, named⟩
    · simp only [here, true_or, iff_true]
      exact ⟨_, .inr ⟨target, here, found, rfl⟩, rfl, rfl⟩
  · constructor
    · rintro ⟨m, ⟨mem, kept⟩ | ⟨_, other, -, rfl⟩, rfl, named⟩
      · exact .inr ⟨m, mem, rfl, named, fun own => here (kept own.1 own.2)⟩
      · exact absurd other here
    · rintro (there | ⟨m, mem, rfl, named, foreign⟩)
      · exact absurd there here
      · exact ⟨m, .inl ⟨mem, fun labelled own => absurd ⟨labelled, own⟩ foreign⟩, rfl, named⟩

theorem Owned.sync (owned : fleet.Owned) (parsed : List Target) :
    Owned ⟨syncFromLabels externalId parsed fleet.monitors,
      update fleet.declared externalId parsed⟩ := by
  refine ⟨fun m mem labelled => ?_, fun m mem labelled => ?_,
    fun m mem labelled other other_mem same named => ?_⟩
  · have declared := owned.declared m
    rw [mem_syncFromLabels] at mem
    grind [labelMonitor, Monitor.target]
  · rcases mem_syncFromLabels.mp mem with ⟨old, -⟩ | ⟨_, -, -, rfl⟩
    · exact owned.plain m old labelled
    · rfl
  have plain := owned.plain
  have alone := owned.alone
  rw [mem_syncFromLabels] at mem other_mem
  grind [Has, labelMonitor, Monitor.target]

/-- A container leaves the others their monitors exactly when it owns none that they declare and it
does not. -/
theorem Owned.matches_sync (owned : fleet.Owned) (matched : fleet.Matches) :
    Matches ⟨syncFromLabels externalId parsed fleet.monitors,
      update fleet.declared externalId parsed⟩ ↔ fleet.SparesFor externalId parsed := by
  constructor
  · rintro ⟨monitored, -⟩ m mem labelled own dropped other away declared
    have still := monitored other m.target (by simpa only [update_of_ne away] using declared)
    rcases has_syncFromLabels.mp still with kept | ⟨same, same_mem, here, named, foreign⟩
    · exact dropped kept
    · rw [owned.alone m mem labelled same same_mem here named] at foreign
      exact foreign ⟨labelled, own⟩
  · intro spares
    refine ⟨fun id target declared => has_syncFromLabels.mpr ?_, fun m mem labelled =>
      ⟨m.externalId, (owned.sync parsed).declared m mem labelled⟩⟩
    by_cases own : id = externalId
    · subst own
      exact .inl (by simpa only [update_self] using declared)
    simp only [update_of_ne own] at declared
    obtain ⟨m, mem, rfl, named⟩ := matched.1 id target declared
    by_cases kept : m.target ∈ parsed
    · exact .inl kept
    · refine .inr ⟨m, mem, rfl, named, fun dropped => ?_⟩
      exact spares m mem dropped.1 dropped.2 kept id own declared

/-- From a store without label monitors, what containers declare and what labels monitor agree all
along exactly when no operation removes a monitor that another container declares. -/
theorem label_monitors_match_iff_spared {monitors : List Monitor}
    (unlabelled : ∀ m ∈ monitors, ¬m.labelled) (actions : List Action) :
    Always next Matches ⟨monitors, fun _ => []⟩ actions ↔
      Guarded next Spares ⟨monitors, fun _ => []⟩ actions := by
  have total : ∀ fleet action, ∃ after, next fleet action = some after := by
    rintro fleet (_ | _) <;> exact ⟨_, rfl⟩
  obtain ⟨final, execution⟩ := run_of_total total ⟨monitors, fun _ => []⟩ actions
  have start : ∀ {p : Monitor → Prop}, ∀ m ∈ monitors, m.labelled → p m :=
    fun m mem labelled => absurd labelled (unlabelled m mem)
  refine @Execution.always_iff_guarded _ _ next Matches Owned Spares ?_ ?_ _ final actions
    ⟨start, start, start⟩ ⟨fun _ _ mem => absurd mem List.not_mem_nil, start⟩ execution
  · rintro before after (⟨id, parsed⟩ | id) owned ⟨⟩
    · exact owned.sync parsed
    · exact owned.sync []
  · rintro before after (⟨id, parsed⟩ | id) owned matched ⟨⟩
    · exact owned.matches_sync matched
    · exact owned.matches_sync matched

private def shared : List Action :=
  [.sync "a" [("h", 443)], .sync "b" [("h", 443)], .destroy "b", .destroy "a"]

/-- Two containers of one host, the second of which is destroyed first. -/
theorem label_monitors_match_in_turn : ∃ final, run next ⟨[], fun _ => []⟩ shared = some final ∧
      Always next Matches ⟨[], fun _ => []⟩ shared := by
  refine ⟨_, rfl, (label_monitors_match_iff_spared (by simp) shared).mpr ?_⟩
  have owned :
      syncFromLabels "a" [("h", 443)] [] = [labelMonitor "a" ("h", 443)] := by decide +kernel
  have found : syncFromLabels "b" [("h", 443)] [labelMonitor "a" ("h", 443)] =
    [labelMonitor "a" ("h", 443)] := by decide +kernel
  have left : handleContainerDestroy "b" [labelMonitor "a" ("h", 443)] =
    [labelMonitor "a" ("h", 443)] := by decide +kernel
  have owner : (labelMonitor "a" ("h", 443)).externalId = "a" := rfl
  simp [shared, Guarded, next, Spares, SparesFor, owned, found, left, owner, update_apply]
  exact fun _ _ away _ same => absurd same away

/-- The container whose labels created the monitor is destroyed, and the other is left without. -/
theorem shared_host_unmonitored : ∃ final,
    run next ⟨[], fun _ => []⟩ [.sync "a" [("h", 443)], .sync "b" [("h", 443)],
      .destroy "a"] = some final ∧ final.monitors = [] ∧ final.declared "b" = [("h", 443)] :=
  ⟨_, rfl, by decide +kernel, by decide +kernel⟩

end Fleet

/-! ### Settings -/

/-- The columns of a monitor that scans write. -/
structure ScanColumns where
  status : String
  lastCheckAt : Option Int
  lastAlertedThreshold : Option Int
  nextCheckAt : Option Int
  lastError : String
  deriving DecidableEq

/-- The columns of the operator and of the scans. -/
structure MonitorRow where
  checkIntervalSeconds : Int
  warningThresholds : List Int
  scan : ScanColumns

/-- A request to change the settings. -/
structure UpdateCertificateInput where
  checkIntervalSeconds : Option Int
  warningThresholds : List Int

/-- What the operator sets. -/
def MonitorRow.settings (row : MonitorRow) : Int × List Int :=
  (row.checkIntervalSeconds, row.warningThresholds)

/-- What a scan sets. -/
def MonitorRow.scanned (row : MonitorRow) : String × Option Int × Option Int :=
  (row.scan.status, row.scan.lastCheckAt, row.scan.lastAlertedThreshold)

/-- What `UpdateMonitor` makes of the row it read. -/
def MonitorRow.apply (row : MonitorRow) (input : UpdateCertificateInput) : Option MonitorRow :=
  if input.checkIntervalSeconds.any fun v => v < 3600 ∨ v > 604800 then none
  else some { row with
    checkIntervalSeconds := input.checkIntervalSeconds.getD row.checkIntervalSeconds
    warningThresholds := if input.warningThresholds = [] then row.warningThresholds
      else input.warningThresholds }

/-- The row, and what the requests under way have read of it. -/
structure Desk where
  row : MonitorRow
  held : Nat → Option MonitorRow
  /-- History variable: the settings of the operator's last successful update. -/
  wanted : Int × List Int
  /-- History variable: what the last scan wrote. -/
  seen : String × Option Int × Option Int

/-- Checks and updates, one statement at a time. -/
inductive Desk.Action (raw : Type)
  /-- A check, a pushed scan or an update reads the row. -/
  | read (id : Nat)
  /-- The check has scanned and writes the row in `processCheckResult`. -/
  | complete (id : Nat) (raw : raw)
  /-- The update writes the row. -/
  | save (id : Nat) (input : UpdateCertificateInput)

namespace Desk

variable {raw : Type} (process : MonitorRow → raw → ScanColumns)

def start (row : MonitorRow) : Desk := ⟨row, fun _ => none, row.settings, row.scanned⟩

/-- `process` is what a scan makes of the row it was given. -/
def next (desk : Desk) : Action raw → Option Desk
  | .read id => some { desk with held := Function.update desk.held id desk.row }
  | .complete id raw => (desk.held id).map fun read =>
    let row := { read with scan := process read raw }
    { desk with row, held := Function.update desk.held id none, seen := row.scanned }
  | .save id input => (desk.held id).map fun read =>
    let held := Function.update desk.held id none
    match read.apply input with
    | none => { desk with held }
    | some row => { desk with row, held, wanted := row.settings }

/-- The settings are the operator's, and the rest is that of the last scan. -/
def Kept (desk : Desk) : Prop := desk.row.settings = desk.wanted ∧ desk.row.scanned = desk.seen

/-- What was read of the columns of the other side is still in the row. -/
def Current (desk : Desk) : Action raw → Prop
  | .read _ => True
  | .complete id _ => ∀ read ∈ desk.held id, read.settings = desk.row.settings
  | .save id input => ∀ read ∈ desk.held id, (read.apply input).isSome →
    read.scanned = desk.row.scanned

theorem scanned_apply {read row : MonitorRow} {input : UpdateCertificateInput}
    (applied : read.apply input = some row) : row.scanned = read.scanned := by
  obtain ⟨-, ⟨⟩⟩ := Option.ite_none_left_eq_some.mp applied
  rfl

/-- The settings are always those of the operator's last update and no update undoes a scan, exactly
when every write finds the columns of the other side as they were read. -/
theorem settings_kept_iff_current (row : MonitorRow) {actions : List (Action raw)} {final : Desk}
    (execution : run (next process) (start row) actions = some final) :
    Always (next process) Kept (start row) actions ↔
      Guarded (next process) Current (start row) actions := by
  refine @Execution.always_iff_guarded _ _ _ Kept (fun _ => True) Current (fun _ _ => trivial) ?_ _
    final actions trivial ⟨rfl, rfl⟩ execution
  rintro before after (id | ⟨id, raw⟩ | ⟨id, input⟩) - ⟨settings, scanned⟩ step
  · cases step
    exact iff_of_true ⟨settings, scanned⟩ trivial
  · obtain ⟨read, found, rfl⟩ := Option.map_eq_some_iff.mp step
    simp only [Kept, Current, found, Option.mem_some_iff, forall_eq', settings, and_true]
    rfl
  obtain ⟨read, found, rfl⟩ := Option.map_eq_some_iff.mp step
  simp only [Current, found, Option.mem_some_iff, forall_eq']
  cases applied : read.apply input with
  | none => simp [Kept, settings, scanned]
  | some => simp [Kept, scanned_apply applied, scanned]

private def unscanned : MonitorRow := ⟨43200, [30, 14, 7, 3, 1], ⟨"unknown", none, none, none, ""⟩⟩

private def scanAt (_ : MonitorRow) (second : Int) : ScanColumns :=
  ⟨"valid", some second, none, some (second + 43200), ""⟩

/-- An update, and two checks that overlap after it. -/
private def overlapping : List (Action Int) :=
  [.read 0, .save 0 ⟨some 3600, []⟩, .read 1, .read 2, .complete 1 10, .complete 2 20]

theorem settings_kept_between_checks : ∃ final,
    run (next scanAt) (start unscanned) overlapping = some final ∧ final.Kept ∧
      final.row.checkIntervalSeconds = 3600 ∧ final.row.scan.lastCheckAt = some 20 ∧
      Always (next scanAt) Kept (start unscanned) overlapping := by
  refine ⟨_, rfl, ⟨rfl, rfl⟩, rfl, rfl, (settings_kept_iff_current scanAt unscanned rfl).mpr ?_⟩
  simp [Guarded, overlapping, next, Current, MonitorRow.settings, MonitorRow.apply]

/-- A check that read the row before an update takes the update back, and an update that read it
before a check takes the check back. -/
theorem overlapping_writes_lost : ∃ first second,
    run (next scanAt) (start unscanned) [.read 0, .read 1, .save 1 ⟨some 3600, []⟩,
      .complete 0 10] = some first ∧ first.row.checkIntervalSeconds = 43200 ∧
    run (next scanAt) (start unscanned) [.read 1, .read 0, .complete 0 10,
      .save 1 ⟨some 3600, []⟩] = some second ∧ second.row.scan = unscanned.scan :=
  ⟨_, _, rfl, by decide +kernel, rfl, by decide +kernel⟩

end Desk

end Maintenant.Certificates
