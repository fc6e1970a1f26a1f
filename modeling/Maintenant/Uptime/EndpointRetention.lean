import Maintenant.Endpoints.Service
import Maintenant.Uptime.EndpointDays
import Maintenant.Uptime.HeartbeatRetention

/-!
# Retention of check results

A check reaches the server up to a day after it was made, when its day may already be aggregated.
The rollup of a retention pass writes the last aggregated day again, so with a pass every day the
day of a late check is written once more when no check of that day can come any longer, and long
before its rows are purged.  What is lost are checks of targets that have no active endpoint, which
are dropped, and those of endpoints that are deleted, which go with them.
-/

namespace Maintenant.Uptime

open Agent (unix nanosPerSecond AgentEvent)
open Alerting (Environment uidAgent)
open Endpoints Execution
open Multihost (EventMeta eventMeta maxObservationAge)
open Keyed EndpointMonitor EndpointStore

/-- `checkResultRetention`. -/
def checkResultRetention : Int := 30 * 86400 * nanosPerSecond

/-- `inactiveEndpointRetention`. -/
def inactiveEndpointRetention : Int := 30 * 86400 * nanosPerSecond

def checksOf (id : EndpointId) (rows : List CheckRow) : List CheckRow :=
  rows.filter fun row => row.endpointId = id

/-- Daily uptime of the endpoints of a store. -/
def endpointCompute (store : EndpointStore) : ComputeDays EndpointId := fun id from_ to_ =>
  endpointDays (checksOf id store.results.items) from_ to_

/-- `rollupEndpoints`. -/
def rollupEndpoints (store : EndpointStore) (now : Int) :
    UptimeTable EndpointId → UptimeTable EndpointId :=
  rollup (endpointCompute store) (store.endpoints.items.map fun e => (e.id, none)) now
    checkResultRetention

/-- What the dispatcher hands on of an event of an authenticated agent, if it takes it. -/
def accepted (agentId : String) (event : AgentEvent) (now : Int) : Option EventMeta :=
  if event.agentId ≠ "" ∧ event.agentId ≠ agentId then none else (eventMeta event now).toOption

variable {info : EventMeta} {agentId : String}

theorem observedAt_of_accepted {event : AgentEvent} {now : Int}
    (taken : accepted agentId event now = some info) :
    now - maxObservationAge ≤ info.observedAt := by
  have positive : 0 ≤ maxObservationAge := by decide
  rw [accepted] at taken
  split at taken
  · cases taken
  rw [eventMeta] at taken
  split at taken
  · cases taken
    exact Int.sub_le_self now positive
  split at taken
  · cases taken
    exact Int.sub_le_self now positive
  split at taken
  · cases taken
  split at taken
  · cases taken
  next recent =>
    cases taken
    exact not_lt.mp recent

/-! ### Archives -/

/-- The tables, and the checks they would hold had none been purged. -/
structure EndpointArchive where
  monitor : EndpointMonitor
  uptime : UptimeTable EndpointId
  /-- Every check result stored so far of the endpoints there are. -/
  recorded : Keyed CheckRow.id
  clock : Int
  /-- When a retention pass last aggregated the days before. -/
  lastPass : Int

/-- What happens to the tables of checks. -/
inductive EndpointArchiveAction
  /-- A probe result comes from an agent. -/
  | event (env : Environment) (agentId : String) (event : AgentEvent) (ev : EndpointEvent)
  /-- The server probes an endpoint itself. -/
  | probe (env : Environment) (id : EndpointId) (result : CheckResult)
  /-- Any other call of the service. -/
  | call (now : Int) (action : EndpointAction)
  | delete (now : Int) (id : EndpointId)
  /-- A retention pass, whose rollup may fail. -/
  | pass (now : Int) (fails : Bool)

def EndpointArchiveAction.now : EndpointArchiveAction → Int
  | .event env _ _ _ => env.now
  | .probe env _ _ => env.now
  | .call now _ => now
  | .delete now _ => now
  | .pass now _ => now

/-- The row that a check adds. -/
def checkStored (id : EndpointId) (result : CheckResult) (store : EndpointStore) :
    Option CheckRow :=
  (store.getEndpointByID id).map fun _ => checkRow id result store

/-- The row that an event adds. -/
def eventStored (agentId : String) (ev : EndpointEvent) (info : EventMeta) (store : EndpointStore) :
    Option CheckRow :=
  if ev.url = "" then none
  else (store.getActiveAgentEndpointByTarget (uidAgent agentId) ev.url).map fun ep =>
    checkRow ep.id (agentResult agentId ev info) store

namespace EndpointArchive

variable (deps : ServiceDeps)

/-- A new server, which has nothing to aggregate yet. -/
def of (start : Int) : EndpointArchive where
  monitor := .empty
  uptime := .empty UptimeRow.key
  recorded := .empty CheckRow.id
  clock := start
  lastPass := start

/-- Time goes on, and there is a pass every day. -/
def OnTime (archive : EndpointArchive) (now : Int) : Prop :=
  archive.clock ≤ now ∧
    startOfDay (unix now) ≤ startOfDay (unix archive.lastPass) + secondsPerDay

instance (archive : EndpointArchive) (now : Int) : Decidable (archive.OnTime now) :=
  inferInstanceAs (Decidable (_ ∧ _))

/-- The id of a check is its own: no other check was stored under it. -/
def Owns (archive : EndpointArchive) (row : CheckRow) : Prop :=
  ∀ old ∈ archive.recorded.items, old.id = row.id → old = row

instance (archive : EndpointArchive) (row : CheckRow) : Decidable (archive.Owns row) :=
  inferInstanceAs (Decidable (∀ old ∈ archive.recorded.items, old.id = row.id → old = row))

/-- The service was called, and stored a check if `row` is one. -/
def called (monitor : EndpointMonitor) (row : Option CheckRow) (now : Int)
    (archive : EndpointArchive) : EndpointArchive :=
  { archive with
    monitor
    recorded := row.elim archive.recorded archive.recorded.upsert
    clock := now }

/-- Keep what belongs to endpoints that are there, as foreign keys do. -/
def cascade (monitor : EndpointMonitor) (now : Int) (archive : EndpointArchive) : EndpointArchive :=
  { archive with
    monitor
    uptime := archive.uptime.filter fun row => (monitor.store.getEndpointByID row.monitor).isSome
    recorded := archive.recorded.filter fun row =>
      (monitor.store.getEndpointByID row.endpointId).isSome
    clock := now }

/-- The part of `runEndpointCleanup` that a failed rollup skips. -/
def aggregated (now : Int) (archive : EndpointArchive) : EndpointArchive :=
  { archive with
    monitor := { archive.monitor with
      store := archive.monitor.store.deleteCheckResultsBefore (now - checkResultRetention) }
    uptime := rollupEndpoints archive.monitor.store now archive.uptime
    clock := now
    lastPass := now }

/-- `runEndpointCleanup`, and the cleanup of the daily uptime that follows it. -/
def retention (now : Int) (fails : Bool) (archive : EndpointArchive) : EndpointArchive :=
  let purged := if fails then archive else archive.aggregated now
  let left := purged.cascade { purged.monitor with
    store := purged.monitor.store.deleteInactiveEndpointsBefore (now - inactiveEndpointRetention) }
      now
  { left with
    uptime := left.uptime.filter fun row => ¬row.day < unix (now - uptimeDailyRetention) }

def perform (archive : EndpointArchive) : EndpointArchiveAction → Option EndpointArchive
  | .event env agentId event ev =>
    match accepted agentId event env.now with
    | none => some { archive with clock := env.now }
    | some info =>
      some (archive.called (archive.monitor.handleAgentEvent deps env agentId ev info)
        (eventStored agentId ev info archive.monitor.store) env.now)
  | .probe env id result =>
    let result := { result with id := none, timestamp := env.now }
    some (archive.called (archive.monitor.processCheckResult deps env id result)
      (checkStored id result archive.monitor.store) env.now)
  | .call _ (.check _ _ _) => none
  | .call now action => some (archive.called (archive.monitor.perform deps action) none now)
  | .delete now id => some (archive.cascade (archive.monitor.delete deps now id) now)
  | .pass now fails => some (archive.retention now fails)

def next (archive : EndpointArchive) (action : EndpointArchiveAction) : Option EndpointArchive :=
  if archive.OnTime action.now then archive.perform deps action else none

/-- The check an action stores, if it stores one. -/
def stored (archive : EndpointArchive) : EndpointArchiveAction → Option CheckRow
  | .event env agentId event ev => (accepted agentId event env.now).bind fun info =>
      eventStored agentId ev info archive.monitor.store
  | .probe env id result =>
    checkStored id { result with id := none, timestamp := env.now } archive.monitor.store
  | _ => none

/-- An event that is sent again brings the check it brought before, of the same endpoint. -/
def Repeats (archive : EndpointArchive) (action : EndpointArchiveAction) : Prop :=
  ∀ check ∈ archive.stored action, archive.Owns check

instance (archive : EndpointArchive) (action : EndpointArchiveAction) :
    Decidable (archive.Repeats action) :=
  inferInstanceAs (Decidable (∀ check ∈ archive.stored action, archive.Owns check))

/-- The aggregate of the day counts every recorded check of the endpoint on it. -/
def Counts (archive : EndpointArchive) (id : EndpointId) (day : Int) : Prop :=
  (aggregate archive.uptime id day).map DayUptime.percent =
    some (checkPercent (checksOn day (checksOf id archive.recorded.items)))

end EndpointArchive

/-! ### What calls do to the store -/

/-- A call loses no endpoint, and stores a check of one that is there if `row` is one. -/
structure Keeps (store after : EndpointStore) (row : Option CheckRow) : Prop where
  results : after.results = row.elim store.results store.results.upsert
  attached : ∀ check ∈ row, (store.getEndpointByID check.endpointId).isSome
  endpoints : ∀ id, (store.getEndpointByID id).isSome → (after.getEndpointByID id).isSome

variable {deps : ServiceDeps} {ev : EndpointEvent} {store : EndpointStore}
  {monitor : EndpointMonitor} {id : EndpointId} {now day : Int}

section Calls

variable {middle after : EndpointStore} {row : Option CheckRow}

theorem Keeps.refl (store : EndpointStore) : Keeps store store none :=
  ⟨rfl, nofun, fun _ there => there⟩

theorem Keeps.trans (first : Keeps store middle row) (second : Keeps middle after none) :
    Keeps store after row :=
  ⟨second.results.trans first.results, first.attached, fun id there =>
    second.endpoints id (first.endpoints id there)⟩

theorem Keeps.foldl {α : Type} {step : EndpointStore → α → EndpointStore}
    (one : ∀ store item, Keeps store (step store item) none) (items : List α) :
    ∀ store, Keeps store (items.foldl step store) none := by
  induction items with
  | nil => exact Keeps.refl
  | cons item items ih => exact fun store => (one store item).trans (ih _)

theorem keeps_upsert (report : EndpointReport) (now : Int) :
    Keeps store (store.upsertEndpoint report now) none := by
  refine ⟨rfl, nofun, fun id there => ?_⟩
  rw [getEndpointByID_upsert]
  split
  · rfl
  · exact there

theorem keeps_deactivate : Keeps store (store.deactivateEndpoint id) none := by
  refine ⟨rfl, nofun, fun other there => ?_⟩
  rw [getEndpointByID_deactivate]
  split
  · rw [Option.isSome_map]
    exact there
  · exact there

theorem keeps_updateCheckResult (id : EndpointId) (update : CheckUpdate) (now : Int)
    (store : EndpointStore) : Keeps store (store.updateCheckResult id update now) none := by
  refine ⟨rfl, nofun, fun other there => ?_⟩
  rw [getEndpointByID_updateCheckResult]
  split
  · rw [Option.isSome_map]
    exact there
  · exact there

theorem keeps_record (result : CheckResult) (there : (store.getEndpointByID id).isSome) :
    Keeps store (store.record id result) (some (checkRow id result store)) := by
  rw [record]
  refine ⟨?_, ?_, ?_⟩
  · split
    · rfl
    · rfl
  · rintro _ ⟨⟩
    exact there
  intro other found
  split
  · exact found
  · exact found

theorem store_retire (deps : ServiceDeps) (now : Int) (ids : List EndpointId) :
    ∀ monitor : EndpointMonitor, (ids.foldl (retire deps now) monitor).store =
        ids.foldl (fun store id => store.deactivateEndpoint id) monitor.store := by
  induction ids with
  | nil => exact fun _ => rfl
  | cons id ids ih => exact fun monitor => ih (monitor.retire deps now id)

theorem keeps_retire (now : Int) (ids : List EndpointId) (monitor : EndpointMonitor) :
    Keeps monitor.store (ids.foldl (retire deps now) monitor).store none := by
  rw [store_retire]
  exact Keeps.foldl (fun store id => keeps_deactivate) ids monitor.store

theorem keeps_syncLabels
    {agent containerName externalId : String} {parsed : List ParsedEndpoint} : Keeps monitor.store
      (monitor.syncLabels deps now agent containerName externalId parsed).store none := by
  have declared := Keeps.foldl (fun store p => keeps_upsert
    (report agent containerName externalId p) now) parsed monitor.store
  exact declared.trans (keeps_retire now
    (undeclared agent externalId parsed monitor.store) { monitor with store := _ })

variable (deps : ServiceDeps)

theorem keeps_processCheckResult (env : Environment) (id : EndpointId) (result : CheckResult)
    (monitor : EndpointMonitor) :
    Keeps monitor.store (monitor.processCheckResult deps env id result).store
      (checkStored id result monitor.store) := by
  rw [EndpointMonitor.processCheckResult, checkStored]
  cases found : monitor.store.getEndpointByID id with
  | none => exact Keeps.refl _
  | some ep =>
    have there : (monitor.store.getEndpointByID id).isSome := by rw [found]; rfl
    dsimp only [Option.map_some]
    split
    · exact keeps_record result there
    have updated := keeps_updateCheckResult id (liveUpdate ep result) env.now monitor.store
    have recorded := keeps_record result (updated.endpoints id there)
    have both : Keeps monitor.store ((monitor.store.updateCheckResult id
        (liveUpdate ep result) env.now).record id result)
          (some (checkRow id result monitor.store)) := by
      refine ⟨recorded.results, ?_, fun other here =>
        recorded.endpoints other (updated.endpoints other here)⟩
      rintro _ ⟨⟩
      exact there
    split
    · exact both
    · exact both.trans (keeps_updateCheckResult _ _ _ _)

theorem keeps_handleAgentEvent {env : Environment} :
    Keeps monitor.store (monitor.handleAgentEvent deps env agentId ev info).store
      (eventStored agentId ev info monitor.store) := by
  rw [handleAgentEvent, eventStored]
  split
  · exact Keeps.refl _
  cases found : monitor.store.getActiveAgentEndpointByTarget (uidAgent agentId) ev.url with
  | none => exact Keeps.refl _
  | some ep =>
    have mem : ep ∈ monitor.store.endpoints := List.mem_of_find?_eq_some found
    have kept := keeps_processCheckResult deps env ep.id (agentResult agentId ev info) monitor
    rw [checkStored, getEndpointByID_of_mem mem] at kept
    exact kept

theorem keeps_perform {action : EndpointAction}
    (other : ∀ env id result, action ≠ .check env id result) :
    Keeps monitor.store (monitor.perform deps action).store none := by
  cases action with
  | check env id result => exact absurd rfl (other env id result)
  | sync now _ _ parsed | syncAgent now _ _ _ parsed =>
    exact keeps_syncLabels
  | stop now =>
    exact Keeps.foldl (fun store ep => keeps_updateCheckResult ep.id
      (stoppedUpdate ep) now store) _ monitor.store
  | destroy now | sweep now => exact keeps_retire now _ monitor

end Calls

/-! ### The rollup -/

variable {row : CheckRow} {rows : List CheckRow}

section Rollup

variable {table : UptimeTable EndpointId}

theorem mem_checksOf : row ∈ checksOf id rows ↔ row ∈ rows ∧ row.endpointId = id := by
  simp only [checksOf, List.mem_filter, decide_eq_true_eq]

/-- The rows `rollupEndpoints` writes. -/
def rolledChecks (store : EndpointStore) (now : Int) (table : UptimeTable EndpointId) :
    List (UptimeRow EndpointId) :=
  (store.endpoints.items.map fun e => (e.id, none)).flatMap
    (rollupRows (endpointCompute store) (rollupFrom table now checkResultRetention)
      (startOfDay (unix now)))

theorem mem_rolledChecks {row : UptimeRow EndpointId} : row ∈ rolledChecks store now table ↔
      (∃ e ∈ store.endpoints, e.id = row.monitor) ∧
        rollupFrom table now checkResultRetention < startOfDay (unix now) ∧
        (row.day, row.value) ∈ endpointDays (checksOf row.monitor store.results.items)
          (rollupFrom table now checkResultRetention) (startOfDay (unix now) * nanosPerSecond) := by
  simp only [rolledChecks, List.mem_flatMap, List.mem_map, rollupRows]
  constructor
  · rintro ⟨_, ⟨e, mem, rfl⟩, written⟩
    dsimp only at written
    split at written
    · exact absurd written List.not_mem_nil
    next unsettled =>
      obtain ⟨_, value, rfl⟩ := List.mem_map.mp written
      exact ⟨⟨e, mem, rfl⟩, not_le.mp unsettled, value⟩
  · rintro ⟨⟨e, mem, here⟩, unsettled, value⟩
    refine ⟨(e.id, none), ⟨e, mem, rfl⟩, ?_⟩
    rw [if_neg (not_le.mpr unsettled), List.mem_map, here]
    exact ⟨(row.day, row.value), value, rfl⟩

theorem aggregate_rollupEndpoints {value : DayUptime}
    (written : ⟨id, day, value⟩ ∈ rolledChecks store now table) :
    aggregate (rollupEndpoints store now table) id day = some value := by
  rw [aggregate_eq_some]
  refine mem_foldl_insert written ?_
  rintro ⟨_, _, other⟩ other_mem same
  obtain ⟨rfl, rfl⟩ := Prod.mk.inj same
  have equal : other = value :=
    eq_of_mem_endpointDays (mem_rolledChecks.mp written).2.2 (mem_rolledChecks.mp other_mem).2.2
  rw [equal]

end Rollup

/-! ### One action -/

theorem timestamp_of_eventStored {check : CheckRow}
    (stored : eventStored agentId ev info store = some check) :
    check.timestamp = unix info.observedAt := by
  obtain ⟨-, stored⟩ := Option.ite_none_left_eq_some.mp stored
  obtain ⟨_, _, rfl⟩ := Option.map_eq_some_iff.mp stored
  rfl

theorem mem_results_deleteInactive {before : Int}
    (there : row ∈ store.results → (store.getEndpointByID row.endpointId).isSome) :
    row ∈ (store.deleteInactiveEndpointsBefore before).results ↔ row ∈ store.results ∧
      ((store.deleteInactiveEndpointsBefore before).getEndpointByID row.endpointId).isSome := by
  refine mem_filter.trans (and_congr_right fun mem => ?_)
  obtain ⟨e, found⟩ := Option.isSome_iff_exists.mp (there mem)
  obtain ⟨e_mem, e_id⟩ := lookup_eq_some.mp found
  have left : (store.deleteInactiveEndpointsBefore before).getEndpointByID row.endpointId =
      (some e).filter fun e => !retired before e :=
    (lookup_filter _ _ _).trans (congrArg _ found)
  rw [left, Option.isSome_filter, Option.any_some, decide_eq_true_eq, Bool.not_eq_true']
  constructor
  · intro spared
    rw [← Bool.not_eq_true]
    exact fun retired => spared ⟨e, e_mem, e_id, retired⟩
  · rintro spared ⟨other, other_mem, other_id, retired⟩
    rw [eq_of_key other_mem e_mem (other_id.trans e_id.symm), spared] at retired
    cases retired

theorem mem_results_delete
    (there : row ∈ monitor.store.results → (monitor.store.getEndpointByID row.endpointId).isSome) :
    row ∈ (monitor.delete deps now id).store.results ↔ row ∈ monitor.store.results ∧
      ((monitor.delete deps now id).store.getEndpointByID row.endpointId).isSome := by
  have kept : row ∈ monitor.store.results ↔ row ∈ monitor.store.results ∧
      (monitor.store.getEndpointByID row.endpointId).isSome :=
    ⟨fun mem => ⟨mem, there mem⟩, And.left⟩
  rw [delete]
  split
  · exact kept
  split
  · exact kept
  refine mem_filter.trans (and_congr_right fun mem => ?_)
  rw [decide_eq_true_eq, getEndpointByID, deleteEndpoint]
  by_cases own : row.endpointId = id
  · rw [own, lookup_erase_self]
    simp
  · rw [lookup_erase_of_ne own]
    exact iff_of_true own (there mem)

theorem checkPercent_perm {others : List CheckRow} (same : rows.Perm others) :
    checkPercent rows = checkPercent others := by
  rw [checkPercent, checkPercent, same.countP_eq, same.length_eq]

theorem aggregate_filter {table : UptimeTable EndpointId}
    {test : UptimeRow EndpointId → Bool} (passes : ∀ value, test ⟨id, day, value⟩) :
    aggregate (table.filter test) id day = aggregate table id day := by
  apply Option.ext
  intro value
  rw [aggregate_eq_some, aggregate_eq_some, mem_filter]
  exact and_iff_left (passes value)

namespace EndpointArchive

/-- Every day of which no check can come any longer is aggregated until its aggregate expires, and
the checks of the other days are there. -/
structure Sound (archive : EndpointArchive) : Prop where
  ordered : archive.lastPass ≤ archive.clock
  past : ∀ row ∈ archive.uptime,
    secondsPerDay ∣ row.day ∧ row.day < startOfDay (unix archive.lastPass)
  known : ∀ row ∈ archive.monitor.store.results, row ∈ archive.recorded
  kept : ∀ row ∈ archive.recorded,
    unix (archive.lastPass - checkResultRetention) ≤ row.timestamp →
      row ∈ archive.monitor.store.results
  attached : ∀ row ∈ archive.recorded,
    (archive.monitor.store.getEndpointByID row.endpointId).isSome
  counted : ∀ row ∈ archive.recorded,
    startOfDay row.timestamp + 2 * secondsPerDay ≤ startOfDay (unix archive.lastPass) →
    unix (archive.clock - uptimeDailyRetention) ≤ startOfDay row.timestamp →
      archive.Counts row.endpointId (startOfDay row.timestamp)

theorem Sound.of {start : Int} : (EndpointArchive.of start).Sound := by
  refine ⟨le_refl start, ?_, ?_, ?_, ?_, ?_⟩
  all_goals exact fun row mem => absurd mem (not_mem_empty row)

section Steps

variable {archive after : EndpointArchive} {check : CheckRow} {row : Option CheckRow}
  {action : EndpointArchiveAction}

theorem checksOn_upsert (owns : archive.Owns check) (other : startOfDay check.timestamp ≠ day) :
    checksOn day (checksOf id (archive.recorded.upsert check).items) =
      checksOn day (checksOf id archive.recorded.items) := by
  cases found : archive.recorded.lookup check.id with
  | none =>
    have away : checksOn day (checksOf id [check]) = [] := by
      rw [List.eq_nil_iff_forall_not_mem]
      intro row mem
      obtain ⟨own, here⟩ := mem_checksOn.mp mem
      rw [List.mem_singleton.mp (mem_checksOf.mp own).1] at here
      exact other here
    rw [upsert_items_of_fresh found, checksOf, List.filter_append, checksOn_append]
    exact (congrArg _ away).trans (List.append_nil _)
  | some old =>
    obtain ⟨mem, same⟩ := lookup_eq_some.mp found
    rw [upsert_eq_self (owns old mem same ▸ mem)]

theorem recent_day (onTime : archive.lastPass ≤ now)
    (recent : unix (now - maxObservationAge) ≤ check.timestamp) :
    startOfDay (unix archive.lastPass) < startOfDay check.timestamp + 2 * secondsPerDay := by
  simp only [unix, nanosPerSecond, maxObservationAge, startOfDay, secondsPerDay] at *
  omega

section

variable (sound : archive.Sound)
include sound

theorem Sound.called (onTime : archive.clock ≤ now)
    (keeps : Keeps archive.monitor.store monitor.store row)
    (recent : ∀ check ∈ row, unix (now - maxObservationAge) ≤ check.timestamp)
    (owns : ∀ check ∈ row, archive.Owns check) : (archive.called monitor row now).Sound := by
  rw [EndpointArchive.called]
  have later := Agent.unix_sub_le onTime uptimeDailyRetention
  cases row with
  | none =>
    have results : monitor.store.results = archive.monitor.store.results := keeps.results
    refine ⟨sound.ordered.trans onTime, sound.past, ?_, ?_, ?_, ?_⟩
    · intro row mem
      exact sound.known row (results ▸ mem)
    · intro row mem young
      rw [results]
      exact sound.kept row mem young
    · exact fun row mem => keeps.endpoints _ (sound.attached row mem)
    · exact fun row mem old age => sound.counted row mem old (later.trans age)
  | some check =>
    have results : monitor.store.results = archive.monitor.store.results.upsert check :=
      keeps.results
    have unsettled : startOfDay (unix archive.lastPass) <
        startOfDay check.timestamp + 2 * secondsPerDay :=
      recent_day (sound.ordered.trans onTime) (recent check rfl)
    refine ⟨sound.ordered.trans onTime, sound.past, ?_, ?_, ?_, ?_⟩
    · intro row mem
      rw [results] at mem
      rcases mem_upsert.mp mem with ⟨old, differs⟩ | rfl
      · exact mem_upsert.mpr (Or.inl ⟨sound.known row old, differs⟩)
      · exact mem_upsert.mpr (Or.inr rfl)
    · intro row mem young
      rw [results]
      rcases mem_upsert.mp mem with ⟨old, differs⟩ | rfl
      · exact mem_upsert.mpr (Or.inl ⟨sound.kept row old young, differs⟩)
      · exact mem_upsert.mpr (Or.inr rfl)
    · intro row mem
      rcases mem_upsert.mp mem with ⟨old, -⟩ | rfl
      · exact keeps.endpoints _ (sound.attached row old)
      · exact keeps.endpoints _ (keeps.attached row rfl)
    · intro row mem old age
      -- the new check is of a later day than any that is aggregated for good
      have other : startOfDay check.timestamp ≠ startOfDay row.timestamp := by
        dsimp only at old
        omega
      rcases mem_upsert.mp mem with ⟨earlier, -⟩ | rfl
      · have counts := sound.counted row earlier old (later.trans age)
        rw [Counts] at counts ⊢
        dsimp only [Option.elim_some]
        rw [checksOn_upsert (owns check rfl) other]
        exact counts
      · exact absurd rfl other

theorem Sound.wait (onTime : archive.clock ≤ now) : Sound { archive with clock := now } :=
  sound.called onTime (Keeps.refl _) nofun nofun

theorem Sound.cascade (onTime : archive.clock ≤ now)
    (results : ∀ row, row ∈ monitor.store.results ↔ row ∈ archive.monitor.store.results ∧
      (monitor.store.getEndpointByID row.endpointId).isSome) :
    (archive.cascade monitor now).Sound := by
  have later := Agent.unix_sub_le onTime uptimeDailyRetention
  refine ⟨sound.ordered.trans onTime, ?_, ?_, ?_, ?_, ?_⟩
  · intro row mem
    exact sound.past row (mem_filter.mp mem).1
  · intro row mem
    obtain ⟨old, there⟩ := (results row).mp mem
    exact mem_filter.mpr ⟨sound.known row old, there⟩
  · intro row mem young
    obtain ⟨old, there⟩ := mem_filter.mp mem
    exact (results row).mpr ⟨sound.kept row old young, there⟩
  · exact fun row mem => (mem_filter.mp mem).2
  intro row mem old age
  obtain ⟨earlier, there⟩ := mem_filter.mp mem
  have counts := sound.counted row earlier old (later.trans age)
  have same_checks : checksOf row.endpointId (archive.cascade monitor now).recorded.items =
      checksOf row.endpointId archive.recorded.items := by
    have left : (archive.cascade monitor now).recorded.items =
        archive.recorded.items.filter fun other =>
          (monitor.store.getEndpointByID other.endpointId).isSome := rfl
    rw [left, checksOf, List.filter_filter]
    refine List.filter_congr ?_
    intro other _
    by_cases own : other.endpointId = row.endpointId
    · rw [own, there, Bool.and_true]
    · simp [own]
  have same_day : aggregate (archive.cascade monitor now).uptime row.endpointId
      (startOfDay row.timestamp) =
        aggregate archive.uptime row.endpointId (startOfDay row.timestamp) :=
    aggregate_filter fun _ => there
  rw [Counts, same_checks, same_day]
  exact counts

theorem Sound.expire : Sound { archive with
      uptime := archive.uptime.filter fun row =>
        ¬row.day < unix (archive.clock - uptimeDailyRetention) } := by
  refine ⟨sound.ordered, ?_, sound.known, sound.kept, sound.attached, ?_⟩
  · intro row mem
    exact sound.past row (mem_filter.mp mem).1
  · intro row mem old age
    rw [Counts, aggregate_filter fun _ => decide_eq_true (not_lt.mpr age)]
    exact sound.counted row mem old age

theorem Sound.checks_perm (id : EndpointId)
    (young : unix (archive.lastPass - checkResultRetention) ≤ day) :
    (checksOn day (checksOf id archive.monitor.store.results.items)).Perm
      (checksOn day (checksOf id archive.recorded.items)) := by
  have distinct : ∀ rows : List CheckRow, rows.Nodup → (checksOn day (checksOf id rows)).Nodup :=
    fun _ nodup => (nodup.filter _).filter _
  rw [List.perm_ext_iff_of_nodup (distinct _ archive.monitor.store.results.nodup)
    (distinct _ archive.recorded.nodup)]
  intro row
  rw [mem_checksOn, mem_checksOf, mem_checksOn, mem_checksOf]
  constructor
  · rintro ⟨⟨mem, own⟩, here⟩
    exact ⟨⟨sound.known row mem, own⟩, here⟩
  rintro ⟨⟨mem, own⟩, here⟩
  have inside : unix (archive.lastPass - checkResultRetention) ≤ row.timestamp :=
    young.trans (here ▸ startOfDay_le row.timestamp)
  exact ⟨⟨sound.kept row mem inside, own⟩, here⟩

theorem Sound.settled (onTime : archive.OnTime now) (aligned : secondsPerDay ∣ day)
    (before : day < rollupFrom archive.uptime now checkResultRetention) :
    day + 2 * secondsPerDay ≤ startOfDay (unix archive.lastPass) := by
  rcases lt_rollupFrom before with old | ⟨row, mem, earlier⟩
  · have daily := onTime.2
    simp only [unix, nanosPerSecond, checkResultRetention, startOfDay, secondsPerDay] at *
    omega
  · obtain ⟨⟨other, row_eq⟩, past⟩ := sound.past row mem
    simp only [startOfDay, secondsPerDay] at *
    omega

theorem Sound.aggregated (onTime : archive.OnTime now) : (archive.aggregated now).Sound := by
  have passed : archive.lastPass ≤ now := sound.ordered.trans onTime.1
  have cutoff := Agent.unix_sub_le passed checkResultRetention
  have from_aligned := dvd_rollupFrom (fun row mem => (sound.past row mem).1) now
    checkResultRetention
  refine ⟨le_refl _, ?_, ?_, ?_, sound.attached, ?_⟩
  · intro row mem
    rcases mem_of_mem_foldl_insert mem with old | written
    · obtain ⟨aligned, past⟩ := sound.past row old
      refine ⟨aligned, past.trans_le ?_⟩
      simp only [EndpointArchive.aggregated, startOfDay, secondsPerDay, unix, nanosPerSecond]
      omega
    obtain ⟨aligned, -, before⟩ :=
      day_of_mem_endpointDays from_aligned (mem_rolledChecks.mp written).2.2
    rw [Agent.unix_seconds] at before
    exact ⟨aligned, before⟩
  · intro row mem
    exact sound.known row (mem_filter.mp mem).1
  · intro row mem young
    exact mem_filter.mpr
      ⟨sound.kept row mem (cutoff.trans young), decide_eq_true (not_lt.mpr young)⟩
  · intro row mem old age
    have whole : startOfDay row.timestamp + secondsPerDay ≤
        unix (startOfDay (unix now) * nanosPerSecond) := by
      rw [Agent.unix_seconds]
      simp only [EndpointArchive.aggregated, secondsPerDay] at *
      omega
    rw [Counts]
    by_cases written : rollupFrom archive.uptime now checkResultRetention ≤ startOfDay row.timestamp
    · -- the pass writes the day, from all its checks
      have young : unix (archive.lastPass - checkResultRetention) ≤ startOfDay row.timestamp := by
        have start := untouched_le_rollupFrom archive.uptime now checkResultRetention
        have ended := lt_startOfDay_add (unix (now - checkResultRetention))
        omega
      have perm := sound.checks_perm row.endpointId young
      have checked : checksOn (startOfDay row.timestamp)
          (checksOf row.endpointId archive.monitor.store.results.items) ≠ [] := by
        intro bare
        rw [bare] at perm
        have here : row ∈ checksOn (startOfDay row.timestamp)
            (checksOf row.endpointId archive.recorded.items) :=
          mem_checksOn.mpr ⟨mem_checksOf.mpr ⟨mem, rfl⟩, rfl⟩
        exact absurd (perm.mem_iff.mpr here) List.not_mem_nil
      obtain ⟨value, value_mem⟩ := exists_mem_endpointDays written whole checked
      obtain ⟨e, found⟩ := Option.isSome_iff_exists.mp (sound.attached row mem)
      have rolled : ⟨row.endpointId, startOfDay row.timestamp, value⟩ ∈
          rolledChecks archive.monitor.store now archive.uptime := by
        refine mem_rolledChecks.mpr ⟨⟨e, lookup_eq_some.mp found⟩, ?_, value_mem⟩
        simp only [EndpointArchive.aggregated, secondsPerDay] at *
        omega
      have stored : aggregate (archive.aggregated now).uptime row.endpointId
          (startOfDay row.timestamp) = some value := aggregate_rollupEndpoints rolled
      rw [stored, Option.map_some, percent_of_mem_endpointDays written whole value_mem,
        checkPercent_perm perm]
      rfl
    · -- an earlier pass has aggregated it, and this one leaves it
      have before := not_le.mp written
      have unwritten : ∀ value, ⟨row.endpointId, startOfDay row.timestamp, value⟩ ∉
          rolledChecks archive.monitor.store now archive.uptime := by
        intro value rolled
        have inside := (day_of_mem_endpointDays from_aligned (mem_rolledChecks.mp rolled).2.2).2.1
        exact absurd before (not_lt.mpr inside)
      have same : aggregate (archive.aggregated now).uptime row.endpointId
          (startOfDay row.timestamp) =
            aggregate archive.uptime row.endpointId (startOfDay row.timestamp) :=
        aggregate_insert_of_unwritten unwritten
      have later := Agent.unix_sub_le onTime.1 uptimeDailyRetention
      rw [same]
      exact sound.counted row mem (sound.settled onTime dvd_startOfDay before) (later.trans age)

theorem Sound.retention (onTime : archive.OnTime now) {fails : Bool} :
    (archive.retention now fails).Sound := by
  have purged : ∃ purged : EndpointArchive, purged.Sound ∧ purged.clock ≤ now ∧
      purged = if fails then archive else archive.aggregated now := by
    cases fails with
    | true => exact ⟨archive, sound, onTime.1, rfl⟩
    | false => exact ⟨archive.aggregated now, sound.aggregated onTime, le_refl now, rfl⟩
  obtain ⟨purged, purged_sound, clock, same⟩ := purged
  rw [EndpointArchive.retention, ← same]
  have results : ∀ row, row ∈ (purged.monitor.store.deleteInactiveEndpointsBefore
      (now - inactiveEndpointRetention)).results ↔ row ∈ purged.monitor.store.results ∧
        ((purged.monitor.store.deleteInactiveEndpointsBefore
          (now - inactiveEndpointRetention)).getEndpointByID row.endpointId).isSome :=
    fun row => mem_results_deleteInactive fun mem =>
      purged_sound.attached row (purged_sound.known row mem)
  exact (purged_sound.cascade clock results).expire

theorem Sound.step (repeats : archive.Repeats action)
    (step : archive.next deps action = some after) : after.Sound := by
  obtain ⟨onTime, step⟩ := Option.ite_none_right_eq_some.mp step
  cases action with
  | event env agentId event =>
    simp only [perform] at step
    rw [Repeats, stored] at repeats
    cases taken : accepted agentId event env.now with
    | none =>
      rw [taken] at step
      cases step
      exact sound.wait onTime.1
    | some info =>
      rw [taken] at step repeats
      cases step
      refine sound.called onTime.1 (keeps_handleAgentEvent deps) ?_ repeats
      intro check stored
      rw [timestamp_of_eventStored stored]
      exact Int.ediv_le_ediv (by decide) (observedAt_of_accepted taken)
  | probe env id result =>
    cases step
    refine sound.called onTime.1 (keeps_processCheckResult deps env id
      { result with id := none, timestamp := env.now } archive.monitor) ?_ repeats
    intro check stored
    obtain ⟨_, _, rfl⟩ := Option.map_eq_some_iff.mp stored
    exact Int.ediv_le_ediv (by decide) (Int.sub_le_self env.now (by decide))
  | call _ action =>
    cases action with
    | check => cases step
    | sync _ _ _ _ | syncAgent _ _ _ _ _ | stop _ _ | destroy _ _ | sweep _ _ =>
      cases step
      refine sound.called onTime.1 (keeps_perform deps ?_) nofun nofun
      intro env id result same
      cases same
  | delete =>
    cases step
    exact sound.cascade onTime.1 fun row => mem_results_delete fun mem =>
      sound.attached row (sound.known row mem)
  | pass =>
    cases step
    exact sound.retention onTime

end

/-! ### Whole runs -/

theorem mem_recorded_called (mem : check ∈ archive.recorded)
    (owns : ∀ check ∈ row, archive.Owns check) :
    check ∈ (archive.called monitor row now).recorded := by
  cases row with
  | none => exact mem
  | some new =>
    refine mem_upsert.mpr ?_
    by_cases same : check.id = new.id
    · exact .inr (owns new rfl check mem same)
    · exact .inl ⟨mem, same⟩

theorem mem_recorded_step (mem : check ∈ archive.recorded) (repeats : archive.Repeats action)
    (step : archive.next deps action = some after)
    (there : (after.monitor.store.getEndpointByID check.endpointId).isSome) :
    check ∈ after.recorded := by
  obtain ⟨onTime, step⟩ := Option.ite_none_right_eq_some.mp step
  cases action with
  | event env agentId event =>
    simp only [perform] at step
    rw [Repeats, stored] at repeats
    cases taken : accepted agentId event env.now with
    | none =>
      rw [taken] at step
      cases step
      exact mem
    | some info =>
      rw [taken] at step repeats
      cases step
      exact mem_recorded_called mem repeats
  | probe =>
    cases step
    exact mem_recorded_called mem repeats
  | call _ action =>
    cases action with
    | check => cases step
    | sync _ _ _ _ | syncAgent _ _ _ _ _ | stop _ _ | destroy _ _ | sweep _ _ =>
      cases step
      exact mem
  | delete =>
    cases step
    exact mem_filter.mpr ⟨mem, there⟩
  | pass _ fails =>
    cases step
    cases fails with
    | true | false => exact mem_filter.mpr ⟨mem, there⟩

theorem mem_recorded_run {actions : List EndpointArchiveAction} (mem : check ∈ archive.recorded)
    (repeats : Guarded (next deps) Repeats archive actions) (kept : Always (next deps)
      (fun visited => (visited.monitor.store.getEndpointByID check.endpointId).isSome)
      archive actions)
    (ran : run (next deps) archive actions = some after) : check ∈ after.recorded := by
  induction actions generalizing archive with
  | nil =>
    cases ran
    exact mem
  | cons action actions ih =>
    obtain ⟨middle, step, rest⟩ := (run_cons_eq_some _).mp ran
    obtain ⟨met, repeats⟩ := repeats
    obtain ⟨-, later⟩ := kept
    rw [step] at later repeats
    exact ih (mem_recorded_step mem met step later.head) repeats later rest

/-- With a pass every day and events that bring the same check when sent again, the aggregate of a
day that is two days past counts every check of it that was accepted for an active endpoint, as long
as the endpoint is there and the aggregate has not expired; and until then the check is there. -/
theorem late_checks_counted (start : Int) (front back : List EndpointArchiveAction)
    {archive stored final : EndpointArchive} {env : Environment} {agentId : String}
    {event : AgentEvent} {ev : EndpointEvent} {info : EventMeta} {ep : Endpoint}
    (reached : run (next deps) (.of start) front = some archive)
    (received : archive.next deps (.event env agentId event ev) = some stored)
    (taken : accepted agentId event env.now = some info) (named : ev.url ≠ "")
    (active : archive.monitor.store.getActiveAgentEndpointByTarget (uidAgent agentId) ev.url =
      some ep) (ran : run (next deps) stored back = some final)
    (repeats : Guarded (next deps) Repeats (.of start)
      (front ++ .event env agentId event ev :: back)) (kept : Always (next deps)
      (fun visited => (visited.monitor.store.getEndpointByID ep.id).isSome) stored back) :
    let check := checkRow ep.id (agentResult agentId ev info) archive.monitor.store
    let day := startOfDay (unix info.observedAt)
    check ∈ final.recorded ∧ (day + 2 * secondsPerDay ≤ startOfDay (unix final.lastPass) →
        unix (final.clock - uptimeDailyRetention) ≤ day → final.Counts ep.id day) ∧
      (check ∈ final.monitor.store.results ∨ final.Counts ep.id day ∨
        day < unix (final.clock - uptimeDailyRetention)) := by
  intro check day
  obtain ⟨before, here⟩ := guarded_append.mp repeats
  obtain ⟨now, later⟩ := here archive reached
  rw [received] at later
  have reached_sound : archive.Sound := invariant_of_guarded Sound.step Sound.of before reached
  have sound : final.Sound :=
    invariant_of_guarded Sound.step (reached_sound.step now received) later ran
  have recorded : check ∈ stored.recorded := by
    obtain ⟨onTime, received⟩ := Option.ite_none_right_eq_some.mp received
    simp only [perform, taken, eventStored, if_neg named, active] at received
    cases received
    exact mem_upsert.mpr (.inr rfl)
  have mem : check ∈ final.recorded := mem_recorded_run recorded later kept ran
  have counted := sound.counted check mem
  refine ⟨mem, counted, ?_⟩
  by_cases young : unix (final.lastPass - checkResultRetention) ≤ check.timestamp
  · exact .inl (sound.kept check mem young)
  refine .inr ?_
  by_cases expired : day < unix (final.clock - uptimeDailyRetention)
  · exact .inr expired
  refine .inl (counted ?_ (not_lt.mp expired))
  -- a check that may have been purged is thirty days old
  simp only [unix, nanosPerSecond, checkResultRetention, startOfDay, secondsPerDay] at *
  omega

end Steps

/-! ### An agent's endpoint -/

section Scenario

open ServiceDeps (bare)

private def atHour (day hour : Int) : Int := (day * 86400 + hour * 3600) * nanosPerSecond

private def envAt (now : Int) : Environment := { Alerting.calmEnvironment with now }

private def web : EndpointId := ⟨"agent-1", "web", "maintenant.endpoint.http"⟩

/-- The labels of the container, which may declare the endpoint. -/
private def labels (now : Int) (parsed : List ParsedEndpoint) : EndpointArchiveAction :=
  .call now (.syncAgent now "agent-1" "web" "c1" parsed)

private def webLabel : ParsedEndpoint :=
  ⟨"maintenant.endpoint.http", .http, "http://web", ⟨3, 2, ""⟩⟩

private def webEndpoint : Endpoint :=
  (EndpointMonitor.report "agent-1" "web" "c1" webLabel).created 0

private def success : EndpointEvent := ⟨"http://web", .up, 12, 200, ""⟩

private def observedEvent (observed : Int) : AgentEvent :=
  ⟨"agent-1", "e1", some observed, 1, true, .endpoint ""⟩

/-- The endpoint is declared, and the day that follows has a pass before a check of it comes. -/
private def beforeCheck : EndpointArchive :=
  (Execution.run (next bare) (.of 0)
    [labels 0 [webLabel], .pass (atHour 1 1) false]).getD (.of 0)

private def lateCheck : EndpointArchiveAction :=
  .event (envAt (atHour 1 2)) "agent-1" (observedEvent (atHour 0 3)) success

private def afterCheck : EndpointArchive := (beforeCheck.next bare lateCheck).getD (.of 0)

private def afterPass : EndpointArchive :=
  (Execution.run (next bare) afterCheck [.pass (atHour 2 1) false]).getD (.of 0)

private theorem eq_some_getD {found : Option EndpointArchive} (there : found.isSome) :
    found = some (found.getD (.of 0)) := by
  cases found with
  | none => cases there
  | some => rfl

/-- A check that comes after the first pass over its day is counted by the second. -/
theorem late_check_counted_by_second_pass :
    startOfDay (unix (atHour 0 3)) + 2 * secondsPerDay ≤ startOfDay (unix afterPass.lastPass) ∧
      afterPass.Counts web 0 := by
  have two_days : startOfDay (unix (atHour 0 3)) + 2 * secondsPerDay ≤
      startOfDay (unix afterPass.lastPass) := by decide +kernel
  refine ⟨two_days, ?_⟩
  have reached : (run (next bare) (.of 0)
      [labels 0 [webLabel], .pass (atHour 1 1) false]).isSome := by decide +kernel
  have received : (beforeCheck.next bare lateCheck).isSome := by decide +kernel
  have active : beforeCheck.monitor.store.getActiveAgentEndpointByTarget (uidAgent "agent-1")
      success.url = some webEndpoint := by decide +kernel
  have ran : (run (next bare) afterCheck [.pass (atHour 2 1) false]).isSome := by decide +kernel
  have kept : Always (next bare) (fun visited =>
      (visited.monitor.store.getEndpointByID webEndpoint.id).isSome) afterCheck
        [.pass (atHour 2 1) false] := by decide +kernel
  have repeats : Guarded (next bare) Repeats (.of 0)
      ([labels 0 [webLabel], .pass (atHour 1 1) false] ++
        [lateCheck, .pass (atHour 2 1) false]) := by
    decide +kernel
  exact (late_checks_counted 0 _ _ (eq_some_getD reached) (eq_some_getD received) rfl (by decide)
    active (eq_some_getD ran) repeats kept).2.1 two_days (by decide +kernel)

/-- The result comes before its endpoint is declared, and passes go on. -/
private def unattached : List EndpointArchiveAction :=
  [.event (envAt (atHour 0 4)) "agent-1" (observedEvent (atHour 0 3)) success,
    .pass (atHour 1 1) false, .pass (atHour 2 1) false]

private def monthOld : List EndpointArchiveAction :=
  labels 0 [webLabel] :: (List.range 30).map fun day => .pass (atHour (day + 1) 12) false

/-- A check comes, the label goes, and passes go on. -/
private def retiring : List EndpointArchiveAction :=
  [labels (atHour 31 7) [], .pass (atHour 31 12) false, .pass (atHour 32 12) false,
    .pass (atHour 33 12) false]

private def currentCheck : EndpointArchiveAction :=
  .event (envAt (atHour 31 6)) "agent-1" (observedEvent (atHour 31 5)) success

/-- A check without an active endpoint is never stored, and one whose endpoint is deleted goes with
it. -/
theorem unattached_and_retired_checks_uncounted :
    ((accepted "agent-1" (observedEvent (atHour 0 3)) (atHour 0 4)).isSome ∧
      (run (next bare) (.of 0) unattached).map (fun final =>
        (final.monitor.store.results.items, final.uptime.items)) = some ([], [])) ∧
    (run (next bare) (.of 0) (monthOld ++ [currentCheck])).map (fun stored =>
        stored.monitor.store.results.items.map CheckRow.timestamp) = some [unix (atHour 31 5)] ∧
    (run (next bare) (.of 0) (monthOld ++ currentCheck :: retiring)).map
        (fun final => (final.monitor.store.results.items, final.uptime.items)) = some ([], []) := by
  decide +kernel

end Scenario

end EndpointArchive

end Maintenant.Uptime
