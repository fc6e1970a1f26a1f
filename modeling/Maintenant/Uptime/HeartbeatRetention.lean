import Maintenant.Heartbeats.Records
import Maintenant.Uptime.HeartbeatDays

/-!
# Retention of heartbeat pings

A retention pass aggregates the completed days of every heartbeat and then purges pings and closed
pauses by age.  The days after it are still computed from the rows, starting at the last completion
before them; a purge that takes that completion away changes them.  It does not as long as the
heartbeat completed a run after the cutoff and before the day of the pass.
-/

namespace Maintenant.Uptime

open Agent (unix nanosPerSecond)
open Heartbeats List

def heartbeatPingRetention : Int := 30 * 86400 * nanosPerSecond

def heartbeatExecRetention : Int := 30 * 86400 * nanosPerSecond

def uptimeDailyRetention : Int := 365 * 86400 * nanosPerSecond

/-- Daily uptime of the heartbeats of a store. -/
def heartbeatCompute (store : HeartbeatStore) : ComputeDays HeartbeatId := fun id from_ to_ =>
  match store.getHeartbeatByID id with
  | none => []
  | some h =>
    heartbeatDays (h.intervalSeconds + h.graceSeconds) (pingsOf id store.pings)
      (pausesOf id store.pauses) from_ (unix to_)

def rollupHeartbeats (store : HeartbeatStore) (now : Int) :
    UptimeTable HeartbeatId → UptimeTable HeartbeatId :=
  rollup (heartbeatCompute store) (store.heartbeats.items.map fun h => (h.id, none)) now
    heartbeatPingRetention

def deletePingsBefore (before : Int) (store : HeartbeatStore) : HeartbeatStore :=
  { store with pings := store.pings.filter fun ping => ¬ping.timestamp < unix before }

def endedBefore (second : Int) (pause : HeartbeatPause) : Bool :=
  match pause.resumedAt with
  | none => false
  | some resumed => resumed < second

def deletePausesBefore (before : Int) (store : HeartbeatStore) : HeartbeatStore :=
  { store with pauses := store.pauses.filter fun pause => !endedBefore (unix before) pause }

def deleteExecutionsBefore (before : Int) (store : HeartbeatStore) : HeartbeatStore :=
  { store with
    executions := store.executions.filter fun exec =>
      match exec.completedAt with
      | none => true
      | some completed => ¬completed < unix before }

/-- `deleteBefore` of the daily uptime. -/
def deleteDaysBefore (before : Int) (table : UptimeTable HeartbeatId) : UptimeTable HeartbeatId :=
  table.filter fun row => ¬row.day < unix before

/-! ### What a purge leaves -/

section Rows

variable {pings others : List HeartbeatPing} {pauses other_pauses : List HeartbeatPause}
  {since : Int}

section

variable (agree : AgreeSince since pings others pauses other_pauses)
include agree

theorem AgreeSince.purge {cutoff : Int} (cut : cutoff ≤ since) :
    AgreeSince since (pings.filter fun ping => ¬ping.timestamp < cutoff) others
      (pauses.filter fun pause => !endedBefore cutoff pause) other_pauses := by
  refine ⟨?_, ?_, ?_⟩
  · intro second reached
    rw [← agree.same_pings second reached, filter_filter]
    refine filter_congr ?_
    intro ping _
    by_cases here : ping.timestamp = second
    · have kept : ¬second < cutoff := by omega
      simp [here, kept]
    · simp [here]
  · rw [← agree.same_pauses, filter_filter]
    refine filter_congr ?_
    intro pause _
    cases ended : pause.resumedAt with
    | none => simp [endedBefore, ended]
    | some resumed =>
      by_cases longer : since < resumed
      · have kept : ¬resumed < cutoff := by omega
        simp [endedBefore, ended, kept]
      · simp [lasts, ended, longer]
  · obtain ⟨ping, mem, completion, rfl⟩ := agree.completion
    refine ⟨ping, mem_filter.mpr ⟨mem, ?_⟩, completion, rfl⟩
    exact decide_eq_true (not_lt.mpr cut)

theorem AgreeSince.append_pings {new : List HeartbeatPing} :
    AgreeSince since (pings ++ new) (others ++ new) pauses other_pauses := by
  refine ⟨?_, agree.same_pauses, ?_⟩
  · intro second reached
    rw [filter_append, filter_append, agree.same_pings second reached]
  · obtain ⟨ping, mem, completion⟩ := agree.completion
    exact ⟨ping, mem_append_left _ mem, completion⟩

theorem AgreeSince.append_pauses {new : List HeartbeatPause} :
    AgreeSince since pings others (pauses ++ new) (other_pauses ++ new) := by
  refine ⟨agree.same_pings, ?_, agree.completion⟩
  rw [filter_append, filter_append, agree.same_pauses]

theorem AgreeSince.map_pauses {change : HeartbeatPause → HeartbeatPause}
    (fixes : ∀ pause, lasts since pause = false → change pause = pause) :
    AgreeSince since pings others (pauses.map change) (other_pauses.map change) := by
  refine ⟨agree.same_pings, ?_, agree.completion⟩
  have through : ∀ rows : List HeartbeatPause, (rows.map change).filter (lasts since) =
      ((rows.filter (lasts since)).map change).filter (lasts since) := by
    intro rows
    induction rows with
    | nil => rfl
    | cons pause rows ih =>
      cases longer : lasts since pause with
      | true =>
        rw [map_cons, filter_cons, ih, filter_cons, if_pos longer, map_cons, filter_cons]
      | false =>
        rw [map_cons, fixes pause longer, filter_cons, ih, filter_cons,
          if_neg (by simp [longer]), if_neg (by simp [longer])]
  rw [through, agree.same_pauses, ← through]

end

end Rows

/-! ### Archives -/

/-- The tables, and what they would hold had nothing been purged. -/
structure HeartbeatArchive where
  store : HeartbeatStore
  uptime : UptimeTable HeartbeatId
  pings : List HeartbeatPing
  pauses : List HeartbeatPause
  /-- The latest day on which a pass aggregated the days before. -/
  rolledTo : Option Int

/-- What happens to the tables of pings. -/
inductive ArchiveAction
  | ping (ping : HeartbeatPing)
  | pause (id : HeartbeatId) (now : Int)
  /-- The open pause of a heartbeat ends. -/
  | resume (id : HeartbeatId) (now : Int)
  /-- A retention pass, whose rollup may fail. -/
  | retention (now : Int) (fails : Bool)

namespace HeartbeatArchive

def of (store : HeartbeatStore) : HeartbeatArchive :=
  ⟨store, .empty UptimeRow.key, store.pings, store.pauses, none⟩

/-- The tables as they would be had nothing been purged. -/
def unpurged (archive : HeartbeatArchive) : HeartbeatStore :=
  { archive.store with pings := archive.pings, pauses := archive.pauses }

/-- `runHeartbeatCleanup`, and the cleanup of the daily uptime that follows it. -/
def retention (now : Int) (fails : Bool) (archive : HeartbeatArchive) : HeartbeatArchive :=
  let rolled := if fails then archive.uptime else rollupHeartbeats archive.store now archive.uptime
  let purged :=
    if fails then archive.store
    else deletePausesBefore (now - heartbeatPingRetention)
      (deletePingsBefore (now - heartbeatPingRetention) archive.store)
  { archive with
    store := deleteExecutionsBefore (now - heartbeatExecRetention) purged
    uptime := deleteDaysBefore (now - uptimeDailyRetention) rolled
    rolledTo :=
      if fails then archive.rolledTo
      else some (match archive.rolledTo with
        | some day => max day (startOfDay (unix now))
        | none => startOfDay (unix now)) }

/-- One action.  There is no ping before the epoch. -/
def next (archive : HeartbeatArchive) : ArchiveAction → Option HeartbeatArchive
  | .ping ping =>
    if 0 ≤ ping.timestamp then
      some { archive with
        store := archive.store.insertPing ping
        pings := archive.pings ++ [ping] }
    else none
  | .pause id now =>
    some { archive with
      store := archive.store.pauseHeartbeat id now
      pauses := archive.pauses ++ [⟨id, unix now, none⟩] }
  | .resume id now =>
    some { archive with
      store := archive.store.endPause id now
      pauses := (archive.unpurged.endPause id now).pauses }
  | .retention now fails => some (archive.retention now fails)

/-- The day has not been through a rollup yet. -/
def Outstanding (archive : HeartbeatArchive) (day : Int) : Prop :=
  ∀ rolled ∈ archive.rolledTo, rolled ≤ day

/-- Every day that is still computed is worth what the unpurged rows give it. -/
def Faithful (archive : HeartbeatArchive) : Prop :=
  ∀ h ∈ archive.store.heartbeats, ∀ day, archive.Outstanding day → ∀ from_ to_, from_ ≤ day →
    valueOn (heartbeatCompute archive.store h.id from_ to_) day =
      valueOn (heartbeatCompute archive.unpurged h.id from_ to_) day

/-- The pass takes nothing of the heartbeat, or the heartbeat completed a run after the cutoff and
before the day of the pass. -/
def Covered (archive : HeartbeatArchive) (now : Int) (id : HeartbeatId) : Prop :=
  (∀ ping ∈ archive.store.pings, ping.heartbeatId = id →
      unix (now - heartbeatPingRetention) ≤ ping.timestamp) ∧
    (∀ pause ∈ archive.store.pauses, pause.heartbeatId = id →
      endedBefore (unix (now - heartbeatPingRetention)) pause = false) ∨
  ∃ ping ∈ archive.store.pings, ping.heartbeatId = id ∧ completes ping.pingType ∧
    unix (now - heartbeatPingRetention) ≤ ping.timestamp ∧ ping.timestamp < startOfDay (unix now)

instance (archive : HeartbeatArchive) (now : Int) : DecidablePred (archive.Covered now) := fun _ =>
  inferInstanceAs (Decidable (_ ∨ _))

/-- No pass takes the completion that fixes the state of a heartbeat. -/
def Spares (archive : HeartbeatArchive) : ArchiveAction → Prop
  | .retention now false => ∀ h ∈ archive.store.heartbeats.items, archive.Covered now h.id
  | _ => True

instance (archive : HeartbeatArchive) : DecidablePred archive.Spares := fun _ => by
  unfold Spares
  split <;> infer_instance

/-! ### Runs -/

variable {archive after : HeartbeatArchive} {action : ArchiveAction} {id : HeartbeatId} {now : Int}

/-- The rows of the heartbeat are all there, or agree with all of them since a completion before the
last rollup. -/
def Kept (archive : HeartbeatArchive) (id : HeartbeatId) : Prop :=
  (pingsOf id archive.store.pings = pingsOf id archive.pings ∧
    pausesOf id archive.store.pauses = pausesOf id archive.pauses) ∨
  ∃ since, AgreeSince since (pingsOf id archive.store.pings) (pingsOf id archive.pings)
      (pausesOf id archive.store.pauses) (pausesOf id archive.pauses) ∧
    ∃ rolled ∈ archive.rolledTo, since < rolled

/-- What every pass that spares the completions keeps. -/
structure Sound (archive : HeartbeatArchive) : Prop where
  epoch : ∀ ping ∈ archive.store.pings, 0 ≤ ping.timestamp
  window : ∀ h ∈ archive.store.heartbeats, 0 ≤ h.intervalSeconds + h.graceSeconds
  kept : ∀ h ∈ archive.store.heartbeats, archive.Kept h.id

theorem Sound.faithful (sound : archive.Sound) : archive.Faithful := by
  intro h mem day outstanding from_ to_ window
  have found : archive.store.getHeartbeatByID h.id = some h :=
    Keyed.lookup_eq_some.mpr ⟨mem, rfl⟩
  have other_found : archive.unpurged.getHeartbeatByID h.id = some h := found
  simp only [heartbeatCompute, found, other_found]
  rcases sound.kept h mem with ⟨same_pings, same_pauses⟩ | ⟨since, agree, rolled, here, before⟩
  · rw [same_pings, same_pauses]
    rfl
  have epoch : 0 ≤ since := by
    obtain ⟨ping, ping_mem, -, rfl⟩ := agree.completion
    exact sound.epoch ping (mem_filter.mp ping_mem).1
  exact agree.valueOn_eq (sound.window h mem) epoch (before.trans_le (outstanding rolled here))
    window window .rfl

theorem Sound.of {store : HeartbeatStore} (epoch : ∀ ping ∈ store.pings, 0 ≤ ping.timestamp)
    (window : ∀ h ∈ store.heartbeats, 0 ≤ h.intervalSeconds + h.graceSeconds) :
    (HeartbeatArchive.of store).Sound :=
  ⟨epoch, window, fun _ _ => .inl ⟨rfl, rfl⟩⟩

theorem Kept.ping (kept : archive.Kept id) (ping : HeartbeatPing) : Kept { archive with
      store := archive.store.insertPing ping
      pings := archive.pings ++ [ping] } id := by
  rcases kept with ⟨same_pings, same_pauses⟩ | ⟨since, agree, rolled⟩
  · refine .inl ⟨?_, same_pauses⟩
    simp only [HeartbeatStore.insertPing, pingsOf_append, same_pings]
  · refine .inr ⟨since, ?_, rolled⟩
    simp only [HeartbeatStore.insertPing, pingsOf_append]
    exact agree.append_pings

theorem Kept.pause (kept : archive.Kept id) (paused : HeartbeatId) (now : Int) : Kept { archive with
      store := archive.store.pauseHeartbeat paused now
      pauses := archive.pauses ++ [⟨paused, unix now, none⟩] } id := by
  rcases kept with ⟨same_pings, same_pauses⟩ | ⟨since, agree, rolled⟩
  · refine .inl ⟨same_pings, ?_⟩
    simp only [HeartbeatStore.pauseHeartbeat, pausesOf_append, same_pauses]
  · refine .inr ⟨since, ?_, rolled⟩
    simp only [HeartbeatStore.pauseHeartbeat, pausesOf_append]
    exact agree.append_pauses

theorem Kept.resume (kept : archive.Kept id) (resumed : HeartbeatId) (now : Int) :
    Kept { archive with
      store := archive.store.endPause resumed now
      pauses := (archive.unpurged.endPause resumed now).pauses } id := by
  have ended : ∀ store : HeartbeatStore, (store.endPause resumed now).pauses =
      store.pauses.map (ending resumed now) := fun _ => rfl
  rcases kept with ⟨same_pings, same_pauses⟩ | ⟨since, agree, rolled⟩
  · refine .inl ⟨same_pings, ?_⟩
    simp only [ended, pausesOf_map_ending, same_pauses]
    rfl
  refine .inr ⟨since, ?_, rolled⟩
  simp only [ended, pausesOf_map_ending]
  refine agree.map_pauses ?_
  intro pause short
  rw [ending, if_neg]
  rintro ⟨-, open_⟩
  simp [lasts, open_] at short

theorem rolledTo_retention :
    ∃ rolled ∈ (archive.retention now false).rolledTo, startOfDay (unix now) ≤ rolled ∧
      ∀ earlier ∈ archive.rolledTo, earlier ≤ rolled := by
  simp only [retention, Bool.false_eq_true, if_false, Option.mem_some_iff, exists_eq_left']
  cases archive.rolledTo with
  | none => exact ⟨le_refl _, nofun⟩
  | some =>
    refine ⟨le_max_right _ _, ?_⟩
    rintro _ ⟨⟩
    exact le_max_left _ _

theorem Kept.retention (kept : archive.Kept id) (covered : archive.Covered now id) :
    (archive.retention now false).Kept id := by
  obtain ⟨rolled, rolled_mem, today, monotone⟩ := rolledTo_retention
  let cut := unix (now - heartbeatPingRetention)
  have purged_pings : pingsOf id (archive.retention now false).store.pings =
      (pingsOf id archive.store.pings).filter fun ping => ¬ping.timestamp < cut :=
    pingsOf_filter
  have purged_pauses : pausesOf id (archive.retention now false).store.pauses =
      (pausesOf id archive.store.pauses).filter fun pause => !endedBefore cut pause :=
    pausesOf_filter
  have same_history : (archive.retention now false).pings = archive.pings ∧
      (archive.retention now false).pauses = archive.pauses := ⟨rfl, rfl⟩
  rw [Kept, purged_pings, purged_pauses, same_history.1, same_history.2]
  rcases covered with ⟨young, open_⟩ | ⟨ping, mem, here, completion, late, early⟩
  · -- nothing of the heartbeat is old enough to go
    have all_pings : ((pingsOf id archive.store.pings).filter fun ping =>
        ¬ping.timestamp < cut) = pingsOf id archive.store.pings := by
      rw [filter_eq_self]
      intro ping mem
      obtain ⟨mem, here⟩ := mem_filter.mp mem
      exact decide_eq_true (not_lt.mpr (young ping mem (of_decide_eq_true here)))
    have all_pauses : ((pausesOf id archive.store.pauses).filter fun pause =>
        !endedBefore cut pause) = pausesOf id archive.store.pauses := by
      rw [filter_eq_self]
      intro pause mem
      obtain ⟨mem, here⟩ := mem_filter.mp mem
      rw [open_ pause mem (of_decide_eq_true here)]
      rfl
    rw [all_pings, all_pauses]
    rcases kept with intact | ⟨since, agree, earlier, earlier_mem, before⟩
    · exact Or.inl intact
    · exact Or.inr ⟨since, agree, rolled, rolled_mem,
        before.trans_le (monotone earlier earlier_mem)⟩
  · have own : ping ∈ pingsOf id archive.store.pings :=
      mem_filter.mpr ⟨mem, decide_eq_true here⟩
    rcases kept with ⟨same_pings, same_pauses⟩ | ⟨since, agree, earlier, earlier_mem, before⟩
    · refine Or.inr ⟨ping.timestamp, ?_, rolled, rolled_mem, early.trans_le today⟩
      rw [← same_pings, ← same_pauses]
      exact (AgreeSince.refl own completion).purge late
    rcases le_total since ping.timestamp with later | sooner
    · exact Or.inr ⟨ping.timestamp, (agree.later own completion later).purge late, rolled,
        rolled_mem, early.trans_le today⟩
    · exact Or.inr ⟨since, agree.purge (late.trans sooner), rolled, rolled_mem,
        before.trans_le (monotone earlier earlier_mem)⟩

theorem Sound.step (sound : archive.Sound) (spares : archive.Spares action)
    (step : archive.next action = some after) : after.Sound := by
  cases action with
  | ping ping =>
    obtain ⟨nonneg, ⟨⟩⟩ := Option.ite_none_right_eq_some.mp step
    refine ⟨?_, sound.window, fun h mem => (sound.kept h mem).ping ping⟩
    intro old mem
    rcases mem_snoc.mp mem with old_mem | rfl
    · exact sound.epoch old old_mem
    · exact nonneg
  | pause paused now =>
    cases step
    have came : ∀ h ∈ (archive.store.pauseHeartbeat paused now).heartbeats,
        ∃ old ∈ archive.store.heartbeats, old.id = h.id ∧
          old.intervalSeconds + old.graceSeconds = h.intervalSeconds + h.graceSeconds := by
      intro h mem
      rcases (Keyed.mem_update (by exact fun _ => rfl)).mp mem with
        ⟨old_mem, -⟩ | ⟨old, old_mem, -, rfl⟩
      · exact ⟨h, old_mem, rfl, rfl⟩
      · exact ⟨old, old_mem, rfl, rfl⟩
    refine ⟨sound.epoch, ?_, ?_⟩
    · intro h mem
      obtain ⟨old, old_mem, -, same⟩ := came h mem
      exact same ▸ sound.window old old_mem
    · intro h mem
      obtain ⟨old, old_mem, same, -⟩ := came h mem
      exact same ▸ (sound.kept old old_mem).pause paused now
  | resume resumed now =>
    cases step
    exact ⟨sound.epoch, sound.window, fun h mem => (sound.kept h mem).resume resumed now⟩
  | retention _ fails =>
    cases step
    cases fails with
    | true =>
      exact ⟨sound.epoch, sound.window, fun h mem => sound.kept h mem⟩
    | false =>
      refine ⟨?_, sound.window, fun h mem =>
        (sound.kept h mem).retention (spares h mem)⟩
      intro ping mem
      exact sound.epoch ping (mem_filter.mp mem).1

/-- If every pass spares the completion that fixes the state of each heartbeat it purges, every day
that has not been rolled up is worth what the unpurged rows give it, in every state. -/
theorem uptime_faithful_when_completions_spared (store : HeartbeatStore)
    (actions : List ArchiveAction) (epoch : ∀ ping ∈ store.pings, 0 ≤ ping.timestamp)
    (window : ∀ h ∈ store.heartbeats, 0 ≤ h.intervalSeconds + h.graceSeconds)
    (spared : Execution.Guarded next Spares (.of store) actions) :
    Execution.Always next Faithful (.of store) actions := by
  refine Execution.always_of_guarded Sound ?_ (fun _ => Sound.faithful)
    (Sound.of epoch window) spared
  intro before after action sound spares step
  exact sound.step spares step

def oneHeartbeat : HeartbeatStore := HeartbeatStore.empty.createHeartbeat "token" "backup" 3600 300

/-- A heartbeat that completes a run every two weeks or so keeps its uptime. -/
theorem uptime_faithful_fortnightly : Execution.Always next Faithful (.of oneHeartbeat)
      [.ping ⟨0, .success, none, none, 864000⟩, .ping ⟨0, .success, none, none, 2160000⟩,
        .retention (40 * 86400 * 1000000000) false] :=
  uptime_faithful_when_completions_spared _ _ (by decide) (by decide) (by decide)

/-- A heartbeat that has been silent, and so down, for longer than the retention window has no
uptime any more. -/
theorem silent_heartbeat_forgotten : ¬Execution.Always next Faithful (.of oneHeartbeat)
      [.ping ⟨0, .success, none, none, 864000⟩, .retention (50 * 86400 * 1000000000) false] := by
  rintro ⟨-, -, faithful⟩
  have today : ∀ rolled ∈ some (startOfDay (50 * 86400)), rolled ≤ 50 * 86400 := by
    decide
  have same := faithful _ mem_cons_self (50 * 86400) today (50 * 86400)
    (50 * 86400 * 1000000000 + 3600 * 1000000000) (by decide)
  revert same
  decide

end HeartbeatArchive

end Maintenant.Uptime
