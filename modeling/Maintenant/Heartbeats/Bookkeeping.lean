import Maintenant.Heartbeats.Alone

/-!
# Bookkeeping of runs

A start ping opens a run: it sets the marker `current_run_started_at` and inserts an execution in
progress, and both are there exactly while the status is `started`.  Operations run one after the
other keep that, but for two: a deadline pass that finds a started heartbeat overdue and a pause of
a started heartbeat leave the marker behind, the pause also the execution.
-/

namespace Maintenant.Heartbeats

open Agent (unix)
open Keyed Execution Heartbeat

variable {store after : HeartbeatStore} {id other : HeartbeatId} {h : Heartbeat} {now : Int}
  {payload : Option Payload}

namespace HeartbeatStore

/-! ### Executions in progress -/

/-- Ids are fresh and no heartbeat has two executions in progress. -/
structure Sane (store : HeartbeatStore) : Prop where
  given : ∀ h ∈ store.heartbeats, h.id < store.nextId
  /-- Ids of executions have been given, and those of their heartbeats. -/
  owned : ∀ exec ∈ store.executions, exec.id < store.nextId ∧ exec.heartbeatId < store.nextId
  single : ∀ id, (store.inProgress id).length ≤ 1

/-- The marker and the executions in progress of a heartbeat are those of its status. -/
def Consistent (h : Heartbeat) (running : List HeartbeatExecution) : Prop :=
  (h.currentRunStartedAt.isSome ↔ h.status = .started) ∧ (running ≠ [] ↔ h.status = .started)

/-- Marker and execution in progress are there exactly while the status is `started`. -/
def Bookkept (store : HeartbeatStore) : Prop :=
  ∀ h ∈ store.heartbeats.items, Consistent h (store.inProgress h.id)

instance : DecidablePred Bookkept := fun _ => by
  unfold Bookkept Consistent
  infer_instance

variable {exec : HeartbeatExecution}

theorem mem_inProgress : exec ∈ store.inProgress id ↔
      exec ∈ store.executions ∧ exec.heartbeatId = id ∧ exec.outcome = .inProgress := by
  simp [inProgress, running, mem_def]

variable {outcome : ExecutionOutcome} {execution : Nat}
  {startedAt completedAt durationMs exitCode : Option Int}

theorem inProgress_updateExecution (ended : outcome ≠ .inProgress) :
    (store.updateExecution execution completedAt durationMs exitCode outcome payload).inProgress
        id = (store.inProgress id).filter fun exec => exec.id ≠ execution := by
  simp only [inProgress, updateExecution, items_update, List.filter_filter]
  induction store.executions.items with
  | nil => rfl
  | cons exec items ih =>
    by_cases here : exec.id = execution
    · simp [here, running, ended, ih]
    · simp only [List.map_cons, List.filter_cons, ih]
      simp [here]

theorem Sane.inProgress_insertExecution (sane : store.Sane) :
    (store.insertExecution other startedAt completedAt durationMs exitCode outcome
        payload).inProgress id = store.inProgress id ++ if other = id ∧ outcome = .inProgress then
          [⟨store.nextId, other, startedAt.map unix, completedAt.map unix, durationMs, exitCode,
            outcome, payload⟩] else [] := by
  have fresh : (store.executions.items.filter fun old => old.id ≠ store.nextId) =
      store.executions.items := by
    rw [List.filter_eq_self]
    intro old mem
    have := (sane.owned old mem).1
    simp only [ne_eq, decide_not, Bool.not_eq_eq_eq_not, Bool.not_true, decide_eq_false_iff_not]
    omega
  simp only [inProgress, insertExecution, Keyed.insert, List.filter_append, fresh]
  by_cases running_new : other = id ∧ outcome = .inProgress
  · simp [running, running_new]
  · simp [running, running_new]

theorem getCurrentExecution_eq_none (none_running : store.inProgress id = []) :
    store.getCurrentExecution id = none := by
  rw [getCurrentExecution, none_running]
  rfl

theorem getCurrentExecution_eq_some (one : store.inProgress id = [exec]) :
    store.getCurrentExecution id = some exec := by
  rw [getCurrentExecution, one]
  rfl

theorem Sane.none_or_one (sane : store.Sane) :
    store.inProgress id = [] ∨ ∃ exec, store.inProgress id = [exec] := by
  have single := sane.single id
  match found : store.inProgress id with
  | [] => exact .inl rfl
  | [exec] => exact .inr ⟨exec, rfl⟩
  | first :: second :: rest =>
    rw [found] at single
    simp at single

theorem Sane.inProgress_endCurrent (sane : store.Sane) (ended : outcome ≠ .inProgress) :
    (store.endCurrent id now durationMs exitCode outcome payload).inProgress other =
      if other = id then [] else store.inProgress other := by
  rw [endCurrent]
  rcases sane.none_or_one with none_running | ⟨exec, one⟩
  · rw [getCurrentExecution_eq_none none_running]
    dsimp only
    split
    next same => rw [same, none_running]
    · rfl
  · rw [getCurrentExecution_eq_some one]
    rw [inProgress_updateExecution ended]
    split
    next same =>
      rw [same, one]
      simp
    rename_i different
    rw [List.filter_eq_self]
    intro running mem
    have own : exec ∈ store.executions ∧ exec.heartbeatId = id ∧ exec.outcome = .inProgress :=
      mem_inProgress.mp (one ▸ List.mem_singleton_self exec)
    have theirs := mem_inProgress.mp mem
    simp only [decide_not, Bool.not_eq_eq_eq_not, Bool.not_true, decide_eq_false_iff_not]
    intro same
    obtain rfl := eq_of_key theirs.1 own.1 same
    exact different (theirs.2.1.symm.trans own.2.1)

theorem Sane.of_frame (sane : store.Sane) (executions : after.executions = store.executions)
    (nextId : after.nextId = store.nextId)
    (rows : ∀ h ∈ after.heartbeats, ∃ old ∈ store.heartbeats, old.id = h.id) : after.Sane where
  given := by
    intro h mem
    obtain ⟨old, old_mem, same⟩ := rows h mem
    rw [nextId, ← same]
    exact sane.given old old_mem
  owned := by
    rw [executions, nextId]
    exact sane.owned
  single := by
    intro id
    rw [inProgress, executions]
    exact sane.single id

theorem Sane.of_modify (sane : store.Sane) {change : Heartbeat → Heartbeat}
    (keeps : ∀ h, (change h).id = h.id) (executions : after.executions = store.executions)
    (nextId : after.nextId = store.nextId)
    (heartbeats : after.heartbeats = (store.modify id change keeps).heartbeats) : after.Sane := by
  refine sane.of_frame executions nextId ?_
  rw [heartbeats]
  intro h mem
  rcases (mem_update keeps).mp mem with ⟨old_mem, -⟩ | ⟨old, old_mem, -, rfl⟩
  · exact ⟨h, old_mem, rfl⟩
  · exact ⟨old, old_mem, (keeps old).symm⟩

theorem Sane.updateExecution (sane : store.Sane) (ended : outcome ≠ .inProgress) :
    (store.updateExecution execution completedAt durationMs exitCode outcome payload).Sane where
  given := sane.given
  owned := by
    intro exec mem
    rcases (mem_update (by exact fun _ => rfl)).mp mem with ⟨old_mem, -⟩ | ⟨old, old_mem, -, rfl⟩
    · exact sane.owned exec old_mem
    · exact sane.owned old old_mem
  single := by
    intro id
    rw [inProgress_updateExecution ended]
    exact Nat.le_trans (List.length_filter_le _ _) (sane.single id)

theorem Sane.insertExecution (sane : store.Sane) (given : id < store.nextId)
    (alone : outcome = .inProgress → store.inProgress id = []) :
    (store.insertExecution id startedAt completedAt durationMs exitCode outcome payload).Sane where
  given := by
    intro h mem
    exact Nat.lt_succ_of_lt (sane.given h mem)
  owned := by
    intro exec mem
    rcases mem_insert.mp mem with ⟨old_mem, -⟩ | rfl
    · obtain ⟨own, heartbeat⟩ := sane.owned exec old_mem
      exact ⟨Nat.lt_succ_of_lt own, Nat.lt_succ_of_lt heartbeat⟩
    · exact ⟨Nat.lt_succ_self _, Nat.lt_succ_of_lt given⟩
  single := by
    intro other
    rw [sane.inProgress_insertExecution]
    split
    next new =>
      obtain ⟨rfl, running⟩ := new
      simp [alone running]
    · rw [List.append_nil]
      exact sane.single other

theorem Sane.insertPing (sane : store.Sane) (ping : HeartbeatPing) : (store.insertPing ping).Sane :=
  sane.of_frame rfl rfl fun h mem => ⟨h, mem, rfl⟩

theorem nextId_endCurrent :
    (store.endCurrent id now durationMs exitCode outcome payload).nextId = store.nextId := by
  rw [endCurrent]
  cases store.getCurrentExecution id with
  | none | some => rfl

theorem Sane.endCurrent (sane : store.Sane) (ended : outcome ≠ .inProgress) :
    (store.endCurrent id now durationMs exitCode outcome payload).Sane := by
  rw [HeartbeatStore.endCurrent]
  cases store.getCurrentExecution id with
  | none => exact sane
  | some => exact sane.updateExecution ended

theorem Sane.endOrInsert (sane : store.Sane) (given : id < store.nextId)
    (ended : outcome ≠ .inProgress) :
    (store.endOrInsert id now durationMs exitCode outcome payload).Sane := by
  rw [HeartbeatStore.endOrInsert]
  cases store.getCurrentExecution id with
  | none => exact sane.insertExecution given fun running => absurd running ended
  | some => exact sane.updateExecution ended

theorem Sane.concluded (sane : store.Sane) {state : HeartbeatState} {notice : Option Notice} :
    (store.concluded h now state notice).Sane := by
  obtain ⟨_, same⟩ := concluded_frame
  rw [same]
  exact sane.of_modify (by exact fun _ => rfl) rfl rfl rfl

theorem Sane.pingRecorded (sane : store.Sane) (given : h.id < store.nextId) :
    (store.pingRecorded h now payload).Sane := by
  rw [HeartbeatStore.pingRecorded]
  split
  · exact sane.endCurrent (by simp)
  · exact sane.insertExecution given (by simp)

theorem Sane.deadlineMissed (sane : store.Sane) : (store.deadlineMissed now h).Sane := by
  have written : (store.updateHeartbeatState h.id h.missed).Sane :=
    sane.of_modify (by exact fun _ => rfl) rfl rfl rfl
  rw [HeartbeatStore.deadlineMissed]
  split
  · exact (written.endCurrent (by simp)).of_frame rfl rfl fun row mem => ⟨row, mem, rfl⟩
  · exact written.of_frame rfl rfl fun row mem => ⟨row, mem, rfl⟩

theorem Sane.createHeartbeat (sane : store.Sane) {token name : String} {interval grace : Int} :
    (store.createHeartbeat token name interval grace).Sane where
  given := by
    intro h mem
    rcases mem_insert.mp mem with ⟨old_mem, -⟩ | rfl
    · exact Nat.lt_succ_of_lt (sane.given h old_mem)
    · exact Nat.lt_succ_self _
  owned := by
    intro exec mem
    obtain ⟨own, heartbeat⟩ := sane.owned exec mem
    exact ⟨Nat.lt_succ_of_lt own, Nat.lt_succ_of_lt heartbeat⟩
  single := sane.single

theorem inProgress_deleteHeartbeat (different : other ≠ id) :
    (store.deleteHeartbeat id).inProgress other = store.inProgress other := by
  simp only [inProgress, deleteHeartbeat, filter, List.filter_filter]
  refine List.filter_congr ?_
  intro exec _
  by_cases theirs : exec.heartbeatId = other
  · simp [theirs, different]
  · simp [running, theirs]

theorem Sane.deleteHeartbeat (sane : store.Sane) : (store.deleteHeartbeat id).Sane where
  given := fun h mem => sane.given h (mem_erase.mp mem).1
  owned := fun exec mem => sane.owned exec (mem_filter.mp mem).1
  single := by
    intro other
    refine Nat.le_trans (List.Sublist.length_le ?_) (sane.single other)
    exact List.filter_sublist.filter _

theorem Sane.inProgress_endOrInsert (sane : store.Sane) (ended : outcome ≠ .inProgress) :
    (store.endOrInsert id now durationMs exitCode outcome payload).inProgress other =
      if other = id then [] else store.inProgress other := by
  rw [← sane.inProgress_endCurrent ended, HeartbeatStore.endOrInsert, HeartbeatStore.endCurrent]
  cases store.getCurrentExecution id with
  | none =>
    rw [sane.inProgress_insertExecution]
    simp [ended]
  | some => rfl

end HeartbeatStore

open HeartbeatStore

theorem HeartbeatStore.Sane.perform (sane : store.Sane) {op : Op} : (op.perform store).Sane := by
  cases found : op.finds store with
  | none =>
    cases op with
    | deadlinePass =>
      rw [perform_deadlinePass]
      exact List.foldlRecOn _ _ sane fun store sane h _ => sane.deadlineMissed
    | create =>
      rw [perform_create]
      split
      · exact sane.createHeartbeat
      · exact sane
    | _ =>
      rw [perform_of_not_found rfl found]
      exact sane
  | some h =>
    cases op with
    | ping =>
      have given := sane.given h (mem_of_token found)
      rw [perform_ping found]
      exact ((sane.insertPing _).pingRecorded given).concluded
    | startPing _ now =>
      have given := sane.given h (mem_of_token found)
      have pinged := sane.insertPing ⟨h.id, .start, none, none, unix now⟩
      rw [perform_startPing found]
      refine Sane.concluded ?_
      refine (pinged.endCurrent (by nofun)).insertExecution ?_ ?_
      · rw [nextId_endCurrent]
        exact given
      · intro _
        rw [pinged.inProgress_endCurrent (by nofun), if_pos rfl]
    | exitCodePing _ _ exitCode =>
      have given := sane.given h (mem_of_token found)
      by_cases valid : validExitCode exitCode
      · rw [perform_exitCodePing valid found]
        refine ((sane.insertPing _).endOrInsert given ?_).concluded
        split
        · exact nofun
        · exact nofun
      · rw [perform_invalid (by simpa using valid)]
        exact sane
    | deadlinePass | create => cases found
    | pause =>
      rw [perform_pause found]
      split
      · exact sane
      · exact sane.of_modify (by exact fun _ => rfl) rfl rfl rfl
    | resume =>
      rw [perform_resume found]
      split
      · exact sane.of_modify (by exact fun _ => rfl) rfl rfl rfl
      · exact sane
    | edit =>
      rw [perform_edit found]
      split
      · exact sane.of_modify (by exact fun _ => rfl) rfl rfl rfl
      · exact sane
    | delete =>
      rw [perform_delete found]
      exact sane.deleteHeartbeat

/-! ### The law -/

/-- A pause is not of a started heartbeat, and a deadline pass finds no started heartbeat
overdue. -/
def Op.Spares (store : HeartbeatStore) : Op → Prop
  | .pause id _ => ∀ h ∈ store.getHeartbeatByID id, h.status ≠ .started
  | .deadlinePass now => ∀ h ∈ store.listOverdueHeartbeats now, h.status ≠ .started
  | _ => True

instance (store : HeartbeatStore) : DecidablePred (Op.Spares store)
  | .pause .. => inferInstanceAs (Decidable (∀ h ∈ store.getHeartbeatByID _, _))
  | .deadlinePass _ => inferInstanceAs (Decidable (∀ h ∈ store.listOverdueHeartbeats _, _))
  | .ping .. | .startPing .. | .exitCodePing .. | .resume .. | .edit .. | .create .. | .delete _ =>
    .isTrue trivial

variable {op : Op}

theorem bookkept_perform_iff (monitors : op.monitors) : (op.perform store).Bookkept ↔
      ∀ h ∈ store.heartbeats, Consistent (op.row store h) ((op.perform store).inProgress h.id) := by
  rw [Bookkept, items_perform monitors, List.forall_mem_map]
  simp only [Op.row_id]
  exact .rfl

variable {state : HeartbeatState} {notice : Option Notice}

theorem inProgress_concluded :
    (store.concluded h now state notice).inProgress id = store.inProgress id := by
  obtain ⟨_, same⟩ := concluded_frame
  rw [same]
  rfl

/-- An operation on one heartbeat keeps the books of the others, and its own if its new columns
agree with the executions in progress. -/
theorem HeartbeatStore.Bookkept.targeted (good : store.Bookkept) (monitors : op.monitors)
    (targeted : op.targeted) (found : op.finds store = some h) (mem : h ∈ store.heartbeats)
    (others : ∀ other, other ≠ h.id →
      (op.perform store).inProgress other = store.inProgress other) : (op.perform store).Bookkept ↔
      Consistent (h.set (op.effect h)) ((op.perform store).inProgress h.id) := by
  have addresses := addresses_of_finds targeted found
  rw [bookkept_perform_iff monitors]
  constructor
  · intro kept
    have here := kept h mem
    rw [Op.row, addresses, if_pos (decide_eq_true rfl)] at here
    exact here
  intro here row row_mem
  by_cases same : row.id = h.id
  · obtain rfl := eq_of_key row_mem mem same
    rw [Op.row, addresses, if_pos (decide_eq_true rfl)]
    exact here
  have elsewhere : op.row store row = row := by
    rw [Op.row, addresses, if_neg]
    simpa using fun this => same this.symm
  rw [elsewhere, others row.id same]
  exact good row row_mem

variable {token : String} {canStorePayload : Bool}

theorem inProgress_ping (sane : store.Sane) (found : store.getHeartbeatByPingToken token = some h) :
    ((Op.ping canStorePayload token payload now).perform store).inProgress id =
      if id = h.id ∧ h.finishing then [] else store.inProgress id := by
  rw [perform_ping found, inProgress_concluded, pingRecorded]
  by_cases finishing : h.finishing
  · rw [if_pos finishing, (sane.insertPing _).inProgress_endCurrent (by simp)]
    simp [finishing]
    rfl
  · rw [if_neg finishing, (sane.insertPing _).inProgress_insertExecution]
    simp [finishing]
    rfl

theorem inProgress_startPing (sane : store.Sane)
    (found : store.getHeartbeatByPingToken token = some h) :
    ((Op.startPing token now).perform store).inProgress h.id ≠ [] ∧ ∀ other, other ≠ h.id →
        ((Op.startPing token now).perform store).inProgress other = store.inProgress other := by
  have pinged := sane.insertPing ⟨h.id, .start, none, none, unix now⟩
  have ended : ExecutionOutcome.timeout ≠ .inProgress := nofun
  rw [perform_startPing found]
  constructor
  · rw [inProgress_concluded, (pinged.endCurrent ended).inProgress_insertExecution]
    simp
  intro other ne
  rw [inProgress_concluded, (pinged.endCurrent ended).inProgress_insertExecution,
    pinged.inProgress_endCurrent ended, if_neg ne]
  simp [ne.symm]
  rfl

theorem inProgress_exitCodePing (sane : store.Sane) {exitCode : Int}
    (valid : validExitCode exitCode) (found : store.getHeartbeatByPingToken token = some h) :
    ((Op.exitCodePing canStorePayload token exitCode payload now).perform store).inProgress id =
      if id = h.id then [] else store.inProgress id := by
  have pinged := sane.insertPing
    ⟨h.id, .exitCode, some exitCode, filterPayload canStorePayload payload, unix now⟩
  have ended : (if exitCode = 0 then .success else .failure : ExecutionOutcome) ≠ .inProgress := by
    split
    · exact nofun
    · exact nofun
  rw [perform_exitCodePing valid found, inProgress_concluded, pinged.inProgress_endOrInsert ended]
  rfl

theorem HeartbeatStore.Bookkept.untracked (good : store.Bookkept) (monitors : op.monitors)
    (targeted : op.targeted) (found : op.finds store = some h) (mem : h ∈ store.heartbeats)
    (executions : (op.perform store).executions = store.executions) : (op.perform store).Bookkept ↔
      Consistent (h.set (op.effect h)) (store.inProgress h.id) := by
  have same : ∀ other, (op.perform store).inProgress other = store.inProgress other := by
    intro other
    rw [inProgress, executions, inProgress]
  rw [good.targeted monitors targeted found mem fun other _ => same other, same]

theorem executions_deadlinesMissed {rows : List Heartbeat}
    (spared : ∀ h ∈ rows, h.status ≠ .started) :
    (rows.foldl (deadlineMissed now) store).executions = store.executions := by
  induction rows generalizing store with
  | nil => rfl
  | cons row rows ih =>
    obtain ⟨row_spared, spared⟩ := List.forall_mem_cons.mp spared
    rw [List.foldl_cons, ih spared]
    simp only [deadlineMissed, if_neg row_spared]
    rfl

theorem HeartbeatStore.Bookkept.deadlinePass (good : store.Bookkept) :
    ((Op.deadlinePass now).perform store).Bookkept ↔ (Op.deadlinePass now).Spares store := by
  rw [bookkept_perform_iff rfl]
  constructor
  · intro kept h overdue_mem started
    obtain ⟨mem, overdue⟩ := List.mem_filter.mp overdue_mem
    have marker := (good h mem).1.mpr started
    have broken := (kept h mem).1
    simp [Op.row, Op.addresses, Op.effect, overdue, Heartbeat.set, Heartbeat.missed] at broken
    rw [broken] at marker
    cases marker
  · intro spares h mem
    have executions : ((Op.deadlinePass now).perform store).inProgress h.id =
        store.inProgress h.id := by
      rw [inProgress, perform_deadlinePass, executions_deadlinesMissed spares, inProgress]
    rw [executions]
    by_cases overdue : h.overdue now
    · have not_started := spares h (List.mem_filter.mpr ⟨mem, overdue⟩)
      obtain ⟨marker, running⟩ := good h mem
      simp only [not_started] at marker running
      simp [Consistent, Op.row, Op.addresses, Op.effect, overdue, Heartbeat.set, Heartbeat.missed,
        marker, running]
    · have same : (Op.deadlinePass now).row store h = h := by
        simp [Op.row, Op.addresses, Op.effect, overdue]
        rfl
      rw [same]
      exact good h mem

theorem HeartbeatStore.Sane.inProgress_new (sane : store.Sane) :
    store.inProgress store.nextId = [] := by
  rw [List.eq_nil_iff_forall_not_mem]
  intro exec mem
  obtain ⟨known, own, -⟩ := mem_inProgress.mp mem
  have given := (sane.owned exec known).2
  rw [own] at given
  exact Nat.lt_irrefl _ given

section Actions

variable (sane : store.Sane) (good : store.Bookkept)

include sane good

theorem HeartbeatStore.Bookkept.create {name : String} {interval grace : Int} :
    ((Op.create token name interval grace).perform store).Bookkept := by
  rw [perform_create]
  split
  · intro h mem
    rcases mem_insert.mp mem with ⟨old_mem, -⟩ | rfl
    · exact good h old_mem
    · change Consistent _ (store.inProgress store.nextId)
      rw [sane.inProgress_new]
      simp [Consistent]
  · exact good

theorem HeartbeatStore.Bookkept.ping
    (found : (Op.ping canStorePayload token payload now).finds store = some h) :
    ((Op.ping canStorePayload token payload now).perform store).Bookkept := by
  have mem := mem_of_token found
  obtain ⟨marker, running⟩ := good h mem
  rw [Bookkept.targeted good rfl rfl found mem, inProgress_ping sane found]
  · by_cases started : h.status = .started
    · have marked := marker.mpr started
      simp [Consistent, Heartbeat.set, Op.effect, Heartbeat.pinged, finishing, started, marked]
    · simp [Consistent, Heartbeat.set, Op.effect, Heartbeat.pinged, finishing, started, marker,
        running]
  · intro other ne
    rw [inProgress_ping sane found]
    simp [ne]

theorem HeartbeatStore.Bookkept.startPing (found : (Op.startPing token now).finds store = some h) :
    ((Op.startPing token now).perform store).Bookkept := by
  have mem := mem_of_token found
  obtain ⟨started, others⟩ := inProgress_startPing sane found
  rw [Bookkept.targeted good rfl rfl found mem others]
  simp [Consistent, started, Heartbeat.set, Op.effect, startPinged]

theorem HeartbeatStore.Bookkept.exitCodePing {exitCode : Int}
    (found : (Op.exitCodePing canStorePayload token exitCode payload now).finds store = some h) :
    ((Op.exitCodePing canStorePayload token exitCode payload now).perform store).Bookkept := by
  have mem := mem_of_token found
  obtain ⟨marker, -⟩ := good h mem
  by_cases valid : validExitCode exitCode
  · rw [Bookkept.targeted good rfl rfl found mem, inProgress_exitCodePing sane valid found]
    · by_cases started : h.status = .started
      · have marked := marker.mpr started
        simp [Consistent, Heartbeat.set, Op.effect, valid, exitPinged, finishing, started, marked]
      · simp [Consistent, Heartbeat.set, Op.effect, valid, exitPinged, finishing, started, marker]
    · intro other ne
      rw [inProgress_exitCodePing sane valid found, if_neg ne]
  · rw [perform_invalid (by simpa using valid)]
    exact good

omit sane

/-- A pause keeps the books unless the heartbeat is started. -/
theorem HeartbeatStore.Bookkept.pause (found : (Op.pause id now).finds store = some h) :
    ((Op.pause id now).perform store).Bookkept ↔ h.status ≠ .started := by
  obtain ⟨mem, rfl⟩ := lookup_eq_some.mp found
  obtain ⟨marker, running⟩ := good h mem
  rw [Bookkept.untracked good rfl rfl found mem]
  · by_cases started : h.status = .started
    · have marked := marker.mpr started
      simp [Consistent, Heartbeat.set, Op.effect, started, marked]
    by_cases paused : h.status = .paused
    · simp [Consistent, Heartbeat.set, Op.effect, paused, marker, running]
    · simp [Consistent, Heartbeat.set, Op.effect, paused, started, marker, running]
  · rw [perform_pause found]
    split
    · rfl
    · rfl

theorem HeartbeatStore.Bookkept.resume (found : (Op.resume id now).finds store = some h) :
    ((Op.resume id now).perform store).Bookkept := by
  obtain ⟨mem, rfl⟩ := lookup_eq_some.mp found
  obtain ⟨marker, running⟩ := good h mem
  rw [Bookkept.untracked good rfl rfl found mem]
  · by_cases paused : h.status = .paused
    · simp [Consistent, Heartbeat.set, Op.effect, paused, marker, running]
    · simp only [Op.effect, if_neg paused]
      exact ⟨marker, running⟩
  · rw [perform_resume found]
    split
    · rfl
    · rfl

theorem HeartbeatStore.Bookkept.edit {input : UpdateHeartbeatInput}
    (found : store.getHeartbeatByID id = some h) : ((Op.edit id input).perform store).Bookkept := by
  rw [perform_edit found]
  split
  · intro row mem
    rcases (mem_update (by exact fun _ => rfl)).mp mem with
      ⟨old_mem, -⟩ | ⟨old, old_mem, -, rfl⟩
    · exact good row old_mem
    · exact good old old_mem
  · exact good

theorem HeartbeatStore.Bookkept.delete (found : store.getHeartbeatByID id = some h) :
    ((Op.delete id).perform store).Bookkept := by
  rw [perform_delete found]
  intro row mem
  obtain ⟨old_mem, ne⟩ := mem_erase.mp mem
  rw [inProgress_deleteHeartbeat ne]
  exact good row old_mem

end Actions

theorem HeartbeatStore.Bookkept.perform_iff (sane : store.Sane) (good : store.Bookkept) :
    (op.perform store).Bookkept ↔ op.Spares store := by
  cases found : op.finds store with
  | none =>
    cases op with
    | deadlinePass => exact good.deadlinePass
    | create => exact iff_true_intro (Bookkept.create sane good)
    | pause =>
      rw [perform_of_not_found rfl found]
      simp only [Op.finds] at found
      simp [Op.Spares, found, good]
    | _ =>
      rw [perform_of_not_found rfl found]
      simp [Op.Spares, good]
  | some h =>
    cases op with
    | ping => exact iff_true_intro (Bookkept.ping sane good found)
    | startPing => exact iff_true_intro (Bookkept.startPing sane good found)
    | exitCodePing => exact iff_true_intro (Bookkept.exitCodePing sane good found)
    | deadlinePass | create => cases found
    | pause =>
      rw [good.pause found]
      simp only [Op.finds] at found
      simp [Op.Spares, found]
    | resume => exact iff_true_intro (good.resume found)
    | edit => exact iff_true_intro (good.edit found)
    | delete => exact iff_true_intro (good.delete found)

/-- Operations one after the other, from an empty database. -/
abbrev sequential (store : HeartbeatStore) (op : Op) : Option HeartbeatStore :=
  some (op.perform store)

theorem HeartbeatStore.sane_empty : empty.Sane :=
  ⟨fun _ mem => absurd mem List.not_mem_nil, fun _ mem => absurd mem List.not_mem_nil,
    fun _ => Nat.zero_le 1⟩

/-- The marker and the execution in progress are there exactly while the status is `started`, if and
only if no pause and no deadline pass takes a started heartbeat out of its run. -/
theorem bookkept_iff_started_spared (ops : List Op) : Always sequential Bookkept .empty ops ↔
      Guarded sequential Op.Spares .empty ops := by
  have empty_good : empty.Bookkept := fun _ mem => absurd mem List.not_mem_nil
  have total : ∀ store op, ∃ after, sequential store op = some after := fun _ _ => ⟨_, rfl⟩
  obtain ⟨final, execution⟩ := run_of_total total .empty ops
  refine always_iff_guarded ?_ ?_ sane_empty empty_good execution
  · intro before after op sane step
    cases step
    exact sane.perform
  · intro before after op sane good step
    cases step
    exact Bookkept.perform_iff sane good

/-- A started heartbeat that is paused keeps its marker and its execution in progress. -/
theorem pause_keeps_run : ¬Always sequential Bookkept .empty
      [.create "token" "backup" 3600 300, .startPing "token" 0, .pause 0 1000000000] := by
  decide

/-- Whatever is done to heartbeats one after the other, none has two executions in progress. -/
theorem one_execution_in_progress (ops : List Op) :
    Always sequential (fun store => ∀ id, (store.inProgress id).length ≤ 1) .empty ops := by
  refine always_of_invariant Sane ?_ (fun _ sane => sane.single) sane_empty ops
  intro before after op sane step
  cases step
  exact sane.perform

end Maintenant.Heartbeats
