import Maintenant.Heartbeats.Alone

/-!
# What is recorded of a heartbeat

The row of a heartbeat together with its pings and pauses, and what each operation of the service
makes of them.
-/

namespace Maintenant.Heartbeats

open List

open Agent (unix)

def pingsOf (id : HeartbeatId) (pings : List HeartbeatPing) : List HeartbeatPing :=
  pings.filter fun ping => ping.heartbeatId = id

def pausesOf (id : HeartbeatId) (pauses : List HeartbeatPause) : List HeartbeatPause :=
  pauses.filter fun pause => pause.heartbeatId = id

/-- An open pause of the heartbeat ends; one that has ended is not ended again. -/
def ending (id : HeartbeatId) (now : Int) (pause : HeartbeatPause) : HeartbeatPause :=
  if pause.heartbeatId = id ∧ pause.resumedAt = none then
    { pause with resumedAt := some (unix now) }
  else pause

variable {store : HeartbeatStore} {id other : HeartbeatId} {h : Heartbeat} {now : Int}
  {pings : List HeartbeatPing} {pauses : List HeartbeatPause}

theorem pingsOf_append (new : List HeartbeatPing) :
    pingsOf id (pings ++ new) = pingsOf id pings ++ pingsOf id new :=
  filter_append ..

theorem pausesOf_append (new : List HeartbeatPause) :
    pausesOf id (pauses ++ new) = pausesOf id pauses ++ pausesOf id new :=
  filter_append ..

theorem pingsOf_filter {test : HeartbeatPing → Bool} :
    pingsOf id (pings.filter test) = (pingsOf id pings).filter test := by
  rw [pingsOf, pingsOf, filter_filter, filter_filter]
  exact filter_congr fun _ _ => Bool.and_comm _ _

theorem pausesOf_filter {test : HeartbeatPause → Bool} :
    pausesOf id (pauses.filter test) = (pausesOf id pauses).filter test := by
  rw [pausesOf, pausesOf, filter_filter, filter_filter]
  exact filter_congr fun _ _ => Bool.and_comm _ _

@[simp] theorem ending_heartbeatId (pause : HeartbeatPause) :
    (ending id now pause).heartbeatId = pause.heartbeatId := by
  rw [ending]
  split
  · rfl
  · rfl

theorem pausesOf_map_ending :
    pausesOf id (pauses.map (ending other now)) = (pausesOf id pauses).map (ending other now) := by
  rw [pausesOf, filter_map]
  congr 1
  refine filter_congr ?_
  intro pause _
  simp only [Function.comp_apply, ending_heartbeatId]

theorem map_ending_of_ne (different : other ≠ id) :
    (pausesOf id pauses).map (ending other now) = pausesOf id pauses := by
  rw [map_congr_left (g := fun pause => pause), map_id']
  intro pause mem
  have here := of_decide_eq_true (mem_filter.mp mem).2
  rw [ending, if_neg]
  rintro ⟨there, -⟩
  exact different (there.symm.trans here)

/-! ### Operations -/

/-- The ping an operation on a heartbeat records. -/
def Op.recorded (h : Heartbeat) : Op → List HeartbeatPing
  | .ping canStorePayload _ payload now =>
    [⟨h.id, .success, none, filterPayload canStorePayload payload, unix now⟩]
  | .startPing _ now => [⟨h.id, .start, none, none, unix now⟩]
  | .exitCodePing canStorePayload _ exitCode payload now =>
    if validExitCode exitCode then
      [⟨h.id, .exitCode, some exitCode, filterPayload canStorePayload payload, unix now⟩]
    else []
  | _ => []

/-- The open pause of a heartbeat ends if it is paused. -/
def Heartbeat.unpause (h : Heartbeat) (now : Int) (pauses : List HeartbeatPause) :
    List HeartbeatPause :=
  if h.status = .paused then pauses.map (ending h.id now) else pauses

/-- What an operation on a heartbeat makes of the pauses. -/
def Op.pausing (h : Heartbeat) (pauses : List HeartbeatPause) : Op → List HeartbeatPause
  | .ping _ _ _ now | .startPing _ now | .resume _ now => h.unpause now pauses
  | .exitCodePing _ _ exitCode _ now =>
    if validExitCode exitCode then h.unpause now pauses else pauses
  | .pause _ now =>
    if h.status = .paused then pauses else pauses ++ [⟨h.id, unix now, none⟩]
  | _ => pauses

namespace HeartbeatStore

variable {durationMs exitCode : Option Int} {outcome : ExecutionOutcome} {payload : Option Payload}

theorem recorded_endCurrent :
    (store.endCurrent id now durationMs exitCode outcome payload).pings = store.pings ∧
      (store.endCurrent id now durationMs exitCode outcome payload).pauses = store.pauses := by
  rw [endCurrent]
  cases store.getCurrentExecution id with
  | none | some => exact ⟨rfl, rfl⟩

theorem recorded_endOrInsert :
    (store.endOrInsert id now durationMs exitCode outcome payload).pings = store.pings ∧
      (store.endOrInsert id now durationMs exitCode outcome payload).pauses = store.pauses := by
  rw [endOrInsert]
  cases store.getCurrentExecution id with
  | none | some => exact ⟨rfl, rfl⟩

theorem recorded_pingRecorded : (store.pingRecorded h now payload).pings = store.pings ∧
      (store.pingRecorded h now payload).pauses = store.pauses := by
  rw [pingRecorded]
  split
  · exact recorded_endCurrent
  · exact ⟨rfl, rfl⟩

theorem recorded_concluded {state : HeartbeatState} {notice : Option Notice} :
    (store.concluded h now state notice).pings = store.pings ∧
      (store.concluded h now state notice).pauses = h.unpause now store.pauses := by
  obtain ⟨_, same⟩ := concluded_frame
  rw [same, Heartbeat.unpause]
  split
  · exact ⟨rfl, rfl⟩
  · exact ⟨rfl, rfl⟩

theorem recorded_deadlinesMissed {rows : List Heartbeat} :
    (rows.foldl (deadlineMissed now) store).pings = store.pings ∧
      (rows.foldl (deadlineMissed now) store).pauses = store.pauses := by
  induction rows generalizing store with
  | nil => exact ⟨rfl, rfl⟩
  | cons row rows ih =>
    have missed : (store.deadlineMissed now row).pings = store.pings ∧
        (store.deadlineMissed now row).pauses = store.pauses := by
      rw [deadlineMissed]
      split
      · exact recorded_endCurrent
      · exact ⟨rfl, rfl⟩
    exact ⟨ih.1.trans missed.1, ih.2.trans missed.2⟩

end HeartbeatStore

open HeartbeatStore

variable {op : Op}

theorem recorded_of_found (monitors : op.monitors) (found : op.finds store = some h) :
    (op.perform store).pings = store.pings ++ op.recorded h ∧
      (op.perform store).pauses = op.pausing h store.pauses := by
  cases op with
  | ping =>
    rw [perform_ping found, recorded_concluded.1, recorded_concluded.2,
      recorded_pingRecorded.1, recorded_pingRecorded.2]
    exact ⟨rfl, rfl⟩
  | startPing =>
    rw [perform_startPing found, recorded_concluded.1, recorded_concluded.2]
    simp only [insertExecution]
    rw [recorded_endCurrent.1, recorded_endCurrent.2]
    exact ⟨rfl, rfl⟩
  | exitCodePing _ _ exitCode =>
    by_cases valid : validExitCode exitCode
    · rw [perform_exitCodePing valid found, recorded_concluded.1,
        recorded_concluded.2, recorded_endOrInsert.1,
        recorded_endOrInsert.2]
      simp only [Op.recorded, Op.pausing, valid]
      exact ⟨rfl, rfl⟩
    · rw [perform_invalid (by simpa using valid)]
      simp [Op.recorded, Op.pausing, valid]
  | pause =>
    obtain ⟨-, rfl⟩ := Keyed.lookup_eq_some.mp found
    rw [perform_pause found]
    by_cases paused : h.status = .paused
    · simp [Op.recorded, Op.pausing, paused]
    · simp [Op.recorded, Op.pausing, paused, HeartbeatStore.pauseHeartbeat, HeartbeatStore.modify]
  | resume =>
    obtain ⟨-, rfl⟩ := Keyed.lookup_eq_some.mp found
    rw [perform_resume found]
    by_cases paused : h.status = .paused
    · simp only [Op.recorded, Op.pausing, Heartbeat.unpause, paused, append_nil]
      exact ⟨rfl, rfl⟩
    · simp [Op.recorded, Op.pausing, Heartbeat.unpause, paused]
  | deadlinePass => cases found
  | edit | create | delete => cases monitors

theorem recorded_deadlinePass : ((Op.deadlinePass now).perform store).pings = store.pings ∧
      ((Op.deadlinePass now).perform store).pauses = store.pauses := by
  rw [perform_deadlinePass]
  exact recorded_deadlinesMissed

/-! ### Records -/

/-- All that is stored of a heartbeat. -/
structure HeartbeatRecord where
  row : Heartbeat
  pings : List HeartbeatPing
  pauses : List HeartbeatPause

def HeartbeatStore.record (id : HeartbeatId) (store : HeartbeatStore) : Option HeartbeatRecord :=
  (store.getHeartbeatByID id).map fun row =>
    ⟨row, pingsOf id store.pings, pausesOf id store.pauses⟩

/-- What an operation makes of the record of a heartbeat that it addresses. -/
def Op.amend (op : Op) (record : HeartbeatRecord) : HeartbeatRecord where
  row := record.row.set (op.effect record.row)
  pings := record.pings ++ op.recorded record.row
  pauses := op.pausing record.row record.pauses

theorem pingsOf_recorded :
    pingsOf id (op.recorded h) = if h.id = id then op.recorded h else [] := by
  cases op with
  | exitCodePing =>
    rw [Op.recorded]
    split
    · simp [pingsOf, filter_cons]
    · simp [pingsOf]
  | ping | startPing => simp [Op.recorded, pingsOf, filter_cons]
  | _ => simp [Op.recorded, pingsOf]

theorem pausesOf_unpause : pausesOf id (h.unpause now pauses) =
      if h.id = id then h.unpause now (pausesOf id pauses) else pausesOf id pauses := by
  rw [Heartbeat.unpause, Heartbeat.unpause]
  split
  · rw [pausesOf_map_ending]
    split
    · rfl
    next different => exact map_ending_of_ne different
  · rw [ite_self]

theorem pausesOf_pausing : pausesOf id (op.pausing h pauses) =
      if h.id = id then op.pausing h (pausesOf id pauses) else pausesOf id pauses := by
  cases op with
  | ping | startPing | resume => exact pausesOf_unpause
  | exitCodePing =>
    rw [Op.pausing, Op.pausing]
    split
    · exact pausesOf_unpause
    · rw [ite_self]
  | pause =>
    rw [Op.pausing, Op.pausing]
    split
    · rw [ite_self]
    by_cases here : h.id = id
    · simp [pausesOf, here]
    · simp [pausesOf, here]
  | _ => exact (ite_self _).symm

theorem record_perform {record : HeartbeatRecord} (monitors : op.monitors)
    (found : store.record id = some record) : (op.perform store).record id =
      some (if op.addresses store id then op.amend record else record) := by
  obtain ⟨row, row_found, rfl⟩ := Option.map_eq_some_iff.mp found
  obtain ⟨mem, rfl⟩ := Keyed.lookup_eq_some.mp row_found
  rw [record, getHeartbeatByID_perform monitors, row_found, Option.map_some]
  by_cases targeted : op.targeted
  · cases target : op.finds store with
    | none =>
      have idle : op.addresses store row.id = false := by
        cases op with
        | deadlinePass => cases targeted
        | _ => simp [Op.addresses, target]
      rw [perform_of_not_found targeted target, Op.row, idle]
      rfl
    | some h =>
      rw [(recorded_of_found monitors target).1, (recorded_of_found monitors target).2,
        pingsOf_append, pingsOf_recorded, pausesOf_pausing, Op.row,
        addresses_of_finds targeted target]
      by_cases here : h.id = row.id
      · obtain rfl := Keyed.eq_of_key (mem_of_finds target) mem here
        simp [Op.amend]
      · simp [here]
  · cases op with
    | deadlinePass =>
      rw [recorded_deadlinePass.1, recorded_deadlinePass.2]
      simp [Op.row, Op.addresses, Op.amend, Op.recorded, Op.pausing]
    | create => cases monitors
    | _ => exact absurd rfl targeted

end Maintenant.Heartbeats
