import Maintenant.Heartbeats.Service

/-!
# Heartbeat operations run alone

What each operation makes of the tables when no other runs beside it and no statement fails.
-/

namespace Maintenant.Heartbeats

open Agent (unix)
open Keyed Program Heartbeats

variable {store : HeartbeatStore} {token : String} {id : HeartbeatId} {h : Heartbeat}

namespace HeartbeatStore

theorem mem_of_token (found : store.getHeartbeatByPingToken token = some h) :
    h ∈ store.heartbeats :=
  List.mem_of_find?_eq_some found

theorem getHeartbeatByID_of_token (found : store.getHeartbeatByPingToken token = some h) :
    store.getHeartbeatByID h.id = some h :=
  lookup_eq_some.mpr ⟨mem_of_token found, rfl⟩

def endCurrent (id : HeartbeatId) (now : Int) (durationMs exitCode : Option Int)
    (outcome : ExecutionOutcome) (payload : Option Payload) (store : HeartbeatStore) :
    HeartbeatStore :=
  match store.getCurrentExecution id with
  | some current =>
    store.updateExecution current.id (some now) durationMs exitCode outcome payload
  | none => store

/-- Give the execution in progress its end, or insert one that has ended. -/
def endOrInsert (id : HeartbeatId) (now : Int) (durationMs exitCode : Option Int)
    (outcome : ExecutionOutcome) (payload : Option Payload) (store : HeartbeatStore) :
    HeartbeatStore :=
  match store.getCurrentExecution id with
  | some current =>
    store.updateExecution current.id (some now) durationMs exitCode outcome payload
  | none => store.insertExecution id none (some now) durationMs exitCode outcome payload

/-- What a plain ping does to the executions. -/
def pingRecorded (h : Heartbeat) (now : Int) (payload : Option Payload) (store : HeartbeatStore) :
    HeartbeatStore :=
  if h.finishing then store.endCurrent h.id now (h.durationMs now) none .success payload
  else store.insertExecution h.id none (some now) none none .success payload

/-- The state columns are written, the pause ended and the callback told. -/
def concluded (h : Heartbeat) (now : Int) (state : HeartbeatState) (notice : Option Notice)
    (store : HeartbeatStore) : HeartbeatStore :=
  let written := store.updateHeartbeatState h.id state
  let resumed := if h.status = .paused then written.endPause h.id now else written
  match notice with
  | some notice => resumed.notify h.id notice
  | none => resumed

def deadlineMissed (now : Int) (store : HeartbeatStore) (h : Heartbeat) : HeartbeatStore :=
  let written := store.updateHeartbeatState h.id h.missed
  (if h.status = .started then written.endCurrent h.id now none none .timeout none
  else written).notify h.id (.deadlineMissed
    (if h.status = .started then "Job started but never finished"
    else "Heartbeat missed deadline"))

end HeartbeatStore

open HeartbeatStore

/-- Run a program alone, no statement failing. -/
abbrev alone {α : Type} (program : Text α) (store : HeartbeatStore) : α × HeartbeatStore :=
  program.run exec (fun _ => false) store

variable {α : Type}

@[simp] theorem alone_done (value : α) : alone (.done value) store = (value, store) := rfl

variable {β : Type}

theorem alone_bind (program : Text α) (rest : α → Text β) : alone (program.bind rest) store =
      alone (rest (alone program store).1) (alone program store).2 :=
  run_bind exec false store program rest

@[simp] theorem alone_call (call : Call β) (rest : β → Text α) : alone (.call call rest) store =
      alone (rest (exec false call store).1) (exec false call store).2 := rfl

@[simp] theorem alone_perform (call : Call β) :
    alone (perform call) store = exec false call store := rfl

variable {now : Int} {startedAt completedAt durationMs exitCode : Option Int}
  {outcome : ExecutionOutcome} {payload : Option Payload} {state : HeartbeatState}
  {notice : Option Notice} {canStorePayload : Bool}

theorem alone_endExecution :
    (alone (endExecution id now durationMs exitCode outcome payload) store).2 =
      store.endCurrent id now durationMs exitCode outcome payload := by
  simp only [endExecution, bind_eq, perform_bind, alone_call, exec, endCurrent]
  cases store.getCurrentExecution id with
  | none | some => rfl

theorem alone_conclude :
    (alone (conclude h now state notice) store).2 = store.concluded h now state notice := by
  simp only [conclude, bind_eq, perform_bind, alone_call, exec, writing, concluded, endPause]
  by_cases paused : h.status = .paused
  · cases notice with
    | none | some => simp [paused]; rfl
  · cases notice with
    | none => simp [paused]
    | some => simp [paused]; rfl

theorem exec_insertPing {ping : HeartbeatPing} (known : store.known ping.heartbeatId) :
    exec false (.insertPing ping) store = (true, store.insertPing ping) := by
  simp [exec, writing, known]

theorem exec_insertExecution (known : store.known id) :
    exec false (.insertExecution id startedAt completedAt durationMs exitCode outcome payload)
        store = (true,
        store.insertExecution id startedAt completedAt durationMs exitCode outcome payload) := by
  simp [exec, writing, known]

theorem known_of_token (found : store.getHeartbeatByPingToken token = some h) :
    store.known h.id := by
  rw [known, getHeartbeatByID_of_token found]
  rfl

@[simp] theorem known_insertPing (ping : HeartbeatPing) :
    (store.insertPing ping).known id = store.known id := rfl

@[simp] theorem heartbeats_endCurrent :
    (store.endCurrent id now durationMs exitCode outcome payload).heartbeats =
      store.heartbeats := by
  rw [endCurrent]
  cases store.getCurrentExecution id with
  | none | some => rfl

theorem perform_ping (found : store.getHeartbeatByPingToken token = some h) :
    (Op.ping canStorePayload token payload now).perform store =
      ((store.insertPing ⟨h.id, .success, none, filterPayload canStorePayload payload,
        unix now⟩).pingRecorded h now (filterPayload canStorePayload payload)).concluded h now
          (h.pinged now) (if h.recovering then some .recovery else none) := by
  have known := known_of_token found
  change (alone _ store).2 = _
  simp only [Op.code, processPing, bind_eq, perform_bind, alone_call, pingRecorded]
  simp only [exec, reading, found]
  by_cases finishing : h.finishing
  · simp [finishing, alone_bind, exec_insertPing, known, alone_endExecution, alone_conclude]
  · simp [finishing, exec_insertPing, exec_insertExecution, known, alone_conclude]

theorem perform_startPing (found : store.getHeartbeatByPingToken token = some h) :
    (Op.startPing token now).perform store =
      (((store.insertPing ⟨h.id, .start, none, none, unix now⟩).endCurrent h.id now none none
        .timeout none).insertExecution h.id (some now) none none none .inProgress none).concluded
          h now (h.startPinged now) none := by
  have known := known_of_token found
  have later : ((store.insertPing ⟨h.id, .start, none, none, unix now⟩).endCurrent h.id now none
      none .timeout none).known h.id := by
    simp [HeartbeatStore.known, getHeartbeatByID] at known ⊢
    exact known
  change (alone _ store).2 = _
  simp only [Op.code, processStartPing, bind_eq, perform_bind, alone_call]
  simp only [exec, reading, found]
  simp [alone_bind, exec_insertPing, exec_insertExecution, known, alone_endExecution, later,
    alone_conclude]

theorem perform_exitCodePing {exitCode : Int} (valid : validExitCode exitCode)
    (found : store.getHeartbeatByPingToken token = some h) :
    (Op.exitCodePing canStorePayload token exitCode payload now).perform store =
      ((store.insertPing ⟨h.id, .exitCode, some exitCode, filterPayload canStorePayload payload,
        unix now⟩).endOrInsert h.id now (h.durationMs now) (some exitCode)
          (if exitCode = 0 then .success else .failure)
          (filterPayload canStorePayload payload)).concluded h now (h.exitPinged now exitCode)
            (if exitCode ≠ 0 then some (.exitCodeFailure exitCode)
            else if h.recovering then some .recovery else none) := by
  have known := known_of_token found
  change (alone _ store).2 = _
  simp only [Op.code, processExitCodePing, valid, bind_eq, perform_bind, endOrInsert]
  simp only [exec, reading, found, Bool.false_eq_true, if_false, alone_call, writing, known,
    Bool.not_true, Bool.or_false]
  generalize current : getCurrentExecution h.id _ = running
  cases running with
  | none => simp [exec_insertExecution, known, alone_conclude]
  | some => simp [exec, writing, alone_conclude]

theorem alone_missDeadline : (alone (missDeadline now h) store).2 = store.deadlineMissed now h := by
  simp only [missDeadline, bind_eq, perform_bind, alone_call, exec, writing, deadlineMissed]
  by_cases started : h.status = .started
  · simp [started, alone_bind, alone_endExecution, exec]
  · simp [started, exec]

theorem perform_deadlinePass : (Op.deadlinePass now).perform store =
      (store.listOverdueHeartbeats now).foldl (deadlineMissed now) store := by
  change (alone _ store).2 = _
  simp only [Op.code, checkDeadlines, bind_eq, perform_bind, alone_call, exec, reading]
  simp only [Bool.false_eq_true, if_false]
  rw [run_forEach]
  congr 1
  funext store h
  exact alone_missDeadline

theorem perform_pause (found : store.getHeartbeatByID id = some h) :
    (Op.pause id now).perform store =
      if h.status = .paused then store else store.pauseHeartbeat id now := by
  have known : store.known id := by
    rw [known, found]
    rfl
  change (alone _ store).2 = _
  simp only [Op.code, pauseHeartbeat, bind_eq, perform_bind, alone_call, exec, reading, found]
  by_cases paused : h.status = .paused
  · simp [paused]
  · simp [paused, exec, writing, known]

theorem perform_resume (found : store.getHeartbeatByID id = some h) :
    (Op.resume id now).perform store =
      if h.status = .paused then store.resumeHeartbeat id now (h.deadline now) else store := by
  change (alone _ store).2 = _
  simp only [Op.code, resumeHeartbeat, bind_eq, perform_bind, alone_call, exec, reading, found]
  by_cases paused : h.status = .paused
  · simp [paused, exec, writing]
  · simp [paused]

theorem perform_edit {input : UpdateHeartbeatInput} (found : store.getHeartbeatByID id = some h) :
    (Op.edit id input).perform store =
      if validUpdate h input then store.updateHeartbeat id input else store := by
  change (alone _ store).2 = _
  simp only [Op.code, updateHeartbeat, bind_eq, perform_bind, alone_call, exec, reading, found]
  by_cases valid : validUpdate h input
  · simp [valid, exec, writing]
  · simp [valid]

theorem perform_create (name : String) (interval grace : Int) :
    (Op.create token name interval grace).perform store =
      if validName name && validInterval interval && validGrace interval grace &&
          (store.getHeartbeatByPingToken token).isNone then
        store.createHeartbeat token name interval grace else store := by
  change (alone _ store).2 = _
  simp only [Op.code, createHeartbeat]
  by_cases valid : validName name && validInterval interval && validGrace interval grace
  · cases taken : store.getHeartbeatByPingToken token with
    | none | some => simp [valid, exec, writing, taken]
  · simp [valid]

theorem perform_delete (found : store.getHeartbeatByID id = some h) :
    (Op.delete id).perform store = store.deleteHeartbeat id := by
  change (alone _ store).2 = _
  simp only [Op.code, deleteHeartbeat, bind_eq, perform_bind, alone_call, exec, reading, found]
  simp [exec, writing]

/-! ### Rows -/

/-- The heartbeat that an operation on one heartbeat looks up. -/
def Op.finds (store : HeartbeatStore) : Op → Option Heartbeat
  | .ping _ token _ _ | .startPing token _ | .exitCodePing _ token _ _ _ =>
    store.getHeartbeatByPingToken token
  | .pause id _ | .resume id _ | .edit id _ | .delete id => store.getHeartbeatByID id
  | .deadlinePass _ | .create .. => none

variable {op : Op}

theorem mem_of_finds (found : op.finds store = some h) : h ∈ store.heartbeats := by
  cases op with
  | deadlinePass | create => cases found
  | ping | startPing | exitCodePing => exact mem_of_token found
  | _ => exact (lookup_eq_some.mp found).1

/-- The operation is on one heartbeat, which it looks up. -/
def Op.targeted : Op → Bool
  | .deadlinePass _ | .create .. => false
  | _ => true

/-- The operation is about the heartbeat. -/
def Op.addresses (store : HeartbeatStore) (id : HeartbeatId) : Op → Bool
  | .deadlinePass _ => true
  | op => (op.finds store).any fun h => h.id = id

/-- What the operation makes of the state columns of a heartbeat that it addresses. -/
def Op.effect (h : Heartbeat) : Op → HeartbeatState
  | .ping _ _ _ now => h.pinged now
  | .startPing _ now => h.startPinged now
  | .exitCodePing _ _ exitCode _ now =>
    if validExitCode exitCode then h.exitPinged now exitCode else h.toHeartbeatState
  | .deadlinePass now => if h.overdue now then h.missed else h.toHeartbeatState
  | .pause _ _ =>
    if h.status = .paused then h.toHeartbeatState
    else
      { h.toHeartbeatState with status := .paused, alertState := .normal, nextDeadlineAt := none }
  | .resume _ now =>
    if h.status = .paused then
      { h.toHeartbeatState with status := .up, nextDeadlineAt := some (unix (h.deadline now)) }
    else h.toHeartbeatState
  | _ => h.toHeartbeatState

/-- The operation reads and writes the state columns only. -/
def Op.monitors : Op → Bool
  | .edit .. | .create .. | .delete .. => false
  | _ => true

/-- The row after the operation. -/
def Op.row (store : HeartbeatStore) (op : Op) (h : Heartbeat) : Heartbeat :=
  if op.addresses store h.id then h.set (op.effect h) else h

@[simp] theorem Op.row_id : (op.row store h).id = h.id := by
  rw [Op.row]
  split
  · rfl
  · rfl

theorem concluded_frame : ∃ notices,
      store.concluded h now state notice = { store.updateHeartbeatState h.id state with
        pauses := (if h.status = .paused then store.endPause h.id now else store).pauses
        notices } := by
  cases notice with
  | none | some =>
    simp only [concluded]
    split
    · exact ⟨_, rfl⟩
    · exact ⟨_, rfl⟩

@[simp] theorem heartbeats_concluded : (store.concluded h now state notice).heartbeats =
      (store.updateHeartbeatState h.id state).heartbeats := by
  obtain ⟨_, same⟩ := concluded_frame
  rw [same]

@[simp] theorem heartbeats_pingRecorded :
    (store.pingRecorded h now payload).heartbeats = store.heartbeats := by
  rw [pingRecorded]
  split
  · exact heartbeats_endCurrent
  · rfl

@[simp] theorem heartbeats_endOrInsert :
    (store.endOrInsert id now durationMs exitCode outcome payload).heartbeats =
      store.heartbeats := by
  rw [endOrInsert]
  cases store.getCurrentExecution id with
  | none | some => rfl

@[simp] theorem heartbeats_deadlineMissed : (store.deadlineMissed now h).heartbeats =
      (store.updateHeartbeatState h.id h.missed).heartbeats := by
  rw [deadlineMissed]
  split
  · exact heartbeats_endCurrent
  · rfl

theorem items_updateHeartbeatState : (store.updateHeartbeatState id state).heartbeats.items =
      store.heartbeats.items.map fun h => if h.id = id then h.set state else h := rfl

theorem map_row (mem : h ∈ store.heartbeats) {change : Heartbeat → Heartbeat}
    (addresses : ∀ id, op.addresses store id = decide (h.id = id))
    (effect : h.set (op.effect h) = change h) :
    (store.heartbeats.items.map fun row => if row.id = h.id then change row else row) =
      store.heartbeats.items.map (op.row store) := by
  refine List.map_congr_left ?_
  intro row row_mem
  by_cases same : row.id = h.id
  · obtain rfl := eq_of_key row_mem mem same
    simp [Op.row, addresses, effect]
  · have ne : h.id ≠ row.id := fun this => same this.symm
    simp [Op.row, addresses, same, ne]

theorem map_row_self
    (idle : ∀ h ∈ store.heartbeats, op.addresses store h.id → op.effect h = h.toHeartbeatState) :
    store.heartbeats.items.map (op.row store) = store.heartbeats.items := by
  rw [List.map_congr_left (g := id), List.map_id]
  intro h mem
  rw [Op.row]
  split
  next addressed =>
    rw [idle h mem addressed]
    rfl
  · rfl

theorem items_deadlinesMissed {rows : List Heartbeat}
    (distinct : rows.Pairwise fun left right => left.id ≠ right.id) :
    (rows.foldl (deadlineMissed now) store).heartbeats.items = store.heartbeats.items.map fun h =>
        ((rows.find? fun row => row.id = h.id).map fun row => h.set row.missed).getD h := by
  induction rows generalizing store with
  | nil => simp
  | cons row rows ih =>
    obtain ⟨apart, distinct⟩ := List.pairwise_cons.mp distinct
    rw [List.foldl_cons, ih distinct, heartbeats_deadlineMissed, items_updateHeartbeatState,
      List.map_map]
    refine List.map_congr_left ?_
    intro h _
    by_cases here : row.id = h.id
    · have others : (rows.find? fun other => other.id = h.id) = none := by
        rw [List.find?_eq_none]
        intro other mem
        rw [← here]
        simpa using (apart other mem).symm
      simp [here, Heartbeat.set, others]
    · have ne : h.id ≠ row.id := fun same => here same.symm
      simp [here, ne]

theorem find_overdue (mem : h ∈ store.heartbeats) :
    ((store.listOverdueHeartbeats now).find? fun row => row.id = h.id) =
      if h.overdue now then some h else none := by
  by_cases overdue : h.overdue now
  · rw [if_pos overdue]
    have found : (store.heartbeats.filter (Heartbeat.overdue now)).lookup h.id = some h :=
      lookup_eq_some.mpr ⟨mem_filter.mpr ⟨mem, overdue⟩, rfl⟩
    exact found
  rw [if_neg overdue, List.find?_eq_none]
  intro row row_mem
  obtain ⟨row_mem, row_overdue⟩ := List.mem_filter.mp row_mem
  simp only [decide_eq_true_eq]
  intro same
  obtain rfl := eq_of_key row_mem mem same
  exact overdue row_overdue

theorem perform_of_not_found (targeted : op.targeted) (missing : op.finds store = none) :
    op.perform store = store := by
  change (alone _ store).2 = _
  cases op with
  | ping | startPing | pause | resume | edit | delete =>
    simp only [Op.finds] at missing
    simp [Op.code, processPing, processStartPing, pauseHeartbeat, resumeHeartbeat, updateHeartbeat,
      deleteHeartbeat, exec, reading, missing]
  | exitCodePing _ _ exitCode =>
    simp only [Op.finds] at missing
    by_cases valid : validExitCode exitCode
    · simp [Op.code, processExitCodePing, valid, exec, reading, missing]
    · simp [Op.code, processExitCodePing, valid]
  | deadlinePass | create => cases targeted

theorem perform_invalid {exitCode : Int} (invalid : validExitCode exitCode = false) :
    (Op.exitCodePing canStorePayload token exitCode payload now).perform store = store := by
  change (alone _ store).2 = _
  simp [Op.code, processExitCodePing, invalid]

theorem addresses_of_finds (targeted : op.targeted) (found : op.finds store = some h)
    (id : HeartbeatId) : op.addresses store id = decide (h.id = id) := by
  cases op with
  | deadlinePass | create => cases targeted
  | _ => simp [Op.addresses, found]

theorem items_deadlinePass : ((Op.deadlinePass now).perform store).heartbeats.items =
      store.heartbeats.items.map ((Op.deadlinePass now).row store) := by
  have distinct : (store.listOverdueHeartbeats now).Pairwise fun left right =>
      left.id ≠ right.id :=
    store.heartbeats.distinct.filter _
  rw [perform_deadlinePass, items_deadlinesMissed distinct]
  refine List.map_congr_left ?_
  intro h mem
  rw [find_overdue mem]
  by_cases overdue : h.overdue now
  · simp [Op.row, Op.addresses, Op.effect, overdue]
  · simp [Op.row, Op.addresses, Op.effect, overdue]
    rfl

theorem items_perform (monitors : op.monitors) :
    (op.perform store).heartbeats.items = store.heartbeats.items.map (op.row store) := by
  by_cases targeted : op.targeted
  swap
  · cases op with
    | deadlinePass => exact items_deadlinePass
    | create => cases monitors
    | _ => exact absurd rfl targeted
  cases found : op.finds store with
  | none =>
    rw [perform_of_not_found targeted found, map_row_self]
    cases op with
    | deadlinePass => cases targeted
    | _ => simp [Op.addresses, found]
  | some h =>
    have addresses := addresses_of_finds targeted found
    cases op with
    | ping =>
      rw [perform_ping found, heartbeats_concluded, items_updateHeartbeatState,
        heartbeats_pingRecorded]
      exact map_row (mem_of_token found) addresses rfl
    | startPing =>
      rw [perform_startPing found, heartbeats_concluded]
      simp only [insertExecution, heartbeats_endCurrent]
      exact map_row (mem_of_token found) addresses rfl
    | exitCodePing _ _ exitCode =>
      by_cases valid : validExitCode exitCode
      · rw [perform_exitCodePing valid found, heartbeats_concluded,
          items_updateHeartbeatState, heartbeats_endOrInsert]
        exact map_row (mem_of_token found) addresses (by simp [Op.effect, valid])
      · rw [perform_invalid (by simpa using valid), map_row_self]
        simp [Op.effect, valid]
    | deadlinePass => cases targeted
    | pause =>
      obtain ⟨mem, rfl⟩ := lookup_eq_some.mp found
      rw [perform_pause found]
      by_cases paused : h.status = .paused
      · rw [if_pos paused, map_row_self]
        intro row row_mem addressed
        have same : h.id = row.id := by simpa [addresses] using addressed
        obtain rfl := eq_of_key mem row_mem same
        simp [Op.effect, paused]
      · rw [if_neg paused]
        exact map_row mem addresses (by simp [Op.effect, paused, Heartbeat.set])
    | resume =>
      obtain ⟨mem, rfl⟩ := lookup_eq_some.mp found
      rw [perform_resume found]
      by_cases paused : h.status = .paused
      · rw [if_pos paused]
        refine map_row mem addresses ?_
        simp [Op.effect, paused, Heartbeat.set]
      rw [if_neg paused, map_row_self]
      intro row row_mem addressed
      have same : h.id = row.id := by simpa [addresses] using addressed
      obtain rfl := eq_of_key mem row_mem same
      simp [Op.effect, paused]
    | edit | create | delete => cases monitors

theorem getHeartbeatByID_perform (monitors : op.monitors) :
    (op.perform store).getHeartbeatByID id = (store.getHeartbeatByID id).map (op.row store) := by
  have same_test : (fun row => decide (Heartbeat.id row = id)) ∘ op.row store =
      fun row => decide (Heartbeat.id row = id) := by
    funext row
    simp
  rw [getHeartbeatByID, lookup, items_perform monitors, List.find?_map, same_test]
  rfl

end Maintenant.Heartbeats
