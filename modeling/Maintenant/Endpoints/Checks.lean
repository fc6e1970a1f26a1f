import Maintenant.Endpoints.AlertState
import Maintenant.Program

/-!
# Processing a check result, one statement at a time

`ProcessCheckResult` reads the endpoint, writes the counters it computes from what it read, stores
the result, reads the endpoint again and has the thresholds evaluated on it.  No statement fails.
-/

namespace Maintenant.Endpoints

open Alerting Option EndpointStore
open Program (perform)
open Program

/-- Statements of `ProcessCheckResult`, and what it emits. -/
inductive CheckCall : Type → Type
  | getEndpointByID (id : EndpointId) : CheckCall (Option Endpoint)
  | updateCheckResult (id : EndpointId) (update : CheckUpdate) (now : Int) : CheckCall Unit
  | insertCheckResult (id : EndpointId) (result : CheckResult) : CheckCall Unit
  /-- An event for the alert engine. -/
  | emitAlert (evt : Event) : CheckCall Unit
  /-- `endpoint.status_changed` is announced. -/
  | emitStatusChanged (previous new : EndpointStatus) : CheckCall Unit
  /-- `endpoint.alert` or `endpoint.recovery` is announced. -/
  | emitThreshold (al : EndpointAlert) : CheckCall Unit
  | return_ : CheckCall Unit

/-- The tables, the events sent to the engine and the alerts that were announced. -/
structure CheckBook where
  store : EndpointStore
  alerts : List Event
  announced : List EndpointAlert

/-- Answer a call; none of them fails. -/
def CheckCall.exec : {β : Type} → CheckCall β → CheckBook → β × CheckBook
  | _, .getEndpointByID id, book => (book.store.getEndpointByID id, book)
  | _, .updateCheckResult id update now, book =>
    ((), { book with store := book.store.updateCheckResult id update now })
  | _, .insertCheckResult id result, book =>
    ((), { book with store := book.store.record id result })
  | _, .emitAlert evt, book => ((), { book with alerts := book.alerts ++ [evt] })
  | _, .emitStatusChanged _ _, book => ((), book)
  | _, .emitThreshold al, book => ((), { book with announced := book.announced ++ [al] })
  | _, .return_, book => ((), book)

section Text

variable (deps : ServiceDeps) (id : EndpointId) (result : CheckResult)
  (now : Int)

/-- The events for the alert engine that the alert callback emits before it looks at the
thresholds. -/
def emitTrust (updated : Endpoint) : Program CheckCall Unit :=
  match endpointTrustEvent deps updated result with
  | some evt => perform (.emitAlert evt)
  | none => .done ()

/-- The columns written when a threshold was crossed. -/
def crossUpdate (result : CheckResult) (updated : Endpoint) (al : EndpointAlert) : CheckUpdate where
  status := statusForResult result
  alertState := al.alertState
  consecutiveFailures := updated.consecutiveFailures
  consecutiveSuccesses := updated.consecutiveSuccesses
  responseTimeMs := result.responseTimeMs
  httpStatus := result.httpStatus
  lastError := result.errorMessage

/-- What `ProcessCheckResult` does once a threshold is reached. -/
def crossThreshold (updated : Endpoint) (al : EndpointAlert) : Program CheckCall Unit := do
  perform (.emitAlert (endpointThresholdAlert deps updated al now))
  perform (.updateCheckResult id (crossUpdate result updated al) now)
  perform (.emitThreshold al)

/-- The alert callback on the endpoint as it is now. -/
def evaluateThresholds : Program CheckCall Unit := do
  match ← perform (.getEndpointByID id) with
  | none => .done ()
  | some updated => do
      emitTrust deps result updated
      match evaluateCheckResult updated result with
      | none => .done ()
      | some al => crossThreshold deps id result now updated al

/-- `ProcessCheckResult`, as the calls it makes. -/
def processCheckResult : Program CheckCall Unit := do
  match ← perform (.getEndpointByID id) with
  | none => .done ()
  | some ep =>
    if result.replayed then perform (.insertCheckResult id result)
    else do
      perform (.updateCheckResult id (liveUpdate ep result) now)
      perform (.insertCheckResult id result)
      if statusForResult result ≠ ep.status then
        perform (.emitStatusChanged ep.status (statusForResult result))
      evaluateThresholds deps id result now

end Text

/-- A result to process and the time at which it is processed. -/
structure Check where
  result : CheckResult
  now : Int

/-- A call of `ProcessCheckResult`. -/
def Check.code (deps : ServiceDeps) (id : EndpointId) (check : Check) :
    Program CheckCall Unit := do
  processCheckResult deps id check.result check.now
  perform .return_

/-- Process the result with nothing else running. -/
def Check.perform (deps : ServiceDeps) (id : EndpointId) (check : Check)
    (book : CheckBook) : CheckBook :=
  ((check.code deps id).run (fun _ => CheckCall.exec) (fun _ => ()) book).2

/-- Process results one after the other. -/
def replay (deps : ServiceDeps) (id : EndpointId) (initial : CheckBook)
    (checks : List Check) : CheckBook :=
  checks.foldl (fun book check => check.perform deps id book) initial

/-! ### What a call makes of the columns -/

/-- An endpoint, but for what only describes its last check. -/
def Endpoint.gist (e : Endpoint) : Endpoint :=
  { e with
    lastCheckAt := none
    lastResponseTimeMs := none
    lastHTTPStatus := none
    lastError := "" }

/-- What a check can tell from the book, and what it adds to it. -/
structure Standing where
  row : Option Endpoint
  alerts : List Event
  announced : List EndpointAlert

/-- How the endpoint stands in the book. -/
def CheckBook.standing (id : EndpointId) (book : CheckBook) : Standing where
  row := (book.store.getEndpointByID id).map Endpoint.gist
  alerts := book.alerts
  announced := book.announced

namespace Standing

variable (deps : ServiceDeps) (check : Check)

/-- The counters and the status are written. -/
def counted (s : Standing) : Standing :=
  { s with row := s.row.map fun e => ((liveUpdate e check.result).apply check.now e).gist }

/-- The engine is told whether the certificate is trusted. -/
def trusted (s : Standing) : Standing :=
  { s with
    alerts := s.alerts ++ (s.row.bind fun e => endpointTrustEvent deps e check.result).toList }

/-- The threshold that is reached, if any. -/
def crossing (s : Standing) : Option (Endpoint × EndpointAlert) :=
  s.row.bind fun e => (evaluateCheckResult e check.result).map fun al => (e, al)

/-- The alert of a threshold that is reached. -/
def evaluated (s : Standing) : Standing :=
  match s.crossing check with
  | none => s
  | some (e, al) =>
    { row := some { e with alertState := al.alertState }
      alerts := s.alerts ++ [endpointThresholdAlert deps e al check.now]
      announced := s.announced ++ [al] }

/-- One result, on what the endpoint stands at. -/
def after (s : Standing) : Standing :=
  if check.result.replayed then s else ((s.counted check).trusted deps check).evaluated deps check

end Standing

section Alone

variable {deps : ServiceDeps} {id : EndpointId} {check : Check}
  {book : CheckBook} {e : Endpoint} {s : Standing} {result : CheckResult} {update : CheckUpdate}
  {now : Int}

theorem gist_apply : (update.apply now e.gist).gist = (update.apply now e).gist := rfl

theorem liveUpdate_gist : liveUpdate e.gist result = liveUpdate e result := rfl

theorem endpointTrustEvent_gist :
    endpointTrustEvent deps e.gist result = endpointTrustEvent deps e result := rfl

theorem evaluateCheckResult_gist :
    evaluateCheckResult e.gist result = evaluateCheckResult e result := rfl

theorem standing_updateCheckResult :
    ({ book with store := book.store.updateCheckResult id update now } : CheckBook).standing id =
      { book.standing id with
        row := (book.store.getEndpointByID id).map fun e => (update.apply now e).gist } := by
  rw [CheckBook.standing, getEndpointByID_updateCheckResult, if_pos rfl, map_map]
  rfl

theorem standing_record :
    ({ book with store := book.store.record id result } : CheckBook).standing id =
      book.standing id := by
  rw [CheckBook.standing, getEndpointByID, EndpointMonitor.endpoints_record]
  rfl

theorem counted_of_absent (absent : s.row = none) : s.counted check = s := by
  have gone :
      (s.row.map fun e => ((liveUpdate e check.result).apply check.now e).gist) = s.row := by
    rw [absent]
    rfl
  rw [Standing.counted, gone]

theorem trusted_eq (here : s.row = some e) : s.trusted deps check =
      { s with alerts := s.alerts ++ (endpointTrustEvent deps e check.result).toList } := by
  have raised : (s.row.bind fun e => endpointTrustEvent deps e check.result) =
      endpointTrustEvent deps e check.result := by
    rw [here]
    rfl
  rw [Standing.trusted, raised]

theorem trusted_of_absent (absent : s.row = none) : s.trusted deps check = s := by
  have silent : (s.row.bind fun e => endpointTrustEvent deps e check.result) = none := by
    rw [absent]
    rfl
  rw [Standing.trusted, silent, toList_none, List.append_nil]

theorem crossing_eq (here : s.row = some e) :
    s.crossing check = (evaluateCheckResult e check.result).map fun al => (e, al) := by
  rw [Standing.crossing, here]
  rfl

theorem after_of_absent (absent : s.row = none) : s.after deps check = s := by
  have crossing : s.crossing check = none := by
    rw [Standing.crossing, absent]
    rfl
  rw [Standing.after, counted_of_absent absent, trusted_of_absent absent, Standing.evaluated,
    crossing]
  split
  · rfl
  · rfl

theorem isSome_row_after : (s.after deps check).row.isSome = s.row.isSome := by
  rw [Standing.after]
  split
  · rfl
  rw [Standing.evaluated]
  split
  · simp [Standing.trusted, Standing.counted]
  rename_i crossed
  obtain ⟨e, here, -⟩ := bind_eq_some_iff.mp crossed
  have there : (s.row.map fun e =>
      ((liveUpdate e check.result).apply check.now e).gist).isSome := by
    change ((s.counted check).trusted deps check).row.isSome
    rw [here]
    rfl
  rw [isSome_map] at there
  rw [there]
  rfl

/-- What a program that runs alone makes of the book. -/
def alone (program : Program CheckCall Unit) (book : CheckBook) : CheckBook :=
  (program.run (fun _ => CheckCall.exec) (fun _ => ()) book).2

theorem alone_bind (program rest : Program CheckCall Unit) :
    alone (program.bind fun _ => rest) book = alone rest (alone program book) := by
  rw [alone, run_bind]
  rfl

theorem perform_eq_alone : check.perform deps id book = alone
      (processCheckResult deps id check.result check.now) book := by
  rw [Check.perform, Check.code, bind_eq, run_bind]
  rfl

theorem alone_emitTrust : alone (emitTrust deps result e) book =
      { book with alerts := book.alerts ++ (endpointTrustEvent deps e result).toList } := by
  rw [emitTrust]
  cases endpointTrustEvent deps e result with
  | none =>
    rw [toList_none, List.append_nil]
    rfl
  | some => rfl

section

variable (found : book.store.getEndpointByID id = some e)
include found

theorem alone_evaluateThresholds : alone (evaluateThresholds deps id check.result check.now) book =
      (evaluateCheckResult e check.result).elim
        { book with alerts := book.alerts ++ (endpointTrustEvent deps e check.result).toList }
        fun al => alone (crossThreshold deps id check.result check.now e al) { book with
            alerts := book.alerts ++ (endpointTrustEvent deps e check.result).toList } := by
  have reloaded : alone (evaluateThresholds deps id check.result check.now) book =
      alone ((emitTrust deps check.result e).bind fun _ =>
        match evaluateCheckResult e check.result with
        | none => .done ()
        | some al => crossThreshold deps id check.result check.now e al) book := by
    have read : CheckCall.exec (.getEndpointByID id) book = (some e, book) := by
      rw [CheckCall.exec, found]
    simp only [evaluateThresholds, bind_eq, perform_bind]
    rw [alone, run_call, read]
    rfl
  rw [reloaded, alone_bind, alone_emitTrust]
  cases evaluateCheckResult e check.result with
  | none | some => rfl

theorem perform_live (live : check.result.replayed = false) : check.perform deps id book =
      alone (evaluateThresholds deps id check.result check.now) { book with
          store := (book.store.updateCheckResult id (liveUpdate e check.result) check.now).record id
            check.result } := by
  have read : CheckCall.exec (.getEndpointByID id) book = (some e, book) := by
    rw [CheckCall.exec, found]
  rw [perform_eq_alone]
  simp only [processCheckResult, bind_eq, perform_bind]
  rw [alone, run_call, read]
  simp only [live, Bool.false_eq_true, if_false]
  split
  · rfl
  · rfl

theorem perform_replayed (replayed : check.result.replayed = true) :
    check.perform deps id book = { book with store := book.store.record id check.result } := by
  have read : CheckCall.exec (.getEndpointByID id) book = (some e, book) := by
    rw [CheckCall.exec, found]
  rw [perform_eq_alone]
  simp only [processCheckResult, bind_eq, perform_bind]
  rw [alone, run_call, read]
  simp only [replayed]
  rfl

end

theorem perform_absent (absent : book.store.getEndpointByID id = none) :
    check.perform deps id book = book := by
  have read : CheckCall.exec (.getEndpointByID id) book = (none, book) := by
    rw [CheckCall.exec, absent]
  rw [perform_eq_alone]
  simp only [processCheckResult, bind_eq, perform_bind]
  rw [alone, run_call, read]
  rfl

theorem getEndpointByID_written (found : book.store.getEndpointByID id = some e) :
    ((book.store.updateCheckResult id update now).record id result).getEndpointByID id =
      some (update.apply now e) := by
  rw [getEndpointByID, EndpointMonitor.endpoints_record]
  change (book.store.updateCheckResult id update now).getEndpointByID id = _
  rw [getEndpointByID_updateCheckResult, if_pos rfl, found]
  rfl

theorem perform_processCheckResult (deps : ServiceDeps) (env : Environment)
    (clock : env.now = check.now) (engine : Engine) : (check.perform deps id book).store =
        (EndpointMonitor.processCheckResult deps env id check.result ⟨book.store, engine⟩).store ∧
      ∃ events, (check.perform deps id book).alerts = book.alerts ++ events ∧
        (EndpointMonitor.processCheckResult deps env id check.result
          ⟨book.store, engine⟩).engine = events.foldl (EndpointMonitor.emit deps env) engine := by
  rw [EndpointMonitor.processCheckResult]
  cases found : book.store.getEndpointByID id with
  | none =>
    rw [perform_absent found]
    exact ⟨rfl, [], (List.append_nil _).symm, rfl⟩
  | some e =>
    cases replayed : check.result.replayed with
    | true =>
      rw [perform_replayed found replayed]
      exact ⟨rfl, [], (List.append_nil _).symm, rfl⟩
    | false =>
      rw [perform_live found replayed,
        alone_evaluateThresholds (getEndpointByID_written found), clock]
      simp only
      cases endpointTrustEvent deps ((liveUpdate e check.result).apply check.now e)
          check.result with
      | none | some =>
        cases evaluateCheckResult ((liveUpdate e check.result).apply check.now e) check.result with
        | none => exact ⟨rfl, _, rfl, rfl⟩
        | some al => exact ⟨rfl, _, List.append_assoc _ _ _, rfl⟩

theorem standing_crossThreshold (updated : Endpoint) (al : EndpointAlert) :
    (alone (crossThreshold deps id check.result check.now updated al) book).standing id =
      { row := (book.store.getEndpointByID id).map fun e =>
          ((crossUpdate check.result updated al).apply check.now e).gist
        alerts := book.alerts ++ [endpointThresholdAlert deps updated al check.now]
        announced := book.announced ++ [al] } := by
  have columns : (book.store.updateCheckResult id (crossUpdate check.result updated al)
      check.now).getEndpointByID id = (book.store.getEndpointByID id).map
          ((crossUpdate check.result updated al).apply check.now) := by
    rw [getEndpointByID_updateCheckResult, if_pos rfl]
  have whole : (alone (crossThreshold deps id check.result check.now updated al) book).standing id =
      ⟨((book.store.updateCheckResult id (crossUpdate check.result updated al)
          check.now).getEndpointByID id).map Endpoint.gist,
        book.alerts ++ [endpointThresholdAlert deps updated al check.now],
        book.announced ++ [al]⟩ := rfl
  rw [whole, columns, map_map]
  rfl

theorem standing_perform :
    (check.perform deps id book).standing id = (book.standing id).after deps check := by
  cases found : book.store.getEndpointByID id with
  | none =>
    have absent : (book.standing id).row = none := congrArg (Option.map Endpoint.gist) found
    rw [perform_absent found, after_of_absent absent]
  | some e =>
    have here : (book.standing id).row = some e.gist := congrArg (Option.map Endpoint.gist) found
    cases replayed : check.result.replayed with
    | true =>
      rw [perform_replayed found replayed, standing_record, Standing.after, if_pos replayed]
    | false =>
      have live : ¬check.result.replayed = true := by
        rw [replayed]
        nofun
      rw [perform_live found replayed, alone_evaluateThresholds (getEndpointByID_written found),
        Standing.after, if_neg live]
      simp only [Standing.counted, Standing.trusted, Standing.evaluated, Standing.crossing, here,
        map_some, bind_some]
      have judged : evaluateCheckResult ((liveUpdate e.gist check.result).apply check.now
          e.gist).gist check.result =
            evaluateCheckResult ((liveUpdate e check.result).apply check.now e) check.result := rfl
      rw [judged]
      cases evaluateCheckResult ((liveUpdate e check.result).apply check.now e) check.result with
      | none =>
        rw [elim_none, CheckBook.standing, getEndpointByID_written found]
        rfl
      | some =>
        rw [elim_some, standing_crossThreshold, getEndpointByID_written found]
        rfl

end Alone

end Maintenant.Endpoints
