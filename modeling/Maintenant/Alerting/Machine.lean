import Maintenant.Alerting.Engine

/-!
# The alert engine among concurrent callers

The engine loop runs beside `ResolveByEntity` and `Acknowledge` calls.  One action is one lock
section or one store call, with the in-place writes next to it in the same thread; no store call
fails here.  Threads and the map share alerts by pointer: an alert is known by its key and id,
and a write through one pointer reaches every holder.
-/

namespace Maintenant.Alerting

open List Execution

/-- Writes to an alert in place. -/
inductive FieldWrite
  | refresh (evt : Event)
  | reload (row : Option Alert)
  | resolved (at_ : Int)
  | recovered (at_ : Int) (recoveryId : AlertId)

def FieldWrite.apply : FieldWrite → Alert → Alert
  | .refresh evt => Alert.refresh evt
  | .reload row => Alert.reload row
  | .resolved at_ => Alert.markResolved at_
  | .recovered at_ recoveryId => Alert.markRecovered at_ recoveryId

/-- The write as one holder sees it, when `target` is the alert written to. -/
def FieldWrite.seen (write : FieldWrite) (target holder : Alert) : Alert :=
  if holder.key = target.key ∧ holder.id = target.id then write.apply holder else holder

variable {alert : Alert}

@[simp] theorem FieldWrite.key_apply (write : FieldWrite) :
    (write.apply alert).key = alert.key := by
  cases write with
  | reload => exact Alert.key_reload
  | _ => rfl

@[simp] theorem FieldWrite.id_apply (write : FieldWrite) : (write.apply alert).id = alert.id := by
  cases write with
  | reload => exact Alert.id_reload
  | _ => rfl

@[simp] theorem FieldWrite.key_seen (write : FieldWrite) (target holder : Alert) :
    (write.seen target holder).key = holder.key := by
  unfold seen
  split
  · exact write.key_apply
  · rfl

@[simp] theorem FieldWrite.id_seen (write : FieldWrite) (target holder : Alert) :
    (write.seen target holder).id = holder.id := by
  unfold seen
  split
  · exact write.id_apply
  · rfl

/-- The point the engine loop has reached; the section or store call it names comes next. -/
inductive LoopPc
  | idle
  /-- `InsertAlert` of a first event. -/
  | insert (env : Environment) (evt : Event)
  /-- The section that tracks the new alert. -/
  | track (env : Environment) (alert : Alert)
  | update (env : Environment) (existing : Alert) (evt : Event)
  | readBack (env : Environment) (existing : Alert) (oldSeverity : String)
  /-- The section that writes the entry back. -/
  | writeBack (env : Environment) (existing : Alert) (oldSeverity : String)
  /-- `InsertAlert` of a recovery record. -/
  | insertRecovery (env : Environment) (original : Alert) (evt : Event)
  /-- `UpdateAlertStatus` of the original alert. -/
  | resolveOriginal (env : Environment) (original : Alert) (evt : Event) (recoveryId : AlertId)

def LoopPc.isIdle : LoopPc → Bool
  | .idle => true
  | _ => false

/-- What a write in place does to the alert in hand. -/
def LoopPc.seen (write : FieldWrite) (target : Alert) : LoopPc → LoopPc
  | .idle => .idle
  | .insert env evt => .insert env evt
  | .track env alert => .track env (write.seen target alert)
  | .update env existing evt => .update env (write.seen target existing) evt
  | .readBack env existing oldSeverity => .readBack env (write.seen target existing) oldSeverity
  | .writeBack env existing oldSeverity => .writeBack env (write.seen target existing) oldSeverity
  | .insertRecovery env original evt => .insertRecovery env (write.seen target original) evt
  | .resolveOriginal env original evt recoveryId =>
    .resolveOriginal env (write.seen target original) evt recoveryId

/-- A `ResolveByEntity` call between its section and its last store call. -/
structure Removal where
  now : Int
  remaining : List Alert

/-- An `Acknowledge` call between its two store calls. -/
structure Acknowledging where
  row : Alert
  by_ : String
  at_ : Int

/-- The engine and its concurrent callers. -/
structure Machine where
  active : Keyed Alert.key
  store : AlertStore
  loop : LoopPc
  /-- `ResolveByEntity` calls in progress. -/
  removals : List Removal
  /-- `Acknowledge` calls in progress. -/
  acknowledging : List Acknowledging
  outputs : List Output
  /-- Ids that some state so far stored as resolved. -/
  everResolved : List AlertId

/-- One lock section or store call of a thread. -/
inductive Action
  /-- The loop takes an event and runs its first section. -/
  | receive (env : Environment) (evt : Event)
  /-- The loop's next section or store call. -/
  | advance
  /-- The section of a new `ResolveByEntity` call. -/
  | remove (now : Int) (entityType entityId : String)
  /-- A `ResolveByEntity` call resolves one of the alerts it took. -/
  | resolveOne (removal position : Nat)
  /-- A new `Acknowledge` call reads its row. -/
  | acknowledge (id : AlertId) (by_ : String) (now : Int)
  /-- An `Acknowledge` call writes. -/
  | writeAcknowledged (call : Nat)

variable {active : Keyed Alert.key}

namespace Machine

/-- An engine between events with no call in progress. -/
def atRest (engine : Engine) : Machine where
  active := engine.active
  store := engine.store
  loop := .idle
  removals := []
  acknowledging := []
  outputs := []
  everResolved := []

def quiescent (machine : Machine) : Bool :=
  machine.loop.isIdle && machine.removals.isEmpty && machine.acknowledging.isEmpty

/-- Write to every holder of the alert. -/
def touch (machine : Machine) (write : FieldWrite) (target : Alert) : Machine :=
  { machine with
    active := machine.active.map (write.seen target) (write.key_seen target)
    loop := machine.loop.seen write target
    removals := machine.removals.map fun removal =>
      { removal with remaining := removal.remaining.map (write.seen target) } }

def finish (machine : Machine) (outputs : List Output) : Machine :=
  { machine with loop := .idle, outputs := machine.outputs ++ outputs }

section Steps

variable (deps : EngineDeps)

/-- The first section of `processEvent` or `processRecovery`. -/
def receive (machine : Machine) (env : Environment) (evt : Event) : Machine :=
  match machine.active.lookup evt.key with
  | none =>
    if evt.isRecover then machine else { machine with loop := .insert env evt }
  | some existing =>
    if evt.isRecover then
      { machine with
        active := machine.active.erase evt.key
        loop := .insertRecovery env existing evt }
    else if existing.rank < evt.rank then { machine with loop := .update env existing evt }
    else machine

/-- `InsertAlert` of a first event; a silenced alert is not tracked. -/
def insertFirst (machine : Machine) (env : Environment) (evt : Event) : Machine :=
  let silenced := checkSilenceRules env evt
  let alert := machine.store.prepare env.now (newAlert evt silenced)
  let inserted :=
    { machine with store := machine.store.insertAlert env.now (newAlert evt silenced) }
  if silenced then inserted.finish (fireOutputs deps env alert true)
  else { inserted with loop := .track env alert }

/-- The raise's in-place write and `UpdateAlertOnEscalation`. -/
def updateRaised (machine : Machine) (env : Environment) (existing : Alert) (evt : Event) :
    Machine :=
  { machine.touch (.refresh evt) existing with
    store := machine.store.updateAlertOnEscalation existing.id evt.severity evt.message
      evt.entityName evt.detailsJSON
    loop := .readBack env (existing.refresh evt) existing.severity }

/-- `GetAlert` of the raise and the in-place write after it. -/
def readBack (machine : Machine) (env : Environment) (existing : Alert) (oldSeverity : String) :
    Machine :=
  let row := machine.store.getAlert existing.id
  { machine.touch (.reload row) existing with
    loop := .writeBack env (existing.reload row) oldSeverity }

/-- `UpdateAlertStatus` of the original alert and the in-place write after it. -/
def resolveOriginal (machine : Machine) (env : Environment) (original : Alert) (evt : Event)
    (recoveryId : AlertId) : Machine :=
  let resolved :=
    { machine.touch (.recovered evt.timestamp recoveryId) original with
      store := machine.store.updateAlertStatus original.id .resolved (some evt.timestamp)
        (some recoveryId) }
  resolved.finish (recoveryOutputs deps env evt original recoveryId)

def advance (machine : Machine) : Option Machine :=
  match machine.loop with
  | .idle => none
  | .insert env evt => some (machine.insertFirst deps env evt)
  | .track env alert =>
    some ({ machine with active := machine.active.insert alert }.finish
      (fireOutputs deps env alert false))
  | .update env existing evt => some (machine.updateRaised env existing evt)
  | .readBack env existing oldSeverity => some (machine.readBack env existing oldSeverity)
  | .writeBack env existing oldSeverity =>
    some ({ machine with active := machine.active.insert existing }.finish
      (escalationOutputs deps env oldSeverity existing))
  | .insertRecovery env original evt =>
    some { machine with
      store := machine.store.insertAlert env.now (recoveryAlert evt original)
      loop := .resolveOriginal env original evt machine.store.nextId }
  | .resolveOriginal env original evt recoveryId =>
    some (machine.resolveOriginal deps env original evt recoveryId)

/-- The section of `ResolveByEntity`. -/
def remove (machine : Machine) (now : Int) (entityType entityId : String) : Machine :=
  let taken := machine.active.items.filter (Alert.concerns entityType entityId)
  { machine with
    active := machine.active.filter fun alert => !alert.concerns entityType entityId
    removals :=
      if taken.isEmpty then machine.removals else machine.removals ++ [⟨now, taken⟩] }

/-- One round of the loop of `ResolveByEntity`. -/
def resolveOne (machine : Machine) (removal position : Nat) : Option Machine := do
  let call ← machine.removals[removal]?
  let alert ← call.remaining[position]?
  let remaining := call.remaining.eraseIdx position
  let removals :=
    if remaining.isEmpty then machine.removals.eraseIdx removal
    else machine.removals.set removal { call with remaining }
  let resolved :=
    { machine with
      store := machine.store.updateAlertStatus alert.id .resolved (some call.now) none
      removals
      outputs := machine.outputs ++ Output.ended alert.id call.now ::
        broadcastResolved deps (alert.markResolved call.now) }
  return resolved.touch (.resolved call.now) alert

/-- `GetAlert` of `Acknowledge`. -/
def acknowledge (machine : Machine) (id : AlertId) (by_ : String) (now : Int) : Machine :=
  match machine.store.getAlert id with
  | none => machine
  | some row =>
    if AlertStore.acknowledgeable row then
      { machine with
        acknowledging := machine.acknowledging ++ [⟨row, by_, wholeSecond now⟩] }
    else machine

/-- `AcknowledgeAlert` of `Acknowledge`; it reports success when the row still was
acknowledgeable. -/
def writeAcknowledged (machine : Machine) (index : Nat) : Option Machine := do
  let call ← machine.acknowledging[index]?
  let acknowledged := (machine.store.getAlert call.row.id).any AlertStore.acknowledgeable
  let alert :=
    { call.row with acknowledgedAt := some call.at_, acknowledgedBy := call.by_ }
  return { machine with
    store := machine.store.acknowledgeAlert call.row.id call.by_ call.at_
    acknowledging := machine.acknowledging.eraseIdx index
    outputs := machine.outputs ++
      if acknowledged then
        (if deps.broadcaster then [.acknowledged alert] else [])
          ++ [.stopped call.row.id call.by_ call.at_]
      else [] }

def step (machine : Machine) : Action → Option Machine
  | .receive env evt => if machine.loop.isIdle then some (machine.receive env evt) else none
  | .advance => machine.advance deps
  | .remove now entityType entityId => some (machine.remove now entityType entityId)
  | .resolveOne removal position => machine.resolveOne deps removal position
  | .acknowledge id by_ now => some (machine.acknowledge id by_ now)
  | .writeAcknowledged call => machine.writeAcknowledged deps call

/-! ### Threads on their own -/

theorem insert_touched {write : FieldWrite} {target : Alert} (here : alert.key = target.key) :
    (active.map (write.seen target) (write.key_seen target)).insert alert =
      active.insert alert := by
  refine Keyed.insert_map _ ?_
  intro item other
  rw [here] at other
  exact if_neg fun same => other same.1

variable {env : Environment} {evt : Event} {engine : Engine}

theorem solo_raise (reliable : env.Reliable) {existing : Alert}
    (found : engine.active.lookup evt.key = some existing) (raises : evt.isRecover = false)
    (higher : existing.rank < evt.rank) :
    run (step deps) (atRest engine) [.receive env evt, .advance, .advance, .advance] =
      some { atRest (escalateAlert deps env existing evt engine).1 with
        outputs := (escalateAlert deps env existing evt engine).2 } := by
  obtain ⟨-, updates, reads, -⟩ := reliable
  let store := engine.store.updateAlertOnEscalation existing.id evt.severity evt.message
    evt.entityName evt.detailsJSON
  have here : ((existing.refresh evt).reload (store.getAlert existing.id)).key = existing.key := by
    rw [Alert.key_reload, Alert.key_refresh]
  simp only [run, step, atRest, LoopPc.isIdle, if_true, receive, found, raises,
    Bool.false_eq_true, if_false, higher, advance, updateRaised, readBack, finish, touch,
    escalateAlert, updates, reads, map_nil, Option.some.injEq, mk.injEq, and_true, true_and]
  refine ⟨?_, rfl⟩
  calc
    _ = (engine.active.map (FieldWrite.seen (.refresh evt) existing)
          (FieldWrite.key_seen _ existing)).insert _ := insert_touched here
    _ = engine.active.insert _ := insert_touched here
    _ = _ := (Keyed.insert_update _ here).symm

theorem solo_recovery (reliable : env.Reliable) {original : Alert}
    (found : engine.active.lookup evt.key = some original) (recovers : evt.isRecover = true) :
    run (step deps) (atRest engine) [.receive env evt, .advance, .advance] =
      some { atRest (processRecovery deps env evt engine).1 with
        outputs := (processRecovery deps env evt engine).2 } := by
  obtain ⟨inserts, -, -, resolves⟩ := reliable
  obtain ⟨-, here⟩ := Keyed.lookup_eq_some.mp found
  simp only [run, step, atRest, LoopPc.isIdle, if_true, receive, found, recovers,
    advance, resolveOriginal, finish, touch, processRecovery, inserts, resolves, nil_append,
    map_nil, Option.some.injEq, mk.injEq, and_true]
  -- The alert that is marked as resolved has left the map.
  refine Keyed.map_eq_self _ ?_
  intro item mem
  rw [← here] at mem
  exact if_neg fun same => (Keyed.mem_erase.mp mem).2 same.1

/-- Left alone between two events, the loop does what `processEvent` does. -/
theorem solo_run (reliable : env.Reliable) : ∃ rounds, run (step deps) (atRest engine)
        (.receive env evt :: replicate rounds .advance) =
      some { atRest (processEvent deps env evt engine).1 with
        outputs := (processEvent deps env evt engine).2 } := by
  rw [processEvent]
  cases found : engine.active.lookup evt.key with
  | none =>
    cases recovers : evt.isRecover with
    | true =>
      refine ⟨0, ?_⟩
      simp [run, step, atRest, LoopPc.isIdle, receive, found, recovers, processRecovery]
    | false =>
      cases silenced : checkSilenceRules env evt with
      | true =>
        refine ⟨1, ?_⟩
        simp [run, step, atRest, LoopPc.isIdle, receive, found, recovers, advance,
          insertFirst, finish, fireAlert, silenced, reliable.1]
      | false =>
        refine ⟨2, ?_⟩
        simp [run, step, atRest, LoopPc.isIdle, receive, found, recovers, advance,
          insertFirst, finish, fireAlert, silenced, reliable.1]
  | some existing =>
    cases recovers : evt.isRecover with
    | true => exact ⟨2, solo_recovery deps reliable found recovers⟩
    | false =>
      by_cases higher : existing.rank < evt.rank
      · refine ⟨3, ?_⟩
        simp only [higher]
        exact solo_raise deps reliable found recovers higher
      · refine ⟨0, ?_⟩
        simp [run, step, atRest, LoopPc.isIdle, receive, found, recovers, higher]

/-- An engine at rest but for one removal that has these alerts left. -/
def removing (engine : Engine) (now : Int) (alerts : List Alert) (outputs : List Output) :
    Machine :=
  { atRest engine with
    removals := if alerts.isEmpty then [] else [⟨now, alerts⟩]
    outputs }

theorem removing_run (now : Int) {alerts : List Alert} (store : AlertStore) (outputs : List Output)
    (distinct : alerts.Pairwise fun left right => left.key ≠ right.key)
    (gone : ∀ alert ∈ alerts, ∀ entry ∈ active, entry.key ≠ alert.key) :
    run (step deps) (removing ⟨active, store⟩ now alerts outputs)
        (replicate alerts.length (.resolveOne 0 0)) =
      some (removing ⟨active, (resolveEach deps now (fun _ => true) alerts store).1⟩ now []
        (outputs ++ (resolveEach deps now (fun _ => true) alerts store).2)) := by
  induction alerts generalizing store outputs with
  | nil => simp [resolveEach]
  | cons alert alerts ih =>
    obtain ⟨others, distinct⟩ := pairwise_cons.mp distinct
    obtain ⟨alert_gone, gone⟩ := forall_mem_cons.mp gone
    -- The alert marked as resolved is neither in the map nor among those left.
    have same_active : active.map (FieldWrite.seen (.resolved now) alert)
        (FieldWrite.key_seen _ alert) = active :=
      Keyed.map_eq_self _ fun entry mem => if_neg fun same => alert_gone entry mem same.1
    have same_left : alerts.map (FieldWrite.seen (.resolved now) alert) = alerts := by
      refine (map_congr_left (g := id) fun other mem => ?_).trans (map_id alerts)
      exact if_neg fun same => others other mem same.1.symm
    have first : (removing ⟨active, store⟩ now (alert :: alerts) outputs).step deps
        (.resolveOne 0 0) =
        some (removing ⟨active, store.updateAlertStatus alert.id .resolved (some now) none⟩ now
          alerts (outputs ++ .ended alert.id now ::
            broadcastResolved deps (alert.markResolved now))) := by
      cases alerts with
      | nil => simp [step, resolveOne, removing, atRest, touch, LoopPc.seen, same_active]
      | cons =>
        simp [step, resolveOne, removing, atRest, touch, LoopPc.seen, same_active]
        simpa using same_left
    rw [length_cons, replicate_succ, run_cons, first]
    simp only [Option.bind_some]
    rw [ih _ _ distinct gone]
    simp [resolveEach]

/-- Left alone, the steps of `ResolveByEntity` do what the operation does. -/
theorem solo_removal (now : Int) (entityType entityId : String) :
    ∃ rounds, run (step deps) (atRest engine)
        (.remove now entityType entityId :: replicate rounds (.resolveOne 0 0)) =
      some { atRest (resolveByEntity deps now (fun _ => true) entityType entityId engine).1 with
        outputs := (resolveByEntity deps now (fun _ => true) entityType entityId engine).2 } := by
  let taken := engine.active.items.filter (Alert.concerns entityType entityId)
  refine ⟨taken.length, ?_⟩
  have gone : ∀ alert ∈ taken,
      ∀ entry ∈ engine.active.filter fun alert => !alert.concerns entityType entityId,
        entry.key ≠ alert.key := by
    intro alert mem entry kept same
    have concerned := (mem_filter.mp mem).2
    have unconcerned := (Keyed.mem_filter.mp kept).2
    rw [Alert.concerns_of_key same, concerned] at unconcerned
    cases unconcerned
  have run := removing_run deps now engine.store [] (engine.active.distinct.filter _) gone
  exact run

/-! ### History -/

/-- Remember which ids are stored as resolved. -/
def record (machine : Machine) : Machine :=
  { machine with
    everResolved := machine.everResolved ++
      (machine.store.rows.items.filter (·.status = .resolved)).map Alert.id }

/-- A step, with the ids it resolves remembered. -/
def next (machine : Machine) (action : Action) : Option Machine :=
  (machine.step deps action).map record

end Steps

end Machine

end Maintenant.Alerting
