import Maintenant.Alerting.Lifecycle

/-!
# A resolved alert stays resolved

Over every interleaving of the engine loop with `ResolveByEntity` and `Acknowledge`, rows never
leave the resolved status.  The map, however, can regain a resolved alert: a severity raise reads
its entry, stores without the lock and writes the entry back, so a removal that falls in between is
undone in memory.  Runs in which every write-back finds its entry still in the map are free of that.
-/

namespace Maintenant.Alerting

open List Option Execution

variable {store : AlertStore} {id : AlertId}

namespace Machine

/-- Between calls no entry of the map refers to a row stored as resolved, and a row that was once
stored as resolved still is. -/
def ResolvedForGood (machine : Machine) : Prop :=
  (machine.quiescent → ∀ alert ∈ machine.active.items, ∀ row ∈ machine.store.rows.items,
    row.id = alert.id → row.status ≠ .resolved) ∧
  ∀ row ∈ machine.store.rows.items, row.id ∈ machine.everResolved → row.status = .resolved

instance (machine : Machine) : Decidable machine.ResolvedForGood :=
  inferInstanceAs (Decidable (_ ∧ _))

/-- When a severity raise writes its entry back, the map still holds that alert. -/
def entryStillHeld (machine : Machine) : Action → Bool
  | .advance =>
    match machine.loop with
    | .writeBack _ existing _ =>
      (machine.active.lookup existing.key).any fun entry => entry.id = existing.id
    | _ => true
  | _ => true

/-- The phases of a database when the engine has reloaded it. -/
def startPhase (store : AlertStore) (id : AlertId) : Phase :=
  match store.rows.lookup id with
  | none => .unborn
  | some row =>
    if row.status = .resolved then .resolved
    else if (reloadActiveAlerts store).active.lookup row.key = some row then .tracked
    else .stored

/-- The phases once some tracked alerts are taken out of the map. -/
def takenOut (phase : AlertId → Phase) (leaving : List Alert) : AlertId → Phase :=
  fun id => if leaving.any (·.id = id) then .taken else phase id

variable {leaving : List Alert} {alert : Alert}

theorem takenOut_of_mem (phase : AlertId → Phase) (mem : alert ∈ leaving) :
    takenOut phase leaving alert.id = .taken := by
  refine if_pos ?_
  rw [List.any_eq_true]
  exact ⟨alert, mem, decide_eq_true rfl⟩

theorem takenOut_of_forall_ne {phase : AlertId → Phase}
    (others : ∀ alert ∈ leaving, alert.id ≠ id) : takenOut phase leaving id = phase id := by
  refine if_neg ?_
  rw [List.any_eq_true]
  rintro ⟨alert, mem, same⟩
  exact others alert mem (of_decide_eq_true same)

namespace Lives

variable {machine : Machine} {phase : AlertId → Phase} {env : Environment} {evt : Event}

section

variable (lives : machine.Lives phase)
include lives

theorem takeOut {active : Keyed Alert.key}
    (were_tracked : ∀ alert ∈ leaving, alert ∈ machine.active)
    (left : ∀ alert ∈ active, alert ∈ machine.active ∧ ∀ gone ∈ leaving, gone.key ≠ alert.key) :
    Advances phase (takenOut phase leaving) ∧
      Lives { machine with active } (takenOut phase leaving) := by
  have untouched {id : AlertId} (apart : phase id ≠ .tracked) :
      takenOut phase leaving id = phase id := by
    refine takenOut_of_forall_ne fun alert mem same => apart ?_
    rw [← same]
    exact (lives.tracked alert (were_tracked alert mem)).1
  have advances : Advances phase (takenOut phase leaving) := by
    intro id
    by_cases here : phase id = .tracked
    · unfold takenOut
      split
      · rw [here]
        decide
      · exact le_rfl
    · rw [untouched here]
  refine ⟨advances, ⟨?_, ?_⟩, ?_, ?_, lives.taken.advance advances, ?_⟩
  · intro id above
    have unborn := lives.stands.unborn id above
    rw [untouched (by rw [unborn]; decide), unborn]
  · intro row mem
    rw [lives.stands.rows row mem]
    constructor
    · exact advances.resolved
    intro resolved
    by_contra open_row
    unfold takenOut at resolved
    split at resolved
    · cases resolved
    · exact open_row resolved
  · intro alert mem
    obtain ⟨old, others⟩ := left alert mem
    obtain ⟨here, backed⟩ := lives.tracked alert old
    refine ⟨?_, backed⟩
    rw [takenOut_of_forall_ne, here]
    intro gone gone_mem same
    exact others gone gone_mem
      ((lives.tracked gone (were_tracked gone gone_mem)).2.key_eq backed same)
  · refine lives.loop.keep (fun row mem => ⟨row, mem, rfl, rfl⟩) advances fun id stored => ?_
    rw [untouched (by rw [stored]; decide), stored]
  · exact fun id known => advances.resolved (lives.ever id known)

theorem receive : ∃ later, Advances phase later ∧ (machine.receive env evt).Lives later := by
  unfold Machine.receive
  split
  · split
    · exact ⟨phase, Advances.refl, lives⟩
    · exact ⟨phase, Advances.refl, lives.with_loop trivial⟩
  case h_2 existing found =>
    obtain ⟨mem, here⟩ := Keyed.lookup_eq_some.mp found
    split
    · have was_tracked : ∀ alert ∈ [existing], alert ∈ machine.active := by
        intro alert singleton
        rw [mem_singleton.mp singleton]
        exact mem
      have left : ∀ alert ∈ machine.active.erase evt.key,
          alert ∈ machine.active ∧ ∀ gone ∈ [existing], gone.key ≠ alert.key := by
        intro alert kept
        obtain ⟨old, other⟩ := Keyed.mem_erase.mp kept
        refine ⟨old, ?_⟩
        intro gone gone_mem same
        rw [mem_singleton.mp gone_mem, here] at same
        exact other same.symm
      obtain ⟨advances, after⟩ := lives.takeOut was_tracked left
      refine ⟨_, advances, after.with_loop ?_⟩
      have now_taken := takenOut_of_mem phase (mem_singleton_self existing)
      simp only [LoopPc.Fits, now_taken]
      exact le_rfl
    · split
      · exact ⟨phase, Advances.refl, lives.with_loop trivial⟩
      · exact ⟨phase, Advances.refl, lives⟩

/-- `InsertAlert` of a first event. -/
theorem insertFirst {deps : EngineDeps} :
    ∃ later, Advances phase later ∧ (machine.insertFirst deps env evt).Lives later := by
  have unresolved (silenced : Bool) :
      (newAlert evt silenced).status = .resolved ↔ Phase.stored = .resolved := by
    cases silenced <;> simp [newAlert]
  obtain ⟨advances, after⟩ :=
    lives.insertAlert env.now (unresolved (checkSilenceRules env evt))
  refine ⟨_, advances, ?_⟩
  unfold Machine.insertFirst
  simp only
  split
  · exact after.finish
  · refine after.with_loop ⟨Function.update_self .., ?_⟩
    exact ⟨machine.store.newRow env.now (newAlert evt (checkSilenceRules env evt)),
      AlertStore.mem_insertAlert.mpr (Or.inr rfl), rfl, rfl⟩

theorem track (stored : phase alert.id = .stored) (backed : HasRow machine.store alert) :
    Advances phase (Function.update phase alert.id .tracked) ∧
      Lives { machine with active := machine.active.insert alert, loop := .idle }
        (Function.update phase alert.id .tracked) := by
  have advances : Advances phase (Function.update phase alert.id .tracked) := by
    refine Advances.update ?_
    rw [stored]
    decide
  have still {kept : Phase} (other : Phase.stored ≠ kept) (id : AlertId) (here : phase id = kept) :
      Function.update phase alert.id .tracked id = kept :=
    update_keeps (by rw [stored]; exact other) id here
  refine ⟨advances, ⟨?_, ?_⟩, ?_, trivial, lives.taken.advance advances, ?_⟩
  · exact fun id above => still (by decide) id (lives.stands.unborn id above)
  · intro row mem
    rw [lives.stands.rows row mem]
    refine ⟨advances.resolved, ?_⟩
    intro resolved
    by_cases this : row.id = alert.id
    · rw [this, Function.update_self] at resolved
      cases resolved
    · rwa [Function.update_of_ne this] at resolved
  · intro tracked mem
    rcases Keyed.mem_insert.mp mem with ⟨old, -⟩ | rfl
    · obtain ⟨here, old_backed⟩ := lives.tracked tracked old
      exact ⟨still (by decide) _ here, old_backed⟩
    · exact ⟨Function.update_self .., backed⟩
  · exact fun id known => advances.resolved (lives.ever id known)

theorem writeBack {existing entry : Alert}
    (found : machine.active.lookup existing.key = some entry) (same : entry.id = existing.id) :
    Lives { machine with active := machine.active.insert existing } phase := by
  obtain ⟨mem, here⟩ := Keyed.lookup_eq_some.mp found
  refine { lives with tracked := ?_ }
  intro alert inserted
  rcases Keyed.mem_insert.mp inserted with ⟨old, -⟩ | rfl
  · exact lives.tracked alert old
  · obtain ⟨tracked, row, row_mem, row_id, row_key⟩ := lives.tracked entry mem
    rw [← same]
    exact ⟨tracked, row, row_mem, row_id.trans same, row_key.trans here⟩

end

variable {deps : EngineDeps} {after : Machine} {now : Int}

section

variable (lives : machine.Lives phase)
include lives

theorem advance (held : machine.entryStillHeld .advance)
    (step : machine.advance deps = some after) :
    ∃ later, Advances phase later ∧ after.Lives later := by
  have fits := lives.loop
  unfold Machine.advance at step
  generalize at_loop : machine.loop = loop at step fits
  cases loop with
  | idle => cases step
  | insert =>
    cases step
    exact lives.insertFirst
  | track =>
    cases step
    obtain ⟨advances, tracked⟩ := lives.track fits.1 fits.2
    exact ⟨_, advances, tracked.with_outputs⟩
  | update _ existing evt =>
    cases step
    have stored : Lives { machine with
        store := machine.store.updateAlertOnEscalation existing.id evt.severity evt.message
          evt.entityName evt.detailsJSON } phase :=
      lives.modify _ _ (fun _ => rfl) fun _ => rfl
    exact ⟨phase, Advances.refl, stored.touch.with_loop trivial⟩
  | readBack =>
    cases step
    exact ⟨phase, Advances.refl, lives.touch.with_loop trivial⟩
  | writeBack =>
    cases step
    simp only [entryStillHeld, at_loop, Option.any_eq_true, decide_eq_true_eq] at held
    obtain ⟨entry, found, same⟩ := held
    exact ⟨phase, Advances.refl, (lives.writeBack found same).finish⟩
  | insertRecovery env original evt =>
    cases step
    have resolved : (recoveryAlert evt original).status = .resolved ↔
        Phase.resolved = .resolved := iff_of_true rfl rfl
    obtain ⟨advances, inserted⟩ := lives.insertAlert env.now resolved
    exact ⟨_, advances, inserted.with_loop (advances.leaving fits)⟩
  | resolveOriginal _ original evt recoveryId =>
    cases step
    obtain ⟨advances, resolved⟩ :=
      lives.updateAlertStatus fits (some evt.timestamp) (some recoveryId)
    exact ⟨_, advances, resolved.touch.finish⟩

theorem remove {entityType entityId : String} :
    ∃ later, Advances phase later ∧ (machine.remove now entityType entityId).Lives later := by
  let leaving := machine.active.items.filter (Alert.concerns entityType entityId)
  have were_tracked : ∀ alert ∈ leaving, alert ∈ machine.active :=
    fun alert mem => (mem_filter.mp mem).1
  have left : ∀ alert ∈ machine.active.filter fun alert => !alert.concerns entityType entityId,
      alert ∈ machine.active ∧ ∀ gone ∈ leaving, gone.key ≠ alert.key := by
    intro alert kept
    obtain ⟨old, unconcerned⟩ := Keyed.mem_filter.mp kept
    refine ⟨old, ?_⟩
    intro gone gone_mem same
    have concerned := (mem_filter.mp gone_mem).2
    rw [Alert.concerns_of_key same] at concerned
    rw [concerned] at unconcerned
    cases unconcerned
  obtain ⟨advances, after⟩ := lives.takeOut were_tracked left
  refine ⟨_, advances, after.with_removals ?_⟩
  have old_taken : Taken machine.removals (takenOut phase leaving) := after.taken
  split
  · exact old_taken
  intro removal mem alert remains
  rcases mem_snoc.mp mem with old | rfl
  · exact old_taken removal old alert remains
  · rw [takenOut_of_mem phase remains]
    exact le_rfl

theorem resolveOne {removal position : Nat}
    (step : machine.resolveOne deps removal position = some after) :
    ∃ later, Advances phase later ∧ after.Lives later := by
  simp only [Machine.resolveOne, Option.bind_eq_bind, Option.bind_eq_some_iff, Option.pure_def,
    some.injEq] at step
  obtain ⟨call, call_at, alert, alert_at, rfl⟩ := step
  have call_mem := mem_of_getElem? call_at
  have leaving := lives.taken call call_mem alert (mem_of_getElem? alert_at)
  obtain ⟨advances, resolved⟩ := lives.updateAlertStatus leaving (some call.now) none
  have old_taken := lives.taken.advance advances
  have still_taken : Taken
      (if (call.remaining.eraseIdx position).isEmpty then machine.removals.eraseIdx removal
        else machine.removals.set removal
          { call with remaining := call.remaining.eraseIdx position })
      (Function.update phase alert.id .resolved) := by
    intro other mem held remains
    split at mem
    · exact old_taken other (mem_of_mem_eraseIdx mem) held remains
    · rcases mem_or_eq_of_mem_set mem with old | rfl
      · exact old_taken other old held remains
      · exact old_taken call call_mem held (mem_of_mem_eraseIdx remains)
  exact ⟨_, advances, ((resolved.with_removals still_taken).with_outputs).touch⟩

theorem acknowledge {by_ : String} : (machine.acknowledge id by_ now).Lives phase := by
  unfold Machine.acknowledge
  split
  · exact lives
  · split
    · exact { lives with }
    · exact lives

theorem writeAcknowledged {call : Nat}
    (step : machine.writeAcknowledged deps call = some after) : after.Lives phase := by
  simp only [Machine.writeAcknowledged, Option.bind_eq_bind, Option.bind_eq_some_iff,
    Option.pure_def, Option.some.injEq] at step
  obtain ⟨acknowledging, -, rfl⟩ := step
  have written : Lives { machine with
      store := machine.store.acknowledgeAlert acknowledging.row.id acknowledging.by_
        acknowledging.at_ } phase :=
    lives.modify _ _ (fun row => setAcknowledged_same.1) fun row => setAcknowledged_same.2.2
  exact { written with }

theorem record : machine.record.Lives phase := by
  refine { lives with ever := ?_ }
  intro id known
  rcases mem_append.mp known with old | new
  · exact lives.ever id old
  · obtain ⟨row, mem, rfl⟩ := mem_map.mp new
    obtain ⟨row_mem, resolved⟩ := mem_filter.mp mem
    exact (lives.stands.rows row row_mem).mp (of_decide_eq_true resolved)

theorem next {action : Action} (held : machine.entryStillHeld action)
    (step : machine.next deps action = some after) :
    ∃ later, Advances phase later ∧ after.Lives later := by
  obtain ⟨moved, moves, rfl⟩ := map_eq_some_iff.mp step
  have moved_lives : ∃ later, Advances phase later ∧ moved.Lives later := by
    cases action with
    | receive =>
      obtain ⟨-, ⟨⟩⟩ := ite_none_right_eq_some.mp moves
      exact lives.receive
    | advance => exact lives.advance held moves
    | remove =>
      cases moves
      exact lives.remove
    | resolveOne => exact lives.resolveOne moves
    | acknowledge =>
      cases moves
      exact ⟨phase, Advances.refl, lives.acknowledge⟩
    | writeAcknowledged =>
      exact ⟨phase, Advances.refl, lives.writeAcknowledged moves⟩
  obtain ⟨later, advances, after_lives⟩ := moved_lives
  exact ⟨later, advances, after_lives.record⟩

end

theorem startPhase_row {row : Alert} (mem : row ∈ store.rows) :
    startPhase store row.id = if row.status = .resolved then .resolved
      else if (reloadActiveAlerts store).active.lookup row.key = some row then .tracked
      else .stored := by
  simp only [startPhase, Keyed.lookup_eq_some.mpr ⟨mem, rfl⟩]

theorem init : (atRest (reloadActiveAlerts store)).Lives (startPhase store) := by
  refine ⟨⟨?_, ?_⟩, ?_, trivial, ?_, ?_⟩
  · intro id above
    have absent : store.rows.lookup id = none := by
      rw [Keyed.lookup_eq_none]
      intro row mem
      exact ((store.fresh row mem).trans_le above).ne
    simp only [startPhase, absent]
  · intro row mem
    have row_mem : row ∈ store.rows := mem
    rw [startPhase_row row_mem]
    split
    case isTrue resolved => exact iff_of_true resolved rfl
    case isFalse open_row =>
      refine iff_of_false open_row ?_
      split <;> rintro ⟨⟩
  · intro alert mem
    have tracked : alert ∈ (reloadActiveAlerts store).active := mem
    obtain ⟨row_mem, is_active⟩ := mem_rows_of_mem_reload tracked
    refine ⟨?_, alert, row_mem, rfl, rfl⟩
    rw [startPhase_row row_mem, if_neg (by rw [is_active]; decide),
      if_pos (Keyed.lookup_eq_some.mpr ⟨tracked, rfl⟩)]
  · exact fun removal none_yet => absurd none_yet not_mem_nil
  · exact fun id none_yet => absurd none_yet not_mem_nil

theorem resolvedForGood (lives : machine.Lives phase) : machine.ResolvedForGood := by
  constructor
  · intro _ alert mem row row_mem same resolved
    have done : phase row.id = .resolved := (lives.stands.rows row row_mem).mp resolved
    rw [same, (lives.tracked alert mem).1] at done
    cases done
  · intro row row_mem known
    exact (lives.stands.rows row row_mem).mpr (lives.ever row.id known)

end Lives

/-- From any database, in every run whose write-backs all find their entry still in the map,
resolved alerts stay resolved in every state. -/
theorem resolved_stays_resolved (deps : EngineDeps) (store : AlertStore) {actions : List Action}
    (held : Guarded (next deps) (fun machine action => machine.entryStillHeld action)
      (atRest (reloadActiveAlerts store)) actions) :
    Always (next deps) ResolvedForGood (atRest (reloadActiveAlerts store)) actions := by
  refine always_of_guarded (fun machine => ∃ phase, machine.Lives phase) ?_ ?_ ⟨_, Lives.init⟩ held
  · rintro before after action ⟨phase, lives⟩ held step
    obtain ⟨later, -, after_lives⟩ := lives.next held step
    exact ⟨later, after_lives⟩
  · rintro machine ⟨phase, lives⟩
    exact lives.resolvedForGood

/-- A warning and a raise of it, with the removal of the entity while the raise is stored. -/
def removalDuringRaise : List Action :=
  [.receive calmEnvironment (endpointEvent "warning" false), .advance, .advance,
    .receive calmEnvironment (endpointEvent "critical" false), .advance,
    .remove 0 "endpoint" "e1", .resolveOne 0 0, .advance, .advance]

/-- The same calls with the removal after the raise. -/
def removalAfterRaise : List Action :=
  [.receive calmEnvironment (endpointEvent "warning" false), .advance, .advance,
    .receive calmEnvironment (endpointEvent "critical" false), .advance, .advance, .advance,
    .remove 0 "endpoint" "e1", .resolveOne 0 0]

theorem resolved_stays_resolved_after_raise : Always (next ⟨true, true⟩) ResolvedForGood
      (atRest (reloadActiveAlerts .empty)) removalAfterRaise :=
  resolved_stays_resolved ⟨true, true⟩ .empty (by decide)

/-- A removal between a raise's read and its write-back: all calls have returned, the row is
resolved, and the map holds its alert again. -/
theorem removal_during_raise_is_undone :
    ((run (next ⟨true, true⟩) (atRest (reloadActiveAlerts .empty))
      removalDuringRaise).map fun machine => (machine.quiescent, machine.active.items.map Alert.id,
          machine.store.rows.items.map fun row => (row.id, row.status))) =
        some (true, [0], [(0, .resolved)]) ∧ ¬Always (next ⟨true, true⟩) ResolvedForGood
        (atRest (reloadActiveAlerts .empty)) removalDuringRaise := by
  decide

end Machine

end Maintenant.Alerting
