import Maintenant.Alerting.Restart

/-!
# What services tell the engine

A service sees the engine through the severity of the active alert under a key: a recovery clears
it, any other event raises it.  Events are taken without store failures and without silence, each
in an environment of its own.
-/

namespace Maintenant.Alerting

open Keyed

variable {deps : EngineDeps} {env : Event → Environment} {engine : Engine} {key : ActiveAlertKey}
  {evt : Event} {events : List Event}

namespace Engine

/-- The severity of the active alert under a key. -/
def severityAt (engine : Engine) (key : ActiveAlertKey) : Option String :=
  (engine.active.lookup key).map Alert.severity

/-- Hand events to the engine, one after the other. -/
def feed (deps : EngineDeps) (env : Event → Environment) (events : List Event) (engine : Engine) :
    Engine :=
  events.foldl (fun engine evt => (processEvent deps (env evt) evt engine).1) engine

end Engine

/-- The severity an event leaves under its key. -/
def Event.leaves (found : Option String) (evt : Event) : Option String :=
  if evt.isRecover then none
  else some (found.elim evt.severity fun severity =>
    if severityRank severity < evt.rank then evt.severity else severity)

/-- Every event is taken without store failures and without silence. -/
def AllCalm (env : Event → Environment) : Prop := ∀ evt, Calm (env evt) evt

theorem allCalm_calmEnvironment : AllCalm fun _ => calmEnvironment := by
  intro evt
  exact ⟨(by decide : calmEnvironment.Reliable), rfl⟩

namespace Engine

theorem tracks_eq : engine.tracks key = (engine.severityAt key).isSome := by
  rw [tracks, severityAt, Option.isSome_map]

theorem severityAt_processEvent {env : Environment} (calm : Calm env evt) :
    (processEvent deps env evt engine).1.severityAt key =
      if key = evt.key then evt.leaves (engine.severityAt key) else engine.severityAt key := by
  split
  case isFalse other => rw [severityAt, lookup_processEvent_of_ne other, severityAt]
  case isTrue here =>
    subst here
    obtain ⟨⟨inserts, updates, -, -⟩, audible⟩ := calm
    cases recovers : evt.isRecover with
    | true =>
      rw [severityAt, processEvent_active_recover recovers, lookup_erase_self,
        Event.leaves, if_pos recovers]
      rfl
    | false =>
      cases found : engine.active.lookup evt.key with
      | none =>
        have stored := lookup_insert_self engine.active
          (engine.store.prepare env.now (newAlert evt false))
        change lookup _ evt.key = _ at stored
        simp [severityAt, processEvent, recovers, found, fireAlert, audible, inserts, Event.leaves,
          stored]
        rfl
      | some existing =>
        obtain ⟨-, at_key⟩ := lookup_eq_some.mp found
        by_cases higher : existing.rank < evt.rank
        · simp only [severityAt, processEvent, recovers, Bool.false_eq_true, if_false, found,
            higher, if_true, escalateAlert, updates]
          generalize (if env.getAlert then _ else none) = row
          have here : ((existing.refresh evt).reload row).key = evt.key := by
            rw [Alert.key_reload, Alert.key_refresh, at_key]
          have severity : ((existing.refresh evt).reload row).severity = evt.severity := by
            cases row <;> rfl
          rw [← here, lookup_insert_self, Option.map_some, severity]
          simp only [Event.leaves, recovers, Bool.false_eq_true, if_false, Option.map_some,
            Option.elim_some]
          rw [if_pos]
          exact higher
        · have lower : ¬severityRank existing.severity < evt.rank := higher
          simp [severityAt, processEvent, recovers, found, higher, Event.leaves, lower]

/-- What a service makes of its own key is what its events leave there, one after the other. -/
theorem severityAt_feed (calm : AllCalm env) : (engine.feed deps env events).severityAt key =
      (events.filter (·.key = key)).foldl Event.leaves (engine.severityAt key) := by
  induction events generalizing engine with
  | nil => rfl
  | cons evt events ih =>
    rw [feed, List.foldl_cons, ← feed, ih, severityAt_processEvent (calm evt)]
    by_cases here : key = evt.key
    · rw [if_pos here, List.filter_cons_of_pos (by simp [here]), List.foldl_cons]
    · rw [if_neg here, List.filter_cons_of_neg (by simpa using Ne.symm here)]

theorem severityAt_feed_one (calm : AllCalm env) (here : evt.key = key) :
    (engine.feed deps env [evt]).severityAt key = evt.leaves (engine.severityAt key) := by
  rw [severityAt_feed calm, List.filter_cons_of_pos (by simpa using here)]
  rfl

theorem Mirrors.feed (mirrors : engine.Mirrors) (calm : AllCalm env) :
    (engine.feed deps env events).Mirrors := by
  induction events generalizing engine with
  | nil => exact mirrors
  | cons evt events ih => exact ih (mirrors.processEvent deps (calm evt).1)

/-! ### Restarts -/

theorem Mirrors.reload (mirrors : engine.Mirrors) : (reloadActiveAlerts engine.store).Mirrors := by
  intro row
  constructor
  · rintro row_active
    refine ⟨row, mem_foldl_insert (AlertStore.mem_listActiveAlerts.mpr row_active) ?_,
      engine.store.whole row row_active.1⟩
    intro other listed same
    exact mirrors.active_unique (AlertStore.mem_listActiveAlerts.mp listed) row_active same
  · rintro ⟨alert, mem, rfl⟩
    have row := mem_rows_of_mem_reload mem
    rw [engine.store.whole alert row.1]
    exact row

end Engine

end Maintenant.Alerting
