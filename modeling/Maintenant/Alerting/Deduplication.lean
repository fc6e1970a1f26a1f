import Maintenant.Alerting.Engine

/-!
# Deduplication in closed form

What the engine holds for a key after any sequence of events is a function of the events of that key
since its last recovery: nothing if there are none, and otherwise an alert that reads like the first
of them to reach the highest severity.  The table holds exactly what the map holds, to the second.
-/

namespace Maintenant.Alerting

open Keyed AlertStore List Option

/-! ### The history of a key -/

/-- The events of a key after its last recovery. -/
def sinceRecovery (key : ActiveAlertKey) (events : List Event) : List Event :=
  (events.filter fun evt => evt.key = key).rtakeWhile fun evt => !evt.isRecover

/-- A non-recovery event of the key came after its last recovery. -/
def FiredSinceRecovery (key : ActiveAlertKey) (events : List Event) : Prop :=
  ∃ before evt after, events = before ++ evt :: after ∧ evt.key = key ∧
    evt.isRecover = false ∧ ∀ later ∈ after, later.key = key → later.isRecover = false

/-- The first event to reach the highest rank of a list. -/
def FirstHighest (events : List Event) (evt : Event) : Prop :=
  ∃ before after, events = before ++ evt :: after ∧
    (∀ earlier ∈ before, earlier.rank < evt.rank) ∧ ∀ later ∈ after, later.rank ≤ evt.rank

/-- The highest event so far after one more: only a higher rank replaces it. -/
def higher (best : Option Event) (evt : Event) : Option Event :=
  match best with
  | none => some evt
  | some best => if best.rank < evt.rank then some evt else some best

/-- The event an active alert of the key reads like, if there is to be one. -/
def expected (key : ActiveAlertKey) (events : List Event) : Option Event :=
  (sinceRecovery key events).foldl higher none

/-- What an alert takes from the event it shows. -/
structure Face where
  severity : String
  message : String
  entityName : String
  details : String

def Event.face (evt : Event) : Face where
  severity := evt.severity
  message := evt.message
  entityName := evt.entityName
  details := evt.detailsJSON

def Alert.face (alert : Alert) : Face where
  severity := alert.severity
  message := alert.message
  entityName := alert.entityName
  details := alert.details

variable {key : ActiveAlertKey} {evt : Event}

theorem sinceRecovery_concat_other (other : evt.key ≠ key) (events : List Event) :
    sinceRecovery key (events ++ [evt]) = sinceRecovery key events := by
  simp [sinceRecovery, other]

theorem sinceRecovery_concat_recovery (recovers : evt.isRecover = true) (events : List Event) :
    sinceRecovery evt.key (events ++ [evt]) = [] := by
  simp [sinceRecovery, recovers]

theorem sinceRecovery_concat (fires : evt.isRecover = false) (events : List Event) :
    sinceRecovery evt.key (events ++ [evt]) = sinceRecovery evt.key events ++ [evt] := by
  simp [sinceRecovery, fires]

theorem concat_eq_split {α : Type*} {items before after : List α} {last item : α}
    (split : items ++ [last] = before ++ item :: after) :
    after = [] ∧ item = last ∨ ∃ rest, after = rest ++ [last] ∧ items = before ++ item :: rest := by
  rcases eq_nil_or_concat after with rfl | ⟨rest, final, rfl⟩
  · exact .inl ⟨rfl, (singleton_inj.mp (append_inj_right' split rfl)).symm⟩
  rw [concat_eq_append] at split ⊢
  have regrouped : items ++ [last] = (before ++ item :: rest) ++ [final] := by
    rw [split, append_assoc, cons_append]
  have same := append_inj' regrouped rfl
  exact .inr ⟨rest, by rw [singleton_inj.mp same.2], same.1⟩

variable {events : List Event}

/-- There are events since the last recovery exactly when some event of the key is not followed by a
recovery of it. -/
theorem sinceRecovery_ne_nil_iff :
    sinceRecovery key events ≠ [] ↔ FiredSinceRecovery key events := by
  induction events using reverseRecOn with
  | nil => simp [sinceRecovery, FiredSinceRecovery]
  | append_singleton events last ih =>
    by_cases here : last.key = key
    · subst here
      cases recovers : last.isRecover with
      | true =>
        rw [sinceRecovery_concat_recovery recovers]
        refine iff_of_false (fun some_event => some_event rfl) ?_
        rintro ⟨before, evt, after, split, -, fires, unrecovered⟩
        rcases concat_eq_split split with ⟨-, rfl⟩ | ⟨rest, rfl, -⟩
        · rw [recovers] at fires
          cases fires
        · have late := unrecovered last (by simp) rfl
          rw [recovers] at late
          cases late
      | false =>
        rw [sinceRecovery_concat recovers]
        refine iff_of_true (by simp) ⟨events, last, [], rfl, rfl, recovers, ?_⟩
        exact fun later mem => absurd mem not_mem_nil
    · rw [sinceRecovery_concat_other here, ih]
      constructor
      · rintro ⟨before, evt, after, rfl, of_key, fires, unrecovered⟩
        refine ⟨before, evt, after ++ [last], by simp, of_key, fires, ?_⟩
        intro later mem later_key
        rcases mem_snoc.mp mem with in_after | rfl
        · exact unrecovered later in_after later_key
        · exact absurd later_key here
      · rintro ⟨before, evt, after, split, of_key, fires, unrecovered⟩
        rcases concat_eq_split split with ⟨-, rfl⟩ | ⟨rest, rfl, rfl⟩
        · exact absurd of_key here
        · exact ⟨before, evt, rest, rfl, of_key, fires, fun later mem =>
            unrecovered later (mem_append_left [last] mem)⟩

variable {best : Event}

theorem FirstHighest.rank_le (first : FirstHighest events best) (mem : evt ∈ events) :
    evt.rank ≤ best.rank := by
  obtain ⟨before, after, rfl, earlier, later⟩ := first
  rcases mem_append.mp mem with in_before | in_rest
  · exact (earlier evt in_before).le
  · rcases mem_cons.mp in_rest with rfl | in_after
    · exact le_rfl
    · exact later evt in_after

@[simp] theorem higher_none : higher none evt = some evt := rfl

@[simp] theorem higher_some :
    higher (some best) evt = if best.rank < evt.rank then some evt else some best := rfl

theorem foldl_higher_eq_none : events.foldl higher none = none ↔ events = [] := by
  induction events using reverseRecOn with
  | nil => simp
  | append_singleton events last =>
    refine iff_of_false ?_ (by simp)
    rw [foldl_append, foldl_cons]
    cases events.foldl higher none with
    | none => exact some_ne_none last
    | some =>
      rw [higher_some]
      split <;> exact some_ne_none _

theorem firstHighest_of_foldl (found : events.foldl higher none = some best) :
    FirstHighest events best := by
  induction events using reverseRecOn generalizing best with
  | nil => cases found
  | append_singleton events last ih =>
    rw [foldl_append, foldl_cons, foldl_nil] at found
    cases so_far : events.foldl higher none with
    | none =>
      rw [so_far] at found
      cases found
      rw [foldl_higher_eq_none.mp so_far]
      exact ⟨[], [], rfl, by simp, by simp⟩
    | some leader =>
      rw [so_far] at found
      have leads := ih so_far
      by_cases outranks : leader.rank < last.rank
      · simp only [higher_some, outranks, if_true, some.injEq] at found
        subst found
        exact ⟨events, [], rfl, fun evt mem => (leads.rank_le mem).trans_lt outranks, by simp⟩
      simp only [higher_some, outranks, if_false, some.injEq] at found
      subst found
      obtain ⟨before, after, rfl, earlier, later⟩ := leads
      refine ⟨before, after ++ [last], by simp, earlier, ?_⟩
      intro evt mem
      rcases mem_snoc.mp mem with in_after | rfl
      · exact later evt in_after
      · exact not_lt.mp outranks

theorem expected_concat_other (other : evt.key ≠ key) :
    expected key (events ++ [evt]) = expected key events := by
  rw [expected, sinceRecovery_concat_other other, expected]

theorem expected_concat_recovery (recovers : evt.isRecover = true) :
    expected evt.key (events ++ [evt]) = none := by
  rw [expected, sinceRecovery_concat_recovery recovers, foldl_nil]

theorem expected_concat (fires : evt.isRecover = false) (events : List Event) :
    expected evt.key (events ++ [evt]) = higher (expected evt.key events) evt := by
  rw [expected, sinceRecovery_concat fires, foldl_append, foldl_cons, foldl_nil, expected]

/-! ### Runs of events -/

/-- An event with the answers of its environment. -/
abbrev Occurrence := Environment × Event

/-- Every store call succeeds and no rule or maintenance window matches. -/
def Calm (env : Environment) (evt : Event) : Prop :=
  env.Reliable ∧ checkSilenceRules env evt = false

instance (env : Environment) (evt : Event) : Decidable (Calm env evt) :=
  inferInstanceAs (Decidable (_ ∧ _))

/-- Process events one after the other, collecting what they send. -/
def processAll (deps : EngineDeps) : List Occurrence → Engine → Engine × List Output
  | [], engine => (engine, [])
  | (env, evt) :: occurrences, engine =>
    let first := processEvent deps env evt engine
    let rest := processAll deps occurrences first.1
    (rest.1, first.2 ++ rest.2)

/-! ### The table follows the map -/

variable {deps : EngineDeps} {env : Environment} {alert : Alert}

namespace Engine

/-- The active rows are the alerts of the map, in whole seconds. -/
def Mirrors (engine : Engine) : Prop :=
  ∀ row, row ∈ engine.store.rows ∧ row.status = .active ↔
    ∃ alert ∈ engine.active, alert.stored = row

theorem empty_mirrors : Engine.empty.Mirrors := by
  intro row
  constructor
  · rintro ⟨mem, -⟩
    exact absurd mem (not_mem_empty row)
  · rintro ⟨alert, mem, -⟩
    exact absurd mem (not_mem_empty alert)

variable {engine : Engine}

namespace Mirrors

theorem row_of_mem (mirrors : engine.Mirrors) (mem : alert ∈ engine.active) :
    alert.stored ∈ engine.store.rows ∧ alert.stored.status = .active :=
  (mirrors alert.stored).mpr ⟨alert, mem, rfl⟩

theorem key_eq_iff (mirrors : engine.Mirrors) {left right : Alert}
    (left_mem : left ∈ engine.active) (right_mem : right ∈ engine.active) :
    left.key = right.key ↔ left.id = right.id := by
  constructor
  · intro same
    rw [eq_of_key left_mem right_mem same]
  intro same
  have rows : left.stored = right.stored :=
    eq_of_key (mirrors.row_of_mem left_mem).1 (mirrors.row_of_mem right_mem).1 same
  rw [← Alert.key_stored, rows, Alert.key_stored]

theorem active_unique (mirrors : engine.Mirrors) {left right : Alert}
    (left_row : left ∈ engine.store.rows ∧ left.status = .active)
    (right_row : right ∈ engine.store.rows ∧ right.status = .active)
    (same : left.key = right.key) : left = right := by
  obtain ⟨alert, mem, rfl⟩ := (mirrors left).mp left_row
  obtain ⟨other, other_mem, rfl⟩ := (mirrors right).mp right_row
  rw [eq_of_key mem other_mem same]

theorem fireAlert (mirrors : engine.Mirrors)
    (inserts : env.insertAlert = true) (absent : engine.active.lookup evt.key = none) :
    (fireAlert deps env evt engine).1.Mirrors := by
  intro row
  have new_row (silenced : Bool) : engine.store.newRow env.now (newAlert evt silenced) =
      (engine.store.prepare env.now (newAlert evt silenced)).stored :=
    newRow_eq_stored rfl rfl rfl
  simp only [Alerting.fireAlert, inserts, if_true, mem_insertAlert, new_row]
  cases checkSilenceRules env evt with
  | true =>
    simp only [if_true]
    rw [← mirrors row]
    constructor
    · rintro ⟨old | rfl, active⟩
      · exact ⟨old, active⟩
      · cases active
    · rintro ⟨old, active⟩
      exact ⟨.inl old, active⟩
  | false =>
    simp only [Bool.false_eq_true, if_false, mem_insert]
    constructor
    · rintro ⟨old | rfl, active⟩
      · obtain ⟨alert, mem, rfl⟩ := (mirrors row).mp ⟨old, active⟩
        exact ⟨alert, .inl ⟨mem, lookup_eq_none.mp absent alert mem⟩, rfl⟩
      · exact ⟨_, .inr rfl, rfl⟩
    rintro ⟨alert, ⟨mem, -⟩ | rfl, rfl⟩
    · obtain ⟨old, active⟩ := mirrors.row_of_mem mem
      exact ⟨.inl old, active⟩
    · exact ⟨.inr rfl, rfl⟩

variable {existing : Alert}

variable (mirrors : engine.Mirrors)
include mirrors

theorem raised_stored (evt : Event) (mem : existing ∈ engine.active) :
    ((existing.refresh evt).reload
      ((engine.store.updateAlertOnEscalation existing.id evt.severity evt.message evt.entityName
        evt.detailsJSON).getAlert existing.id)).stored =
      setEscalation evt.severity evt.message evt.entityName evt.detailsJSON existing.stored := by
  have read_back : (engine.store.updateAlertOnEscalation existing.id evt.severity evt.message
      evt.entityName evt.detailsJSON).getAlert existing.id =
      some (setEscalation evt.severity evt.message evt.entityName evt.detailsJSON
        existing.stored) := by
    refine lookup_eq_some.mpr ⟨?_, rfl⟩
    exact mem_updateAlertOnEscalation.mpr
      (.inr ⟨existing.stored, (mirrors.row_of_mem mem).1, rfl, rfl⟩)
  rw [read_back]
  simp [Alert.reload, Alert.refresh, Alert.stored, setEscalation, Function.comp_def]

variable (deps : EngineDeps)

theorem escalateAlert (reliable : env.Reliable) (mem : existing ∈ engine.active) :
    (escalateAlert deps env existing evt engine).1.Mirrors := by
  obtain ⟨-, updates, reads, -⟩ := reliable
  obtain ⟨existing_row, existing_active⟩ := mirrors.row_of_mem mem
  have raised := mirrors.raised_stored evt mem
  intro row
  simp only [Alerting.escalateAlert, updates, reads, if_true]
  generalize (existing.refresh evt).reload _ = alert at raised ⊢
  have here : alert.key = existing.key := by
    rw [← Alert.key_stored, raised]
    rfl
  rw [insert_update _ here, mem_updateAlertOnEscalation]
  simp only [mem_insert, here]
  constructor
  · rintro ⟨⟨old, apart⟩ | ⟨old, old_mem, this, rfl⟩, active⟩
    · obtain ⟨other, other_mem, rfl⟩ := (mirrors row).mp ⟨old, active⟩
      exact ⟨other, .inl ⟨other_mem, mt (mirrors.key_eq_iff other_mem mem).mp apart⟩, rfl⟩
    · have same : old = existing.stored := eq_of_key old_mem existing_row this
      exact ⟨alert, .inr rfl, by rw [raised, same]⟩
  · rintro ⟨other, ⟨other_mem, apart⟩ | rfl, rfl⟩
    · obtain ⟨old, active⟩ := mirrors.row_of_mem other_mem
      exact ⟨.inl ⟨old, mt (mirrors.key_eq_iff other_mem mem).mpr apart⟩, active⟩
    · rw [raised]
      exact ⟨.inr ⟨existing.stored, existing_row, rfl, rfl⟩, existing_active⟩

theorem processRecovery (reliable : env.Reliable)
    : (processRecovery deps env evt engine).1.Mirrors := by
  obtain ⟨inserts, -, -, resolves⟩ := reliable
  rw [Alerting.processRecovery]
  split
  · exact mirrors
  case h_2 original found =>
    obtain ⟨mem, here⟩ := lookup_eq_some.mp found
    intro row
    simp only [inserts, resolves, if_true, mem_erase, mem_updateAlertStatus,
      mem_insertAlert, ← here]
    constructor
    · rintro ⟨⟨old | rfl, apart⟩ | ⟨old, -, -, rfl⟩, active⟩
      · obtain ⟨other, other_mem, rfl⟩ := (mirrors row).mp ⟨old, active⟩
        exact ⟨other, ⟨other_mem, mt (mirrors.key_eq_iff other_mem mem).mp apart⟩, rfl⟩
      · cases active
      · cases active
    · rintro ⟨other, ⟨other_mem, apart⟩, rfl⟩
      obtain ⟨old, active⟩ := mirrors.row_of_mem other_mem
      exact ⟨.inl ⟨.inl old, mt (mirrors.key_eq_iff other_mem mem).mpr apart⟩, active⟩

theorem processEvent (reliable : env.Reliable) : (processEvent deps env evt engine).1.Mirrors := by
  rw [Alerting.processEvent]
  split
  · exact mirrors.processRecovery deps reliable
  split
  case h_1 absent => exact mirrors.fireAlert reliable.1 absent
  case h_2 existing found =>
    split
    · exact mirrors.escalateAlert deps reliable (lookup_eq_some.mp found).1
    · exact mirrors

end Mirrors

/-! ### The map follows the history -/

theorem processEvent_active_recover (recovers : evt.isRecover = true) :
    (processEvent deps env evt engine).1.active = engine.active.erase evt.key := by
  simp only [processEvent, recovers, if_true, processRecovery]
  cases found : engine.active.lookup evt.key with
  | none => exact (erase_eq_self (lookup_eq_none.mp found)).symm
  | some =>
    simp only
    split <;> rfl

/-- Under every key the map shows the expected event, or nothing. -/
def Shows (engine : Engine) (events : List Event) : Prop :=
  ∀ key, (engine.active.lookup key).map Alert.face = (expected key events).map Event.face

theorem empty_shows : Engine.empty.Shows [] := fun _ => rfl

namespace Shows

variable {after : Engine}

section

variable (shows : engine.Shows events)
include shows

theorem concat (others : ∀ key, key ≠ evt.key → after.active.lookup key = engine.active.lookup key)
    (here : (after.active.lookup evt.key).map Alert.face =
      (expected evt.key (events ++ [evt])).map Event.face) : after.Shows (events ++ [evt]) := by
  intro key
  by_cases same : key = evt.key
  · rw [same]
    exact here
  · rw [others key same, expected_concat_other (Ne.symm same)]
    exact shows key

theorem fire (fires : evt.isRecover = false)
    (absent : engine.active.lookup evt.key = none) (at_key : alert.key = evt.key)
    (reads : alert.face = evt.face) (tracked : after.active = engine.active.insert alert) :
    after.Shows (events ++ [evt]) := by
  have unexpected : expected evt.key events = none := by
    have shown := shows evt.key
    rwa [absent, map_none, eq_comm, map_eq_none_iff] at shown
  refine shows.concat (fun key other => ?_) ?_
  · rw [← at_key] at other
    rw [tracked, lookup_insert_of_ne other]
  · rw [expected_concat fires, unexpected, higher_none, tracked, ← at_key,
      lookup_insert_self, map_some, map_some, reads]

theorem recover (recovers : evt.isRecover = true)
    (erased : after.active = engine.active.erase evt.key) : after.Shows (events ++ [evt]) := by
  refine shows.concat (fun key other => ?_) ?_
  · rw [erased, lookup_erase_of_ne other]
  · rw [erased, lookup_erase_self, expected_concat_recovery recovers]
    rfl

theorem compare {existing : Alert} (fires : evt.isRecover = false)
    (found : engine.active.lookup evt.key = some existing)
    (raised : existing.rank < evt.rank → ∃ alert : Alert, alert.key = evt.key ∧
      alert.face = evt.face ∧ after.active = engine.active.insert alert)
    (ignored : ¬existing.rank < evt.rank → after.active = engine.active) :
    after.Shows (events ++ [evt]) := by
  have shown := shows evt.key
  rw [found, map_some, eq_comm, map_eq_some_iff] at shown
  obtain ⟨best, is_expected, same_face⟩ := shown
  have same_rank : best.rank = existing.rank :=
    congrArg (fun face : Face => severityRank face.severity) same_face
  have now_expected := expected_concat fires events
  rw [is_expected, higher_some, same_rank] at now_expected
  by_cases higher : existing.rank < evt.rank
  · obtain ⟨alert, at_key, reads, tracked⟩ := raised higher
    rw [if_pos higher] at now_expected
    refine shows.concat (fun key other => ?_) ?_
    · rw [← at_key] at other
      rw [tracked, lookup_insert_of_ne other]
    · rw [now_expected, tracked, ← at_key, lookup_insert_self, map_some, map_some, reads]
  · rw [if_neg higher] at now_expected
    refine shows.concat (fun key _ => by rw [ignored higher]) ?_
    rw [now_expected, ignored higher, found, map_some, map_some, same_face]

theorem processEvent
    (calm : Calm env evt) : (processEvent deps env evt engine).1.Shows (events ++ [evt]) := by
  obtain ⟨⟨inserts, updates, -, -⟩, audible⟩ := calm
  cases recovers : evt.isRecover with
  | true => exact shows.recover recovers (processEvent_active_recover recovers)
  | false =>
    cases found : engine.active.lookup evt.key with
    | none =>
      have fired : (Alerting.processEvent deps env evt engine).1.active =
          engine.active.insert (engine.store.prepare env.now (newAlert evt false)) := by
        simp [Alerting.processEvent, recovers, found, fireAlert, audible, inserts]
      exact shows.fire recovers found rfl rfl fired
    | some existing =>
      obtain ⟨-, at_key⟩ := lookup_eq_some.mp found
      refine shows.compare recovers found (fun higher => ?_) fun lower => ?_
      · simp only [Alerting.processEvent, recovers, found, higher, escalateAlert, updates]
        generalize (if env.getAlert then _ else none) = row
        refine ⟨(existing.refresh evt).reload row, ?_, ?_, ?_⟩
        · rw [Alert.key_reload, Alert.key_refresh, at_key]
        · cases row <;> rfl
        · exact insert_update _ (by rw [Alert.key_reload, Alert.key_refresh])
      · simp [Alerting.processEvent, recovers, found, lower]

end

end Shows

theorem processAll_calm {occurrences : List Occurrence} {past : List Event}
    (calm : ∀ occurrence ∈ occurrences, Calm occurrence.1 occurrence.2) (mirrors : engine.Mirrors)
    (shows : engine.Shows past) : (processAll deps occurrences engine).1.Mirrors ∧
      (processAll deps occurrences engine).1.Shows (past ++ occurrences.map Prod.snd) := by
  induction occurrences generalizing engine past with
  | nil =>
    rw [map_nil, append_nil]
    exact ⟨mirrors, shows⟩
  | cons occurrence occurrences ih =>
    obtain ⟨env, evt⟩ := occurrence
    obtain ⟨first_calm, calm⟩ := forall_mem_cons.mp calm
    have later := ih calm (mirrors.processEvent deps first_calm.1) (shows.processEvent first_calm)
    rw [append_assoc] at later
    exact later

theorem Mirrors.active_iff_fired (mirrors : engine.Mirrors) (shows : engine.Shows events) :
    (∃ row ∈ engine.store.rows, row.status = .active ∧ row.key = key) ↔
      FiredSinceRecovery key events := by
  rw [← sinceRecovery_ne_nil_iff, Ne, ← foldl_higher_eq_none, ← expected,
    ← map_eq_none_iff (f := Event.face), ← shows key, map_eq_none_iff,
    lookup_eq_none]
  constructor
  · rintro ⟨row, mem, active, rfl⟩ absent
    obtain ⟨alert, tracked, rfl⟩ := (mirrors row).mp ⟨mem, active⟩
    exact absent alert tracked rfl
  intro present
  push Not at present
  obtain ⟨alert, tracked, here⟩ := present
  obtain ⟨row_mem, active⟩ := mirrors.row_of_mem tracked
  exact ⟨alert.stored, row_mem, active, here⟩

theorem Mirrors.row_reads_expected (mirrors : engine.Mirrors) (shows : engine.Shows events)
    (row : Alert) (mem : row ∈ engine.store.rows) (active : row.status = .active) :
    ∃ evt, FirstHighest (sinceRecovery row.key events) evt ∧ row.severity = evt.severity ∧
      row.message = evt.message ∧ row.details = evt.detailsJSON := by
  obtain ⟨alert, tracked, rfl⟩ := (mirrors row).mp ⟨mem, active⟩
  have shown := shows alert.key
  rw [lookup_eq_some.mpr ⟨tracked, rfl⟩, map_some, eq_comm, map_eq_some_iff] at shown
  obtain ⟨evt, is_expected, same⟩ := shown
  refine ⟨evt, firstHighest_of_foldl is_expected, ?_, ?_, ?_⟩
  · exact (congrArg Face.severity same).symm
  · exact (congrArg Face.message same).symm
  · exact (congrArg Face.details same).symm

end Engine

end Maintenant.Alerting
