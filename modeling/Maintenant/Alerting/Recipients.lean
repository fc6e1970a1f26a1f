import Maintenant.Alerting.Deduplication

/-!
# Who learns of a recovery

An alert is routed anew each time its engine notifies: at its first event, at every raise of its
severity and at its recovery.  Source and entity never change, so what separates the routes is the
severity the record has at the time, which at the recovery is the highest one reached.
-/

namespace Maintenant.Alerting

open List

/-- Triggers and channels that stay as they are. -/
structure Routing where
  triggers : List AlertTrigger
  channelEnabled : String → Bool

/-- The environment answers with this routing, and none of its calls fails or silences. -/
def Undisturbed (routing : Routing) (occurrence : Occurrence) : Prop :=
  Calm occurrence.1 occurrence.2 ∧ occurrence.1.triggers = some routing.triggers ∧
    occurrence.1.channelEnabled = routing.channelEnabled ∧
      ∀ channel, occurrence.1.insertDelivery channel = true

/-! ### Filters -/

/-- The filters of a trigger accept alerts of this key at this severity. -/
def AlertTrigger.accepts (trigger : AlertTrigger) (key : ActiveAlertKey) (severity : String) :
    Bool :=
  (trigger.filterSeverities = "" || containsCSV trigger.filterSeverities severity)
    && (trigger.filterSources = "" || containsCSV trigger.filterSources key.source)
    && (trigger.filterScopes = "" ||
      containsCSV trigger.filterScopes (key.entityType ++ ":" ++ key.entityId))

theorem matchesTrigger_eq (trigger : AlertTrigger) (alert : Alert) : matchesTrigger trigger alert =
      ((alert.status ≠ .resolved || trigger.notifyOnResolve) &&
        trigger.accepts alert.key alert.severity) := by
  simp only [matchesTrigger, AlertTrigger.accepts, Alert.key, Bool.if_false_left, Bool.decide_and,
    Bool.not_and, Bool.and_assoc, Bool.and_true, decide_not, Bool.not_not, Bool.decide_eq_true]

/-- A trigger that relays recoveries sends alerts of this key and severity to the channel. -/
def Routing.Relays (routing : Routing) (key : ActiveAlertKey) (severity channel : String) : Prop :=
  ∃ trigger ∈ routing.triggers, trigger.notifyOnResolve ∧ channel ∈ trigger.channelIds ∧
    trigger.accepts key severity

/-! ### Notifications -/

/-- The channel is notified. -/
def Notifies (outputs : List Output) (channel : String) : Prop :=
  ∃ payload, Output.notify channel payload ∈ outputs

variable {deps : EngineDeps} {alert : Alert} {channel : String} {outputs : List Output}

@[simp] theorem not_notifies_nil : ¬Notifies [] channel := by
  rintro ⟨payload, mem⟩
  cases mem

@[simp] theorem notifies_append (front back : List Output) :
    Notifies (front ++ back) channel ↔ Notifies front channel ∨ Notifies back channel := by
  simp only [Notifies, mem_append, exists_or]

@[simp] theorem not_notifies_broadcastAlert {silenced : Bool} :
    ¬Notifies (broadcastAlert deps alert silenced) channel := by
  rintro ⟨payload, mem⟩
  rw [broadcastAlert] at mem
  split at mem <;> simp at mem

@[simp] theorem not_notifies_broadcastResolved :
    ¬Notifies (broadcastResolved deps alert) channel := by
  rintro ⟨payload, mem⟩
  rw [broadcastResolved] at mem
  split at mem <;> simp at mem

@[simp] theorem notifies_cons_created :
    Notifies (.created alert :: outputs) channel ↔ Notifies outputs channel := by
  simp [Notifies]

@[simp] theorem notifies_cons_ended {id : AlertId} {at_ : Int} :
    Notifies (.ended id at_ :: outputs) channel ↔ Notifies outputs channel := by
  simp [Notifies]

theorem mem_deliveries {env : Environment} (stored : ∀ channel, env.insertDelivery channel = true)
    {channels served : List String} : channel ∈ deliveries env channels served ↔
      channel ∈ channels ∧ env.channelEnabled channel = true ∧ channel ∉ served := by
  induction channels generalizing served with
  | nil => simp [deliveries]
  | cons next channels ih =>
    rw [deliveries]
    split
    next already =>
      rw [ih, mem_cons]
      constructor
      · rintro ⟨mem, enabled, fresh⟩
        exact ⟨.inr mem, enabled, fresh⟩
      · rintro ⟨rfl | mem, enabled, fresh⟩
        · exact absurd already fresh
        · exact ⟨mem, enabled, fresh⟩
    · split
      next fresh enabled =>
        rw [if_pos (stored next), mem_append, mem_singleton, ih, mem_cons, mem_cons]
        by_cases here : channel = next
        · subst here
          exact iff_of_true (.inl rfl) ⟨.inl rfl, enabled, fresh⟩
        · simp [here]
      next disabled =>
        rw [ih, mem_cons]
        constructor
        · rintro ⟨mem, enabled, fresh⟩
          exact ⟨.inr mem, enabled, fresh⟩
        · rintro ⟨rfl | mem, enabled, fresh⟩
          · exact absurd enabled disabled
          · exact ⟨mem, enabled, fresh⟩

variable {broadcaster : Bool} {routing : Routing}

theorem notifies_dispatch {occurrence : Occurrence}
    (undisturbed : Undisturbed routing occurrence) {routeBy payload : Alert} :
    Notifies (dispatchNotifications ⟨true, broadcaster⟩ occurrence.1 routeBy payload) channel ↔
      routing.channelEnabled channel = true ∧
        ∃ trigger ∈ routing.triggers, matchesTrigger trigger routeBy ∧
          channel ∈ trigger.channelIds := by
  obtain ⟨-, triggers, enabled, stored⟩ := undisturbed
  have notified : Notifies (dispatchNotifications ⟨true, broadcaster⟩ occurrence.1 routeBy payload)
      channel ↔ channel ∈ deliveries occurrence.1 (triggeredChannels occurrence.1 routeBy) [] := by
    simp [Notifies, dispatchNotifications]
  rw [notified, mem_deliveries stored, triggeredChannels, triggers, enabled]
  simp only [mem_flatMap, mem_filter, not_mem_nil, not_false_eq_true, and_true]
  constructor
  · rintro ⟨⟨trigger, ⟨mem, matched⟩, lists⟩, on⟩
    exact ⟨on, trigger, mem, matched, lists⟩
  · rintro ⟨on, trigger, mem, matched, lists⟩
    exact ⟨⟨trigger, ⟨mem, matched⟩, lists⟩, on⟩

/-! ### The course of an alert -/

/-- The events that raise an alert which shows `best`. -/
def raises (best : Event) : List Event → List Event
  | [] => []
  | evt :: events =>
    if best.rank < evt.rank then evt :: raises evt events else raises best events

/-- The event an alert shows at the end: the first to reach the highest severity. -/
def highest (best : Event) : List Event → Event
  | [] => best
  | evt :: events => if best.rank < evt.rank then highest evt events else highest best events

/-- One event notifies the channel of the alert of the key, and a trigger that relays recoveries
matches the alert and sends it there. -/
def NotifiesThrough (routing : Routing) (key : ActiveAlertKey) (channel : String)
    (after : Engine × List Output) : Prop :=
  Notifies after.2 channel ∧ ∃ alert, after.1.active.lookup key = some alert ∧
    ∃ trigger ∈ routing.triggers, trigger.notifyOnResolve ∧ channel ∈ trigger.channelIds ∧
      matchesTrigger trigger alert

/-- One of these events does, when they are processed in order. -/
def NotifiedThrough (deps : EngineDeps) (routing : Routing) (key : ActiveAlertKey)
    (channel : String) : List Occurrence → Engine → Prop
  | [], _ => False
  | occurrence :: occurrences, engine =>
    let after := processEvent deps occurrence.1 occurrence.2 engine
    NotifiesThrough routing key channel after ∨
      NotifiedThrough deps routing key channel occurrences after.1

/-- The engine tracks an active alert of the event's key that shows its severity. -/
def Tracks (engine : Engine) (evt : Event) : Prop :=
  ∃ alert, engine.active.lookup evt.key = some alert ∧ alert.severity = evt.severity ∧
    alert.status = .active

variable {best : Event}

section Steps

variable {env : Environment} {evt : Event} {engine : Engine} (broadcaster : Bool) (channel)

theorem notifiesThrough_iff {after : Engine × List Output} (payload : Alert)
    (undisturbed : Undisturbed routing (env, evt))
    (tracked : after.1.active.lookup evt.key = some alert) (shown : alert.severity = evt.severity)
    (active : alert.status = .active) (dispatched : Notifies after.2 channel ↔
      Notifies (dispatchNotifications ⟨true, broadcaster⟩ env alert payload) channel) :
    NotifiesThrough routing evt.key channel after ↔
      routing.channelEnabled channel = true ∧ routing.Relays evt.key evt.severity channel := by
  have at_key := (Keyed.lookup_eq_some.mp tracked).2
  have matched (trigger : AlertTrigger) :
      matchesTrigger trigger alert = trigger.accepts evt.key evt.severity := by
    simp [matchesTrigger_eq, active, at_key, shown]
  rw [NotifiesThrough, dispatched, notifies_dispatch undisturbed]
  constructor
  · rintro ⟨⟨on, -⟩, other, found, trigger, mem, relays, lists, accepted⟩
    rw [tracked] at found
    cases found
    rw [matched] at accepted
    exact ⟨on, trigger, mem, relays, lists, accepted⟩
  · rintro ⟨on, trigger, mem, relays, lists, accepted⟩
    rw [← matched] at accepted
    exact ⟨⟨on, trigger, mem, accepted, lists⟩, alert, tracked, trigger, mem, relays, lists,
      accepted⟩

theorem processEvent_first (undisturbed : Undisturbed routing (env, evt))
    (fires : evt.isRecover = false) (absent : engine.active.lookup evt.key = none) :
    Tracks (processEvent ⟨true, broadcaster⟩ env evt engine).1 evt ∧
      (NotifiesThrough routing evt.key channel (processEvent ⟨true, broadcaster⟩ env evt engine) ↔
        routing.channelEnabled channel = true ∧ routing.Relays evt.key evt.severity channel) := by
  have inserts : env.insertAlert = true := undisturbed.1.1.1
  have audible : checkSilenceRules env evt = false := undisturbed.1.2
  let alert := engine.store.prepare env.now (newAlert evt false)
  have fired : processEvent ⟨true, broadcaster⟩ env evt engine =
      (⟨engine.active.insert alert, engine.store.insertAlert env.now (newAlert evt false)⟩,
        fireOutputs ⟨true, broadcaster⟩ env alert false) := by
    simp [alert, processEvent, fireAlert, fires, absent, audible, inserts]
  have tracked : (engine.active.insert alert).lookup evt.key = some alert :=
    Keyed.lookup_insert_self _ _
  rw [fired]
  refine ⟨⟨_, tracked, rfl, rfl⟩, notifiesThrough_iff channel broadcaster alert undisturbed
    tracked rfl rfl ?_⟩
  simp [fireOutputs]

theorem processEvent_raise (undisturbed : Undisturbed routing (env, evt))
    (fires : evt.isRecover = false) (same : evt.key = best.key) (tracks : Tracks engine best)
    (outranks : best.rank < evt.rank) :
    Tracks (processEvent ⟨true, broadcaster⟩ env evt engine).1 evt ∧
      (NotifiesThrough routing evt.key channel (processEvent ⟨true, broadcaster⟩ env evt engine) ↔
        routing.channelEnabled channel = true ∧ routing.Relays evt.key evt.severity channel) := by
  obtain ⟨existing, found, shown, active⟩ := tracks
  have updates : env.updateAlertOnEscalation = true := undisturbed.1.1.2.1
  have outranked : existing.rank < evt.rank := by
    rw [Alert.rank, shown]
    exact outranks
  rw [← same] at found
  have at_key := (Keyed.lookup_eq_some.mp found).2
  simp only [processEvent, fires, Bool.false_eq_true, if_false, found, outranked, if_true,
    escalateAlert, updates]
  generalize (if env.getAlert then _ else none) = row
  have raised_key : ((existing.refresh evt).reload row).key = evt.key := by
    rw [Alert.key_reload, Alert.key_refresh, at_key]
  have raised_face : ((existing.refresh evt).reload row).severity = evt.severity ∧
      ((existing.refresh evt).reload row).status = .active := by
    cases row <;> exact ⟨rfl, active⟩
  generalize (existing.refresh evt).reload row = alert at raised_key raised_face
  have tracked (active : Keyed Alert.key) : (active.insert alert).lookup evt.key = some alert := by
    rw [← raised_key, Keyed.lookup_insert_self]
  refine ⟨⟨alert, tracked _, raised_face⟩, notifiesThrough_iff channel broadcaster
    { alert with message := raisedMessage existing.severity alert } undisturbed (tracked _)
    raised_face.1 raised_face.2 ?_⟩
  simp only [escalationOutputs]
  split <;> simp

theorem processEvent_repeat (fires : evt.isRecover = false)
    (same : evt.key = best.key) (tracks : Tracks engine best) (repeats : ¬best.rank < evt.rank) :
    processEvent ⟨true, broadcaster⟩ env evt engine = (engine, []) := by
  obtain ⟨existing, found, shown, -⟩ := tracks
  have not_outranked : ¬existing.rank < evt.rank := by
    rw [Alert.rank, shown]
    exact repeats
  rw [← same] at found
  simp [processEvent, fires, found, not_outranked]

theorem processEvent_recovery (undisturbed : Undisturbed routing (env, evt))
    (recovers : evt.isRecover = true) (same : evt.key = best.key) (tracks : Tracks engine best) :
    Notifies (processEvent ⟨true, broadcaster⟩ env evt engine).2 channel ↔
      routing.channelEnabled channel = true ∧ routing.Relays best.key best.severity channel := by
  obtain ⟨original, found, shown, -⟩ := tracks
  have at_key := (Keyed.lookup_eq_some.mp found).2
  have inserts : env.insertAlert = true := undisturbed.1.1.1
  have matched (trigger : AlertTrigger) (recoveryId : AlertId) :
      matchesTrigger trigger (original.markRecovered evt.timestamp recoveryId) =
        (trigger.notifyOnResolve && trigger.accepts best.key best.severity) := by
    rw [matchesTrigger_eq, ← at_key, ← shown]
    simp [Alert.markRecovered, Alert.markResolved, Alert.key]
  rw [← same] at found
  simp only [processEvent, recovers, if_true, processRecovery, found, inserts, recoveryOutputs,
    notifies_cons_ended, notifies_append, not_notifies_broadcastResolved, false_or]
  rw [notifies_dispatch undisturbed]
  refine and_congr_right fun _ => exists_congr fun trigger => and_congr_right fun _ => ?_
  rw [matched, Bool.and_eq_true, and_assoc, and_comm (a := trigger.accepts _ _ = true)]

end Steps

/-- Further events of the key of an alert that shows `best`: the notifications on the way and the
alert at the end. -/
theorem processAll_repeats {repeats : List Occurrence} {engine : Engine}
    (undisturbed : ∀ occurrence ∈ repeats, Undisturbed routing occurrence)
    (fires : ∀ occurrence ∈ repeats, occurrence.2.key = best.key ∧
      occurrence.2.isRecover = false) (tracks : Tracks engine best) :
    (NotifiedThrough ⟨true, broadcaster⟩ routing best.key channel repeats engine ↔
      routing.channelEnabled channel = true ∧ ∃ evt ∈ raises best (repeats.map Prod.snd),
        routing.Relays best.key evt.severity channel) ∧
    (highest best (repeats.map Prod.snd)).key = best.key ∧
    Tracks (processAll ⟨true, broadcaster⟩ repeats engine).1
      (highest best (repeats.map Prod.snd)) := by
  induction repeats generalizing engine best with
  | nil => exact ⟨by simp [NotifiedThrough, raises], rfl, tracks⟩
  | cons occurrence repeats ih =>
    obtain ⟨env, evt⟩ := occurrence
    obtain ⟨calm, undisturbed⟩ := forall_mem_cons.mp undisturbed
    obtain ⟨⟨same, fire⟩, fires⟩ := forall_mem_cons.mp fires
    simp only [NotifiedThrough, processAll, map_cons, raises, highest]
    by_cases outranks : best.rank < evt.rank
    · obtain ⟨raised, through⟩ :=
        processEvent_raise channel broadcaster calm fire same tracks outranks
      rw [← same] at fires ⊢
      obtain ⟨later, at_key, shown⟩ := ih undisturbed fires raised
      simp only [outranks, if_true]
      refine ⟨?_, at_key, shown⟩
      rw [through, later]
      simp only [mem_cons, exists_eq_or_imp]
      exact and_or_left.symm
    · rw [processEvent_repeat broadcaster fire same tracks outranks]
      obtain ⟨later, at_key, shown⟩ := ih undisturbed fires tracks
      simp only [outranks, if_false]
      refine ⟨?_, at_key, shown⟩
      rw [← later]
      simp [NotifiesThrough]

/-- An alert from its first event to its recovery, with the same triggers and channels all along and
nothing silenced or failing. -/
structure Course (routing : Routing) (engine : Engine) (first : Occurrence)
    (repeats : List Occurrence) (recovery : Occurrence) : Prop where
  /-- Routing and store are as described at every event. -/
  undisturbed : ∀ occurrence ∈ first :: recovery :: repeats, Undisturbed routing occurrence
  same_key : ∀ occurrence ∈ recovery :: repeats, occurrence.2.key = first.2.key
  fires : ∀ occurrence ∈ first :: repeats, occurrence.2.isRecover = false
  recovers : recovery.2.isRecover = true
  absent : engine.active.lookup first.2.key = none

/-- Every recipient learns of the recovery exactly when each channel that a relaying trigger sent
the alert to has one that accepts the highest severity it reached. -/
theorem recipients_learn_recovery_iff (routing : Routing) (broadcaster : Bool) (engine : Engine)
    (first : Occurrence) (repeats : List Occurrence) (recovery : Occurrence)
    (course : Course routing engine first repeats recovery) :
    (∀ channel, NotifiedThrough ⟨true, broadcaster⟩ routing first.2.key channel
        (first :: repeats) engine → Notifies (processEvent ⟨true, broadcaster⟩ recovery.1 recovery.2
        (processAll ⟨true, broadcaster⟩ (first :: repeats) engine).1).2 channel) ↔
    ∀ channel, routing.channelEnabled channel = true →
      ∀ evt ∈ first.2 :: raises first.2 (repeats.map Prod.snd),
        routing.Relays first.2.key evt.severity channel →
          routing.Relays first.2.key (highest first.2 (repeats.map Prod.snd)).severity channel := by
  obtain ⟨start_calm, calm⟩ := forall_mem_cons.mp course.undisturbed
  obtain ⟨recovery_calm, repeats_calm⟩ := forall_mem_cons.mp calm
  obtain ⟨recovery_key, repeats_key⟩ := forall_mem_cons.mp course.same_key
  obtain ⟨start_fires, repeats_fire⟩ := forall_mem_cons.mp course.fires
  refine forall_congr' fun channel => ?_
  obtain ⟨tracks, through⟩ := processEvent_first channel broadcaster start_calm start_fires
    course.absent
  obtain ⟨later, at_key, shown⟩ := processAll_repeats repeats_calm (fun occurrence mem =>
      ⟨repeats_key occurrence mem, repeats_fire occurrence mem⟩) tracks
  have recovered := processEvent_recovery channel broadcaster recovery_calm course.recovers
    (recovery_key.trans at_key.symm) shown
  simp only [NotifiedThrough, processAll]
  rw [recovered, through, later, at_key]
  simp only [mem_cons, forall_eq_or_imp]
  constructor
  · intro learned on
    exact ⟨fun relays => (learned (Or.inl ⟨on, relays⟩)).2,
      fun evt mem relays => (learned (Or.inr ⟨on, evt, mem, relays⟩)).2⟩
  · rintro relayed (⟨on, relays⟩ | ⟨on, evt, mem, relays⟩)
    · exact ⟨on, (relayed on).1 relays⟩
    · exact ⟨on, (relayed on).2 evt mem relays⟩

/-! ### Fixed inputs -/

/-- Everything the trigger accepts goes to the channel `ops`. -/
def opsRouting (severities : String) : Routing where
  triggers := [⟨severities, "", "", true, ["ops"]⟩]
  channelEnabled _ := true

/-- An event about one endpoint under this routing. -/
def opsOccurrence (severities severity : String) (isRecover : Bool) : Occurrence :=
  ({ calmEnvironment with triggers := some (opsRouting severities).triggers },
    endpointEvent severity isRecover)

theorem raised_course (severities : String) :
    Course (opsRouting severities) .empty (opsOccurrence severities "warning" false)
      [opsOccurrence severities "critical" false] (opsOccurrence severities "info" true) where
  undisturbed := by
    intro occurrence mem
    simp only [mem_cons, not_mem_nil, or_false] at mem
    rcases mem with rfl | rfl | rfl <;>
      exact ⟨⟨⟨rfl, rfl, rfl, rfl⟩, rfl⟩, rfl, rfl, fun _ => rfl⟩
  same_key := by
    intro occurrence mem
    simp only [mem_cons, not_mem_nil, or_false] at mem
    rcases mem with rfl | rfl <;> rfl
  fires := by
    intro occurrence mem
    simp only [mem_cons, not_mem_nil, or_false] at mem
    rcases mem with rfl | rfl <;> rfl
  recovers := rfl
  absent := rfl

/-- A trigger on both severities relays the recovery of the raised alert. -/
theorem recipients_learn_recovery_both_severities :
    Course (opsRouting "warning,critical") .empty (opsOccurrence "warning,critical" "warning" false)
        [opsOccurrence "warning,critical" "critical" false]
        (opsOccurrence "warning,critical" "info" true) ∧
      ∀ channel, NotifiedThrough ⟨true, true⟩ (opsRouting "warning,critical")
        (endpointEvent "warning" false).key channel
        [opsOccurrence "warning,critical" "warning" false,
          opsOccurrence "warning,critical" "critical" false] .empty →
      Notifies (processEvent ⟨true, true⟩ (opsOccurrence "warning,critical" "info" true).1
        (endpointEvent "info" true) (processAll ⟨true, true⟩
          [opsOccurrence "warning,critical" "warning" false,
            opsOccurrence "warning,critical" "critical" false] .empty).1).2 channel := by
  have course := raised_course "warning,critical"
  refine ⟨course, (recipients_learn_recovery_iff _ true _ _ _ _ course).mpr ?_⟩
  rintro channel - evt - ⟨trigger, mem, relays, lists, -⟩
  refine ⟨trigger, mem, relays, lists, ?_⟩
  rw [mem_singleton.mp mem]
  decide

/-- A trigger on warnings alone sends the alert while it is a warning, but once it has become
critical its recovery goes to nobody. -/
theorem raised_alert_recovers_unheard :
    Course (opsRouting "warning") .empty (opsOccurrence "warning" "warning" false)
        [opsOccurrence "warning" "critical" false] (opsOccurrence "warning" "info" true) ∧
      NotifiedThrough ⟨true, true⟩ (opsRouting "warning") (endpointEvent "warning" false).key "ops"
        [opsOccurrence "warning" "warning" false, opsOccurrence "warning" "critical" false] .empty ∧
      ¬Notifies (processEvent ⟨true, true⟩ (opsOccurrence "warning" "info" true).1
        (endpointEvent "info" true) (processAll ⟨true, true⟩
          [opsOccurrence "warning" "warning" false, opsOccurrence "warning" "critical" false]
          .empty).1).2 "ops" := by
  have course := raised_course "warning"
  refine ⟨course, .inl ?_, ?_⟩
  · have calm := course.undisturbed _ mem_cons_self
    exact (processEvent_first "ops" true calm rfl rfl).2.mpr
      ⟨rfl, _, mem_singleton_self _, rfl, mem_singleton_self _, by decide⟩
  have calm := course.undisturbed _ (mem_cons_of_mem _ mem_cons_self)
  have tracks : Tracks (processAll ⟨true, true⟩
      [opsOccurrence "warning" "warning" false, opsOccurrence "warning" "critical" false]
      .empty).1 (endpointEvent "critical" false) := ⟨_, rfl, rfl, rfl⟩
  have same : (endpointEvent "info" true).key = (endpointEvent "critical" false).key := rfl
  intro heard
  obtain ⟨-, trigger, mem, -, -, accepted⟩ :=
    (processEvent_recovery "ops" true calm rfl same tracks).mp heard
  rw [mem_singleton.mp mem] at accepted
  revert accepted
  decide

end Maintenant.Alerting
