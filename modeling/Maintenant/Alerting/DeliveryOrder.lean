import Maintenant.Alerting.Notifier

/-!
# Notifications arrive in order

All jobs about one alert and one channel go through one queue, which one worker empties, so they are
sent in the order in which they were offered and never two at once.  The engine offers a recovery
under the id of the alert it resolves and after everything else about that alert.
-/

namespace Maintenant.Alerting

open Keyed Program Function Option
open List (mem_append mem_cons mem_map mem_snoc not_mem_nil pairwise_snoc)

/-! ### What the engine notifies about -/

/-- Alerts the engine tracks have ids of their own and are not resolved. -/
structure Engine.Numbered (engine : Engine) : Prop where
  given : ∀ alert ∈ engine.active, alert.id < engine.store.nextId
  live : ∀ alert ∈ engine.active, alert.status ≠ .resolved
  single : ∀ left ∈ engine.active, ∀ right ∈ engine.active, left.id = right.id → left = right

/-- The engine tracks an alert of this id. -/
def Engine.Follows (engine : Engine) (id : AlertId) : Prop := ∃ alert ∈ engine.active, alert.id = id

/-- A notification under the id of its subject, which is tracked, or whose recovery it is. -/
def Engine.Announces (engine : Engine) (subject : Option AlertId) (payload : Rendering) : Prop :=
  ∃ alert, payload = alertToMap alert ∧ subject = some alert.id ∧ alert.id < engine.store.nextId ∧
    (alert.status = .resolved ∧ ¬engine.Follows alert.id ∨
      alert.status ≠ .resolved ∧ engine.Follows alert.id)

/-- What an event about an alert may do to the alerts of an engine. -/
structure Engine.Succeeds (subject : Option AlertId) (before after : Engine)
    (outputs : List Output) : Prop where
  numbered : after.Numbered
  nextId : before.store.nextId ≤ after.store.nextId
  follows : ∀ id, after.Follows id → before.Follows id ∨ before.store.nextId ≤ id
  announces : ∀ channel payload, .notify channel payload ∈ outputs →
    after.Announces subject payload

variable {store : AlertStore}

section Events

variable {deps : EngineDeps} {env : Environment} {engine : Engine} {evt : Event}

theorem renderedResolved_alertToMap (alert : Alert) :
    renderedResolved (alertToMap alert) = decide (alert.status = .resolved) := by
  have status : (alertToMap alert).lookup "status" = some (.status alert.status) := rfl
  rw [renderedResolved, status]
  simp

variable {alert : Alert} {channel : String} {payload : Rendering}

theorem payload_of_dispatch {routeBy : Alert}
    (mem : .notify channel payload ∈ dispatchNotifications deps env routeBy alert) :
    payload = alertToMap alert := by
  rw [dispatchNotifications] at mem
  split at mem
  · obtain ⟨sent, -, same⟩ := mem_map.mp mem
    cases same
    rfl
  · cases mem

theorem not_notify_broadcast {silenced : Bool} :
    .notify channel payload ∉ broadcastAlert deps alert silenced := by
  rw [broadcastAlert]
  split <;> simp

theorem not_notify_resolved : .notify channel payload ∉ broadcastResolved deps alert := by
  rw [broadcastResolved]
  split <;> simp

section

variable (numbered : engine.Numbered)
include numbered

theorem Engine.Succeeds.refl (subject : Option AlertId) :
    Engine.Succeeds subject engine engine [] where
  numbered := numbered
  nextId := le_rfl
  follows _ followed := .inl followed
  announces _ _ mem := absurd mem not_mem_nil

/-- An alert that shares its id with the entry of its key at most may enter the map. -/
theorem Engine.Numbered.insert (more : engine.store.nextId ≤ store.nextId)
    (given : alert.id < store.nextId) (live : alert.status ≠ .resolved)
    (own : ∀ other ∈ engine.active, other.id = alert.id → other.key = alert.key) :
    Engine.Numbered ⟨engine.active.insert alert, store⟩ where
  given other mem := by
    rcases mem_insert.mp mem with ⟨old, -⟩ | rfl
    · exact (numbered.given other old).trans_le more
    · exact given
  live other mem := by
    rcases mem_insert.mp mem with ⟨old, -⟩ | rfl
    · exact numbered.live other old
    · exact live
  single left left_mem right right_mem same := by
    rcases mem_insert.mp left_mem with ⟨left_old, left_key⟩ | rfl
    · rcases mem_insert.mp right_mem with ⟨right_old, -⟩ | rfl
      · exact numbered.single left left_old right right_old same
      · exact absurd (own left left_old same) left_key
    · rcases mem_insert.mp right_mem with ⟨right_old, right_key⟩ | rfl
      · exact absurd (own right right_old same.symm) right_key
      · rfl

theorem Engine.Numbered.fireAlert :
    engine.Succeeds (((fireAlert deps env evt engine).1.active.lookup evt.key).map Alert.id)
      (fireAlert deps env evt engine).1 (fireAlert deps env evt engine).2 := by
  rw [Alerting.fireAlert]
  split
  · cases silenced : checkSilenceRules env evt with
    | true =>
      refine ⟨⟨?_, numbered.live, numbered.single⟩, Nat.le_succ _, fun _ => .inl, ?_⟩
      · exact fun alert mem => Nat.lt_succ_of_lt (numbered.given alert mem)
      · intro channel payload mem
        simp [fireOutputs, not_notify_broadcast] at mem
    | false =>
      have new_id : (engine.store.prepare env.now (newAlert evt false)).id = engine.store.nextId :=
        rfl
      have new_status : (engine.store.prepare env.now (newAlert evt false)).status = .active := rfl
      have new_key : (engine.store.prepare env.now (newAlert evt false)).key = evt.key := rfl
      generalize engine.store.prepare env.now (newAlert evt false) = alert
        at new_id new_status new_key
      have given : alert.id < (engine.store.insertAlert env.now (newAlert evt false)).nextId :=
        new_id ▸ Nat.lt_succ_self _
      have live : alert.status ≠ .resolved := by simp [new_status]
      refine ⟨numbered.insert (Nat.le_succ _) given live ?_, Nat.le_succ _, ?_, ?_⟩
      · exact fun other old same => absurd (same.trans new_id) (numbered.given other old).ne
      · rintro id ⟨tracked, mem, rfl⟩
        rcases mem_insert.mp mem with ⟨old, -⟩ | rfl
        · exact .inl ⟨tracked, old, rfl⟩
        · exact .inr new_id.ge
      · intro channel payload mem
        simp only [fireOutputs, if_false, mem_append, mem_cons, not_notify_broadcast,
          false_or, reduceCtorEq] at mem
        refine ⟨alert, payload_of_dispatch mem, ?_, given, .inr ⟨live, ?_⟩⟩
        · change ((engine.active.insert alert).lookup evt.key).map Alert.id = _
          rw [← new_key, lookup_insert_self, map_some]
        · exact ⟨alert, mem_insert.mpr (.inr rfl), rfl⟩
  · exact .refl numbered _

theorem Engine.Numbered.update (subject : Option AlertId) (key : ActiveAlertKey) :
    engine.Succeeds subject
      { engine with active := engine.active.update key (Alert.refresh evt) Alert.key_refresh }
      [] := by
  have origin : ∀ alert ∈ engine.active.update key (Alert.refresh evt) Alert.key_refresh,
      ∃ old ∈ engine.active, old.id = alert.id ∧ old.status = alert.status ∧
        alert = if old.key = key then old.refresh evt else old := by
    intro alert mem
    rcases (mem_update _).mp mem with ⟨old, other⟩ | ⟨old, old_mem, here, rfl⟩
    · exact ⟨alert, old, rfl, rfl, (if_neg other).symm⟩
    · exact ⟨old, old_mem, rfl, rfl, (if_pos here).symm⟩
  refine ⟨⟨?_, ?_, ?_⟩, le_rfl, ?_, fun _ _ mem => absurd mem not_mem_nil⟩
  · intro alert mem
    obtain ⟨old, old_mem, id, -⟩ := origin alert mem
    exact id ▸ numbered.given old old_mem
  · intro alert mem
    obtain ⟨old, old_mem, -, status, -⟩ := origin alert mem
    exact status ▸ numbered.live old old_mem
  · intro left left_mem right right_mem same
    obtain ⟨left_old, left_old_mem, left_id, -, rfl⟩ := origin left left_mem
    obtain ⟨right_old, right_old_mem, right_id, -, rfl⟩ := origin right right_mem
    have old_same : left_old.id = right_old.id := left_id.trans (same.trans right_id.symm)
    rw [numbered.single left_old left_old_mem right_old right_old_mem old_same]
  · rintro id ⟨alert, mem, rfl⟩
    obtain ⟨old, old_mem, same, -⟩ := origin alert mem
    exact .inl ⟨old, old_mem, same⟩

theorem Engine.Numbered.escalateAlert {existing : Alert} (tracked : existing ∈ engine.active) :
    engine.Succeeds
      (((escalateAlert deps env existing evt engine).1.active.lookup existing.key).map Alert.id)
      (escalateAlert deps env existing evt engine).1
      (escalateAlert deps env existing evt engine).2 := by
  rw [Alerting.escalateAlert]
  split
  · dsimp only
    generalize (if env.getAlert then _ else none) = row
    have raised_key : ((existing.refresh evt).reload row).key = existing.key := by
      rw [Alert.key_reload, Alert.key_refresh]
    have raised_id : ((existing.refresh evt).reload row).id = existing.id := Alert.id_reload
    have raised_status : ((existing.refresh evt).reload row).status = existing.status := by
      cases row <;> rfl
    rw [insert_update _ raised_key]
    generalize (existing.refresh evt).reload row = alert at raised_key raised_id raised_status
    have given : alert.id < engine.store.nextId := raised_id ▸ numbered.given existing tracked
    have live : alert.status ≠ .resolved := raised_status ▸ numbered.live existing tracked
    refine ⟨numbered.insert le_rfl given live ?_, le_rfl, ?_, ?_⟩
    · -- The only other entry with the id of `alert` has its key, and was replaced.
      intro other old same
      rw [numbered.single other old existing tracked (same.trans raised_id), raised_key]
    · rintro id ⟨other, mem, rfl⟩
      rcases mem_insert.mp mem with ⟨old, -⟩ | rfl
      · exact .inl ⟨other, old, rfl⟩
      · exact .inl ⟨existing, tracked, raised_id.symm⟩
    · intro channel payload mem
      simp only [escalationOutputs, mem_append, not_notify_broadcast] at mem
      rcases mem with created | sent
      · split at created <;> simp at created
      · refine ⟨_, payload_of_dispatch sent, ?_, given, .inr ⟨live, ?_⟩⟩
        · rw [← raised_key, lookup_insert_self, map_some]
        · exact ⟨alert, mem_insert.mpr (.inr rfl), rfl⟩
  · exact numbered.update _ existing.key

theorem Engine.Numbered.processRecovery :
    engine.Succeeds ((engine.active.lookup evt.key).map Alert.id)
      (processRecovery deps env evt engine).1 (processRecovery deps env evt engine).2 := by
  rw [Alerting.processRecovery]
  cases found : engine.active.lookup evt.key with
  | none => exact .refl numbered _
  | some original =>
    obtain ⟨tracked, at_key⟩ := lookup_eq_some.mp found
    have shrinks (store : AlertStore) (more : engine.store.nextId ≤ store.nextId) :
        engine.Succeeds (some original.id) ⟨engine.active.erase evt.key, store⟩ [] := by
      refine ⟨⟨?_, ?_, ?_⟩, more, ?_, fun _ _ mem => absurd mem not_mem_nil⟩
      · intro alert mem
        exact Nat.lt_of_lt_of_le (numbered.given alert (mem_erase.mp mem).1) more
      · exact fun alert mem => numbered.live alert (mem_erase.mp mem).1
      · intro left left_mem right right_mem
        exact numbered.single left (mem_erase.mp left_mem).1 right (mem_erase.mp right_mem).1
      · rintro id ⟨alert, mem, rfl⟩
        exact .inl ⟨alert, (mem_erase.mp mem).1, rfl⟩
    dsimp only
    split
    · refine { shrinks _ ?_ with announces := ?_ }
      · split <;> exact Nat.le_succ _
      intro channel payload mem
      simp only [recoveryOutputs, mem_append, mem_cons, not_notify_resolved,
        reduceCtorEq, false_or] at mem
      have given : original.id < (if env.updateAlertStatus = true then
          ((engine.store.insertAlert env.now (recoveryAlert evt original)).updateAlertStatus
            original.id .resolved (some evt.timestamp) (some engine.store.nextId))
          else engine.store.insertAlert env.now (recoveryAlert evt original)).nextId := by
        split <;> exact Nat.lt_succ_of_lt (numbered.given original tracked)
      refine ⟨_, payload_of_dispatch mem, rfl, given, .inl ⟨rfl, ?_⟩⟩
      rintro ⟨alert, remaining, same⟩
      obtain ⟨old, other⟩ := mem_erase.mp remaining
      obtain rfl := numbered.single alert old original tracked same
      exact other at_key
    · exact shrinks engine.store (le_rfl)

/-- Ids stay distinct, and what an event notifies has the id of its alert: a recovery that of the
alert it resolves. -/
theorem Engine.Numbered.processEvent :
    engine.Succeeds (subjectOf evt engine (processEvent deps env evt engine).1)
      (processEvent deps env evt engine).1 (processEvent deps env evt engine).2 := by
  rw [Alerting.processEvent, subjectOf]
  split
  · exact numbered.processRecovery
  cases found : engine.active.lookup evt.key with
  | none => exact numbered.fireAlert
  | some =>
    dsimp only
    split
    · obtain ⟨tracked, at_key⟩ := lookup_eq_some.mp found
      exact at_key ▸ numbered.escalateAlert tracked
    · exact .refl numbered _

end

theorem numbered_reload : (reloadActiveAlerts store).Numbered where
  given alert mem := store.fresh alert (mem_rows_of_mem_reload mem).1
  live alert mem := by simp [(mem_rows_of_mem_reload mem).2]
  single left left_mem right right_mem same :=
    eq_of_key (mem_rows_of_mem_reload left_mem).1 (mem_rows_of_mem_reload right_mem).1 same

end Events

/-! ### The law -/

/-- The tickets are about one alert and one channel. -/
def Ticket.SamePair (left right : Ticket) : Prop :=
  left.job.pair.isSome ∧ left.job.pair = right.job.pair

/-- Notifications about one alert to one channel are sent in order. -/
structure Dispatch.InOrder (state : Dispatch) : Prop where
  /-- Those that are over are among those offered, in the order of the offers. -/
  completed : ∀ pair, (state.completed.filter fun ticket => ticket.job.pair = some pair).Sublist
    (state.offered.filter fun ticket => ticket.job.pair = some pair)
  /-- Nothing about an earlier offer happens after something about a later one. -/
  sent : state.log.Pairwise fun earlier later => earlier.ticket.SamePair later.ticket →
    earlier.ticket.serial ≤ later.ticket.serial
  apart : state.sending.Pairwise fun left right => ¬left.2.SamePair right.2
  /-- The engine notifies under the id of the alert the event is about: of a recovery, under that of
  the alert it resolves. -/
  named : ∀ ticket ∈ state.offered, ∀ id ∈ ticket.subject,
    ticket.job.pair = some (some id, ticket.job.channel.id)
  /-- A recovery is offered after everything else about the alert it resolves. -/
  resolved : ∀ firing ∈ state.offered, ∀ recovery ∈ state.offered, firing.subject.isSome →
    firing.subject = recovery.subject → recovery.job.recovers → firing.job.recovers = false →
      firing.serial < recovery.serial
  /-- Once a recovery is being sent to a channel, nothing else about the alert it resolves is. -/
  recoveries : state.log.Pairwise fun earlier later => earlier.ticket.subject.isSome →
    earlier.ticket.subject = later.ticket.subject →
      earlier.ticket.job.channel.id = later.ticket.job.channel.id →
        earlier.ticket.job.recovers → later.ticket.job.recovers

variable {job : NotificationJob}

namespace Dispatch

/-- The invariant of queues, workers and the log of sends. -/
structure Lawful (setup : NotifierSetup) (state : Dispatch) : Prop where
  numbered : state.engine.Numbered
  serials : state.offered.Pairwise fun left right => left.serial < right.serial
  counted : ∀ ticket ∈ state.offered, ticket.serial < state.offered.length
  /-- What a worker took and what waits in its queue was offered to its stream, in this order. -/
  lanes : ∀ worker, (state.taken worker ++ state.queues worker).Sublist
    (state.offered.filter fun ticket => setup.streamOf ticket.job = worker)
  /-- What is sent was taken by the worker of its stream. -/
  logged : ∀ entry ∈ state.log, entry.ticket ∈ state.taken (setup.streamOf entry.ticket.job)
  /-- Each stream is sent in order, one ticket after the other. -/
  ordered : state.log.Pairwise fun earlier later =>
    setup.streamOf earlier.ticket.job = setup.streamOf later.ticket.job →
      earlier.ticket.serial ≤ later.ticket.serial ∧
        (earlier.phase.completes → earlier.ticket.serial < later.ticket.serial)
  sends : ∀ send ∈ state.sending, send.2 ∈ state.taken send.1
  single : state.sending.Pairwise fun left right => left.1 ≠ right.1
  /-- Tickets of the engine are about alerts it made, recoveries about alerts it tracks no more. -/
  issued : ∀ ticket ∈ state.offered, ∀ id ∈ ticket.subject,
    ticket.job.pair = some (some id, ticket.job.channel.id) ∧ id < state.engine.store.nextId ∧
      (ticket.job.recovers → ¬state.engine.Follows id)
  /-- The engine offers nothing about an alert after its recovery. -/
  final : ∀ earlier ∈ state.offered, ∀ later ∈ state.offered, earlier.serial < later.serial →
    earlier.subject.isSome → earlier.subject = later.subject →
      earlier.job.recovers → later.job.recovers

/-- The worker sends nothing. -/
def Free (worker : Nat) (state : Dispatch) : Prop := ∀ send ∈ state.sending, send.1 ≠ worker

/-- The worker is at a ticket it took last and has not completed. -/
structure Holding (setup : NotifierSetup) (worker : Nat) (ticket : Ticket) (state : Dispatch) :
    Prop where
  taken : ticket ∈ state.taken worker
  latest : ∀ other ∈ state.taken worker, other.serial ≤ ticket.serial
  before : ∀ entry ∈ state.log, setup.streamOf entry.ticket.job = worker →
    entry.phase.completes → entry.ticket.serial < ticket.serial

variable {setup : NotifierSetup} {state before middle after : Dispatch} {worker : Nat}
  {ticket : Ticket} {phase : SendPhase} {subject : Option AlertId}

namespace Lawful

section

variable (lawful : state.Lawful setup)
include lawful

theorem mem_offered (taken : ticket ∈ state.taken worker) :
    ticket ∈ state.offered ∧ setup.streamOf ticket.job = worker := by
  have mem := (lawful.lanes worker).subset (List.mem_append_left _ taken)
  simpa using List.mem_filter.mp mem

theorem eq_of_serial {other : Ticket}
    (ticket_mem : ticket ∈ state.offered) (other_mem : other ∈ state.offered)
    (same : ticket.serial = other.serial) : ticket = other := by
  have distinct : (state.offered.map Ticket.serial).Nodup :=
    List.pairwise_map.mpr (lawful.serials.imp fun less => less.ne)
  exact List.inj_on_of_nodup_map distinct ticket_mem other_mem same

theorem log_mem_offered {entry : SendEntry}
    (mem : entry ∈ state.log) : entry.ticket ∈ state.offered :=
  (lawful.mem_offered (lawful.logged entry mem)).1

theorem inOrder : state.InOrder where
  completed := by
    intro pair
    have streams : ∀ left ∈ state.log, ∀ right ∈ state.log, left.ticket.job.pair = some pair →
        right.ticket.job.pair = some pair →
          setup.streamOf left.ticket.job = setup.streamOf right.ticket.job := by
      intro left _ right _ left_pair right_pair
      exact setup.streamOf_eq (by simp [left_pair]) (left_pair.trans right_pair.symm)
    have sorted : (state.completed.filter fun ticket => ticket.job.pair = some pair).Pairwise
        fun left right => left.serial < right.serial := by
      rw [completed, List.filter_map, List.pairwise_map]
      refine List.Pairwise.imp_of_mem ?_ ((lawful.ordered.filter _).filter _)
      intro left right left_mem right_mem order
      simp only [List.mem_filter, comp_apply, decide_eq_true_eq] at left_mem right_mem
      obtain ⟨⟨left_mem, completes⟩, left_pair⟩ := left_mem
      obtain ⟨⟨right_mem, -⟩, right_pair⟩ := right_mem
      exact (order (streams left left_mem right right_mem left_pair right_pair)).2 completes
    have included : ∀ ticket ∈ state.completed.filter fun ticket => ticket.job.pair = some pair,
        ticket ∈ state.offered.filter fun ticket => ticket.job.pair = some pair := by
      intro ticket mem
      obtain ⟨done, same⟩ := List.mem_filter.mp mem
      obtain ⟨entry, entry_mem, rfl⟩ := mem_map.mp done
      exact List.mem_filter.mpr ⟨lawful.log_mem_offered (List.mem_filter.mp entry_mem).1, same⟩
    refine List.sublist_of_subperm_of_pairwise ?_ sorted (lawful.serials.filter _)
    refine List.subperm_of_subset ?_ included
    exact sorted.imp fun less same => absurd (congrArg Ticket.serial same) less.ne
  sent := by
    refine lawful.ordered.imp ?_
    intro earlier later order same
    exact (order (setup.streamOf_eq same.1 same.2)).1
  apart := by
    refine List.Pairwise.imp_of_mem ?_ lawful.single
    intro left right left_mem right_mem different same
    have left_stream := (lawful.mem_offered (lawful.sends left left_mem)).2
    have right_stream := (lawful.mem_offered (lawful.sends right right_mem)).2
    refine different ?_
    rw [← left_stream, ← right_stream]
    exact setup.streamOf_eq same.1 same.2
  named ticket mem id about := (lawful.issued ticket mem id about).1
  resolved firing firing_mem recovery recovery_mem engine same recovers fires := by
    rcases lt_trichotomy firing.serial recovery.serial with less | equal | more
    · exact less
    · rw [lawful.eq_of_serial firing_mem recovery_mem equal, recovers] at fires
      cases fires
    · have also :=
        lawful.final recovery recovery_mem firing firing_mem more (same ▸ engine) same.symm
        recovers
      rw [also] at fires
      cases fires
  recoveries := by
    refine List.Pairwise.imp_of_mem ?_ lawful.ordered
    intro earlier later earlier_mem later_mem order engine same channel recovers
    have earlier_offered := lawful.log_mem_offered earlier_mem
    have later_offered := lawful.log_mem_offered later_mem
    obtain ⟨id, about⟩ := isSome_iff_exists.mp engine
    have pair := (lawful.issued _ earlier_offered id about).1
    have later_pair := (lawful.issued _ later_offered id (same ▸ about)).1
    have streams := setup.streamOf_eq (by rw [pair]; rfl) (pair.trans (channel ▸ later_pair.symm))
    rcases Nat.lt_or_eq_of_le (order streams).1 with less | equal
    · exact lawful.final _ earlier_offered _ later_offered less engine same recovers
    · rw [← lawful.eq_of_serial earlier_offered later_offered equal]
      exact recovers

end

/-! ### What the steps keep -/

theorem sorted (lawful : state.Lawful setup) (worker : Nat) :
    (state.taken worker ++ state.queues worker).Pairwise
      fun left right => left.serial < right.serial :=
  (lawful.serials.filter _).sublist (lawful.lanes worker)

theorem started : (Dispatch.started store).Lawful setup where
  numbered := numbered_reload
  serials := .nil
  counted _ mem := absurd mem not_mem_nil
  lanes _ := List.Sublist.refl _
  logged _ mem := absurd mem not_mem_nil
  ordered := .nil
  sends _ mem := absurd mem not_mem_nil
  single := .nil
  issued _ mem := absurd mem not_mem_nil
  final _ mem := absurd mem not_mem_nil

theorem processEvent (lawful : state.Lawful setup) (env : Environment) (evt : Event) :
    { state with engine := (processEvent setup.deps env evt state.engine).1 }.Lawful setup := by
  have succeeds : state.engine.Succeeds _ (Alerting.processEvent setup.deps env evt state.engine).1
      (Alerting.processEvent setup.deps env evt state.engine).2 := lawful.numbered.processEvent
  refine { lawful with numbered := succeeds.numbered, issued := ?_ }
  intro ticket mem id about
  obtain ⟨pair, given, ended⟩ := lawful.issued ticket mem id about
  refine ⟨pair, Nat.lt_of_lt_of_le given succeeds.nextId, ?_⟩
  intro recovers followed
  rcases succeeds.follows id followed with old | new
  · exact ended recovers old
  · exact absurd given (Nat.not_lt_of_le new)

/-- A job the engine may offer of an event about an alert. -/
def Announced (state : Dispatch) (subject : Option AlertId) (job : NotificationJob) : Prop :=
  ∃ payload, job.alert = some payload ∧ state.engine.Announces subject payload

section

variable (lawful : state.Lawful setup)
include lawful

theorem lanes_enqueue (job : NotificationJob)
    (worker : Nat) : ((state.enqueue setup subject job).taken worker ++
      (state.enqueue setup subject job).queues worker).Sublist
        ((state.enqueue setup subject job).offered.filter fun ticket =>
          setup.streamOf ticket.job = worker) := by
  have lane := lawful.lanes worker
  simp only [enqueue, List.filter_append]
  by_cases here : setup.streamOf job = worker
  · subst here
    split
    · rw [update_self, ← List.append_assoc]
      exact lane.append (by simp)
    · exact lane.trans (List.sublist_append_left _ _)
  · split
    · rw [update_of_ne (Ne.symm here)]
      exact lane.trans (List.sublist_append_left _ _)
    · exact lane.trans (List.sublist_append_left _ _)

theorem enqueue (announced : subject.isSome → Announced state subject job) :
    (state.enqueue setup subject job).Lawful setup := by
  have offered : (state.enqueue setup subject job).offered =
      state.offered ++ [⟨state.offered.length, subject, job⟩] := rfl
  have about_new : ∀ id ∈ subject,
      job.pair = some (some id, job.channel.id) ∧ id < state.engine.store.nextId ∧
        (job.recovers ∧ ¬state.engine.Follows id ∨ ¬job.recovers ∧ state.engine.Follows id) := by
    rintro id about
    obtain ⟨payload, found, alert, rfl, same, given, status⟩ :=
      announced (isSome_iff_exists.mpr ⟨id, about⟩)
    obtain rfl : id = alert.id := some.inj (about.symm.trans same)
    refine ⟨by rw [NotificationJob.pair, found]; rfl, given, ?_⟩
    simpa [NotificationJob.recovers, found, renderedResolved_alertToMap] using status
  refine { lawful with
    serials := ?_, counted := ?_, lanes := lawful.lanes_enqueue job, issued := ?_,
    final := ?_ }
  · exact pairwise_snoc.mpr ⟨lawful.serials, lawful.counted⟩
  · intro ticket mem
    rw [offered] at mem ⊢
    rw [List.length_append]
    rcases mem_snoc.mp mem with old | rfl
    · exact Nat.lt_succ_of_lt (lawful.counted ticket old)
    · exact Nat.lt_succ_self _
  · intro ticket mem id about
    rcases mem_snoc.mp mem with old | rfl
    · exact lawful.issued ticket old id about
    obtain ⟨pair, given, status⟩ := about_new id about
    refine ⟨pair, given, ?_⟩
    rcases status with ⟨-, ended⟩ | ⟨lives, -⟩
    · exact fun _ => ended
    · exact fun recovers => absurd recovers lives
  · intro earlier earlier_mem later later_mem less engine same recovers
    rcases mem_snoc.mp earlier_mem with earlier_old | rfl
    · rcases mem_snoc.mp later_mem with later_old | rfl
      · exact lawful.final earlier earlier_old later later_old less engine same recovers
      · -- A job about a tracked alert cannot follow a recovery of it.
        obtain ⟨id, about⟩ := isSome_iff_exists.mp engine
        obtain ⟨-, -, ended⟩ := lawful.issued earlier earlier_old id about
        obtain ⟨-, -, ⟨also, -⟩ | ⟨-, followed⟩⟩ := about_new id (same.symm.trans about)
        · exact also
        · exact absurd followed (ended recovers)
    · rcases mem_snoc.mp later_mem with later_old | rfl
      · exact absurd (lawful.counted later later_old) less.asymm
      · exact absurd less (Nat.lt_irrefl _)

theorem receive {queue : List Ticket}
    (next : state.queues worker = ticket :: queue) : (state.receive worker).2.Lawful setup ∧
      Holding setup worker ticket (state.receive worker).2 := by
  have received : (state.receive worker).2 = { state with
        queues := update state.queues worker queue
        taken := update state.taken worker (state.taken worker ++ [ticket]) } := by
    rw [Dispatch.receive, next]
  have keeps : ∀ who other, other ∈ state.taken who →
      other ∈ update state.taken worker (state.taken worker ++ [ticket]) who := by
    intro who other mem
    by_cases here : who = worker
    · subst here
      rw [update_self]
      exact List.mem_append_left _ mem
    · rw [update_of_ne here]
      exact mem
  have older : ∀ other ∈ state.taken worker, other.serial < ticket.serial := by
    have sorted := lawful.sorted worker
    rw [next, List.pairwise_append] at sorted
    exact fun other mem => sorted.2.2 other mem ticket List.mem_cons_self
  rw [received]
  constructor
  · refine { lawful with lanes := ?_, logged := ?_, sends := ?_ }
    · intro who
      have lane := lawful.lanes who
      by_cases here : who = worker
      · subst here
        rw [next] at lane
        simpa [update_self] using lane
      · simpa [update_of_ne here] using lane
    · exact fun entry mem => keeps _ _ (lawful.logged entry mem)
    · exact fun send mem => keeps _ _ (lawful.sends send mem)
  · refine ⟨?_, ?_, ?_⟩
    · simp
    · intro other mem
      have listed : other ∈ state.taken worker ∨ other = ticket := by simpa using mem
      rcases listed with old | rfl
      · exact (older other old).le
      · exact le_rfl
    · intro entry mem stream _
      have taken := lawful.logged entry mem
      rw [stream] at taken
      exact older _ taken

section

variable (holding : Holding setup worker ticket state)
include holding

theorem ordered_append :
    (state.log ++ [(⟨ticket, phase⟩ : SendEntry)]).Pairwise fun earlier later =>
      setup.streamOf earlier.ticket.job = setup.streamOf later.ticket.job →
        earlier.ticket.serial ≤ later.ticket.serial ∧
          (earlier.phase.completes → earlier.ticket.serial < later.ticket.serial) := by
  have own := (lawful.mem_offered holding.taken).2
  refine pairwise_snoc.mpr ⟨lawful.ordered, fun entry mem stream => ?_⟩
  have same : setup.streamOf entry.ticket.job = worker := stream.trans own
  have taken := lawful.logged entry mem
  rw [same] at taken
  exact ⟨holding.latest _ taken, holding.before entry mem same⟩

theorem logged_append : ∀ entry ∈ state.log ++ [⟨ticket, phase⟩],
      entry.ticket ∈ state.taken (setup.streamOf entry.ticket.job) := by
  intro entry mem
  rcases mem_snoc.mp mem with old | rfl
  · exact lawful.logged entry old
  · rw [(lawful.mem_offered holding.taken).2]
    exact holding.taken

theorem beginSend (free : state.Free worker) : (state.beginSend worker ticket).Lawful setup := by
  refine { lawful with
    logged := lawful.logged_append holding, ordered := lawful.ordered_append holding,
    sends := ?_, single := ?_ }
  · intro send mem
    rcases mem_snoc.mp mem with old | rfl
    · exact lawful.sends send old
    · exact holding.taken
  · exact pairwise_snoc.mpr ⟨lawful.single, free⟩

theorem endSend : (state.endSend worker ticket phase).Lawful setup := by
  refine { lawful with
    logged := lawful.logged_append holding, ordered := lawful.ordered_append holding,
    sends := ?_, single := lawful.single.filter _ }
  intro send mem
  exact lawful.sends send (List.mem_filter.mp mem).1

end

end

end Lawful

theorem Holding.beginSend (holding : Holding setup worker ticket state) :
    Holding setup worker ticket (state.beginSend worker ticket) := by
  refine { holding with before := ?_ }
  intro entry mem stream completes
  rcases mem_snoc.mp mem with old | rfl
  · exact holding.before entry old stream completes
  · cases completes

theorem Holding.endSend (holding : Holding setup worker ticket state)
    (goes_on : phase.completes = false) :
    Holding setup worker ticket (state.endSend worker ticket phase) := by
  refine { holding with before := ?_ }
  intro entry mem stream completes
  rcases mem_snoc.mp mem with old | rfl
  · exact holding.before entry old stream completes
  · rw [goes_on] at completes
    cases completes

theorem free_endSend : (state.endSend worker ticket phase).Free worker := by
  intro send mem
  exact of_decide_eq_true (List.mem_filter.mp mem).2

/-! ### What the threads rely on -/

/-- Others leave a worker its tickets, its part of the log and its send. -/
structure LaneKept (setup : NotifierSetup) (worker : Nat) (before after : Dispatch) : Prop where
  taken : after.taken worker = before.taken worker
  log : ∀ entry ∈ after.log, setup.streamOf entry.ticket.job = worker → entry ∈ before.log
  sending : ∀ send ∈ after.sending, send.1 = worker → send ∈ before.sending

theorem LaneKept.refl : LaneKept setup worker state state :=
  ⟨rfl, fun _ mem _ => mem, fun _ mem _ => mem⟩

theorem LaneKept.trans (first : LaneKept setup worker before middle)
    (second : LaneKept setup worker middle after) : LaneKept setup worker before after where
  taken := second.taken.trans first.taken
  log entry mem stream := first.log entry (second.log entry mem stream) stream
  sending send mem own := first.sending send (second.sending send mem own) own

theorem Free.later (free : before.Free worker) (kept : LaneKept setup worker before after) :
    after.Free worker := by
  intro send mem own
  exact free send (kept.sending send mem own) own

theorem Holding.later (holding : Holding setup worker ticket before)
    (kept : LaneKept setup worker before after) : Holding setup worker ticket after where
  taken := kept.taken ▸ holding.taken
  latest other mem := holding.latest other (kept.taken ▸ mem)
  before entry mem stream := holding.before entry (kept.log entry mem stream) stream

theorem LaneKept.of_send {other : Nat} (ne : other ≠ worker)
    (stream : setup.streamOf ticket.job = worker) (taken : after.taken other = before.taken other)
    (log : after.log = before.log ++ [⟨ticket, phase⟩])
    (sending : ∀ send ∈ after.sending, send.1 = other → send ∈ before.sending) :
    LaneKept setup other before after := by
  refine ⟨taken, ?_, sending⟩
  intro logged mem own
  rw [log] at mem
  rcases mem_snoc.mp mem with old | rfl
  · exact old
  · exact absurd (own.symm.trans stream) ne

end Dispatch

open Dispatch

/-- Workers rely on their lanes, the engine on its alerts. -/
def orderContract (setup : NotifierSetup) :
    Contract NotifierCall NotifierInput Dispatch NotifierOp where
  inv := Lawful setup
  rely who before after :=
    (who < setup.workers → LaneKept setup who before after) ∧
      (who = setup.workers → after.engine = before.engine)
  allowed _ _ _ _ _ _ := True
  idle who state := who < setup.workers → state.Free who
  refl _ _ := ⟨fun _ => .refl, fun _ => rfl⟩
  trans first second :=
    ⟨fun worker => (first.1 worker).trans (second.1 worker),
      fun engine => (second.2 engine).trans (first.2 engine)⟩

variable {delivery : NotificationDelivery} {error : Option String}

section Threads

variable {setup : NotifierSetup} {who : Nat} {op : NotifierOp} {ticket : Ticket}
  {pre : Dispatch → Prop}

theorem stable_free (worker : who < setup.workers) : (orderContract setup).Stable who (Free who) :=
  fun _ _ free later => free.later (later.1.1 worker)

/-- What a thread does under the contract of orders. -/
abbrev Proceeds (setup : NotifierSetup) (who : Nat) (op : NotifierOp) {α : Type}
    (pre : Dispatch → Prop) (program : Program NotifierCall α) :=
        (orderContract setup).Triple (notifierShop setup) who op pre program

section

variable (stable : (orderContract setup).Stable who pre)
include stable

theorem triple_saveDelivery : Proceeds setup who op pre (saveDelivery delivery) fun _ => pre := by
  rw [saveDelivery]
  split
  · exact .observe stable (fun _ _ => rfl) fun _ => .done stable fun _ _ holds => holds
  · exact .done stable fun _ _ holds => holds

theorem triple_reportDone : Proceeds setup who op pre (reportDone job error) fun _ => pre := by
  rw [reportDone]
  split
  · exact .observe stable (fun _ _ => rfl) fun _ => .done stable fun _ _ holds => holds
  · exact .done stable fun _ _ holds => holds

theorem triple_backoff {attempt : Nat} : Proceeds setup who op pre (backoff attempt)
      fun _ => pre := by
  cases attempt with
  | zero => exact .done stable fun _ _ holds => holds
  | succ =>
    exact .observe stable (fun _ _ => rfl) fun _ => .done stable fun _ _ holds => holds

theorem triple_conclude : Proceeds setup who op pre
      ((saveDelivery delivery).bind fun _ => reportDone job error) fun _ => pre :=
  .bind (triple_saveDelivery stable) fun _ => triple_reportDone stable

end

/-- Before the loop of attempts goes on: the worker is at its ticket if attempts are left. -/
def Poised (setup : NotifierSetup) (who : Nat) (ticket : Ticket) (left : Nat) (state : Dispatch) :
    Prop :=
  state.Free who ∧ (left ≠ 0 → Holding setup who ticket state)

theorem stable_poised (worker : who < setup.workers) {left : Nat} :
    (orderContract setup).Stable who (Poised setup who ticket left) := by
  intro before after poised later
  have kept := later.1.1 worker
  exact ⟨poised.1.later kept, fun more => (poised.2 more).later kept⟩

variable {post : Unit → Dispatch → Prop} {left : Nat}

section

variable (worker : who < setup.workers)
include worker

theorem triple_beginSend {next : Unit → Program NotifierCall Unit} (more : left ≠ 0)
    (rest : Proceeds setup who op (Holding setup who ticket) (next ()) post) :
    Proceeds setup who op (Poised setup who ticket left) (.call (.beginSend ticket) next) post := by
  refine .call (fun _ => Holding setup who ticket) (stable_poised worker) ?_ fun _ => rest
  intro now input lawful poised _ _
  have holding := poised.2 more
  refine ⟨lawful.beginSend holding poised.1, ?_, holding.beginSend⟩
  intro other ne
  refine ⟨fun _ => .of_send ne (lawful.mem_offered holding.taken).2 rfl rfl ?_, fun _ => rfl⟩
  intro send mem own
  rcases mem_snoc.mp mem with old | rfl
  · exact old
  · exact absurd own.symm ne

theorem triple_endSend {next : Option String → Program NotifierCall Unit}
    (success : Proceeds setup who op (Free who) (next none) post)
    (failure : ∀ err, Proceeds setup who op (Poised setup who ticket left) (next (some err)) post) :
    Proceeds setup who op (Holding setup who ticket)
      (.call (.endSend ticket (left == 0)) next) post := by
  refine .call (fun error state => if error = none then state.Free who
    else Poised setup who ticket left state)
        (fun _ _ holding later => holding.later (later.1.1 worker)) ?_ ?_
  · intro now input lawful holding _ _
    refine ⟨lawful.endSend holding, ?_, ?_⟩
    · intro other ne
      refine ⟨fun _ => .of_send ne (lawful.mem_offered holding.taken).2 rfl rfl ?_,
        fun _ => rfl⟩
      exact fun send mem _ => (List.mem_filter.mp mem).1
    split
    · exact free_endSend
    rename_i failed
    refine ⟨free_endSend, fun more => holding.endSend ?_⟩
    obtain ⟨err, error⟩ := ne_none_iff_exists'.mp failed
    have error : input.error = some err := error
    simp [error, SendPhase.ofResult, more, SendPhase.completes]
  · intro error
    cases error with
    | none => exact success.consequence (fun _ _ free => free) fun _ _ _ holds => holds
    | some err =>
      exact (failure err).consequence (fun _ _ poised => poised) fun _ _ _ holds => holds

theorem triple_deliverFrom (lastErr : String) : Proceeds setup who op (Poised setup who ticket left)
      (deliverFrom ticket left lastErr) fun _ => Free who := by
  induction left generalizing lastErr with
  | zero =>
    refine .consequence (triple_conclude (stable_free worker)) ?_ fun _ _ _ free => free
    exact fun _ _ poised => poised.1
  | succ left ih =>
    refine .bind (triple_backoff (stable_poised worker)) ?_
    intro goes
    cases goes with
    | false => exact .done (stable_poised worker) fun _ _ poised => poised.1
    | true =>
      refine triple_beginSend worker (Nat.succ_ne_zero left) (triple_endSend worker ?_ ih)
      exact triple_conclude (stable_free worker)

theorem triple_processJob : Proceeds setup who op
      (fun state => Holding setup who ticket state ∧ state.Free who) (processJob ticket)
      fun _ => Free who := by
  have delivers : Proceeds setup who op
      (Poised setup who ticket maxRetries) (deliver ticket) fun _ => Free who :=
    triple_deliverFrom worker ""
  have stable : (orderContract setup).Stable who (Poised setup who ticket maxRetries) :=
    stable_poised worker
  have saves (delivery : NotificationDelivery) : Proceeds setup who op
        (Poised setup who ticket maxRetries) (saveDelivery delivery) fun _ => Free who :=
    (triple_saveDelivery (stable_free worker)).consequence
      (fun _ _ poised => poised.1) fun _ _ _ free => free
  suffices poised : Proceeds setup who op
      (Poised setup who ticket maxRetries) (processJob ticket) fun _ => Free who from
    poised.consequence (fun _ _ holds => ⟨holds.2, fun _ => holds.1⟩) fun _ _ _ free => free
  simp only [processJob]
  split
  · exact delivers
  refine .observe stable (fun _ _ => rfl) ?_
  intro suspended
  cases suspended with
  | some => exact saves _
  | none =>
    refine .observe stable (fun _ _ => rfl) ?_
    intro unready
    cases unready with
    | some => exact saves _
    | none => exact delivers

theorem triple_workerTurn : Proceeds setup who op (Free who) workerTurn fun _ => Free who := by
  refine .call (fun received state => state.Free who ∧
    ∀ ticket, received = some ticket → Holding setup who ticket state) (stable_free worker) ?_ ?_
  · intro now input lawful free _ enabled
    cases next : now.queues who with
    | nil => simp [notifierShop, next] at enabled
    | cons ticket =>
      obtain ⟨kept, holding⟩ := lawful.receive next
      have answer : (now.receive who).1 = some ticket := by rw [receive, next]
      have sending : (now.receive who).2.sending = now.sending := by rw [receive, next]
      have log : (now.receive who).2.log = now.log := by rw [receive, next]
      refine ⟨kept, ?_, ?_, ?_⟩
      · intro other ne
        refine ⟨fun _ => ⟨?_, ?_, ?_⟩, fun _ => ?_⟩
        · change (now.receive who).2.taken other = now.taken other
          rw [receive, next]
          exact update_of_ne ne _ _
        · exact fun entry mem _ => log ▸ mem
        · exact fun send mem _ => sending ▸ mem
        · change (now.receive who).2.engine = now.engine
          rw [receive, next]
      · intro send mem
        exact free send (sending ▸ mem)
      · intro received same
        obtain rfl : ticket = received := some.inj (answer.symm.trans same)
        exact holding
  · intro received
    cases received with
    | none =>
      exact .consequence (.done (stable_free worker) fun _ _ free => free)
        (fun _ _ holds => holds.1) fun _ _ _ free => free
    | some ticket =>
      exact .consequence (triple_processJob worker) (fun _ _ holds => ⟨holds.2 ticket rfl, holds.1⟩)
        fun _ _ _ free => free

end

/-- The engine may offer all these jobs of an event about an alert. -/
def AllAnnounced (subject : Option AlertId) (jobs : List NotificationJob) (state : Dispatch) :
    Prop :=
  ∀ job ∈ jobs, Lawful.Announced state subject job

variable {subject : Option AlertId}

theorem stable_allAnnounced {jobs : List NotificationJob} :
    (orderContract setup).Stable setup.workers (AllAnnounced subject jobs) := by
  intro before after announced later job mem
  obtain ⟨payload, found, announces⟩ := announced job mem
  exact ⟨payload, found, (later.1.2 rfl) ▸ announces⟩

theorem triple_enqueueAll (jobs : List NotificationJob) :
    (orderContract setup).Triple (notifierShop setup) setup.workers op (AllAnnounced subject jobs)
      (forEach (fun job => perform (.enqueue subject job)) jobs)
      fun _ => AllAnnounced subject [] := by
  refine .forEach stable_allAnnounced ?_
  intro job jobs
  refine .call (fun _ => AllAnnounced subject jobs) stable_allAnnounced ?_ ?_
  · intro now input lawful announced _ _
    obtain ⟨first, others⟩ := List.forall_mem_cons.mp announced
    refine ⟨lawful.enqueue fun _ => first, ?_, others⟩
    exact fun other ne =>
      ⟨fun _ => ⟨rfl, fun _ mem _ => mem, fun _ mem _ => mem⟩, fun _ => rfl⟩
  · exact fun _ => .done stable_allAnnounced fun _ _ holds => holds

theorem triple_dispatchEvent {env : Environment} {evt : Event}
    {channels : String → NotificationChannel} :
    (orderContract setup).Triple (notifierShop setup) setup.workers op (fun _ => True)
      (dispatchEvent env evt channels) fun _ _ => True := by
  refine .call (fun made => AllAnnounced made.1 made.2) (fun _ _ _ _ => trivial) ?_ fun made =>
    (triple_enqueueAll made.2).consequence (fun _ _ holds => holds) fun _ _ _ _ => trivial
  intro now input lawful _ _ _
  refine ⟨lawful.processEvent env evt, ?_, ?_⟩
  · intro other ne
    exact ⟨fun _ => ⟨rfl, fun _ mem _ => mem, fun _ mem _ => mem⟩,
      fun engine => absurd engine ne⟩
  intro job mem
  obtain ⟨output, output_mem, made⟩ := List.mem_filterMap.mp mem
  cases output with
  | notify channel payload =>
    cases made
    exact ⟨payload, rfl, lawful.numbered.processEvent.announces channel payload output_mem⟩
  | _ => cases made

end Threads

theorem notifier_verified {setup : NotifierSetup} :
    (orderContract setup).Verified (notifierShop setup) where
  enter _ _ _ _ lawful _ := ⟨lawful, fun _ _ => (orderContract setup).refl _ _⟩
  code := by
    intro who op state may lawful idle
    cases op with
    | work =>
      have worker : who < setup.workers := of_decide_eq_true may
      refine (triple_workerTurn worker state lawful (idle worker)).mono ?_
      exact fun _ _ _ free _ => free
    | event =>
      obtain rfl : who = setup.workers := of_decide_eq_true may
      refine (triple_dispatchEvent state lawful trivial).mono ?_
      exact fun _ _ _ _ worker => absurd worker (Nat.lt_irrefl _)
    | offer job =>
      have outsider : setup.workers < who := of_decide_eq_true may
      intro now input later _ _
      have kept : (now.enqueue setup none job).Lawful setup := later.2.enqueue (by nofun)
      refine ⟨kept, ?_, ?_⟩
      · exact fun other ne =>
          ⟨fun _ => ⟨rfl, fun _ mem _ => mem, fun _ mem _ => mem⟩, fun _ => rfl⟩
      · exact fun _ _ worker => absurd worker outsider.asymm
  mortal _ _ never := nomatch (never : false = true)

/-- In every interleaving of any number of workers, the engine and other producers, notifications
about one alert to one channel are sent one at a time in the order in which they were offered, and a
recovery only after what it resolves. -/
theorem notifications_sent_in_order (setup : NotifierSetup) (store : AlertStore)
    (actions : List (Pool.Action NotifierInput NotifierOp)) :
    Execution.Always (Pool.next (notifierShop setup)) (fun pool => pool.shared.InOrder)
      (Pool.idle (.started store)) actions := by
  have sound : (orderContract setup).Sound (notifierShop setup) (Pool.idle (.started store)) := by
    refine .initial (.started) ?_
    intro who now later worker send mem own
    exact absurd ((later.1.1 worker).sending send mem own) not_mem_nil
  refine sound.always notifier_verified (fun pool sound => sound.inv.inOrder) ?_
  exact Execution.guarded_of_forall (Pool.meets_of_forall fun _ _ _ _ _ _ => trivial) _ _

end Maintenant.Alerting
