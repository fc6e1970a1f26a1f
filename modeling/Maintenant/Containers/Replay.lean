import Maintenant.Containers.Service

/-!
# Replayed and live container events

A live event is folded over the row of its container, a replayed one over the timeline.  Both give
the same transitions as long as events come in order, a live event finds the row where the timeline
ends, a replayed stop is not misled by the row, and inventories only restate what the rows say.
-/

namespace Maintenant.Containers

open Keyed ContainerStore List Maintenant.Containers.StateTransition
open Agent (unix)
open Alerting (uidAgent)
open Multihost (EventMeta)
open Option (elim_some none_or)
open Function (update_apply update_self)

/-! ### Where a timeline ends -/

/-- The container that a report of an agent is about. -/
abbrev ContainerReport.id (report : ContainerReport) (agentId : String) : ContainerId :=
  ⟨uidAgent agentId, report.containerId⟩

/-- State and health. -/
abbrev Reading := ContainerState × Option HealthStatus

def Container.reading (c : Container) : Reading := (c.state, c.healthStatus)

/-- Where transitions lead, and what they say nothing about. -/
def ends (rows : List StateTransition) (otherwise : Reading) : Reading :=
  ((rows.getLast?.map StateTransition.newState).getD otherwise.1,
    (rows.reverse.findSome? StateTransition.newHealth).or otherwise.2)

theorem ends_append (rows : List StateTransition) (row : StateTransition) (otherwise : Reading) :
    ends (rows ++ [row]) otherwise = (row.newState, row.newHealth.or (ends rows otherwise).2) := by
  rw [ends]
  cases found : row.newHealth with
  | none => simp [ends, found]
  | some => simp [found]

/-- What the rows say of the health they say whatever it was before. -/
theorem ends_snd (rows : List StateTransition) (state : ContainerState) (otherwise : Reading) :
    (ends rows (state, (ends rows otherwise).2)).2 = (ends rows otherwise).2 := by
  cases found : rows.reverse.findSome? newHealth with
  | none | some => simp [ends, found]

/-- By time, none at the same second. -/
def Ascending (rows : List StateTransition) : Prop :=
  rows.Pairwise fun earlier later => earlier.timestamp < later.timestamp

theorem orderedInsert_last {α : Type} (rel : α → α → Prop) [DecidableRel rel] {item : α}
    {items : List α} (above : ∀ other ∈ items, ¬rel item other) :
    orderedInsert rel item items = items ++ [item] := by
  induction items with
  | nil => rfl
  | cons first items ih =>
    obtain ⟨head, tail⟩ := forall_mem_cons.mp above
    rw [orderedInsert, if_neg head, ih tail, cons_append]

variable {rows : List StateTransition}

theorem newestFirst_eq (ascending : Ascending rows) : newestFirst rows = rows.reverse := by
  induction rows with
  | nil => rfl
  | cons row rows ih =>
    obtain ⟨first, rest⟩ := pairwise_cons.mp ascending
    have step : newestFirst (row :: rows) =
        orderedInsert (fun left right : StateTransition => -left.timestamp ≤ -right.timestamp)
          row (newestFirst rows) := rfl
    rw [step, ih rest, orderedInsert_last, reverse_cons]
    intro other mem
    have later := first other (mem_reverse.mp mem)
    omega

/-- A change of health, if there is one, is among those a replay looks at. -/
def HealthInReach (rows : List StateTransition) : Prop :=
  (rows.any fun t => t.newHealth.isSome) = true →
    ((rows.reverse.take replayTimelineDepth).any fun t => t.newHealth.isSome) = true

instance (rows : List StateTransition) : Decidable (HealthInReach rows) :=
  inferInstanceAs (Decidable (_ → _))

theorem findSome_take {α β : Type} {items : List α} {read : α → Option β} {depth : Nat}
    (reach : (items.any fun item => (read item).isSome) = true →
      ((items.take depth).any fun item => (read item).isSome) = true) :
    (items.take depth).findSome? read = items.findSome? read := by
  cases found : (items.take depth).findSome? read with
  | some =>
    rw [← take_append_drop depth items, findSome?_append, found]
    rfl
  | none =>
    have beyond : ¬(items.any fun item => (read item).isSome) = true := by
      intro some_read
      obtain ⟨item, mem, here⟩ := any_eq_true.mp (reach some_read)
      rw [findSome?_eq_none_iff.mp found item mem] at here
      cases here
    refine (findSome?_eq_none_iff.mpr ?_).symm
    intro item mem
    by_contra readable
    exact beyond (any_eq_true.mpr ⟨item, mem, Option.isSome_iff_ne_none.mpr readable⟩)

variable {c : Container}

theorem timelineAt_eq {store : ContainerStore} {at_ : Int}
    (read : transitionsOf c.id store.transitions.items = rows)
    (ascending : Ascending rows) (later : ∀ t ∈ rows, t.timestamp < unix at_)
    (reach : HealthInReach rows) : store.timelineAt c at_ = ends rows c.reading := by
  have all : store.upTo c.id (unix at_) = rows := by
    rw [upTo, read, filter_eq_self]
    exact fun t mem => decide_eq_true (later t mem).le
  have among : (rows.reverse.take replayTimelineDepth).findSome? newHealth =
      rows.reverse.findSome? newHealth := by
    refine findSome_take ?_
    rw [any_reverse]
    exact reach
  have newest : (rows.reverse.take replayTimelineDepth).head? = rows.getLast? := by
    rw [head?_take, if_neg (by decide), head?_reverse]
  simp only [timelineAt, all, newestFirst_eq ascending, among, newest]
  rfl

/-! ### What the service works on -/

/-- What the row of a container says. -/
structure View where
  reading : Reading
  isIgnored : Bool

def Container.view (c : Container) : View := ⟨c.reading, c.isIgnored⟩

/-- The transitions and what is read of the rows. -/
structure Timeline where
  transitions : Keyed StateTransition.id
  nextUid : Nat
  views : ContainerId → Option View

variable {id : ContainerId} {view : View} {tl : Timeline} {store : ContainerStore}
  {agentId : String} {report : ContainerReport} {info : EventMeta}

namespace Timeline

/-- The row of a container changes. -/
def setView (id : ContainerId) (view : View) (tl : Timeline) : Timeline :=
  { tl with views := Function.update tl.views id (some view) }

/-- A transition is added. -/
def record (id : Option TransitionId) (row : TransitionId → StateTransition) (tl : Timeline) :
    Timeline where
  transitions := tl.transitions.upsert (row (id.getD (.fresh tl.nextUid)))
  nextUid := if id.isSome then tl.nextUid else tl.nextUid + 1
  views := tl.views

theorem setView_self (here : tl.views id = some view) : tl.setView id view = tl := by
  rw [setView, ← here, Function.update_eq_self]

theorem setView_setView {other : View} :
    (tl.setView id view).setView id other = tl.setView id other := by
  rw [setView, setView, setView, Function.update_idem]

end Timeline

/-- Rows and transitions of the store. -/
def ContainerStore.timeline (store : ContainerStore) : Timeline where
  transitions := store.transitions
  nextUid := store.nextUid
  views := fun id => (store.lookup id).map Container.view

variable {change : Container → Container} {seconds : Int}

section Operations

variable {evt : ContainerEvent}

theorem timeline_record {rid : Option TransitionId} {row : TransitionId → StateTransition} :
    (store.record rid row).timeline = store.timeline.record rid row := by
  cases rid with
  | none | some => rfl

theorem lookup_updateContainer (change : Container → Container)
    (keeps : ∀ c, (change c).id = c.id) (other : ContainerId) :
    (store.updateContainer id change keeps).lookup other =
      if other = id then (store.lookup other).map change else store.lookup other :=
  lookup_update_eq keeps other

theorem timeline_updateContainer
    (keeps : ∀ c, (change c).id = c.id) (found : store.lookup id = some c) :
    (store.updateContainer id change keeps).timeline =
      store.timeline.setView id (change c).view := by
  have views : (store.updateContainer id change keeps).timeline.views =
      Function.update store.timeline.views id (some (change c).view) := by
    funext other
    change ((store.updateContainer id change keeps).lookup other).map Container.view = _
    rw [lookup_updateContainer, update_apply]
    split
    next same =>
      rw [same, found]
      rfl
    · rfl
  rw [Timeline.setView, ← views]
  rfl

theorem views_of_lookup (found : store.lookup id = some c) :
    store.timeline.views id = some c.view := by
  change (store.lookup id).map Container.view = _
  rw [found]
  rfl

theorem timeline_updateContainer_same
    (keeps : ∀ c, (change c).id = c.id) (same : ∀ c, (change c).view = c.view) :
    (store.updateContainer id change keeps).timeline = store.timeline := by
  cases found : store.lookup id with
  | none =>
    have views : (store.updateContainer id change keeps).timeline.views = store.timeline.views := by
      funext other
      change ((store.updateContainer id change keeps).lookup other).map Container.view = _
      rw [lookup_updateContainer]
      split
      next here =>
        rw [here]
        change _ = (store.lookup id).map Container.view
        rw [found]
        rfl
      · rfl
    exact congrArg (Timeline.mk store.transitions store.nextUid) views
  | some =>
    rw [timeline_updateContainer keeps found, same]
    exact Timeline.setView_self (views_of_lookup found)

theorem timeline_archive : (store.archiveContainer id seconds).timeline = store.timeline := by
  refine timeline_updateContainer_same Container.id_archive ?_
  intro c
  rw [Container.archive]
  split
  · rfl
  · rfl

theorem timeline_handleDestroy : (store.handleDestroy evt).timeline = store.timeline := by
  rw [handleDestroy]
  split
  · rfl
  · exact timeline_archive

variable {state : ContainerState}

theorem handleStateChange_ignored (found : store.lookup evt.container = some c)
    (ignored : c.isIgnored = true) : store.handleStateChange evt state = store := by
  simp only [handleStateChange, found, ignored, if_true]

theorem handleHealthChange_ignored (found : store.lookup evt.container = some c)
    (ignored : c.isIgnored = true) : store.handleHealthChange evt = store := by
  simp only [handleHealthChange, found, ignored, if_true]

/-- The state a report leads to, seen from the state of the row. -/
def target (report : ContainerReport) (seen : ContainerState) : Option ContainerState :=
  match containerStateToAction report with
  | some .start => some .running
  | some .stop => if seen = .completed then none else some .exited
  | some .die =>
    some (if report.statusMessage ≠ "" ∧
        isCleanExit (parseExitCode report.statusMessage) report.oomKilled then .completed
      else .exited)
  | some .pause => some .paused
  | _ => none

def stateEvent (agentId : String) (report : ContainerReport) (info : EventMeta) : ContainerEvent :=
  { agentEvent agentId report info
      ((containerStateToAction report).getD .create) with
    exitCode := report.statusMessage
    oomKilled := report.oomKilled }

def healthEvent (agentId : String) (report : ContainerReport) (info : EventMeta) : ContainerEvent :=
  { agentEvent agentId report info .healthStatus with
    healthStatus := report.healthStatus }

theorem action_of_report {action : EventAction}
    (kind : containerStateToAction report = some action) :
    action ≠ .unpause ∧ action ≠ .destroy ∧ action ≠ .healthStatus := by
  rw [containerStateToAction] at kind
  cases state : report.state with
  | exited =>
    simp only [state] at kind
    split at kind
    · cases kind
      exact ⟨nofun, nofun, nofun⟩
    · cases kind
      exact ⟨nofun, nofun, nofun⟩
  | unspecified =>
    rw [state] at kind
    cases kind
  | running | paused | restarting | dead | created =>
    rw [state] at kind
    cases kind
    exact ⟨nofun, nofun, nofun⟩

theorem reportState_eq (found : store.lookup (report.id agentId) = some c) :
    store.reportState agentId report info = (target report c.state).elim store
        (store.handleStateChange (stateEvent agentId report info)) := by
  have row : store.lookup (stateEvent agentId report info).container = some c := found
  cases kind : containerStateToAction report with
  | none =>
    rw [reportState, target, kind]
    rfl
  | some action =>
    have whole : store.reportState agentId report info =
        store.processEvent (stateEvent agentId report info) := by
      rw [reportState, stateEvent, kind]
      rfl
    have act : (stateEvent agentId report info).action = action := by
      rw [stateEvent, kind]
      rfl
    obtain ⟨not_unpause, not_destroy, not_health⟩ := action_of_report kind
    rw [whole, processEvent, act, target, kind]
    cases action with
    | start => rfl
    | stop =>
      simp only [row, Option.map_some, Option.some.injEq]
      split
      · rfl
      · rfl
    | die =>
      dsimp only [elim_some]
      split
      · rename_i clean
        have same : report.statusMessage ≠ "" ∧
            isCleanExit (parseExitCode report.statusMessage) report.oomKilled = true := clean
        rw [if_pos same]
      rename_i failed
      have same : ¬(report.statusMessage ≠ "" ∧
          isCleanExit (parseExitCode report.statusMessage) report.oomKilled = true) := failed
      rw [if_neg same]
    | pause | restart | create => rfl
    | unpause => exact absurd rfl not_unpause
    | destroy => exact absurd rfl not_destroy
    | healthStatus => exact absurd rfl not_health

/-- What a report changes: the transition it stores and where the container is then. -/
structure Change where
  id : Option TransitionId
  row : TransitionId → StateTransition
  after : Reading

/-- What a report of a health changes. -/
def healthChange (agentId : String) (report : ContainerReport) (info : EventMeta) (now : Reading) :
    Change where
  id := (healthEvent agentId report info).recordID .healthTransition
  row := healthRow (healthEvent agentId report info) now.1 now.2
  after := (now.1, some (readHealth report.healthStatus))

/-- What a report of a state changes. -/
def stateChange (agentId : String) (report : ContainerReport) (info : EventMeta) (now : Reading)
    (state : ContainerState) : Change where
  id := (stateEvent agentId report info).recordID .stateTransition
  row := stateRow (stateEvent agentId report info) now.1 state
  after := (state, now.2)

/-- What a report of a health or a state changes, folded over a reading; `seen` is the state of the
row. -/
def changeOf (agentId : String) (report : ContainerReport) (info : EventMeta)
    (seen : ContainerState) (now : Reading) : Option Change :=
  if report.healthStatus ≠ "" then
    if now.2 = some (readHealth report.healthStatus) then none
    else some (healthChange agentId report info now)
  else
    match target report seen with
    | none => none
    | some state => if now.1 = state then none else some (stateChange agentId report info now state)

/-- The report is about the health or the state, as the events of collectors are. -/
def Single (report : ContainerReport) : Prop :=
  report.healthStatus = "" ∨ report.state ∈ [.unspecified, .restarting, .created]

instance (report : ContainerReport) : Decidable (Single report) :=
  inferInstanceAs (Decidable (_ ∨ _))

theorem reportState_idle (idle : report.state ∈ [.unspecified, .restarting, .created]) :
    store.reportState agentId report info = store := by
  rw [reportState, containerStateToAction]
  simp only [mem_cons, not_mem_nil, or_false] at idle
  rcases idle with state | state | state
  · rw [state]
  · rw [state]
    rfl
  · rw [state]
    rfl

theorem timeline_stateChange_live (live : evt.replayed = false)
    (found : store.lookup evt.container = some c) (watched : c.isIgnored = false) :
    (store.handleStateChange evt state).timeline = if c.state = state then store.timeline
      else (store.timeline.setView evt.container ⟨(state, c.healthStatus), false⟩).record
        (evt.recordID .stateTransition) (stateRow evt c.state state) := by
  have here : c.id = evt.container := (lookup_eq_some.mp found).2
  simp only [handleStateChange, found, watched, live, Bool.false_eq_true, if_false]
  split
  · rfl
  rw [timeline_record, here, timeline_updateContainer _ found]
  have view : (c.setState state).view = ⟨(state, c.healthStatus), false⟩ := by
    rw [← watched]
    rfl
  rw [view]

theorem timeline_stateChange_replayed (replayed : evt.replayed = true)
    (found : store.lookup evt.container = some c) (watched : c.isIgnored = false) :
    (store.handleStateChange evt state).timeline =
      if (store.timelineAt c evt.timestamp).1 = state then store.timeline
      else store.timeline.record (evt.recordID .stateTransition)
        (stateRow evt (store.timelineAt c evt.timestamp).1 state) := by
  simp only [handleStateChange, found, watched, replayed, Bool.false_eq_true, if_false, if_true]
  split
  · rfl
  · exact timeline_record

theorem timeline_healthChange_live (live : evt.replayed = false)
    (found : store.lookup evt.container = some c) (watched : c.isIgnored = false) :
    (store.handleHealthChange evt).timeline = (store.timeline.setView evt.container
        ⟨(c.state, some (readHealth evt.healthStatus)), false⟩).record
          (evt.recordID .healthTransition) (healthRow evt c.state c.healthStatus) := by
  have here : c.id = evt.container := (lookup_eq_some.mp found).2
  simp only [handleHealthChange, found, watched, live, Bool.false_eq_true, if_false, false_and]
  rw [timeline_record, here, timeline_updateContainer _ found]
  have view : (c.setHealth (readHealth evt.healthStatus)).view =
      ⟨(c.state, some (readHealth evt.healthStatus)), false⟩ := by
    rw [← watched]
    rfl
  rw [view]

theorem timeline_healthChange_replayed (replayed : evt.replayed = true)
    (found : store.lookup evt.container = some c) (watched : c.isIgnored = false) :
    (store.handleHealthChange evt).timeline =
      if (store.timelineAt c evt.timestamp).2 = some (readHealth evt.healthStatus) then
        store.timeline else store.timeline.record (evt.recordID .healthTransition)
        (healthRow evt (store.timelineAt c evt.timestamp).1
          (store.timelineAt c evt.timestamp).2) := by
  simp only [handleHealthChange, found, watched, replayed, Bool.false_eq_true,
    if_false, if_true, true_and]
  split
  · rfl
  · exact timeline_record

theorem ContainerReport.id_refresh (c : Container) : (c.refresh report.labels).id = c.id :=
  c.id_refresh

/-- The labels of the report are folded into the row. -/
abbrev ContainerStore.relabel (agentId : String) (report : ContainerReport)
    (store : ContainerStore) :
    ContainerStore :=
  store.updateContainer (report.id agentId) (Container.refresh report.labels) report.id_refresh

theorem lookup_relabel (found : store.lookup (report.id agentId) = some c) :
    (store.relabel agentId report).lookup (report.id agentId) = some (c.refresh report.labels) := by
  rw [lookup_updateContainer, if_pos rfl, found]
  rfl

theorem timeline_relabel (found : store.lookup (report.id agentId) = some c) :
    (store.relabel agentId report).timeline =
      store.timeline.setView (report.id agentId) (c.refresh report.labels).view :=
  timeline_updateContainer _ found

theorem timeline_replayed (replayed : info.replayed = true) (single : Single report)
    (found : store.lookup (report.id agentId) = some c) :
    ((store.reportHealth agentId report info c).reportState agentId report info).timeline =
      if c.isIgnored then store.timeline else (changeOf agentId report info c.state
        (store.timelineAt c (agentEventTime report info))).elim store.timeline fun change =>
          store.timeline.record change.id change.row := by
  by_cases health : report.healthStatus = ""
  · have unchanged : store.reportHealth agentId report info c = store :=
      if_neg fun given => given.1 health
    rw [unchanged, reportState_eq found, changeOf, if_neg (not_not.mpr health)]
    cases aim : target report c.state with
    | none => simp
    | some =>
      have row : store.lookup (stateEvent agentId report info).container = some c := found
      cases watched : c.isIgnored with
      | true => rw [elim_some, handleStateChange_ignored row watched, if_pos rfl]
      | false =>
        rw [elim_some, timeline_stateChange_replayed replayed row watched]
        have time : (stateEvent agentId report info).timestamp = agentEventTime report info := rfl
        simp only [time, Bool.false_eq_true, if_false]
        split
        · rfl
        · rfl
  · have idle := single.resolve_left health
    have changed : store.reportHealth agentId report info c =
        store.handleHealthChange (healthEvent agentId report info) :=
      if_pos ⟨health, Or.inl replayed⟩
    rw [reportState_idle idle, changed, changeOf]
    have row : store.lookup (healthEvent agentId report info).container = some c := found
    cases watched : c.isIgnored with
    | true => rw [handleHealthChange_ignored row watched, if_pos rfl]
    | false =>
      rw [timeline_healthChange_replayed replayed row watched]
      have time : (healthEvent agentId report info).timestamp = agentEventTime report info := rfl
      have told : (healthEvent agentId report info).healthStatus = report.healthStatus := rfl
      simp only [time, told, Bool.false_eq_true, if_false]
      split
      · rfl
      · rfl

theorem timeline_live (live : info.replayed = false) (single : Single report)
    (found : store.lookup (report.id agentId) = some c) :
    (((store.relabel agentId report).reportHealth agentId report info c).reportState agentId report
      info).timeline = if (c.refresh report.labels).isIgnored then
        store.timeline.setView (report.id agentId) (c.refresh report.labels).view
      else (changeOf agentId report info c.state c.reading).elim
        (store.timeline.setView (report.id agentId) (c.refresh report.labels).view)
        fun change => (store.timeline.setView (report.id agentId)
          ⟨change.after, false⟩).record change.id change.row := by
  have refreshed := lookup_relabel found
  have viewed := timeline_relabel found
  generalize store.relabel agentId report = fresh at refreshed viewed ⊢
  by_cases health : report.healthStatus = ""
  · have unchanged : fresh.reportHealth agentId report info c = fresh :=
      if_neg fun given => given.1 health
    rw [unchanged, reportState_eq refreshed, changeOf, if_neg (not_not.mpr health)]
    have same : (c.refresh report.labels).state = c.state := rfl
    rw [same]
    cases aim : target report c.state with
    | none => simp [viewed]
    | some state =>
      have row : fresh.lookup (stateEvent agentId report info).container =
          some (c.refresh report.labels) := refreshed
      cases watched : (c.refresh report.labels).isIgnored with
      | true => rw [elim_some, handleStateChange_ignored row watched, if_pos rfl, viewed]
      | false =>
        rw [elim_some, timeline_stateChange_live live row watched, viewed]
        simp only
        split
        next reached =>
          have there : c.reading.1 = state := reached
          rw [if_pos there]
          rfl
        next elsewhere =>
          have there : c.reading.1 ≠ state := elsewhere
          rw [if_neg there]
          exact congrArg (Timeline.record _ _) Timeline.setView_setView
  · have idle := single.resolve_left health
    rw [reportState_idle idle, changeOf, if_pos health]
    by_cases known : c.healthStatus = some (readHealth report.healthStatus)
    · have unchanged : fresh.reportHealth agentId report info c = fresh := by
        refine if_neg ?_
        rintro ⟨-, again | differs⟩
        · rw [live] at again
          cases again
        · exact differs known
      have there : c.reading.2 = some (readHealth report.healthStatus) := known
      rw [unchanged, viewed, if_pos there]
      simp
    · have changed : fresh.reportHealth agentId report info c =
          fresh.handleHealthChange (healthEvent agentId report info) :=
        if_pos ⟨health, .inr known⟩
      have there : c.reading.2 ≠ some (readHealth report.healthStatus) := known
      have row : fresh.lookup (healthEvent agentId report info).container =
          some (c.refresh report.labels) := refreshed
      rw [changed, if_neg there]
      cases watched : (c.refresh report.labels).isIgnored with
      | true => rw [handleHealthChange_ignored row watched, if_pos rfl, viewed]
      | false =>
        rw [timeline_healthChange_live live row watched, viewed]
        exact congrArg (Timeline.record _ _) Timeline.setView_setView

end Operations

/-! ### Deliveries -/

/-- What comes from the agent: events, in the order in which they were observed, and inventories. -/
inductive Delivery
  /-- An event, received live or replayed. -/
  | event (report : ContainerReport) (info : EventMeta)
  /-- An inventory, which is always fresh. -/
  | inventory (reported : List ContainerReport) (complete : Bool) (observedAt : Int)
      (eventId : String) (now : Int)

/-- The delivery had the stream not been down: events come live, and need no inventory. -/
def Delivery.live : Delivery → Option Delivery
  | .event report info => some (.event report { info with replayed := false })
  | .inventory _ _ _ _ _ => none

/-- The tables after a delivery; one that is refused changes nothing. -/
def ContainerStore.deliver (agentId : String) (store : ContainerStore) :
    Delivery → ContainerStore
  | .event report info => (store.handleAgentEvent agentId report info).toOption.getD store
  | .inventory reported complete observedAt eventId now =>
    (store.handleAgentInventory agentId reported complete ⟨observedAt, false, eventId⟩
      now).toOption.getD store

/-- A delivery as a step that is always possible. -/
def ContainerStore.next (agentId : String) (store : ContainerStore) (delivery : Delivery) :
    Option ContainerStore :=
  some (store.deliver agentId delivery)

/-- The event is new and later than its container's timeline; a live one finds the row where the
timeline ends, and a replayed one is told the same by both. -/
def Orderly (agentId : String) (store : ContainerStore) (report : ContainerReport)
    (info : EventMeta) (c : Container) : Prop :=
  Single report ∧
  (∀ t ∈ transitionsOf c.id store.transitions.items,
    t.timestamp < unix (agentEventTime report info)) ∧
  (∀ t ∈ store.transitions.items, ∀ record ∈ [RecordKind.stateTransition, .healthTransition],
    t.id ≠ .derived (uidAgent agentId) info.eventId record report.containerId) ∧
  (info.replayed = false →
    c.reading = ends (transitionsOf c.id store.transitions.items) c.reading) ∧
  (info.replayed = true →
    (containerStateToAction report = some .stop → (c.state = .completed ↔
      (ends (transitionsOf c.id store.transitions.items) c.reading).1 = .completed)) ∧
    (report.labels ≠ [] → ignoredByLabels report.labels = c.isIgnored) ∧
    HealthInReach (transitionsOf c.id store.transitions.items))

instance (agentId : String) (store : ContainerStore) (report : ContainerReport) (info : EventMeta)
    (c : Container) : Decidable (Orderly agentId store report info c) := by
  unfold Orderly
  infer_instance

/-- The report says of a container what its row says. -/
def Restates (view : View) (report : ContainerReport) : Prop :=
  (report.labels ≠ [] → ignoredByLabels report.labels = view.isIgnored) ∧
  (view.isIgnored = true ∨
    (report.healthStatus = "" ∨ view.reading.2 = some (readHealth report.healthStatus)) ∧
      ∀ state ∈ target report view.reading.1, state = view.reading.1)

instance (view : View) (report : ContainerReport) : Decidable (Restates view report) :=
  inferInstanceAs (Decidable (_ ∧ (_ ∨ _ ∧ _)))

/-- The container of a report is known, and the report says of it what its row says. -/
def Confirms (agentId : String) (store : ContainerStore) (report : ContainerReport) : Prop :=
  report.containerId = "" ∨
    ∃ view ∈ store.timeline.views ⟨uidAgent agentId, report.containerId⟩, Restates view report

instance (agentId : String) (store : ContainerStore) (report : ContainerReport) :
    Decidable (Confirms agentId store report) :=
  inferInstanceAs (Decidable (_ ∨ ∃ view ∈ store.timeline.views _, Restates view report))

/-- Events are orderly, and inventories restate what the rows say. -/
def Meets (agentId : String) (store : ContainerStore) : Delivery → Prop
  | .event report info =>
    ∀ c ∈ store.lookup ⟨uidAgent agentId, report.containerId⟩,
      Orderly agentId store report info c
  | .inventory reported _ _ _ _ => ∀ report ∈ reported, Confirms agentId store report

instance (agentId : String) (store : ContainerStore) (delivery : Delivery) :
    Decidable (Meets agentId store delivery) := by
  unfold Meets
  split <;> infer_instance

/-! ### Inventories that restate -/

variable {reported : List ContainerReport}

theorem view_refresh {labels : List (String × String)}
    (same : labels ≠ [] → ignoredByLabels labels = c.isIgnored) :
    (c.refresh labels).view = c.view := by
  have ignored : (c.refresh labels).isIgnored = c.isIgnored := by
    change (if labels = [] then c.isIgnored else ignoredByLabels labels) = c.isIgnored
    split
    · rfl
    next given => exact same given
  rw [Container.view, ignored]
  rfl

theorem timeline_restated (live : info.replayed = false) (confirms : Confirms agentId store report)
    (sized : checkLabelCount report = none) :
    ∃ after, store.handleAgentEvent agentId report info = .ok after ∧
      after.timeline = store.timeline := by
  rw [handleAgentEvent]
  rcases confirms with unnamed | ⟨view, viewed, labels, agrees⟩
  · exact ⟨store, if_pos unnamed, rfl⟩
  obtain ⟨c, found, rfl⟩ := Option.map_eq_some_iff.mp viewed
  split
  · exact ⟨store, rfl, rfl⟩
  simp only [sized]
  split
  · exact ⟨_, rfl, timeline_handleDestroy⟩
  simp only [found, live]
  refine ⟨_, rfl, ?_⟩
  have refreshed := lookup_relabel found
  have viewed : (store.relabel agentId report).timeline = store.timeline := by
    rw [timeline_relabel found, view_refresh labels]
    exact Timeline.setView_self (views_of_lookup found)
  have ignored : (c.refresh report.labels).isIgnored = c.isIgnored :=
    congrArg View.isIgnored (view_refresh labels)
  change (reportState _ _ _ (reportHealth _ _ _ _ (store.relabel agentId report))).timeline = _
  generalize store.relabel agentId report = fresh at refreshed viewed ⊢
  rw [← viewed]
  -- neither the health nor the state is a change
  have healthy : fresh.reportHealth agentId report info c = fresh := by
    rw [reportHealth]
    split
    · rename_i given
      have row : fresh.lookup (healthEvent agentId report info).container =
          some (c.refresh report.labels) := refreshed
      rcases agrees with off | ⟨empty | known, -⟩
      · exact handleHealthChange_ignored row (ignored.trans off)
      · exact absurd empty given.1
      obtain ⟨-, again | differs⟩ := given
      · rw [live] at again
        cases again
      · exact absurd known differs
    · rfl
  rw [healthy, reportState_eq refreshed]
  have same : (c.refresh report.labels).state = c.state := rfl
  rw [same]
  cases aim : target report c.state with
  | none => rfl
  | some state =>
    have row : fresh.lookup (stateEvent agentId report info).container =
        some (c.refresh report.labels) := refreshed
    rcases agrees with off | ⟨-, reached⟩
    · rw [elim_some, handleStateChange_ignored row (ignored.trans off)]
    cases watched : c.isIgnored with
    | true =>
      rw [elim_some, handleStateChange_ignored row (ignored.trans watched)]
    | false =>
      rw [elim_some, timeline_stateChange_live live row (ignored.trans watched), if_pos]
      exact (reached state aim).symm

theorem timeline_restated_all (live : info.replayed = false) :
    ∀ store : ContainerStore, (∀ report ∈ reported, Confirms agentId store report) →
      (∀ report ∈ reported, checkLabelCount report = none) →
      ∃ after, reported.foldlM (fun store report =>
        handleAgentEvent agentId report info store) store = .ok after ∧
          after.timeline = store.timeline := by
  induction reported with
  | nil => exact fun store _ _ => ⟨store, rfl, rfl⟩
  | cons report reported ih =>
    intro store confirms sized
    obtain ⟨confirms, later_confirms⟩ := forall_mem_cons.mp confirms
    obtain ⟨sized, later_sized⟩ := forall_mem_cons.mp sized
    obtain ⟨middle, step, same⟩ := timeline_restated live confirms sized
    have still : ∀ report ∈ reported, Confirms agentId middle report := by
      intro report mem
      rw [Confirms, same]
      exact later_confirms report mem
    obtain ⟨after, rest, rest_same⟩ := ih middle still later_sized
    refine ⟨after, ?_, rest_same.trans same⟩
    rw [foldlM_cons, step]
    exact rest

theorem timeline_archive_all {gone : List Container} :
    ∀ store : ContainerStore, (gone.foldl (fun store c =>
      store.archiveContainer c.id seconds) store).timeline = store.timeline := by
  induction gone with
  | nil => exact fun _ => rfl
  | cons c gone ih =>
    intro store
    rw [foldl_cons, ih, timeline_archive]

theorem timeline_inventory
    (confirms : ∀ report ∈ reported, Confirms agentId store report) (complete : Bool)
    (observedAt : Int) (eventId : String) (now : Int) :
    (store.deliver agentId (.inventory reported complete observedAt eventId now)).timeline =
      store.timeline := by
  rw [deliver, handleAgentInventory]
  split
  · rfl
  split
  · rfl
  split
  · rfl
  rename_i sized
  have all : ∀ report ∈ reported, checkLabelCount report = none :=
    findSome?_eq_none_iff.mp sized
  have live : (⟨observedAt, false, eventId⟩ : EventMeta).replayed = false := rfl
  obtain ⟨after, step, same⟩ := timeline_restated_all live store confirms all
  rw [step]
  exact (timeline_archive_all after).trans same

/-! ### Timelines that are the same -/

def Timeline.rowsOf (tl : Timeline) (id : ContainerId) : List StateTransition :=
  transitionsOf id tl.transitions.items

/-- Each transition begins where the one before it led. -/
def Chained (rows : List StateTransition) : Prop :=
  rows.IsChain fun earlier later => earlier.newState = later.previousState

/-- The rows and the timeline tell one story. -/
structure Timeline.WellFormed (tl : Timeline) : Prop where
  /-- Transitions are stored in the order of their times. -/
  ascending : ∀ id, Ascending (tl.rowsOf id)
  chained : ∀ id, Chained (tl.rowsOf id)
  attached : ∀ t ∈ tl.transitions, (tl.views t.containerId).isSome
  fresh : ∀ t ∈ tl.transitions, ∀ number, t.id = .fresh number → number < tl.nextUid
  settled : ∀ id, ∀ view ∈ tl.views id, view.reading = ends (tl.rowsOf id) view.reading

/-- Both have the same transitions; the rows of the first are where its timeline ends, those of the
second may be behind. -/
structure Alike (live replayed : Timeline) : Prop where
  transitions : replayed.transitions = live.transitions
  nextUid : replayed.nextUid = live.nextUid
  rows : ∀ id, live.views id = none ∧ replayed.views id = none ∨
    ∃ current stale, live.views id = some current ∧ replayed.views id = some stale ∧
      current.isIgnored = stale.isIgnored ∧
      current.reading = ends (live.rowsOf id) stale.reading

/-- The change is one of a container at a second, from what is read of it. -/
structure Change.Fits (change : Change) (id : ContainerId) (second : Int) (now : Reading) :
    Prop where
  ident : ∀ given, (change.row given).id = given
  own : ∀ given, (change.row given).containerId = id
  previous : ∀ given, (change.row given).previousState = now.1
  time : ∀ given, (change.row given).timestamp = second
  after :
    ∀ given, change.after = ((change.row given).newState, (change.row given).newHealth.or now.2)
  derived : ∀ given ∈ change.id, ∀ number, given ≠ .fresh number

/-- No transition has the id of the change. -/
abbrev Change.Unused (change : Change) (tl : Timeline) : Prop :=
  ∀ given ∈ change.id, ∀ t ∈ tl.transitions, t.id ≠ given

section Steps

variable {live replayed : Timeline} {change : Change} {second : Int}

theorem rowsOf_setView (other : ContainerId) :
    (tl.setView id view).rowsOf other = tl.rowsOf other :=
  rfl

/-- The id that the transition of a change gets. -/
def Change.given (change : Change) (tl : Timeline) : TransitionId :=
  change.id.getD (.fresh tl.nextUid)

theorem unused_given (wf : tl.WellFormed) (unused : change.Unused tl) :
    tl.transitions.lookup (change.given tl) = none := by
  rw [lookup_eq_none, Change.given]
  intro t mem
  cases found : change.id with
  | none =>
    intro same
    exact absurd (wf.fresh t mem _ same) (lt_irrefl _)
  | some given => exact unused given found t mem

variable {now : Reading}

theorem items_record (wf : tl.WellFormed) (fits : change.Fits id second now)
    (unused : change.Unused tl) (view : View) :
    ((tl.setView id view).record change.id change.row).transitions.items =
      tl.transitions.items ++ [change.row (change.given tl)] := by
  have free : tl.transitions.lookup (change.row (change.given tl)).id = none := by
    rw [fits.ident]
    exact unused_given wf unused
  exact upsert_items_of_fresh free

theorem rowsOf_record (wf : tl.WellFormed) (fits : change.Fits id second now)
    (unused : change.Unused tl) (view : View)
    (other : ContainerId) : ((tl.setView id view).record change.id change.row).rowsOf other =
      if other = id then tl.rowsOf other ++ [change.row (change.given tl)]
      else tl.rowsOf other := by
  rw [Timeline.rowsOf, items_record wf fits unused, transitionsOf, filter_append]
  split
  · rename_i same
    have alone : [change.row (change.given tl)].filter (fun t => t.containerId = other) =
        [change.row (change.given tl)] := by
      rw [filter_eq_self]
      intro t mem
      rw [mem_singleton.mp mem, fits.own, same, decide_eq_true rfl]
    rw [alone]
    rfl
  · rename_i differs
    have away : [change.row (change.given tl)].filter (fun t => t.containerId = other) = [] := by
      rw [filter_eq_nil_iff]
      intro t mem
      rw [mem_singleton.mp mem, fits.own, decide_eq_true_eq]
      exact fun same => differs same.symm
    rw [away, append_nil]
    rfl

variable {row : StateTransition}

theorem Ascending.append (ascending : Ascending rows)
    (later : ∀ t ∈ rows, t.timestamp < row.timestamp) : Ascending (rows ++ [row]) :=
  pairwise_snoc.mpr ⟨ascending, later⟩

theorem Chained.append (chained : Chained rows) (now : Reading)
    (begins : row.previousState = (ends rows now).1) : Chained (rows ++ [row]) := by
  refine isChain_append.mpr ⟨chained, isChain_singleton row, ?_⟩
  intro last last_mem other other_mem
  cases other_mem
  rw [begins, ends, last_mem]
  rfl

theorem Timeline.WellFormed.record (wf : tl.WellFormed) (viewed : tl.views id = some view)
    (fits : change.Fits id second view.reading) (later : ∀ t ∈ tl.rowsOf id, t.timestamp < second)
    (unused : change.Unused tl) (ignored : Bool) :
    ((tl.setView id ⟨change.after, ignored⟩).record change.id change.row).WellFormed := by
  have rows := rowsOf_record wf fits unused ⟨change.after, ignored⟩
  have items := items_record wf fits unused ⟨change.after, ignored⟩
  have settled := wf.settled id view viewed
  refine ⟨?_, ?_, ?_, ?_, ?_⟩
  · intro other
    rw [rows]
    split
    · rename_i same
      rw [same]
      refine (wf.ascending id).append ?_
      intro t mem
      rw [fits.time]
      exact later t mem
    · exact wf.ascending other
  · intro other
    rw [rows]
    split
    · rename_i same
      rw [same]
      refine (wf.chained id).append view.reading ?_
      rw [fits.previous, ← settled]
    · exact wf.chained other
  · intro t mem
    rw [mem_def, items, mem_snoc] at mem
    change (Function.update tl.views id _ t.containerId).isSome
    rw [update_apply]
    split
    · rfl
    rename_i elsewhere
    rcases mem with old | rfl
    · exact wf.attached t old
    · exact absurd (fits.own _) elsewhere
  · intro t mem number numbered
    rw [mem_def, items, mem_snoc] at mem
    change number < if change.id.isSome then tl.nextUid else tl.nextUid + 1
    rcases mem with old | rfl
    · have before := wf.fresh t old number numbered
      split
      · exact before
      · omega
    rw [fits.ident, Change.given] at numbered
    cases found : change.id with
    | none =>
      rw [found] at numbered
      have same : tl.nextUid = number := TransitionId.fresh.inj numbered
      simp [same]
    | some given =>
      rw [found] at numbered
      exact absurd numbered (fits.derived given found number)
  · intro other seen seen_mem
    rw [rows]
    change Function.update tl.views id _ other = some seen at seen_mem
    rw [update_apply] at seen_mem
    split at seen_mem
    · rename_i same
      cases seen_mem
      rw [if_pos same, ends_append, same, fits.after (change.given tl)]
      cases told : (change.row (change.given tl)).newHealth with
      | none =>
        -- the row says nothing about the health, which is that of the timeline before
        have health : view.reading.2 = _ := congrArg Prod.snd settled
        rw [none_or, none_or, health, ends_snd]
      | some => rfl
    · rename_i elsewhere
      rw [if_neg elsewhere]
      exact wf.settled other seen seen_mem

variable {stale : View}

theorem Alike.of_viewed (alike : Alike live replayed) (viewed : live.views id = some view) :
    ∃ stale, replayed.views id = some stale ∧ view.isIgnored = stale.isIgnored ∧
      view.reading = ends (live.rowsOf id) stale.reading := by
  rcases alike.rows id with ⟨unknown, -⟩ | ⟨current, stale, here, there, same⟩
  · cases viewed.symm.trans unknown
  · cases viewed.symm.trans here
    exact ⟨stale, there, same⟩

theorem Alike.record (alike : Alike live replayed) (wf : live.WellFormed) (stale' : View)
    (viewed : live.views id = some view) (stale_viewed : replayed.views id = some stale)
    (fits : change.Fits id second view.reading) (unused : change.Unused live)
    (left : stale'.reading = stale.reading ∨ stale'.reading = change.after) :
    Alike ((live.setView id ⟨change.after, stale'.isIgnored⟩).record change.id change.row)
      ((replayed.setView id stale').record change.id change.row) := by
  have rows := rowsOf_record wf fits unused ⟨change.after, stale'.isIgnored⟩
  refine ⟨?_, ?_, ?_⟩
  · change replayed.transitions.upsert (change.row (change.id.getD (.fresh replayed.nextUid))) =
      live.transitions.upsert (change.row (change.id.getD (.fresh live.nextUid)))
    rw [alike.transitions, alike.nextUid]
  · change (if change.id.isSome then replayed.nextUid else replayed.nextUid + 1) =
      if change.id.isSome then live.nextUid else live.nextUid + 1
    rw [alike.nextUid]
  intro other
  change Function.update live.views id _ other = none ∧
      Function.update replayed.views id _ other = none ∨
    ∃ current seen, Function.update live.views id _ other = some current ∧
      Function.update replayed.views id _ other = some seen ∧ _
  rw [update_apply, update_apply, rows]
  by_cases here : other = id
  · simp only [here, if_true]
    refine .inr ⟨_, _, rfl, rfl, rfl, ?_⟩
    rw [ends_append, fits.after (change.given live)]
    obtain ⟨seen, seen_eq, -, reading⟩ := alike.of_viewed viewed
    cases stale_viewed.symm.trans seen_eq
    cases told : (change.row (change.given live)).newHealth with
    | some => rfl
    | none =>
      have health : view.reading.2 = _ := congrArg Prod.snd reading
      rw [none_or, none_or, health]
      rcases left with stays | moves
      · rw [stays]
      · rw [moves, fits.after (change.given live), told, none_or, health, ends_snd]
  · simp only [here]
    exact alike.rows other

theorem Timeline.WellFormed.see (wf : tl.WellFormed)
    (settled : view.reading = ends (tl.rowsOf id) view.reading) :
    (tl.setView id view).WellFormed := by
  refine ⟨wf.ascending, wf.chained, ?_, wf.fresh, ?_⟩
  · intro t mem
    change (Function.update tl.views id _ t.containerId).isSome
    rw [update_apply]
    split
    · rfl
    · exact wf.attached t mem
  · intro other seen seen_mem
    change Function.update tl.views id _ other = some seen at seen_mem
    rw [update_apply] at seen_mem
    split at seen_mem
    · rename_i same
      cases seen_mem
      rw [same]
      exact settled
    · exact wf.settled other seen seen_mem

theorem Alike.see (alike : Alike live replayed) (ignored : view.isIgnored = stale.isIgnored)
    (settled : view.reading = ends (live.rowsOf id) stale.reading) :
    Alike (live.setView id view) (replayed.setView id stale) := by
  refine ⟨alike.transitions, alike.nextUid, ?_⟩
  intro other
  change Function.update live.views id _ other = none ∧
      Function.update replayed.views id _ other = none ∨
    ∃ current seen, Function.update live.views id _ other = some current ∧
      Function.update replayed.views id _ other = some seen ∧ _
  rw [update_apply, update_apply]
  by_cases here : other = id
  · simp only [here]
    exact .inr ⟨_, _, rfl, rfl, ignored, settled⟩
  · simp only [here]
    exact alike.rows other

theorem Timeline.WellFormed.setView (wf : tl.WellFormed) (viewed : tl.views id = some view)
    (ignored : Bool) : (tl.setView id ⟨view.reading, ignored⟩).WellFormed :=
  wf.see (wf.settled id view viewed)

theorem Alike.setView (alike : Alike live replayed) (viewed : live.views id = some view)
    (stale_viewed : replayed.views id = some stale) (ignored : Bool) :
    Alike (live.setView id ⟨view.reading, ignored⟩)
      (replayed.setView id ⟨stale.reading, ignored⟩) := by
  refine alike.see rfl ?_
  obtain ⟨seen, seen_eq, -, reading⟩ := alike.of_viewed viewed
  cases stale_viewed.symm.trans seen_eq
  exact reading

/-- A timeline with its rows up to date is like itself. -/
theorem Timeline.WellFormed.alike_self (wf : tl.WellFormed) : Alike tl tl := by
  refine ⟨rfl, rfl, fun id => ?_⟩
  cases viewed : tl.views id with
  | none => exact .inl ⟨rfl, rfl⟩
  | some view => exact .inr ⟨view, view, rfl, rfl, rfl, wf.settled id view viewed⟩

theorem rowsOf_unknown (wf : tl.WellFormed) (unknown : tl.views id = none) : tl.rowsOf id = [] := by
  rw [Timeline.rowsOf, transitionsOf, filter_eq_nil_iff]
  intro t mem own
  have there := wf.attached t mem
  rw [of_decide_eq_true own, unknown] at there
  cases there

theorem Timeline.WellFormed.insert (wf : tl.WellFormed) (unknown : tl.views id = none)
    (view : View) : (tl.setView id view).WellFormed :=
  wf.see (by rw [rowsOf_unknown wf unknown]; rfl)

theorem Alike.insert (alike : Alike live replayed) (wf : live.WellFormed)
    (unknown : live.views id = none) (view : View) :
    Alike (live.setView id view) (replayed.setView id view) :=
  alike.see rfl (by rw [rowsOf_unknown wf unknown]; rfl)

end Steps

/-! ### One delivery -/

section Delivering

variable {live replayed : ContainerStore}

variable {seen : ContainerState} {now : Reading} {change : Change}

theorem changeOf_cases (changed : changeOf agentId report info seen now = some change) :
    change = healthChange agentId report info now ∨
      ∃ state, change = stateChange agentId report info now state := by
  rw [changeOf] at changed
  split at changed
  · obtain ⟨-, ⟨⟩⟩ := Option.ite_none_left_eq_some.mp changed
    exact .inl rfl
  split at changed
  · cases changed
  · obtain ⟨-, ⟨⟩⟩ := Option.ite_none_left_eq_some.mp changed
    exact .inr ⟨_, rfl⟩

theorem fits_of_changeOf (changed : changeOf agentId report info seen now = some change) :
    change.Fits (report.id agentId) (unix (agentEventTime report info)) now := by
  have derived : ∀ (evt : ContainerEvent) (kind : RecordKind), ∀ given ∈ evt.recordID kind,
      ∀ number, given ≠ .fresh number := by
    intro evt kind given mem number same
    obtain ⟨-, ⟨⟩⟩ := Option.ite_none_left_eq_some.mp mem
    cases same
  obtain rfl | ⟨state, rfl⟩ := changeOf_cases changed
  · exact ⟨fun _ => rfl, fun _ => rfl, fun _ => rfl, fun _ => rfl, fun _ => rfl, derived _ _⟩
  · exact ⟨fun _ => rfl, fun _ => rfl, fun _ => rfl, fun _ => rfl, fun _ => rfl, derived _ _⟩

theorem changeOf_congr {other : ContainerState}
    (same : containerStateToAction report = some .stop → (seen = .completed ↔ other = .completed)) :
    changeOf agentId report info seen now = changeOf agentId report info other now := by
  have aim : target report seen = target report other := by
    rw [target, target]
    cases kind : containerStateToAction report with
    | none => rfl
    | some action =>
      cases action with
      | stop => simp only [same kind]
      | start | die | pause | unpause | restart | create | destroy | healthStatus => rfl
  rw [changeOf, changeOf, aim]

theorem unused_of_orderly (orderly : Orderly agentId store report info c)
    (alike : Alike live.timeline store.timeline)
    (changed : changeOf agentId report info seen now = some change) :
    change.Unused live.timeline := by
  rw [Change.Unused, ← alike.transitions]
  intro given mem t t_mem
  obtain ⟨-, -, unused, -⟩ := orderly
  have from_event : ∀ (evt : ContainerEvent) (kind : RecordKind), evt.agentId = agentId →
      evt.eventId = info.eventId → evt.externalId = report.containerId →
      ∀ given ∈ evt.recordID kind, t.id ≠ given := by
    intro evt kind agent event external given mem
    obtain ⟨-, ⟨⟩⟩ := Option.ite_none_left_eq_some.mp mem
    rw [agent, event, external]
    refine unused t t_mem kind ?_
    cases kind with
    | stateTransition => exact mem_cons_self
    | healthTransition => exact mem_cons_of_mem _ mem_cons_self
  obtain rfl | ⟨state, rfl⟩ := changeOf_cases changed
  · exact from_event _ _ rfl rfl rfl given mem
  · exact from_event _ _ rfl rfl rfl given mem

/-- The first transition of a container that an agent reports. -/
def firstChange (agentId : String) (report : ContainerReport) (info : EventMeta) : Change where
  id := none
  row := fun given => ⟨given, ⟨uidAgent agentId, report.containerId⟩, .created,
    agentContainerState report, none, none, none, unix (agentEventTime report info)⟩
  after := (agentContainer agentId report).reading

theorem timeline_insert : { store with containers := store.containers.insert c }.timeline =
      store.timeline.setView c.id c.view := by
  refine congrArg (Timeline.mk store.transitions store.nextUid) (funext fun other => ?_)
  change ((store.containers.insert c).lookup other).map Container.view =
    Function.update store.timeline.views _ _ other
  rw [update_apply]
  split
  next here =>
    rw [here]
    exact congrArg (Option.map Container.view) (lookup_insert_self store.containers c)
  next elsewhere =>
    rw [lookup_insert_of_ne elsewhere]
    rfl

theorem timeline_insertAgentContainer : (store.insertAgentContainer agentId report info).timeline =
      if agentContainerState report = .created then store.timeline.setView (report.id agentId)
          (agentContainer agentId report).view else (store.timeline.setView (report.id agentId)
        (agentContainer agentId report).view).record
          (firstChange agentId report info).id (firstChange agentId report info).row := by
  have archived (c : Container) (seconds : Int) : (if info.replayed then
        { store with containers := store.containers.insert c }.archiveContainer c.id seconds
      else { store with containers := store.containers.insert c }).timeline =
        store.timeline.setView c.id c.view := by
    split
    · rw [timeline_archive]
      exact timeline_insert
    · exact timeline_insert
  have state : (agentContainer agentId report).state = agentContainerState report :=
    rfl
  rw [insertAgentContainer]
  simp only [state]
  split
  · exact archived _ _
  · rw [timeline_record, archived]
    rfl

theorem lookup_of_views (viewed : store.timeline.views id = some view) :
    ∃ c, store.lookup id = some c ∧ c.id = id ∧ c.view = view := by
  obtain ⟨c, found, same⟩ := Option.map_eq_some_iff.mp viewed
  exact ⟨c, found, (lookup_eq_some.mp found).2, same⟩

theorem timeline_deliver_nothing
    (nothing : report.containerId = "" ∨ checkLabelCount report ≠ none ∨ report.destroyed = true) :
    (store.deliver agentId (.event report info)).timeline = store.timeline := by
  rw [deliver, handleAgentEvent]
  split
  · rfl
  rename_i named
  split
  · rfl
  rename_i sized
  rcases nothing with unnamed | refused | destroyed
  · exact absurd unnamed named
  · exact absurd sized refused
  · simp only [destroyed]
    exact timeline_handleDestroy

theorem deliver_unknown (named : report.containerId ≠ "") (sized : checkLabelCount report = none)
    (there : report.destroyed = false) (unknown : store.lookup (report.id agentId) = none) :
    store.deliver agentId (.event report info) =
      store.insertAgentContainer agentId report info := by
  simp only [deliver, handleAgentEvent, if_neg named, sized, there, unknown]
  rfl

theorem deliver_known (named : report.containerId ≠ "") (sized : checkLabelCount report = none)
    (there : report.destroyed = false) (found : store.lookup (report.id agentId) = some c) :
    store.deliver agentId (.event report info) = ((if info.replayed then store
        else store.relabel agentId report).reportHealth agentId report info c).reportState agentId
          report info := by
  simp only [deliver, handleAgentEvent, if_neg named, sized, there, found]
  rfl

theorem alike_insert (wf : live.timeline.WellFormed) (alike : Alike live.timeline replayed.timeline)
    (unknown : live.timeline.views (report.id agentId) = none) :
    (live.insertAgentContainer agentId report { info with replayed := false }).timeline.WellFormed ∧
      Alike (live.insertAgentContainer agentId report { info with replayed := false }).timeline
        (replayed.insertAgentContainer agentId report info).timeline := by
  rw [timeline_insertAgentContainer, timeline_insertAgentContainer]
  split
  · exact ⟨wf.insert unknown _, alike.insert wf unknown _⟩
  · -- the row passes through `created`, where the first transition begins
    let begin_ : View := ⟨(.created, (agentContainer agentId report).healthStatus),
      (agentContainer agentId report).isIgnored⟩
    have fits : (firstChange agentId report info).Fits (report.id agentId)
        (unix (agentEventTime report info)) begin_.reading :=
      ⟨fun _ => rfl, fun _ => rfl, fun _ => rfl, fun _ => rfl, fun _ => rfl, nofun⟩
    have wf_begin := wf.insert unknown begin_
    have alike_begin := alike.insert wf unknown begin_
    have viewed : (live.timeline.setView (report.id agentId) begin_).views
        (report.id agentId) = some begin_ := update_self _ _ _
    have stale : (replayed.timeline.setView (report.id agentId) begin_).views
        (report.id agentId) = some begin_ := update_self _ _ _
    have later : ∀ t ∈ (live.timeline.setView (report.id agentId)
        begin_).rowsOf (report.id agentId), t.timestamp < unix (agentEventTime report info) := by
      rw [rowsOf_setView, rowsOf_unknown wf unknown]
      exact fun _ mem => absurd mem not_mem_nil
    have recorded := wf_begin.record viewed fits later nofun
      (agentContainer agentId report).isIgnored
    have both := alike_begin.record wf_begin (agentContainer agentId report).view
      viewed stale fits nofun (.inr rfl)
    rw [Timeline.setView_setView] at recorded both
    rw [Timeline.setView_setView] at both
    exact ⟨recorded, both⟩

theorem alike_known {row stale : Container} (wf : live.timeline.WellFormed)
    (alike : Alike live.timeline replayed.timeline) (named : report.containerId ≠ "")
    (sized : checkLabelCount report = none) (there : report.destroyed = false)
    (found : live.lookup (report.id agentId) = some row)
    (stale_found : replayed.lookup (report.id agentId) = some stale)
    (ignored : row.isIgnored = stale.isIgnored) (reading : row.reading =
      ends (live.timeline.rowsOf (report.id agentId)) stale.reading)
    (orderly : Orderly agentId replayed report info stale) :
    (live.deliver agentId (.event report { info with replayed := false })).timeline.WellFormed ∧
      Alike (live.deliver agentId (.event report { info with replayed := false })).timeline
        (replayed.deliver agentId (.event report info)).timeline := by
  have stale_id : stale.id = (report.id agentId) :=
    (lookup_eq_some.mp stale_found).2
  have same_rows : transitionsOf stale.id replayed.transitions.items =
      live.timeline.rowsOf (report.id agentId) := by
    rw [stale_id]
    exact congrArg (fun table => transitionsOf _ table.items) alike.transitions
  have unused : ∀ {seen now change}, changeOf agentId report info seen now = some change →
      change.Unused live.timeline := unused_of_orderly orderly alike
  have viewed := views_of_lookup found
  have stale_viewed := views_of_lookup stale_found
  obtain ⟨single, later, -, current, misled⟩ := orderly
  rw [same_rows] at later current misled
  rw [deliver_known named sized there found, deliver_known named sized there stale_found]
  simp only [Bool.false_eq_true, if_false]
  have lively : ({ info with replayed := false } : EventMeta).replayed = false := rfl
  rw [timeline_live lively single found]
  have same_change : ∀ seen now, changeOf agentId report { info with replayed := false } seen now =
      changeOf agentId report info seen now := fun _ _ => rfl
  rw [same_change]
  cases flag : info.replayed with
  | false =>
    -- both are folded over the row, which is the same in both
    have same_reading : row.reading = stale.reading := reading.trans (current flag).symm
    have same_state : row.state = stale.state := congrArg Prod.fst same_reading
    have same_ignored : (row.refresh report.labels).isIgnored =
        (stale.refresh report.labels).isIgnored := by
      change (if _ then row.isIgnored else _) = if _ then stale.isIgnored else _
      rw [ignored]
    simp only [Bool.false_eq_true, if_false]
    rw [timeline_live flag single stale_found, ← same_ignored, ← same_reading, ← same_state]
    have wf_view := wf.setView viewed (row.refresh report.labels).isIgnored
    have alike_view := alike.setView viewed stale_viewed (row.refresh report.labels).isIgnored
    have row_view : (row.refresh report.labels).view =
        ⟨row.view.reading, (row.refresh report.labels).isIgnored⟩ := rfl
    have stale_view : (stale.refresh report.labels).view =
        ⟨stale.view.reading, (row.refresh report.labels).isIgnored⟩ := by
      rw [same_ignored]
      rfl
    rw [row_view, stale_view]
    cases watched : (row.refresh report.labels).isIgnored with
    | true =>
      rw [watched] at wf_view alike_view
      exact ⟨wf_view, alike_view⟩
    | false =>
      rw [watched] at wf_view alike_view
      cases changed : changeOf agentId report info row.state row.reading with
      | none => exact ⟨wf_view, alike_view⟩
      | some change =>
        have fits := fits_of_changeOf changed
        refine ⟨wf.record viewed fits later (unused changed) false, ?_⟩
        exact alike.record wf ⟨change.after, false⟩ viewed stale_viewed fits
          (unused changed) (.inr rfl)
  | true =>
    -- one is folded over the row, the other over the timeline that ends there
    obtain ⟨stop, labels, reach⟩ := misled flag
    have refreshed : (row.refresh report.labels).view = row.view :=
      view_refresh fun given => (labels given).trans ignored.symm
    have same_ignored : (row.refresh report.labels).isIgnored = stale.isIgnored :=
      (congrArg View.isIgnored refreshed).trans ignored
    have read : replayed.timelineAt stale (agentEventTime report info) = row.reading := by
      rw [timelineAt_eq same_rows (wf.ascending _) later reach]
      exact reading.symm
    simp only [if_true]
    rw [timeline_replayed flag single stale_found, read, same_ignored, refreshed,
      Timeline.setView_self viewed]
    cases watched : stale.isIgnored with
    | true => exact ⟨wf, alike⟩
    | false =>
      have same : changeOf agentId report info stale.state row.reading =
          changeOf agentId report info row.state row.reading := by
        refine changeOf_congr fun kind => ?_
        have told := stop kind
        rw [← reading] at told
        exact told
      rw [same]
      cases changed : changeOf agentId report info row.state row.reading with
      | none => exact ⟨wf, alike⟩
      | some =>
        have fits := fits_of_changeOf changed
        refine ⟨wf.record viewed fits later (unused changed) false, ?_⟩
        have both := alike.record wf stale.view viewed stale_viewed fits (unused changed) (.inl rfl)
        have off : stale.view.isIgnored = false := watched
        rw [Timeline.setView_self stale_viewed, off] at both
        exact both

theorem alike_event (wf : live.timeline.WellFormed) (alike : Alike live.timeline replayed.timeline)
    (meets : Meets agentId replayed (.event report info)) :
    (live.deliver agentId (.event report { info with replayed := false })).timeline.WellFormed ∧
      Alike (live.deliver agentId (.event report { info with replayed := false })).timeline
        (replayed.deliver agentId (.event report info)).timeline := by
  by_cases nothing : report.containerId = "" ∨ checkLabelCount report ≠ none ∨
      report.destroyed = true
  · rw [timeline_deliver_nothing nothing, timeline_deliver_nothing nothing]
    exact ⟨wf, alike⟩
  simp only [not_or, not_not, Bool.not_eq_true] at nothing
  obtain ⟨named, sized, there⟩ := nothing
  rcases alike.rows (report.id agentId) with
    ⟨unknown, stale_unknown⟩ | ⟨_, _, viewed, stale_viewed, ignored, reading⟩
  · have absent := Option.map_eq_none_iff.mp unknown
    have stale_absent := Option.map_eq_none_iff.mp stale_unknown
    rw [deliver_unknown named sized there absent, deliver_unknown named sized there stale_absent]
    exact alike_insert wf alike unknown
  obtain ⟨row, found, -, rfl⟩ := lookup_of_views viewed
  obtain ⟨stale, stale_found, -, rfl⟩ := lookup_of_views stale_viewed
  exact alike_known wf alike named sized there found stale_found ignored reading
    (meets stale stale_found)

theorem alike_deliveries {deliveries : List Delivery} :
    ∀ live replayed : ContainerStore, live.timeline.WellFormed →
      Alike live.timeline replayed.timeline →
      Execution.Guarded (ContainerStore.next agentId) (Meets agentId) replayed deliveries →
      ((deliveries.filterMap Delivery.live).foldl (deliver agentId) live).timeline.WellFormed ∧
        Alike ((deliveries.filterMap Delivery.live).foldl (deliver agentId) live).timeline
          (deliveries.foldl (deliver agentId) replayed).timeline := by
  induction deliveries with
  | nil => exact fun live replayed wf alike _ => ⟨wf, alike⟩
  | cons delivery deliveries ih =>
    intro live replayed wf alike guarded
    obtain ⟨meets, later⟩ := guarded
    cases delivery with
    | event =>
      obtain ⟨wf, alike⟩ := alike_event wf alike meets
      exact ih _ _ wf alike later
    | inventory =>
      refine ih live _ wf ?_ later
      rw [timeline_inventory meets]
      exact alike

end Delivering

/-- When every event is orderly and every inventory restates the rows, the stored transitions are
those of the same events received live, in order, each beginning where the one before it led. -/
theorem replay_stores_live_timeline (agentId : String) (start : ContainerStore)
    (deliveries : List Delivery) (wf : start.timeline.WellFormed)
    (guarded : Execution.Guarded (ContainerStore.next agentId) (Meets agentId) start deliveries) :
    (deliveries.foldl (ContainerStore.deliver agentId) start).transitions =
        ((deliveries.filterMap Delivery.live).foldl
          (ContainerStore.deliver agentId) start).transitions ∧ ∀ id, Ascending (transitionsOf id
          (deliveries.foldl (ContainerStore.deliver agentId) start).transitions.items) ∧
        Chained (transitionsOf id
          (deliveries.foldl (ContainerStore.deliver agentId) start).transitions.items) := by
  obtain ⟨wf_after, alike⟩ := alike_deliveries start start wf wf.alike_self guarded
  have same := alike.transitions
  refine ⟨same, fun id => ?_⟩
  have rows : transitionsOf id (deliveries.foldl (deliver agentId) start).transitions.items =
        ((deliveries.filterMap Delivery.live).foldl (deliver agentId) start).timeline.rowsOf id :=
    congrArg (fun table => transitionsOf id table.items) same
  rw [rows]
  exact ⟨wf_after.ascending id, wf_after.chained id⟩

/-! ### An outage -/

def ContainerStore.empty : ContainerStore := ⟨.empty _, .empty _, 0⟩

theorem wellFormed_empty : ContainerStore.empty.timeline.WellFormed := by
  refine ⟨fun _ => List.Pairwise.nil, fun _ => isChain_nil, ?_, ?_, nofun⟩
  · exact fun t mem => absurd mem (not_mem_empty t)
  · exact fun t mem => absurd mem (not_mem_empty t)

section Scenario

private def second (number : Int) : Int := number * 1000000000

private def job (state : ReportedState) (exitCode : String) : ContainerReport :=
  ⟨"c1", state, exitCode, false, "", none, false, []⟩

private def observed (number : Int) (eventId : String) (replayed : Bool) (state : ReportedState)
    (exitCode : String) : Delivery :=
  .event (job state exitCode) ⟨second number, replayed, eventId⟩

private def inventoried (number : Int) (state : ReportedState) (exitCode : String) : Delivery :=
  .inventory [job state exitCode] true (second number) "inventory" (second number)

/-- The container fails and comes back while the stream is down. -/
private def outage : List Delivery :=
  [observed 5 "e1" false .running "", inventoried 40 .running "",
    observed 10 "e2" true .exited "1", observed 20 "e3" true .running "",
    observed 50 "e4" false .paused ""]

/-- The timeline of a container that failed and came back during an outage. -/
theorem replay_stores_live_timeline_of_outage :
    (outage.foldl (ContainerStore.deliver "agent-1") .empty).transitions =
      ((outage.filterMap Delivery.live).foldl
      (ContainerStore.deliver "agent-1") .empty).transitions :=
  (replay_stores_live_timeline "agent-1" .empty outage wellFormed_empty (by decide +kernel)).1

private def story (store : ContainerStore) : List (ContainerState × ContainerState × Int) :=
  (StableSort.sortOn StateTransition.timestamp
    (transitionsOf ⟨"agent-1", "c1"⟩ store.transitions.items)).map fun t =>
      (t.previousState, t.newState, t.timestamp)

/-- The container is stopped, exits cleanly and is started again while the stream is down. -/
private def cleanStop : List Delivery :=
  [observed 5 "e1" false .running "", inventoried 40 .running "",
    observed 10 "e2" true .exited "0", observed 11 "e3" true .exited "",
    observed 20 "e4" true .running ""]

/-- The container fails while the stream is down. -/
private def failure : List Delivery :=
  [observed 5 "e1" false .running "", inventoried 40 .exited "1",
    observed 10 "e2" true .exited "1"]

/-- A replayed stop after a clean exit is taken for a failure, and a state that the inventory has
found is reached twice. -/
theorem replayed_stop_and_inventory_differ_from_live :
    story (cleanStop.foldl (ContainerStore.deliver "agent-1") .empty) =
        [(.created, .running, 5), (.running, .completed, 10), (.completed, .exited, 11),
          (.exited, .running, 20)] ∧
      story ((cleanStop.filterMap Delivery.live).foldl (ContainerStore.deliver "agent-1") .empty) =
        [(.created, .running, 5), (.running, .completed, 10), (.completed, .running, 20)] ∧
      story (failure.foldl (ContainerStore.deliver "agent-1") .empty) =
        [(.created, .running, 5), (.running, .exited, 10), (.running, .exited, 40)] ∧
      story ((failure.filterMap Delivery.live).foldl (ContainerStore.deliver "agent-1") .empty) =
        [(.created, .running, 5), (.running, .exited, 10)] := by
  decide +kernel

end Scenario

end Maintenant.Containers
