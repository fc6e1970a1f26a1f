import Maintenant.Containers.Replay
import Maintenant.Endpoints.Declared
import Maintenant.Resources.Service

/-!
# At-least-once delivery

Everything past the last acknowledgement is sent again when a stream breaks and when the server
refuses an event for its rate.  In the first case the new stream was opened after the events were
observed, so that they come flagged as replayed; in the second they come as before.  A row of a
result or a sample is keyed by its event.  A transition is, too, but whether there is one and where
it begins is read off the timeline at the time of the event, for a stop off the row of the container
as well, and off the row alone if the event is not flagged.
-/

namespace Maintenant.Multihost

open Agent (unix)
open Alerting (uidAgent Environment)
open Containers List Option Execution StateTransition ContainerStore
open Endpoints
open Resources

/-- What an agent spools. -/
inductive Spooled
  /-- A container event, with the container's name. -/
  | container (name : String) (report : ContainerReport)
  | sample (sample : ResourceSample)
  | check (result : EndpointEvent)
  deriving DecidableEq

def Spooled.report : Spooled → Option ContainerReport
  | .container _ report => some report
  | .sample _ => none
  | .check _ => none

/-- What the events are written to. -/
structure Tables where
  containers : ContainerStore
  monitor : EndpointMonitor
  resources : ResourceStore

/-- The report is taken, is about a container and does not say that it was removed. -/
def Acts (report : ContainerReport) : Prop :=
  report.containerId ≠ "" ∧ checkLabelCount report = none ∧ report.destroyed = false

instance (report : ContainerReport) : Decidable (Acts report) :=
  inferInstanceAs (Decidable (_ ∧ _ ∧ _))

section Deliveries

variable (deps : ServiceDeps)
  (parse : List (String × String) → List ParsedEndpoint) (agentId : String)

namespace Tables

/-- The handlers of the dispatcher.  The labels of a container event declare endpoints, also when it
is replayed. -/
def dispatch (event : Spooled) (info : EventMeta) (env : Environment) (newId : Nat)
    (tables : Tables) : Except HandlerError Tables :=
  match event with
  | .container name report => do
      let containers ← tables.containers.handleAgentEvent agentId report info
      let labels := if report.destroyed then [] else report.labels
      return { tables with
        containers
        monitor := tables.monitor.syncAgentEndpoints deps env.now agentId name report.containerId
          (parse labels) }
  | .sample sample =>
    return { tables with
      resources := tables.resources.handleAgentEvent agentId sample info newId
        tables.containers }
  | .check result =>
    return { tables with
      monitor := tables.monitor.handleAgentEvent deps env agentId result info }

/-- The tables after an event; one that is refused changes nothing. -/
def deliver (event : Spooled) (info : EventMeta) (env : Environment) (newId : Nat)
    (tables : Tables) : Tables :=
  (tables.dispatch deps parse agentId event info env newId).toOption.getD tables

end Tables

/-- The tables, and the events they were given. -/
structure Received where
  tables : Tables
  delivered : List (Spooled × EventMeta)

/-- What comes over the streams of the agent. -/
inductive Transfer
  /-- An event comes for the first time. -/
  | first (event : Spooled) (info : EventMeta) (env : Environment) (newId : Nat)
  /-- An event comes again, flagged as replayed if its stream was opened after it was observed. -/
  | again (event : Spooled) (info : EventMeta) (replayed : Bool) (env : Environment) (newId : Nat)

/-- One transfer.  Only what has been delivered comes again. -/
def Received.next (received : Received) : Transfer → Option Received
  | .first event info env newId =>
    some ⟨received.tables.deliver deps parse agentId event info env newId,
      received.delivered ++ [(event, info)]⟩
  | .again event info replayed env newId =>
    if (event, info) ∈ received.delivered then
      some { received with
        tables := received.tables.deliver deps parse agentId event
          { info with replayed } env newId }
    else none

/-- The tables after the first deliveries alone. -/
def Tables.once (tables : Tables) (transfers : List Transfer) : Tables :=
  transfers.foldl (fun tables transfer =>
    match transfer with
    | .first event info env newId => tables.deliver deps parse agentId event info env newId
    | .again _ _ _ _ _ => tables) tables

/-! ### The condition -/

/-- A container event in a later second than those of the container before it, which leaves what its
labels say about monitoring. -/
def InOrder (received : Received) (report : ContainerReport) (info : EventMeta) : Prop :=
  Single report ∧
  (∀ c ∈ received.tables.containers.lookup ⟨uidAgent agentId, report.containerId⟩,
    Orderly agentId received.tables.containers report info c ∧
      (report.labels ≠ [] → ignoredByLabels report.labels = c.isIgnored)) ∧
  (received.tables.containers.lookup ⟨uidAgent agentId, report.containerId⟩ = none →
    report.state ≠ .dead) ∧
  ∀ old ∈ received.delivered, ∀ earlier ∈ old.1.report, Acts earlier →
    earlier.containerId = report.containerId →
      unix (agentEventTime earlier old.2) < unix (agentEventTime report info)

instance (received : Received) (report : ContainerReport) (info : EventMeta) :
    Decidable (InOrder agentId received report info) := by
  unfold InOrder
  infer_instance

/-- The event has an id that no event before it had and no row is keyed by. -/
def Anew (received : Received) (event : Spooled) (info : EventMeta) : Prop :=
  info.eventId ≠ "" ∧
  (∀ old ∈ received.delivered, old.2.eventId ≠ info.eventId) ∧
  match event with
  | .container _ report => Acts report → InOrder agentId received report info
  | .sample _ =>
    ∀ row ∈ received.tables.resources.snapshots.items,
      row.id ≠ .derived (uidAgent agentId) info.eventId
  | .check _ =>
    ∀ row ∈ received.tables.monitor.store.results.items, row.id ≠ .derived agentId info.eventId

instance (received : Received) (event : Spooled) (info : EventMeta) :
    Decidable (Anew agentId received event info) := by
  unfold Anew
  split <;> infer_instance

/-- The timeline of the container says how its health was, and a stop is not misled by the row. -/
def Legible (report : ContainerReport) (rows : List StateTransition) (c : Container) : Prop :=
  (report.healthStatus ≠ "" →
    ((rows.reverse.take replayTimelineDepth).any fun t => t.newHealth.isSome) = true) ∧
  (containerStateToAction report = some .stop →
    c.state = .completed ∨ rows.getLast?.map StateTransition.newState ≠ some .completed)

instance (report : ContainerReport) (rows : List StateTransition) (c : Container) :
    Decidable (Legible report rows c) :=
  inferInstanceAs (Decidable ((_ → _) ∧ (_ → _)))

/-- The report is not refused. -/
def Taken (report : ContainerReport) : Prop :=
  report.containerId = "" ∨ checkLabelCount report = none

instance (report : ContainerReport) : Decidable (Taken report) :=
  inferInstanceAs (Decidable (_ ∨ _))

/-- What an event that comes again refers to is as it left it: a replayed report is legible, a live
one says what the row says, the labels declare what is stored, and what would be recorded now
was. -/
def Unmoved (received : Received) (event : Spooled) (info : EventMeta) (replayed : Bool) : Prop :=
  match event with
  | .container name report =>
    (Acts report → replayed = true →
      ∀ c ∈ received.tables.containers.lookup ⟨uidAgent agentId, report.containerId⟩,
        c.isIgnored = false → Legible report (received.tables.containers.upTo
          ⟨uidAgent agentId, report.containerId⟩ (unix (agentEventTime report info))) c) ∧
    (Acts report → replayed = false → Confirms agentId received.tables.containers report) ∧
    (Taken report → Declares (uidAgent agentId) name report.containerId
      (parse (if report.destroyed then [] else report.labels)) received.tables.monitor.store)
  | .sample sample =>
    ∀ c ∈ received.tables.containers.lookup ⟨uidAgent agentId, sample.containerId⟩,
      c.isIgnored = false → ∃ row ∈ received.tables.resources.snapshots.items,
        row.id = .derived (uidAgent agentId) info.eventId
  | .check result =>
    ∀ id ∈ received.tables.monitor.store.attached (uidAgent agentId) result.url,
      ∃ row ∈ received.tables.monitor.store.results.items,
        row.id = .derived agentId info.eventId ∧ row.endpointId = id

instance (received : Received) (event : Spooled) (info : EventMeta) (replayed : Bool) :
    Decidable (Unmoved parse agentId received event info replayed) := by
  unfold Unmoved
  split <;> infer_instance

/-- First deliveries are of new events in order, and redeliveries find what they refer to
unmoved. -/
def Regular (received : Received) : Transfer → Prop
  | .first event info _ _ => Anew agentId received event info
  | .again event info replayed _ _ => Unmoved parse agentId received event info replayed

instance (received : Received) (transfer : Transfer) :
    Decidable (Regular parse agentId received transfer) := by
  unfold Regular
  split <;> infer_instance

end Deliveries

/-! ### What an event tells the timeline -/

/-- The transitions of a container up to a second. -/
def rowsUpTo (tl : Timeline) (id : ContainerId) (second : Int) : List StateTransition :=
  (tl.rowsOf id).filter fun t => t.timestamp ≤ second

/-- The transitions end with what the report is about. -/
structure Led (report : ContainerReport) (rows : List StateTransition) : Prop where
  /-- They lead to the state, or a stop followed a clean exit. -/
  state : report.healthStatus = "" → ∀ state ∈ target report .running,
    rows.getLast?.map StateTransition.newState = some state ∨
      containerStateToAction report = some .stop ∧
        rows.getLast?.map StateTransition.newState = some .completed
  health : report.healthStatus ≠ "" →
    ∀ health ∈ rows.reverse.findSome? StateTransition.newHealth,
      health = readHealth report.healthStatus

/-- The container is known, and its timeline at the time of the event says what the event said. -/
def Told (agentId : String) (tl : Timeline) (report : ContainerReport) (info : EventMeta) : Prop :=
  ∃ view, tl.views ⟨uidAgent agentId, report.containerId⟩ = some view ∧
    (view.isIgnored = false → Led report
      (rowsUpTo tl ⟨uidAgent agentId, report.containerId⟩ (unix (agentEventTime report info))))

/-- A container without transitions has been created only. -/
def Begun (tl : Timeline) : Prop :=
  ∀ id, ∀ view ∈ tl.views id, tl.rowsOf id = [] → view.reading.1 = .created

variable {change : Change} {now : Reading} {agentId : String} {report : ContainerReport}
  {info : EventMeta}

section Reports

variable {seen state : ContainerState}

theorem target_of_target (aim : target report seen = some state) :
    target report .running = some state := by
  rw [target] at aim ⊢
  split at aim
  · exact aim
  · split at aim
    · cases aim
    · exact aim
  · exact aim
  · exact aim
  · cases aim

theorem target_cases : target report seen = target report .running ∨
      containerStateToAction report = some .stop ∧ seen = .completed ∧
        target report seen = none := by
  rw [target, target]
  cases kind : containerStateToAction report with
  | none => exact Or.inl rfl
  | some action =>
    cases action with
    | stop =>
      by_cases clean : seen = .completed
      · exact Or.inr ⟨rfl, clean, if_pos clean⟩
      · exact Or.inl (if_neg clean)
    | start | die | pause | unpause | restart | create | destroy | healthStatus =>
      exact Or.inl rfl

theorem target_ne_created : target report seen ≠ some .created := by
  rw [target]
  split
  · simp
  · split
    · simp
    · simp
  · split
    · simp
    · simp
  · simp
  · simp

theorem target_agentContainerState (alive : report.state ≠ .dead)
    (aim : target report .running = some state) : agentContainerState report = state := by
  rw [target, containerStateToAction] at aim
  rw [agentContainerState]
  cases reported : report.state with
  | running | paused =>
    rw [reported] at aim
    cases aim
    rfl
  | exited =>
    simp only [reported, containerStateToState] at aim ⊢
    by_cases empty : report.statusMessage = ""
    · simp only [empty] at aim
      cases aim
      simp [empty]
    · simpa [empty] using aim
  | dead => exact absurd reported alive
  | restarting | created | unspecified =>
    rw [reported] at aim
    cases aim

theorem change_leads
    (changed : changeOf agentId report info seen now = some change) {given : TransitionId} :
    (report.healthStatus = "" →
      ∀ state ∈ target report .running, (change.row given).newState = state) ∧
    (report.healthStatus ≠ "" →
      (change.row given).newHealth = some (readHealth report.healthStatus)) := by
  rw [changeOf] at changed
  split at changed
  next health =>
    split at changed
    · cases changed
    · cases changed
      exact ⟨fun empty => absurd empty health, fun _ => rfl⟩
  next empty =>
    split at changed
    · cases changed
    rename_i state aim
    obtain ⟨-, ⟨⟩⟩ := ite_none_left_eq_some.mp changed
    refine ⟨?_, fun health => absurd health empty⟩
    intro _ other other_aim
    rw [target_of_target aim] at other_aim
    exact some.inj other_aim

end Reports

/-! ### First deliveries -/

variable {rows : List StateTransition}

section Telling

variable {tl : Timeline} {id : ContainerId} {view : View} {second : Int}

theorem rowsUpTo_all (before : ∀ t ∈ tl.rowsOf id, t.timestamp ≤ second) :
    rowsUpTo tl id second = tl.rowsOf id := by
  rw [rowsUpTo, filter_eq_self]
  exact fun t mem => decide_eq_true (before t mem)

theorem led_of_unchanged (begun : tl.rowsOf id = [] → view.reading.1 = .created)
    (settled : view.reading = ends (tl.rowsOf id) view.reading)
    (unchanged : changeOf agentId report info view.reading.1 view.reading = none) :
    Led report (tl.rowsOf id) := by
  rw [changeOf] at unchanged
  refine ⟨?_, ?_⟩
  · intro empty state aim
    rw [if_neg (not_not.mpr empty)] at unchanged
    -- a row that is not just created is where the last transition led
    have last : view.reading.1 ≠ .created →
        (tl.rowsOf id).getLast?.map newState = some view.reading.1 := by
      intro moved
      have there := congrArg Prod.fst settled
      cases found : (tl.rowsOf id).getLast? with
      | none => exact absurd (begun (getLast?_eq_none_iff.mp found)) moved
      | some =>
        rw [ends, found] at there
        exact congrArg some there.symm
    rcases target_cases with same | ⟨stop, clean, -⟩
    · rw [same, aim] at unchanged
      dsimp only at unchanged
      split at unchanged
      · rename_i here
        refine Or.inl (here ▸ last ?_)
        intro created
        rw [here] at created
        exact target_ne_created (created ▸ aim)
      · cases unchanged
    · refine Or.inr ⟨stop, clean ▸ last ?_⟩
      rw [clean]
      simp
  · intro given health found
    rw [if_pos given] at unchanged
    split at unchanged
    · rename_i known
      rw [settled, ends, found] at known
      exact some.inj known
    · cases unchanged

theorem led_append {row : StateTransition}
    (state : report.healthStatus = "" → ∀ state ∈ target report .running, row.newState = state)
    (health : report.healthStatus ≠ "" → row.newHealth = some (readHealth report.healthStatus)) :
    Led report (rows ++ [row]) := by
  refine ⟨?_, ?_⟩
  · intro empty aimed aim
    refine Or.inl ?_
    rw [getLast?_append_of_ne_nil rows (cons_ne_nil row [])]
    exact congrArg some (state empty aimed aim)
  intro given told found
  rw [reverse_append, reverse_singleton, singleton_append, findSome?_cons, health given] at found
  exact (some.inj found).symm

/-- Rows stay known and as ignored as they were, and one container may have one more transition. -/
structure Grown (tl after : Timeline) (id : ContainerId) (second : Int) : Prop where
  views : ∀ other, ∀ view ∈ tl.views other, ∃ seen, after.views other = some seen ∧
    seen.isIgnored = view.isIgnored
  rows : ∀ other, after.rowsOf other = tl.rowsOf other ∨
    other = id ∧ ∃ row : StateTransition, after.rowsOf other = tl.rowsOf other ++ [row] ∧
      row.timestamp = second

theorem grown_setView (same : ∀ old ∈ tl.views id, view.isIgnored = old.isIgnored) (second : Int) :
    Grown tl (tl.setView id view) id second := by
  refine ⟨?_, fun _ => .inl rfl⟩
  intro other seen seen_mem
  change ∃ current, Function.update tl.views id (some view) other = some current ∧ _
  rw [Function.update_apply]
  split
  next here =>
    rw [here] at seen_mem
    exact ⟨view, rfl, same seen seen_mem⟩
  · exact ⟨seen, seen_mem, rfl⟩

theorem grown_record (wf : tl.WellFormed) (fits : change.Fits id second now)
    (unused : change.Unused tl) (same : ∀ old ∈ tl.views id, view.isIgnored = old.isIgnored) :
    Grown tl ((tl.setView id view).record change.id change.row) id second := by
  refine ⟨(grown_setView same second).views, ?_⟩
  intro other
  rw [rowsOf_record wf fits unused]
  split
  next here => exact .inr ⟨here, _, rfl, fits.time _⟩
  · exact .inl rfl

theorem begun_setView (begun : Begun tl) (here : tl.rowsOf id = [] → view.reading.1 = .created) :
    Begun (tl.setView id view) := by
  intro other seen seen_mem untold
  change Function.update tl.views id (some view) other = some seen at seen_mem
  rw [Function.update_apply] at seen_mem
  split at seen_mem
  next same =>
    cases seen_mem
    rw [same] at untold
    exact here untold
  · exact begun other seen seen_mem untold

theorem begun_record (begun : Begun tl) (wf : tl.WellFormed) (fits : change.Fits id second now)
    (unused : change.Unused tl) : Begun ((tl.setView id view).record change.id change.row) := by
  intro other seen seen_mem untold
  rw [rowsOf_record wf fits unused] at untold
  split at untold
  · exact absurd untold (append_ne_nil_of_right_ne_nil _ (cons_ne_nil _ []))
  next elsewhere =>
    change Function.update tl.views id (some view) other = some seen at seen_mem
    rw [Function.update_apply, if_neg elsewhere] at seen_mem
    exact begun other seen seen_mem untold

theorem Told.grown {after : Timeline} (told : Told agentId tl report info)
    (grown : Grown tl after id second) (later : id = (report.id agentId) →
      unix (agentEventTime report info) < second) : Told agentId after report info := by
  obtain ⟨view, viewed, led⟩ := told
  obtain ⟨seen, seen_mem, ignored⟩ := grown.views _ view viewed
  refine ⟨seen, seen_mem, ?_⟩
  intro watched
  have before := led (ignored ▸ watched)
  rcases grown.rows (report.id agentId) with same | ⟨here, row, more, time⟩
  · rw [rowsUpTo, same]
    exact before
  have beyond : ¬row.timestamp ≤ unix (agentEventTime report info) := by
    rw [time]
    exact not_le.mpr (later here.symm)
  rw [rowsUpTo, more, filter_append, filter_singleton]
  simp only [beyond, decide_false, cond_false, append_nil]
  exact before

end Telling

/-- What a new event makes of a timeline. -/
def Tells (agentId : String) (report : ContainerReport) (info : EventMeta) (tl after : Timeline) :
    Prop := Grown tl after (report.id agentId) (unix (agentEventTime report info)) ∧ Begun after ∧
      Told agentId after report info

section Live

variable {live : ContainerStore}

theorem led_of_changed {tl : Timeline} {id : ContainerId} {seen : ContainerState}
    {view : View} (wf : tl.WellFormed)
    (changed : changeOf agentId report info seen now = some change)
    (fits : change.Fits id (unix (agentEventTime report info)) now) (unused : change.Unused tl)
    (later : ∀ t ∈ tl.rowsOf id, t.timestamp < unix (agentEventTime report info)) :
    Led report (rowsUpTo ((tl.setView id view).record change.id change.row) id
      (unix (agentEventTime report info))) := by
  have rows : ((tl.setView id view).record change.id change.row).rowsOf id =
      tl.rowsOf id ++ [change.row (change.given tl)] := by
    rw [rowsOf_record wf fits unused, if_pos rfl]
  rw [rowsUpTo_all, rows]
  · obtain ⟨state, health⟩ := change_leads changed
    exact led_append state health
  rw [rows]
  intro t mem
  rcases mem_snoc.mp mem with old | rfl
  · exact (later t old).le
  · rw [fits.time]

theorem tells_known {row : Container} (wf : live.timeline.WellFormed) (begun : Begun live.timeline)
    (acts : Acts report) (single : Single report)
    (found : live.lookup (report.id agentId) = some row)
    (labels : report.labels ≠ [] → ignoredByLabels report.labels = row.isIgnored)
    (later : ∀ t ∈ live.timeline.rowsOf (report.id agentId),
      t.timestamp < unix (agentEventTime report info))
    (unused : ∀ {seen now change}, changeOf agentId report info seen now = some change →
      change.Unused live.timeline) : Tells agentId report info live.timeline
        (live.deliver agentId (.event report { info with replayed := false })).timeline := by
  have viewed := views_of_lookup found
  have begins := begun _ _ viewed
  have settled := wf.settled _ _ viewed
  have refreshed := view_refresh labels
  have same_ignored : (row.refresh report.labels).isIgnored = row.isIgnored :=
    congrArg View.isIgnored refreshed
  have same_view : live.timeline.setView (report.id agentId)
      (row.refresh report.labels).view = live.timeline := by
    rw [refreshed]
    exact Timeline.setView_self viewed
  have lively : ({ info with replayed := false } : EventMeta).replayed = false := rfl
  obtain ⟨named, sized, there⟩ := acts
  rw [deliver_known named sized there found]
  simp only [Bool.false_eq_true, if_false]
  rw [timeline_live lively single found, same_view, same_ignored]
  have same_change : changeOf agentId report { info with replayed := false } row.state
      row.reading = changeOf agentId report info row.state row.reading := rfl
  rw [same_change]
  have still : Grown live.timeline live.timeline (report.id agentId)
      (unix (agentEventTime report info)) :=
    ⟨fun _ view mem => ⟨view, mem, rfl⟩, fun _ => .inl rfl⟩
  cases watched : row.isIgnored with
  | true =>
    refine ⟨still, begun, row.view, viewed, ?_⟩
    intro off
    have on : row.isIgnored = false := off
    rw [watched] at on
    cases on
  | false =>
    simp only [Bool.false_eq_true, if_false]
    cases changed : changeOf agentId report info row.state row.reading with
    | none =>
      refine ⟨still, begun, row.view, viewed, fun _ => ?_⟩
      rw [elim_none, rowsUpTo_all fun t mem => (later t mem).le]
      exact led_of_unchanged begins settled changed
    | some change =>
      have fits := fits_of_changeOf changed
      have ignored : ∀ old ∈ live.timeline.views (report.id agentId),
          (⟨change.after, false⟩ : View).isIgnored = old.isIgnored := by
        intro old mem
        rw [viewed] at mem
        cases mem
        exact watched.symm
      refine ⟨grown_record wf fits (unused changed) ignored,
        begun_record begun wf fits (unused changed),
        ⟨change.after, false⟩, Function.update_self _ _ _, fun _ => ?_⟩
      exact led_of_changed wf changed fits (unused changed) later

theorem tells_unknown (wf : live.timeline.WellFormed) (begun : Begun live.timeline)
    (acts : Acts report) (unknown : live.lookup (report.id agentId) = none)
    (alive : report.state ≠ .dead) : Tells agentId report info live.timeline
        (live.deliver agentId (.event report { info with replayed := false })).timeline := by
  have unviewed : live.timeline.views (report.id agentId) = none :=
    map_eq_none_iff.mpr unknown
  have no_rows := rowsOf_unknown wf unviewed
  have vacuous : ∀ old ∈ live.timeline.views (report.id agentId),
      (agentContainer agentId report).view.isIgnored = old.isIgnored := by
    rw [unviewed]
    nofun
  obtain ⟨named, sized, there⟩ := acts
  rw [deliver_unknown named sized there unknown, timeline_insertAgentContainer]
  split
  · rename_i created
    refine ⟨grown_setView vacuous _, begun_setView begun fun _ => created, _,
      Function.update_self _ _ _, fun _ => ⟨?_, ?_⟩⟩
    · intro _ state aim
      have same := target_agentContainerState alive aim
      rw [created] at same
      exact absurd (same ▸ aim) target_ne_created
    · intro _ health told
      rw [rowsUpTo, rowsOf_setView, no_rows] at told
      cases told
  · have fits : (firstChange agentId report { info with replayed := false }).Fits
        (report.id agentId) (unix (agentEventTime report info))
        (.created, (agentContainer agentId report).healthStatus) :=
      ⟨fun _ => rfl, fun _ => rfl, fun _ => rfl, fun _ => rfl, fun _ => rfl, nofun⟩
    refine ⟨grown_record wf fits nofun vacuous, begun_record begun wf fits nofun, _,
      Function.update_self _ _ _, fun _ => ?_⟩
    have rows := rowsOf_record wf fits nofun (agentContainer agentId report).view
      (report.id agentId)
    rw [if_pos rfl, no_rows] at rows
    rw [rowsUpTo_all, rows]
    · refine ⟨?_, ?_⟩
      · intro _ state aim
        exact Or.inl (congrArg some (target_agentContainerState alive aim))
      · intro _ health told
        cases told
    · rw [rows]
      intro t mem
      rw [mem_singleton.mp mem]
      exact le_rfl

end Live

/-! ### What deliveries depend on -/

/-- What of the tables events are read against. -/
structure Contents where
  /-- Transitions, and what is read of the rows of containers. -/
  timeline : Timeline
  declared : Keyed Endpoint.id
  results : Keyed CheckRow.id
  resources : ResourceStore

/-- What of the tables events are read against. -/
def Tables.contents (tables : Tables) : Contents where
  timeline := tables.containers.timeline
  declared := tables.monitor.store.declared
  results := tables.monitor.store.results
  resources := tables.resources

section Containers

variable {store other : ContainerStore}

variable {c : Container}

theorem timelineAt_congr {twin : Container} (same : store.transitions = other.transitions)
    (ids : c.id = twin.id) (reading : c.reading = twin.reading) (at_ : Int) :
    store.timelineAt c at_ = other.timelineAt twin at_ := by
  have state : c.state = twin.state := congrArg Prod.fst reading
  have health : c.healthStatus = twin.healthStatus := congrArg Prod.snd reading
  rw [timelineAt, timelineAt, upTo, upTo, same, ids, state, health]

theorem timeline_deliver_congr (single : Single report) (same : store.timeline = other.timeline) :
    (store.deliver agentId (.event report info)).timeline =
      (other.deliver agentId (.event report info)).timeline := by
  by_cases nothing : report.containerId = "" ∨ checkLabelCount report ≠ none ∨
      report.destroyed = true
  · rw [timeline_deliver_nothing nothing, timeline_deliver_nothing nothing, same]
  simp only [not_or, not_not, Bool.not_eq_true] at nothing
  obtain ⟨named, sized, there⟩ := nothing
  cases viewed : store.timeline.views (report.id agentId) with
  | none =>
    have unknown := map_eq_none_iff.mp viewed
    rw [same] at viewed
    rw [deliver_unknown named sized there unknown,
      deliver_unknown named sized there (map_eq_none_iff.mp viewed),
      timeline_insertAgentContainer, timeline_insertAgentContainer, same]
  | some view =>
    obtain ⟨c, found, c_id, c_view⟩ := lookup_of_views viewed
    rw [same] at viewed
    obtain ⟨twin, twin_found, twin_id, twin_view⟩ := lookup_of_views viewed
    have alike : c.view = twin.view := c_view.trans twin_view.symm
    have reading : c.reading = twin.reading := congrArg View.reading alike
    have state : c.state = twin.state := congrArg Prod.fst reading
    have ignored : c.isIgnored = twin.isIgnored := congrArg View.isIgnored alike
    rw [deliver_known named sized there found, deliver_known named sized there twin_found]
    cases flag : info.replayed with
    | false =>
      have refreshed : (c.refresh report.labels).view = (twin.refresh report.labels).view := by
        change (⟨c.reading, if report.labels = [] then c.isIgnored else _⟩ : View) =
          ⟨twin.reading, if report.labels = [] then twin.isIgnored else _⟩
        rw [reading, ignored]
      have refreshed_ignored : (c.refresh report.labels).isIgnored =
          (twin.refresh report.labels).isIgnored := congrArg View.isIgnored refreshed
      simp only [Bool.false_eq_true, if_false]
      rw [timeline_live flag single found, timeline_live flag single twin_found, same,
        refreshed, refreshed_ignored, state, reading]
    | true =>
      have transitions : store.transitions = other.transitions :=
        congrArg Timeline.transitions same
      simp only [if_true]
      rw [timeline_replayed flag single found, timeline_replayed flag single twin_found, same,
        timelineAt_congr transitions (c_id.trans twin_id.symm) reading, state, ignored]

theorem handleAgentEvent_ok (taken : report.containerId = "" ∨ checkLabelCount report = none) :
    store.handleAgentEvent agentId report info =
      .ok (store.deliver agentId (.event report info)) := by
  rw [deliver, handleAgentEvent]
  split
  · rfl
  rename_i named
  rw [taken.resolve_left named]
  dsimp only
  split
  · rfl
  · split
    · rfl
    · rfl

theorem handleAgentEvent_refused (named : report.containerId ≠ "")
    (oversized : checkLabelCount report ≠ none) :
    ∃ err, store.handleAgentEvent agentId report info = .error err := by
  obtain ⟨err, found⟩ := ne_none_iff_exists'.mp oversized
  refine ⟨err, ?_⟩
  rw [handleAgentEvent, if_neg named, found]

theorem timelineAt_upTo (ascending : Ascending (store.timeline.rowsOf c.id)) (at_ : Int) :
    store.timelineAt c at_ =
      (((rowsUpTo store.timeline c.id (unix at_)).getLast?.map newState).getD c.state,
        (((rowsUpTo store.timeline c.id (unix at_)).reverse.take
          replayTimelineDepth).findSome? newHealth).or c.healthStatus) := by
  have rows : store.upTo c.id (unix at_) = rowsUpTo store.timeline c.id (unix at_) := rfl
  have ordered : Ascending (rowsUpTo store.timeline c.id (unix at_)) := ascending.filter _
  rw [timelineAt, rows, newestFirst_eq ordered, head?_take, if_neg (by decide), head?_reverse]

theorem unchanged_of_led (led : Led report rows)
    (legible : Legible report rows c) : changeOf agentId report info c.state
      ((rows.getLast?.map newState).getD c.state, ((rows.reverse.take replayTimelineDepth).findSome?
          newHealth).or c.healthStatus) = none := by
  obtain ⟨reach, stop⟩ := legible
  rw [changeOf]
  split
  next given => -- the health that is read is one the whole timeline has
    obtain ⟨t, t_mem, t_health⟩ := any_eq_true.mp (reach given)
    have recent : ((rows.reverse.take replayTimelineDepth).findSome? newHealth).isSome := by
      rw [findSome?_isSome_iff]
      exact ⟨t, t_mem, t_health⟩
    obtain ⟨known, known_eq⟩ := isSome_iff_exists.mp recent
    have whole : rows.reverse.findSome? newHealth = some known := by
      rw [← take_append_drop replayTimelineDepth rows.reverse, findSome?_append, known_eq]
      rfl
    rw [if_pos]
    rw [known_eq, ← led.health given known whole]
    rfl
  next empty =>
    have empty := not_not.mp empty
    rcases target_cases with same | ⟨-, -, aimless⟩
    · rw [same]
      cases aim : target report .running with
      | none => rfl
      | some aimed =>
        have last : rows.getLast?.map newState = some aimed := by
          rcases led.state empty aimed aim with here | ⟨stopped, clean⟩
          · exact here
          rcases stop stopped with completed | differs
          · -- the row is completed, so that the stop is not a change
            rw [aim, target, stopped, completed] at same
            cases same
          · exact absurd clean differs
        dsimp only
        rw [last, getD_some, if_pos rfl]
    · rw [aimless]

theorem timeline_told (told : Told agentId store.timeline report info) (acts : Acts report)
    (single : Single report)
    (ascending : Ascending (store.timeline.rowsOf ⟨uidAgent agentId, report.containerId⟩))
    (legible : ∀ c ∈ store.lookup ⟨uidAgent agentId, report.containerId⟩, c.isIgnored = false →
      Legible report (store.upTo ⟨uidAgent agentId, report.containerId⟩
        (unix (agentEventTime report info))) c) :
    (store.deliver agentId (.event report { info with replayed := true })).timeline =
      store.timeline := by
  obtain ⟨view, viewed, led⟩ := told
  obtain ⟨c, found, c_id, rfl⟩ := lookup_of_views viewed
  obtain ⟨named, sized, there⟩ := acts
  have replayed : ({ info with replayed := true } : EventMeta).replayed = true := rfl
  rw [deliver_known named sized there found]
  simp only [if_true]
  rw [timeline_replayed replayed single found]
  cases watched : c.isIgnored with
  | true => rfl
  | false =>
    have time : agentEventTime report { info with replayed := true } = agentEventTime report info :=
      rfl
    have legible := legible c found watched
    have led := led watched
    rw [← c_id] at ascending led legible
    rw [time, timelineAt_upTo ascending, unchanged_of_led led legible]
    rfl

end Containers

/-! ### One transfer -/

variable {result : EndpointEvent} {id : EndpointId} {deps : ServiceDeps}
  {parse : List (String × String) → List ParsedEndpoint} {env : Environment} {newId : Nat}
  {name : String}

section Transfers

variable {tables other : Tables}

theorem deliver_container (taken : Taken report) :
    tables.deliver deps parse agentId (.container name report) info env newId = { tables with
        containers := tables.containers.deliver agentId (.event report info)
        monitor := tables.monitor.syncAgentEndpoints deps env.now agentId name report.containerId
          (parse (if report.destroyed then [] else report.labels)) } := by
  rw [Tables.deliver, Tables.dispatch, handleAgentEvent_ok taken]
  rfl

theorem deliver_refused (refused : ¬Taken report) :
    tables.deliver deps parse agentId (.container name report) info env newId = tables := by
  obtain ⟨named, oversized⟩ := not_or.mp refused
  obtain ⟨err, failed⟩ :
      ∃ err, tables.containers.handleAgentEvent agentId report info = .error err :=
    handleAgentEvent_refused named oversized
  rw [Tables.deliver, Tables.dispatch, failed]
  rfl

theorem deliver_sample (sample : ResourceSample) :
    tables.deliver deps parse agentId (.sample sample) info env newId =
      ⟨tables.containers, tables.monitor,
        tables.resources.handleAgentEvent agentId sample info newId tables.containers⟩ := rfl

theorem deliver_check (result : EndpointEvent) :
    tables.deliver deps parse agentId (.check result) info env newId =
      ⟨tables.containers, tables.monitor.handleAgentEvent deps env agentId result info,
        tables.resources⟩ := rfl

theorem not_acts (idle : ¬Acts report) :
    report.containerId = "" ∨ checkLabelCount report ≠ none ∨ report.destroyed = true := by
  by_contra fails
  simp only [not_or, not_not, Bool.not_eq_true] at fails
  exact idle fails

theorem handleSample_eq (sample : ResourceSample) (containers : ContainerStore)
    (store : ResourceStore) : store.handleAgentEvent agentId sample info newId containers =
      if sample.containerId = "" then store
      else (containers.timeline.views ⟨uidAgent agentId, sample.containerId⟩).elim store fun view =>
        if view.isIgnored then store else store.insertSnapshot
          (agentSnapshot agentId sample info (agentSnapshotId agentId info newId)) := by
  have views : ∀ id, containers.timeline.views id =
      (containers.containers.lookup id).map Container.view := fun _ => rfl
  rw [ResourceStore.handleAgentEvent, views]
  split
  · rfl
  · cases containers.containers.lookup ⟨uidAgent agentId, sample.containerId⟩ with
    | none | some => rfl

/-- The row of a result that came with an id. -/
def agentCheckRow (agentId : String) (result : EndpointEvent) (info : EventMeta) (id : EndpointId) :
    CheckRow where
  id := .derived agentId info.eventId
  endpointId := id
  success := result.status = .up ∨ result.status = .degraded
  responseTimeMs := result.latencyMs
  httpStatus := some result.statusCode
  errorMessage := result.errorMessage
  timestamp := unix info.observedAt

theorem checkRow_agent (named : info.eventId ≠ "") {store : EndpointStore} :
    checkRow id (agentResult agentId result info) store = agentCheckRow agentId result info id := by
  simp [checkRow, agentResult, agentCheckRow, named]

variable {monitor : EndpointMonitor}

theorem store_processCheckResult (deps : ServiceDeps)
    (env : Environment) (known : (monitor.store.getEndpointByID id).isSome)
    (result : CheckResult) : (monitor.processCheckResult deps env id result).store.results =
        monitor.store.results.upsert (checkRow id result monitor.store) ∧
      (monitor.processCheckResult deps env id result).store.declared = monitor.store.declared := by
  have recorded : ∀ store : EndpointStore,
      (store.record id result).results = store.results.upsert (checkRow id result store) := by
    intro store
    rw [EndpointStore.record]
    split
    · rfl
    · rfl
  obtain ⟨ep, found⟩ := isSome_iff_exists.mp known
  rw [EndpointMonitor.processCheckResult, found]
  dsimp only
  split
  · exact ⟨recorded _, declared_record⟩
  split
  · exact ⟨recorded _, declared_record.trans declared_updateCheckResult⟩
  · exact ⟨recorded _, declared_updateCheckResult.trans
      (declared_record.trans declared_updateCheckResult)⟩

theorem store_handleAgentEvent (named : info.eventId ≠ "") :
    (monitor.handleAgentEvent deps env agentId result info).store.results =
        (if result.url = "" then monitor.store.results
        else (monitor.store.attached (uidAgent agentId) result.url).elim monitor.store.results
          fun id => monitor.store.results.upsert (agentCheckRow agentId result info id)) ∧
      (monitor.handleAgentEvent deps env agentId result info).store.declared =
        monitor.store.declared := by
  rw [EndpointMonitor.handleAgentEvent, EndpointStore.attached]
  split
  · exact ⟨rfl, rfl⟩
  cases found : monitor.store.getActiveAgentEndpointByTarget (uidAgent agentId) result.url with
  | none => exact ⟨rfl, rfl⟩
  | some ep =>
    have mem : ep ∈ monitor.store.endpoints := mem_of_find?_eq_some found
    have known : (monitor.store.getEndpointByID ep.id).isSome := by
      rw [EndpointStore.getEndpointByID, Keyed.lookup_eq_some.mpr ⟨mem, rfl⟩]
      rfl
    have processed := store_processCheckResult deps env known (agentResult agentId result info)
    rw [checkRow_agent named] at processed
    exact processed

theorem contents_deliver_congr {event : Spooled} (same : tables.contents = other.contents)
    (named : info.eventId ≠ "") (single : ∀ report ∈ event.report, Acts report → Single report) :
    (tables.deliver deps parse agentId event info env newId).contents =
      (other.deliver deps parse agentId event info env newId).contents := by
  obtain ⟨timeline, declared, results, resources⟩ := Contents.mk.inj same
  cases event with
  | container _ report =>
    by_cases taken : Taken report
    · rw [deliver_container taken, deliver_container taken]
      have containers : (tables.containers.deliver agentId (.event report info)).timeline =
          (other.containers.deliver agentId (.event report info)).timeline := by
        by_cases acts : Acts report
        · exact timeline_deliver_congr (single report rfl acts) timeline
        have nothing := not_acts acts
        rw [timeline_deliver_nothing nothing, timeline_deliver_nothing nothing, timeline]
      simp only [Tables.contents, containers, resources, EndpointMonitor.syncAgentEndpoints,
        results_syncLabels, results, declared_syncLabels_congr env.now declared]
    · rw [deliver_refused taken, deliver_refused taken, same]
  | sample =>
    rw [deliver_sample, deliver_sample]
    simp only [Tables.contents, handleSample_eq, timeline, declared, results, resources]
  | check =>
    rw [deliver_check, deliver_check]
    simp only [Tables.contents, (store_handleAgentEvent named).1,
      (store_handleAgentEvent named).2, timeline, declared, results, resources,
      attached_congr declared]

end Transfers

/-! ### Runs -/

/-- Events with the metadata they were first delivered with. -/
abbrev Delivered := List (Spooled × EventMeta)

/-- The timeline is one that live events make, and says what each delivered event said. -/
def Narrates (agentId : String) (timeline : Timeline) (delivered : Delivered) : Prop :=
  ∃ live : ContainerStore, live.timeline.WellFormed ∧ Begun live.timeline ∧
    Alike live.timeline timeline ∧
    ∀ old ∈ delivered, ∀ report ∈ old.1.report, Acts report →
      Single report ∧ Told agentId live.timeline report old.2

/-- A row keyed by the event of a result is the row of that result. -/
def HoldsChecks (agentId : String) (results : Keyed CheckRow.id) (delivered : Delivered) : Prop :=
  ∀ result info, (.check result, info) ∈ delivered → ∀ row ∈ results,
    row.id = .derived agentId info.eventId → row = agentCheckRow agentId result info row.endpointId

/-- A row keyed by the event of a sample is the row of that sample. -/
def HoldsSamples (agentId : String) (snapshots : Keyed ResourceSnapshot.id)
    (delivered : Delivered) : Prop :=
  ∀ sample info, (.sample sample, info) ∈ delivered → ∀ row ∈ snapshots,
    row.id = .derived (uidAgent agentId) info.eventId →
      row = agentSnapshot agentId sample info (.derived (uidAgent agentId) info.eventId)

/-- The tables hold what the delivered events brought. -/
structure Recorded (agentId : String) (contents : Contents) (delivered : Delivered) : Prop where
  named : ∀ old ∈ delivered, old.2.eventId ≠ ""
  narrates : Narrates agentId contents.timeline delivered
  checks : HoldsChecks agentId contents.results delivered
  samples : HoldsSamples agentId contents.resources.snapshots delivered

section Runs

variable {received : Received} {event : Spooled}

theorem told_first {live : ContainerStore} (wf : live.timeline.WellFormed)
    (begun : Begun live.timeline) (alike : Alike live.timeline received.tables.containers.timeline)
    (acts : Acts report) (order : InOrder agentId received report info) :
    ∃ after : ContainerStore, after.timeline.WellFormed ∧ Begun after.timeline ∧
      Alike after.timeline
        (received.tables.containers.deliver agentId (.event report info)).timeline ∧
      Grown live.timeline after.timeline (report.id agentId)
        (unix (agentEventTime report info)) ∧ Told agentId after.timeline report info := by
  obtain ⟨single, known, new, -⟩ := order
  obtain ⟨wf_after, alike_after⟩ := alike_event wf alike fun c found => (known c found).1
  refine ⟨_, wf_after, ?_⟩
  rcases alike.rows (report.id agentId) with
    ⟨unviewed, stale_unviewed⟩ | ⟨_, _, viewed, stale_viewed, ignored, -⟩
  · have unknown := map_eq_none_iff.mp unviewed
    have alive := new (map_eq_none_iff.mp stale_unviewed)
    obtain ⟨grown, begun_after, told⟩ := tells_unknown wf begun acts unknown alive
    exact ⟨begun_after, alike_after, grown, told⟩
  obtain ⟨row, found, -, rfl⟩ := lookup_of_views viewed
  obtain ⟨stale, stale_found, stale_id, rfl⟩ := lookup_of_views stale_viewed
  obtain ⟨orderly, labels⟩ := known stale stale_found
  have same_labels : report.labels ≠ [] → ignoredByLabels report.labels = row.isIgnored :=
    fun given => (labels given).trans ignored.symm
  have later : ∀ t ∈ live.timeline.rowsOf (report.id agentId),
      t.timestamp < unix (agentEventTime report info) := by
    have before := orderly.2.1
    rw [stale_id] at before
    rw [Timeline.rowsOf, ← alike.transitions]
    exact before
  obtain ⟨grown, begun_after, told⟩ := tells_known wf begun acts single found same_labels later
    (unused_of_orderly orderly alike)
  exact ⟨begun_after, alike_after, grown, told⟩

variable {timeline : Timeline} {delivered : Delivered}

theorem Narrates.idle (narrates : Narrates agentId timeline delivered)
    (idle : ∀ report ∈ event.report, ¬Acts report) :
    Narrates agentId timeline (delivered ++ [(event, info)]) := by
  obtain ⟨live, wf, begun, alike, told⟩ := narrates
  refine ⟨live, wf, begun, alike, ?_⟩
  intro old mem report report_mem acts
  rcases mem_snoc.mp mem with before | rfl
  · exact told old before report report_mem acts
  · exact absurd acts (idle report report_mem)

theorem Narrates.container
    (narrates : Narrates agentId received.tables.containers.timeline received.delivered)
    (acts : Acts report) (order : InOrder agentId received report info) :
    Narrates agentId (received.tables.containers.deliver agentId (.event report info)).timeline
      (received.delivered ++ [(.container name report, info)]) := by
  obtain ⟨live, wf, begun, alike, told⟩ := narrates
  obtain ⟨after, wf_after, begun_after, alike_after, grown, told_new⟩ :=
    told_first wf begun alike acts order
  refine ⟨after, wf_after, begun_after, alike_after, ?_⟩
  intro old mem earlier earlier_mem earlier_acts
  rcases mem_snoc.mp mem with before | rfl
  · obtain ⟨single, told_old⟩ := told old before earlier earlier_mem earlier_acts
    refine ⟨single, told_old.grown grown ?_⟩
    intro same
    exact order.2.2.2 old before earlier earlier_mem earlier_acts (ContainerId.mk.inj same).2.symm
  · cases earlier_mem
    exact ⟨order.1, told_new⟩

variable {results : Keyed CheckRow.id}

/-- What holds of the events of a kind is kept by an event that is not one of them, or has it. -/
theorem forall_delivered_append {α : Type} {kind : α → Spooled} {P : α → EventMeta → Prop}
    (holds : ∀ item earlier, (kind item, earlier) ∈ delivered → P item earlier)
    (new : ∀ item, kind item = event → P item info) :
    ∀ item earlier, (kind item, earlier) ∈ delivered ++ [(event, info)] → P item earlier := by
  intro item earlier mem
  rcases mem_append.mp mem with before | last
  · exact holds item earlier before
  · obtain ⟨same, rfl⟩ := Prod.mk.inj (mem_singleton.mp last)
    exact new item same

theorem HoldsChecks.check {after : Keyed CheckRow.id}
    (holds : HoldsChecks agentId results delivered)
    (distinct : ∀ old ∈ delivered, old.2.eventId ≠ info.eventId)
    (rows : ∀ row ∈ after, row ∈ results ∧ row.id ≠ .derived agentId info.eventId ∨
      ∃ id, row = agentCheckRow agentId result info id) :
    HoldsChecks agentId after (delivered ++ [(.check result, info)]) := by
  refine forall_delivered_append ?_ ?_
  · intro other earlier before row row_mem keyed
    rcases rows row row_mem with ⟨kept, -⟩ | ⟨id, rfl⟩
    · exact holds other earlier before row kept keyed
    · exact absurd (CheckId.derived.inj keyed).2.symm (distinct _ before)
  · rintro _ ⟨⟩ row row_mem keyed
    rcases rows row row_mem with ⟨-, differs⟩ | ⟨id, rfl⟩
    · exact absurd keyed differs
    · rfl

variable {snapshots : Keyed ResourceSnapshot.id}

theorem HoldsSamples.sample {after : Keyed ResourceSnapshot.id} {sample : ResourceSample}
    (holds : HoldsSamples agentId snapshots delivered)
    (distinct : ∀ old ∈ delivered, old.2.eventId ≠ info.eventId)
    (rows : ∀ row ∈ after, row ∈ snapshots ∧ row.id ≠ .derived (uidAgent agentId) info.eventId ∨
      row = agentSnapshot agentId sample info (.derived (uidAgent agentId) info.eventId)) :
    HoldsSamples agentId after (delivered ++ [(.sample sample, info)]) := by
  refine forall_delivered_append ?_ ?_
  · intro other earlier before row row_mem keyed
    rcases rows row row_mem with ⟨kept, -⟩ | rfl
    · exact holds other earlier before row kept keyed
    · exact absurd (SnapshotId.derived.inj keyed).2.symm (distinct _ before)
  · rintro _ ⟨⟩ row row_mem keyed
    rcases rows row row_mem with ⟨-, differs⟩ | here
    · exact absurd keyed differs
    · exact here

theorem contents_container (tables : Tables) :
    let after := (tables.deliver deps parse agentId (.container name report) info env
      newId).contents
    after.results = tables.contents.results ∧ after.resources = tables.contents.resources ∧
      (¬Acts report → after.timeline = tables.contents.timeline) := by
  by_cases taken : Taken report
  · rw [deliver_container taken]
    exact ⟨results_syncLabels, rfl, fun idle => timeline_deliver_nothing (not_acts idle)⟩
  · rw [deliver_refused taken]
    exact ⟨rfl, rfl, fun _ => rfl⟩

theorem agentSnapshotId_named (named : info.eventId ≠ "") :
    agentSnapshotId agentId info newId = .derived (uidAgent agentId) info.eventId := by
  rw [agentSnapshotId, if_neg named]

theorem recorded_first (recorded : Recorded agentId received.tables.contents received.delivered)
    (anew : Anew agentId received event info) :
    Recorded agentId (received.tables.deliver deps parse agentId event info env newId).contents
      (received.delivered ++ [(event, info)]) := by
  obtain ⟨named, distinct, kind⟩ := anew
  have all_named : ∀ old ∈ received.delivered ++ [(event, info)], old.2.eventId ≠ "" := by
    intro old mem
    rcases mem_snoc.mp mem with earlier | rfl
    · exact recorded.named old earlier
    · exact named
  cases event with
  | container name report =>
    obtain ⟨results, resources, timeline⟩ :
        (received.tables.deliver deps parse agentId (.container name report) info env
          newId).contents.results = _ ∧ _ := contents_container received.tables
    refine ⟨all_named, ?_, ?_, ?_⟩
    · by_cases acts : Acts report
      · rw [deliver_container (.inr acts.2.1)]
        exact recorded.narrates.container acts (kind acts)
      rw [timeline acts]
      refine recorded.narrates.idle ?_
      intro other other_mem
      cases other_mem
      exact acts
    · rw [results]
      exact forall_delivered_append recorded.checks nofun
    · rw [resources]
      exact forall_delivered_append recorded.samples nofun
  | sample sample =>
    rw [deliver_sample]
    refine ⟨all_named, recorded.narrates.idle (fun _ nothing => by cases nothing),
      forall_delivered_append recorded.checks nofun, ?_⟩
    refine recorded.samples.sample distinct ?_
    intro row row_mem
    have kept :
        row ∈ received.tables.resources.snapshots → row ∈ received.tables.resources.snapshots ∧
        row.id ≠ .derived (uidAgent agentId) info.eventId := fun old => ⟨old, kind row old⟩
    simp only [handleSample_eq, agentSnapshotId_named named] at row_mem
    split at row_mem
    · exact Or.inl (kept row_mem)
    cases viewed : received.tables.containers.timeline.views
        ⟨uidAgent agentId, sample.containerId⟩ with
    | none =>
      rw [viewed] at row_mem
      exact Or.inl (kept row_mem)
    | some view =>
      rw [viewed, elim_some] at row_mem
      split at row_mem
      · exact Or.inl (kept row_mem)
      · rcases Keyed.mem_upsert.mp row_mem with ⟨old, -⟩ | new
        · exact Or.inl (kept old)
        · exact Or.inr new
  | check result =>
    rw [deliver_check]
    refine ⟨all_named, recorded.narrates.idle (fun _ nothing => by cases nothing), ?_,
      forall_delivered_append recorded.samples nofun⟩
    refine recorded.checks.check distinct ?_
    intro row row_mem
    have kept : row ∈ received.tables.monitor.store.results →
        row ∈ received.tables.monitor.store.results ∧ row.id ≠ .derived agentId info.eventId :=
      fun old => ⟨old, kind row old⟩
    simp only [Tables.contents, (store_handleAgentEvent named).1] at row_mem
    split at row_mem
    · exact Or.inl (kept row_mem)
    cases attached : received.tables.monitor.store.attached (uidAgent agentId) result.url with
    | none =>
      rw [attached] at row_mem
      exact Or.inl (kept row_mem)
    | some id =>
      rw [attached] at row_mem
      rcases Keyed.mem_upsert.mp row_mem with ⟨old, -⟩ | new
      · exact Or.inl (kept old)
      · exact Or.inr ⟨id, new⟩

theorem told_of_narrates (narrates : Narrates agentId timeline delivered)
    (mem : (.container name report, info) ∈ delivered) (acts : Acts report) :
    Single report ∧ Told agentId timeline report info ∧ ∀ id, Ascending (timeline.rowsOf id) := by
  obtain ⟨live, wf, -, alike, told⟩ := narrates
  obtain ⟨single, view, viewed, led⟩ := told _ mem report rfl acts
  have rows : ∀ id, timeline.rowsOf id = live.timeline.rowsOf id := by
    intro id
    rw [Timeline.rowsOf, alike.transitions]
    rfl
  refine ⟨single, ?_, fun id => rows id ▸ wf.ascending id⟩
  obtain ⟨stale, stale_eq, ignored, -⟩ := alike.of_viewed viewed
  refine ⟨stale, stale_eq, ?_⟩
  intro watched
  rw [rowsUpTo, rows]
  exact led (ignored.trans watched)

variable {replayed : Bool}

section

variable (recorded : Recorded agentId received.tables.contents received.delivered)
include recorded

theorem timeline_again
    (mem : (.container name report, info) ∈ received.delivered) (acts : Acts report)
    (unmoved : Unmoved parse agentId received (.container name report) info replayed) :
    (received.tables.containers.deliver agentId
      (.event report { info with replayed })).timeline = received.tables.containers.timeline := by
  obtain ⟨single, told, ascending⟩ := told_of_narrates recorded.narrates mem acts
  obtain ⟨legible, confirms, -⟩ := unmoved
  cases replayed with
  | true => exact timeline_told told acts single (ascending _) (legible acts rfl)
  | false =>
    obtain ⟨after, step, same⟩ : ∃ after, received.tables.containers.handleAgentEvent agentId report
          { info with replayed := false } = .ok after ∧
            after.timeline = received.tables.containers.timeline :=
      timeline_restated rfl (confirms acts rfl) acts.2.1
    rw [deliver, step]
    exact same

theorem contents_again (mem : (event, info) ∈ received.delivered)
    (unmoved : Unmoved parse agentId received event info replayed) :
    (received.tables.deliver deps parse agentId event { info with replayed } env
      newId).contents = received.tables.contents := by
  have named : ({ info with replayed } : EventMeta).eventId ≠ "" := recorded.named _ mem
  cases event with
  | container _ report =>
    by_cases taken : Taken report
    · have timeline : (received.tables.containers.deliver agentId
          (.event report { info with replayed })).timeline =
            received.tables.containers.timeline := by
        by_cases acts : Acts report
        · exact timeline_again recorded mem acts unmoved
        · exact timeline_deliver_nothing (not_acts acts)
      rw [deliver_container taken]
      simp only [Tables.contents, timeline, EndpointMonitor.syncAgentEndpoints,
        results_syncLabels, declared_syncLabels_of_declares (unmoved.2.2 taken)]
    · rw [deliver_refused taken]
  | sample sample =>
    have kept : received.tables.resources.handleAgentEvent agentId sample { info with replayed }
        newId received.tables.containers = received.tables.resources := by
      rw [handleSample_eq, agentSnapshotId_named named]
      split
      · rfl
      cases viewed : received.tables.containers.timeline.views
          ⟨uidAgent agentId, sample.containerId⟩ with
      | none => rfl
      | some view =>
        obtain ⟨c, found, -, rfl⟩ := lookup_of_views viewed
        rw [elim_some]
        split
        · rfl
        rename_i watched
        obtain ⟨row, row_mem, keyed⟩ :=
          unmoved c found (Bool.eq_false_iff.mpr watched)
        have same := recorded.samples sample info mem row row_mem keyed
        rw [same] at row_mem
        have stored : received.tables.resources.snapshots.upsert (agentSnapshot agentId sample
            { info with replayed } (.derived (uidAgent agentId) info.eventId)) =
              received.tables.resources.snapshots := Keyed.upsert_eq_self row_mem
        rw [ResourceStore.insertSnapshot, stored]
    rw [deliver_sample, kept]
  | check result =>
    have kept : (received.tables.monitor.handleAgentEvent deps env agentId result
        { info with replayed }).store.results = received.tables.monitor.store.results := by
      rw [(store_handleAgentEvent named).1]
      split
      · rfl
      cases attached : received.tables.monitor.store.attached (uidAgent agentId) result.url with
      | none => rfl
      | some id =>
        obtain ⟨row, row_mem, keyed, rfl⟩ := unmoved id attached
        have same := recorded.checks result info mem row row_mem keyed
        rw [same] at row_mem
        exact Keyed.upsert_eq_self row_mem
    rw [deliver_check]
    simp only [Tables.contents, kept, (store_handleAgentEvent named).2]

end

theorem contents_run {transfers : List Transfer} : ∀ (received final : Received) (once : Tables),
      Recorded agentId received.tables.contents received.delivered →
      received.tables.contents = once.contents →
      run (Received.next deps parse agentId) received transfers = some final →
      Guarded (Received.next deps parse agentId) (Regular parse agentId) received transfers →
      final.tables.contents = (once.once deps parse agentId transfers).contents := by
  induction transfers with
  | nil =>
    intro received final once _ same ran _
    cases ran
    exact same
  | cons transfer transfers ih =>
    intro received final once recorded same ran guarded
    obtain ⟨after, step, rest⟩ := (run_cons_eq_some _).mp ran
    obtain ⟨regular, later⟩ := guarded
    rw [step] at later
    cases transfer with
    | first event info =>
      cases step
      have anew : Anew agentId received event info := regular
      refine ih _ final _ (recorded_first recorded anew) ?_ rest later
      refine contents_deliver_congr same anew.1 ?_
      intro report report_mem acts
      cases event with
      | container =>
        cases report_mem
        exact (anew.2.2 acts).1
      | sample | check => cases report_mem
    | again event info replayed env newId =>
      obtain ⟨mem, ⟨⟩⟩ := ite_none_right_eq_some.mp step
      have unchanged : (received.tables.deliver deps parse agentId event
          { info with replayed } env newId).contents = received.tables.contents :=
        contents_again recorded mem regular
      refine ih _ final once ?_ (unchanged.trans same) rest later
      rw [unchanged]
      exact recorded

end Runs

/-- When first deliveries are new and in order, and repeated ones find what they refer to as they
left it, the stored transitions, check results and snapshots are those of delivering each event
once. -/
theorem redelivery_stores_each_event_once (deps : ServiceDeps)
    (parse : List (String × String) → List ParsedEndpoint) (agentId : String) (start : Tables)
    (final : Received) (transfers : List Transfer)
    (wf : start.containers.timeline.WellFormed) (begun : Begun start.containers.timeline)
    (ran : run (Received.next deps parse agentId) ⟨start, []⟩ transfers = some final)
    (regular : Guarded (Received.next deps parse agentId) (Regular parse agentId)
      ⟨start, []⟩ transfers) : final.tables.containers.transitions =
        (start.once deps parse agentId transfers).containers.transitions ∧
      final.tables.monitor.store.results =
        (start.once deps parse agentId transfers).monitor.store.results ∧
      final.tables.resources.snapshots =
        (start.once deps parse agentId transfers).resources.snapshots := by
  have recorded : Recorded agentId start.contents [] :=
    ⟨by simp, ⟨start.containers, wf, begun, wf.alike_self, by simp⟩, by simp [HoldsChecks],
      by simp [HoldsSamples]⟩
  have same := contents_run ⟨start, []⟩ final start recorded rfl ran regular
  obtain ⟨timeline, -, results, resources⟩ := Contents.mk.inj same
  exact ⟨congrArg Timeline.transitions timeline, results,
    congrArg ResourceStore.snapshots resources⟩

/-! ### Broken and refused streams -/

section Scenario

open ServiceDeps (bare)

private def siteLabel : ParsedEndpoint :=
  ⟨"maintenant.endpoint.http", .http, "http://site", ⟨3, 2, ""⟩⟩

/-- The labels of the container declare an endpoint. -/
private def siteLabels : List (String × String) := [("maintenant.endpoint.http", "http://site")]

private def parseSite (labels : List (String × String)) : List ParsedEndpoint :=
  if labels = siteLabels then [siteLabel] else []

private def moment (number : Int) : Int := number * 1000000000

private def envOf (number : Int) : Environment :=
  { Alerting.calmEnvironment with now := moment number }

private def siteReport (state : ReportedState) (exitCode : String) : Spooled :=
  .container "site" ⟨"c1", state, exitCode, false, "", none, false, siteLabels⟩

private def siteSample : Spooled := .sample ⟨"c1", 1, 2, 3, 4, 5, 6, 7⟩

private def siteCheck : Spooled := .check ⟨"http://site", .up, 12, 200, ""⟩

private def seen (number : Int) (eventId : String) : EventMeta := ⟨moment number, false, eventId⟩

private def arrives (number : Int) (eventId : String) (event : Spooled) : Transfer :=
  .first event (seen number eventId) (envOf number) 0

private def returns (replayed : Bool) (number : Int) (eventId : String) (event : Spooled) :
    Transfer :=
  .again event (seen number eventId) replayed (envOf 100) 1

private def newTables : Tables := ⟨.empty, .empty, ⟨.empty _, .empty _⟩⟩

theorem begun_empty : Begun ContainerStore.empty.timeline := nofun

private def deliveries (transfers : List Transfer) : Option Received :=
  Execution.run (Received.next bare parseSite "agent-1") ⟨newTables, []⟩ transfers

/-- The container fails and comes back, and is probed and sampled; then the stream breaks before
anything is acknowledged. -/
private def resent : List Transfer :=
  [arrives 5 "e1" (siteReport .running ""), arrives 7 "e2" siteCheck, arrives 8 "e3" siteSample,
    arrives 10 "e4" (siteReport .exited "1"), arrives 20 "e5" (siteReport .running ""),
    returns true 5 "e1" (siteReport .running ""), returns true 7 "e2" siteCheck,
    returns true 8 "e3" siteSample, returns true 10 "e4" (siteReport .exited "1"),
    returns true 20 "e5" (siteReport .running ""), returns false 20 "e5" (siteReport .running ""),
    arrives 30 "e6" (siteReport .paused "")]

private def afterResent : Received := (deliveries resent).getD ⟨newTables, []⟩

/-- Everything comes twice after a stream broke. -/
theorem redelivery_of_broken_stream : afterResent.tables.containers.transitions =
        (newTables.once bare parseSite "agent-1" resent).containers.transitions ∧
      afterResent.tables.monitor.store.results =
        (newTables.once bare parseSite "agent-1" resent).monitor.store.results ∧
      afterResent.tables.resources.snapshots =
        (newTables.once bare parseSite "agent-1" resent).resources.snapshots := by
  have ran : deliveries resent = some afterResent := by
    have possible : (deliveries resent).isSome := by decide +kernel
    obtain ⟨final, found⟩ := isSome_iff_exists.mp possible
    rw [afterResent, found, getD_some]
  exact redelivery_stores_each_event_once bare parseSite "agent-1" newTables afterResent
    resent wellFormed_empty begun_empty ran (by decide +kernel)

private def chronicle (tables : Tables) : List (ContainerState × ContainerState × Int) :=
  (StableSort.sortOn StateTransition.timestamp
    (transitionsOf ⟨"agent-1", "c1"⟩ tables.containers.transitions.items)).map fun t =>
      (t.previousState, t.newState, t.timestamp)

/-- The container is stopped, exits cleanly and starts; then what came after the first start is sent
again. -/
private def stoppedAndResent : List Transfer :=
  [arrives 5 "e1" (siteReport .running ""), arrives 10 "e2" (siteReport .exited "0"),
    arrives 11 "e3" (siteReport .exited ""), arrives 20 "e4" (siteReport .running ""),
    returns true 10 "e2" (siteReport .exited "0"), returns true 11 "e3" (siteReport .exited ""),
    returns true 20 "e4" (siteReport .running "")]

/-- The container is paused and fails; then an event is refused, and what came after the start is
sent again on the same stream. -/
private def refusedAndResent : List Transfer :=
  [arrives 5 "e1" (siteReport .running ""), arrives 10 "e2" (siteReport .paused ""),
    arrives 20 "e3" (siteReport .exited "1"), returns false 10 "e2" (siteReport .paused ""),
    returns false 20 "e3" (siteReport .exited "1")]

/-- A stop that comes again is taken for a failure, and an event that comes again unflagged is
stored as a change of what came after it. -/
theorem redelivered_stop_and_unflagged_event_change_timeline :
    (deliveries stoppedAndResent).map (fun received => chronicle received.tables) =
        some [(.created, .running, 5), (.running, .completed, 10), (.completed, .exited, 11),
          (.completed, .running, 20)] ∧
      chronicle (newTables.once bare parseSite "agent-1" stoppedAndResent) =
        [(.created, .running, 5), (.running, .completed, 10), (.completed, .running, 20)] ∧
      (deliveries refusedAndResent).map (fun received => chronicle received.tables) =
        some [(.created, .running, 5), (.exited, .paused, 10), (.paused, .exited, 20)] ∧
      chronicle (newTables.once bare parseSite "agent-1" refusedAndResent) =
        [(.created, .running, 5), (.running, .paused, 10), (.paused, .exited, 20)] := by
  decide +kernel

end Scenario

end Maintenant.Multihost
