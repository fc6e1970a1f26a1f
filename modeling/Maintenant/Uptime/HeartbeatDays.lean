import Maintenant.Uptime.Daily
import Maintenant.Uptime.Timeline

/-!
# Daily uptime of a heartbeat

The uptime of a day is the share of its seconds that the replay finds up.  A completion ping fixes
the state of the replay whatever came before it, so what a day is worth depends on nothing older
than the last completion before it.
-/

namespace Maintenant.Uptime

open HbTimeline List
open Heartbeats (PingType HeartbeatPing HeartbeatPause)
open StableSort HbTimeline

/-! ### Weighing time -/

/-- Seconds of `[start, end)` spent in a state. -/
def weigh (spans : List HbSpan) (state : HbState) (start end_ : Int) : Int :=
  (spans.map fun span =>
    if span.state = state then overlap span.from_ span.to_ start end_ else 0).sum

/-- `over`: a stretch paused throughout has no value. -/
def HbTimeline.over (t : HbTimeline) (start end_ : Int) : Option DayUptime :=
  let observed := end_ - start - weigh t.spans .paused start end_
  if observed ≤ 0 then none
  else some {
    percent := roundPercent (weigh t.spans .up start end_) observed
    incidents := (t.incidents.filter fun ts => start ≤ ts ∧ ts < end_).length }

theorem spanAt_cons (span : HbSpan) (spans : List HbSpan) (second : Int) :
    spanAt (span :: spans) second =
      if span.from_ ≤ second ∧ second < span.to_ then some span.state else spanAt spans second := by
  have apart : spanAt ([span] ++ spans) second = _ := spanAt_append
  rw [singleton_append, spanAt_singleton] at apart
  rw [apart]
  split
  · rfl
  · rfl

theorem Laid.weigh_eq_card {spans : List HbSpan} {cursor : Int} (laid : Laid spans cursor)
    (state : HbState) (start end_ : Int) : weigh spans state start end_ =
      ((Finset.Ico start end_).filter fun second => spanAt spans second = some state).card := by
  induction spans with
  | nil => simp [weigh, spanAt]
  | cons span spans ih =>
    obtain ⟨before, ordered⟩ := pairwise_cons.mp laid.ordered
    obtain ⟨bounds, bounded⟩ := forall_mem_cons.mp laid.bounded
    have rest : weigh spans state start end_ = _ := ih ⟨ordered, bounded⟩
    -- a second of a later span is not one of this span
    have later : ∀ second, spanAt spans second = some state → ¬second < span.to_ := by
      intro second found inside
      obtain ⟨holder, found, -⟩ := Option.map_eq_some_iff.mp found
      have holds : holder.holds second := by simpa using find?_some found
      rw [HbSpan.holds_iff] at holds
      have := before holder (mem_of_find?_eq_some found)
      omega
    have either : ∀ second, spanAt (span :: spans) second = some state ↔
        ((span.from_ ≤ second ∧ second < span.to_) ∧ span.state = state) ∨
          spanAt spans second = some state := by
      intro second
      have := later second
      rw [spanAt_cons]
      split
      next inside =>
        constructor
        · intro same
          exact .inl ⟨inside, Option.some.inj same⟩
        · rintro (⟨-, same⟩ | found)
          · rw [same]
          · exact absurd inside.2 (this found)
      next outside =>
        constructor
        · exact .inr
        · rintro (⟨inside, -⟩ | found)
          · exact absurd inside outside
          · exact found
    simp only [either, Finset.filter_or]
    rw [Finset.card_union_of_disjoint, Nat.cast_add, weigh, map_cons, sum_cons]
    swap
    · rw [Finset.disjoint_filter]
      intro second _ inside found
      exact later second found inside.1.2
    congr 1
    by_cases same : span.state = state
    · simp only [same, if_true, and_true, overlap_eq_card]
    · simp [same]

theorem over_congr {t other : HbTimeline} {cursor other_cursor start end_ : Int}
    (laid : Laid t.spans cursor) (other_laid : Laid other.spans other_cursor)
    (same : ∀ second, start ≤ second → second < end_ →
      spanAt t.spans second = spanAt other.spans second)
    (incidents : (t.incidents.filter fun ts => start ≤ ts ∧ ts < end_) =
      other.incidents.filter fun ts => start ≤ ts ∧ ts < end_) :
    t.over start end_ = other.over start end_ := by
  have weights : ∀ state, weigh t.spans state start end_ = weigh other.spans state start end_ := by
    intro state
    rw [laid.weigh_eq_card, other_laid.weigh_eq_card]
    congr 2
    refine Finset.filter_congr ?_
    intro second inside
    obtain ⟨after, before⟩ := Finset.mem_Ico.mp inside
    rw [same second after before]
  simp only [HbTimeline.over, weights, incidents]

/-! ### Reading the rows -/

def pingEvent (ping : HeartbeatPing) : HbEvent := .ping ping.timestamp ping.pingType ping.exitCode

def heartbeatPingEvents (pings : List HeartbeatPing) (from_ to_ : Int) : List HbEvent :=
  (sortOn HeartbeatPing.timestamp
    (pings.filter fun ping => from_ ≤ ping.timestamp ∧ ping.timestamp < to_)).map pingEvent

/-- The pause overlaps `[from, to)` and has a length. -/
def overlaps (from_ to_ : Int) (pause : HeartbeatPause) : Bool :=
  decide (pause.pausedAt < to_) &&
    match pause.resumedAt with
    | none => true
    | some resumed => from_ < resumed ∧ pause.pausedAt < resumed

def pauseEvents (pause : HeartbeatPause) : List HbEvent :=
  match pause.resumedAt with
  | none => [.pause pause.pausedAt]
  | some resumed => [.pause pause.pausedAt, .resume resumed]

def heartbeatPauseEvents (pauses : List HeartbeatPause) (from_ to_ : Int) : List HbEvent :=
  (pauses.filter (overlaps from_ to_)).flatMap pauseEvents

/-- The ping ends a run. -/
def completes (pingType : PingType) : Bool := pingType = .success ∨ pingType = .exitCode

/-- The last completion before the window; zero without one. -/
def seed (pings : List HeartbeatPing) (from_ : Int) : Int :=
  ((pings.filter fun ping => completes ping.pingType ∧ ping.timestamp < from_).map
    HeartbeatPing.timestamp).max?.getD 0

/-- The events the replay of a window is given. -/
def heartbeatEvents (pings : List HeartbeatPing) (pauses : List HeartbeatPause) (since to_ : Int) :
    List HbEvent :=
  heartbeatPingEvents pings since to_ ++ heartbeatPauseEvents pauses since to_

def heartbeatTimeline (period : Int) (pings : List HeartbeatPing) (pauses : List HeartbeatPause)
    (from_ to_ : Int) : HbTimeline :=
  (new period).replay
    (sortOn HbEvent.key (heartbeatEvents pings pauses (seed pings from_) to_))

def heartbeatDay (t : HbTimeline) (from_ to_ day : Int) : Option DayUptime :=
  let start := max day (max t.first from_)
  let end_ := min (day + secondsPerDay) to_
  if end_ ≤ start then none else (t.close to_).over start end_

def heartbeatDays (period : Int) (pings : List HeartbeatPing) (pauses : List HeartbeatPause)
    (from_ to_ : Int) : List (Int × DayUptime) :=
  let t := heartbeatTimeline period pings pauses from_ to_
  if to_ ≤ from_ ∨ !t.started then [] else eachDay from_ to_ (heartbeatDay t from_ to_)

/-! ### What a completion fixes -/

/-- From this time on, replays that reached these timelines go on alike. -/
structure Resembles (since : Int) (t other : HbTimeline) : Prop where
  period : t.period = other.period
  started : t.started ∧ other.started
  first : t.first ≤ since ∧ other.first ≤ since
  paused : t.paused = other.paused
  up : t.up = other.up
  cursor : t.cursor = other.cursor
  deadline : t.deadline = other.deadline
  incidents : (t.incidents.filter fun ts => since < ts) =
    other.incidents.filter fun ts => since < ts

namespace Resembles

variable {since ts : Int} {t other : HbTimeline} {event : HbEvent} {events : List HbEvent}
  {pingType : PingType} {second : Int}

section

variable (same : Resembles since t other)
include same

theorem advance : Resembles since (t.advance ts) (other.advance ts) := by
  have incidents := same.incidents
  by_cases late : t.up ∧ t.deadline < ts
  · have other_late : other.up ∧ other.deadline < ts := same.up ▸ same.deadline ▸ late
    rw [advance_of_lapsed late, advance_of_lapsed other_late]
    refine ⟨same.period, same.started, same.first, same.paused, rfl, rfl, same.deadline, ?_⟩
    simp only [filter_append, incidents, same.deadline]
  have other_intime : ¬(other.up ∧ other.deadline < ts) := same.up ▸ same.deadline ▸ late
  rw [advance_of_not_lapsed late, advance_of_not_lapsed other_intime]
  exact ⟨same.period, same.started, same.first, same.paused, same.up, rfl, same.deadline, incidents⟩

theorem resume : Resembles since (t.resume ts) (other.resume ts) := by
  cases paused : t.paused with
  | false =>
    rw [resume_of_running paused, resume_of_running (same.paused ▸ paused)]
    exact same
  | true =>
    rw [resume_of_paused paused, resume_of_paused (same.paused ▸ paused)]
    refine ⟨same.period, same.started, same.first, rfl, rfl, rfl, ?_, same.incidents⟩
    rw [same.period]

theorem pause : Resembles since (t.pause ts) (other.pause ts) := by
  rw [HbTimeline.pause, HbTimeline.pause, ← same.paused, same.started.1, same.started.2]
  split
  · exact same
  · obtain ⟨period, started, first, -, up, cursor, deadline, incidents⟩ := same.advance
    exact ⟨period, started, first, rfl, up, cursor, deadline, incidents⟩

theorem reach : Resembles since (t.reach ts) (other.reach ts) := by
  rw [HbTimeline.reach, HbTimeline.reach, ← same.paused, same.started.1, same.started.2]
  simp only [Bool.not_true, Bool.false_eq_true, if_false]
  split
  · exact same.resume
  · exact same.advance

theorem report {exitCode : Option Int} :
    Resembles since (t.report ts pingType exitCode) (other.report ts pingType exitCode) := by
  obtain ⟨period, started, first, paused, up, cursor, deadline, incidents⟩ := same
  rw [HbTimeline.report, HbTimeline.report]
  split
  · exact ⟨period, started, first, paused, rfl, cursor, deadline, incidents⟩
  split
  · refine ⟨period, started, first, paused, rfl, cursor, deadline, ?_⟩
    rw [← up]
    split
    · simp only [filter_append, incidents]
    · exact incidents
  · exact ⟨period, started, first, paused, up, cursor, deadline, incidents⟩

theorem apply : Resembles since (t.apply event) (other.apply event) := by
  cases event with
  | resume => exact same.resume
  | pause => exact same.pause
  | ping =>
    obtain ⟨period, started, first, paused, up, cursor, -, incidents⟩ :=
      same.reach.report
    refine ⟨period, started, first, paused, up, cursor, ?_, incidents⟩
    simp only [HbTimeline.apply, HbTimeline.ping, period]

theorem replay : Resembles since (t.replay events) (other.replay events) := by
  induction events generalizing t other with
  | nil => exact same
  | cons event events ih => exact ih same.apply

theorem current : t.current second = other.current second := by
  simp only [HbTimeline.current, same.started.1, same.started.2, same.paused, same.up,
    same.deadline]

theorem stateAt_replay (good : t.WellFormed)
    (other_good : other.WellFormed) (order : t.InOrder events) (ahead : t.cursor ≤ second) :
    (t.replay events).stateAt second = (other.replay events).stateAt second := by
  induction events generalizing t other with
  | nil =>
    have other_ahead : ¬second < other.cursor := same.cursor ▸ not_lt.mpr ahead
    rw [HbTimeline.replay, HbTimeline.replay, foldl_nil, foldl_nil,
      stateAt, stateAt, if_neg (not_lt.mpr ahead), if_neg other_ahead]
    exact same.current
  | cons event events ih =>
    have other_order : other.InOrder (event :: events) :=
      ⟨order.sorted, fun later mem _ =>
        same.cursor ▸ order.reaches later mem same.started.1⟩
    have forward := order.reaches event mem_cons_self
    have other_forward := other_order.reaches event mem_cons_self
    by_cases reached : event.ts ≤ second
    · have next_ahead := good.reaches_apply forward reached same.apply.started.1
      exact ih same.apply (good.apply forward) (other_good.apply other_forward)
        (order.tail good) next_ahead
    have later : ∀ next ∈ event :: events, second < next.ts := by
      refine forall_mem_cons.mpr ⟨not_le.mp reached, ?_⟩
      intro next mem
      exact (not_le.mp reached).trans_le ((pairwise_cons.mp order.sorted).1 next mem)
    have other_ahead : ¬second < other.cursor := same.cursor ▸ not_lt.mpr ahead
    rw [good.stateAt_replay order later, other_good.stateAt_replay other_order later,
      stateAt, stateAt, if_neg (not_lt.mpr ahead), if_neg other_ahead]
    exact same.current

theorem close {end_ : Int} : Resembles since (t.close end_) (other.close end_) := by
  rw [HbTimeline.close, HbTimeline.close, ← same.cursor, ← same.paused]
  split
  · exact same
  split
  · exact ⟨same.period, same.started, same.first, same.paused, same.up, same.cursor,
      same.deadline, same.incidents⟩
  · exact same.advance

end

theorem of_completion (good : t.WellFormed) (other_good : other.WellFormed)
    (period : t.period = other.period) (forward : t.Reaches ts) (other_forward : other.Reaches ts)
    (completion : completes pingType) (exitCode : Option Int) :
    Resembles ts (t.ping ts pingType exitCode) (other.ping ts pingType exitCode) := by
  obtain ⟨-, cursor, started, first, paused, same_period, deadline⟩ :=
    good.ping_static forward pingType exitCode
  obtain ⟨-, other_cursor, other_started, other_first, other_paused, other_period,
    other_deadline⟩ := other_good.ping_static other_forward pingType exitCode
  have quiet : ∀ {timeline : HbTimeline}, (∀ incident ∈ timeline.incidents, incident ≤ ts) →
      (timeline.incidents.filter fun incident => ts < incident) = [] := by
    intro timeline settled
    rw [filter_eq_nil_iff]
    intro incident mem
    simpa using settled incident mem
  refine ⟨by rw [same_period, other_period, period], ⟨started, other_started⟩,
    ⟨first, other_first⟩, paused.trans other_paused.symm, ?_, cursor.trans other_cursor.symm,
    by rw [deadline, other_deadline, period], ?_⟩
  · simp only [HbTimeline.ping, HbTimeline.report]
    split
    · rfl
    rename_i failure
    have code : pingType = .exitCode := by
      cases pingType with
      | success => simp [HbTimeline.succeeds] at failure
      | start => cases completion
      | exitCode => rfl
    rw [if_pos code, if_pos code]
  · rw [quiet (good.settled_ping forward), quiet (other_good.settled_ping other_forward)]

end Resembles

/-! ### Days after a completion -/

variable {other_from day : Int}

section Completion

variable {events others : List HbEvent} {since period : Int}

/-- The lists have the same events from the pings of a second on, a completion among those. -/
structure SameSince (since : Int) (events others : List HbEvent) : Prop where
  /-- From the pings of this second on the events are the same. -/
  same : ∀ key, toLex (since, 1) ≤ key →
    ofKey HbEvent.key key events = ofKey HbEvent.key key others
  completion : ∃ pingType exitCode, completes pingType ∧
    HbEvent.ping since pingType exitCode ∈ events

theorem sortedOn_key :
    (sortOn HbEvent.key events).Pairwise fun left right => left.ts ≤ right.ts := by
  refine sortOn_sorted.imp ?_
  intro left right ordered
  rcases HbEvent.key_le.mp ordered with less | ⟨same, -⟩
  · exact less.le
  · exact same.le

theorem inOrder_new (period : Int) (events : List HbEvent) :
    (new period).InOrder (sortOn HbEvent.key events) :=
  ⟨sortedOn_key, fun _ _ started => absurd started Bool.false_ne_true⟩

theorem replay_append {t : HbTimeline} {front back : List HbEvent} :
    t.replay (front ++ back) = (t.replay front).replay back :=
  foldl_append

theorem SameSince.split (same : SameSince since events others) :
    ∃ front other_front pingType exitCode rest, completes pingType ∧
      sortOn HbEvent.key events = front ++ .ping since pingType exitCode :: rest ∧
      sortOn HbEvent.key others = other_front ++ .ping since pingType exitCode :: rest := by
  obtain ⟨pingType, exitCode, completion, mem⟩ := same.completion
  have tails : (sortOn HbEvent.key (events.filter fun event => toLex (since, 1) ≤ event.key)) =
      sortOn HbEvent.key (others.filter fun event => toLex (since, 1) ≤ event.key) := by
    refine sortOn_eq sortOn_sorted ?_
    intro wanted
    rw [ofKey_sortOn, ofKey_filter wanted fun key => toLex (since, 1) ≤ key,
      ofKey_filter wanted fun key => toLex (since, 1) ≤ key]
    split
    next above => exact same.same wanted (by simpa using above)
    · rfl
  have kept : HbEvent.ping since pingType exitCode ∈
      sortOn HbEvent.key (events.filter fun event => toLex (since, 1) ≤ event.key) := by
    refine mem_sortOn.mpr (mem_filter.mpr ⟨mem, ?_⟩)
    exact decide_eq_true le_rfl
  obtain ⟨front, rest, found⟩ := append_of_mem kept
  let before (list : List HbEvent) := sortOn HbEvent.key (list.filter fun event =>
    event.key < toLex (since, 1))
  refine ⟨before events ++ front, before others ++ front, pingType, exitCode, rest, completion, ?_,
    ?_⟩
  · rw [sortOn_split (toLex (since, 1)), found, ← append_assoc]
  · rw [sortOn_split (toLex (since, 1)), ← tails, found, ← append_assoc]

theorem period_replay (t : HbTimeline) : (t.replay events).period = t.period := by
  induction events generalizing t with
  | nil => rfl
  | cons event events ih =>
    refine (ih (t.apply event)).trans ?_
    have resumed : ∀ ts, (t.resume ts).period = t.period := by
      intro ts
      rw [resume]
      split
      · rfl
      · rfl
    have advanced : ∀ ts, (t.advance ts).period = t.period :=
      fun ts => (advance_static t).2.2.2.1
    cases event with
    | resume ts => exact resumed ts
    | ping ts pingType exitCode =>
      refine (report_static pingType exitCode).2.2.2.2.2.trans ?_
      rw [reach]
      split
      · rfl
      · split
        · exact resumed ts
        · exact advanced ts
    | pause ts =>
      simp only [apply, pause]
      split
      · rfl
      · exact advanced ts

/-- Replays of events that are the same since a completion go on alike and agree on every second
since. -/
theorem SameSince.replays (same : SameSince since events others) (nonneg : 0 ≤ period) :
    let t := (new period).replay (sortOn HbEvent.key events)
    let other := (new period).replay (sortOn HbEvent.key others)
    Resembles since t other ∧ ∀ second, since ≤ second →
      t.stateAt second = other.stateAt second := by
  intro t other
  obtain ⟨front, other_front, pingType, exitCode, rest, completion, sorted, other_sorted⟩ :=
    same.split
  have new_good := HbTimeline.WellFormed.new nonneg
  have order := inOrder_new period events
  have other_order := inOrder_new period others
  rw [sorted] at order
  rw [other_sorted] at other_order
  obtain ⟨good, reached⟩ := order.append new_good
  obtain ⟨other_good, other_reached⟩ := other_order.append new_good
  have forward := reached.reaches _ mem_cons_self
  have other_forward := other_reached.reaches _ mem_cons_self
  have period_eq : ((new period).replay front).period =
      ((new period).replay other_front).period := by
    rw [period_replay, period_replay]
  have alike := Resembles.of_completion good other_good period_eq forward other_forward completion
    exitCode
  have t_eq : t = (((new period).replay front).ping since pingType exitCode).replay rest := by
    rw [show t = _ from congrArg (new period).replay sorted, replay_append]
    rfl
  have other_eq : other = (((new period).replay other_front).ping since pingType
      exitCode).replay rest := by
    rw [show other = _ from congrArg (new period).replay other_sorted, replay_append]
    rfl
  rw [t_eq, other_eq]
  refine ⟨alike.replay, ?_⟩
  intro second after
  refine alike.stateAt_replay (good.ping forward) (other_good.ping other_forward)
    (reached.tail good) ?_
  exact (good.ping_static forward pingType exitCode).2.1.le.trans after

theorem Resembles.heartbeatDay_eq {t other : HbTimeline} (alike : Resembles since t other)
    (good : t.WellFormed) (other_good : other.WellFormed)
    (states : ∀ second, since ≤ second → t.stateAt second = other.stateAt second)
    {from_ to_ : Int} (after : since < day) (window : from_ ≤ day)
    (other_window : other_from ≤ day) :
    heartbeatDay t from_ to_ day = heartbeatDay other other_from to_ day := by
  have start : max day (max t.first from_) = day :=
    max_eq_left (max_le (alike.first.1.trans after.le) window)
  have other_start : max day (max other.first other_from) = day :=
    max_eq_left (max_le (alike.first.2.trans after.le) other_window)
  simp only [heartbeatDay, start, other_start]
  split
  · rfl
  refine over_congr (good.laid_close alike.started.1) (other_good.laid_close alike.started.2) ?_ ?_
  · intro second inside before
    have before : second < to_ := lt_of_lt_of_le before (min_le_right _ _)
    rw [good.spanAt_close alike.started.1 before, other_good.spanAt_close alike.started.2 before]
    exact states second (after.le.trans inside)
  have narrow : ∀ (incidents : List Int) (end_ : Int),
      (incidents.filter fun ts => day ≤ ts ∧ ts < end_) =
        (incidents.filter fun ts => since < ts).filter fun ts => day ≤ ts ∧ ts < end_ := by
    intro incidents end_
    rw [filter_filter]
    refine filter_congr ?_
    intro ts _
    by_cases inside : day ≤ ts
    · simp [after.trans_le inside]
    · simp [inside]
  rw [narrow (t.close to_).incidents, alike.close.incidents, ← narrow]

theorem SameSince.heartbeatDay_eq (same : SameSince since events others) (nonneg : 0 ≤ period)
    {from_ to_ : Int} (after : since < day) (window : from_ ≤ day)
    (other_window : other_from ≤ day) :
    heartbeatDay ((new period).replay (sortOn HbEvent.key events)) from_ to_ day =
      heartbeatDay ((new period).replay (sortOn HbEvent.key others)) other_from to_ day := by
  obtain ⟨alike, states⟩ := same.replays nonneg
  have new_good := HbTimeline.WellFormed.new nonneg
  exact alike.heartbeatDay_eq (new_good.replay (inOrder_new period events))
    (new_good.replay (inOrder_new period others)) states after window other_window

end Completion

/-! ### What the queries read -/

variable {ping : HeartbeatPing} {period : Int}

section Rows

variable {pings : List HeartbeatPing} {pauses : List HeartbeatPause} {from_ to_ since : Int}

theorem key_pingEvent (ping : HeartbeatPing) :
    (pingEvent ping).key = toLex (ping.timestamp, 1) := rfl

theorem ofKey_map_pingEvent (second : Int) (kind : Nat) :
    ofKey HbEvent.key (toLex (second, kind)) (pings.map pingEvent) =
      if kind = 1 then (ofKey HeartbeatPing.timestamp second pings).map pingEvent else [] := by
  rw [ofKey, filter_map]
  split
  · rename_i here
    congr 1
    refine filter_congr ?_
    simp [key_pingEvent, here]
  · rename_i elsewhere
    rw [map_eq_nil_iff, filter_eq_nil_iff]
    intro ping _ same
    have same : (pingEvent ping).key = toLex (second, kind) := by simpa using same
    exact elsewhere (Prod.mk.inj same).2.symm

theorem ofKey_heartbeatPingEvents (second : Int) (kind : Nat) :
    ofKey HbEvent.key (toLex (second, kind)) (heartbeatPingEvents pings from_ to_) =
      if kind = 1 ∧ from_ ≤ second ∧ second < to_ then
        (pings.filter fun ping => ping.timestamp = second).map pingEvent else [] := by
  rw [heartbeatPingEvents, ofKey_map_pingEvent, ofKey_sortOn,
    ofKey_filter second fun ts => from_ ≤ ts ∧ ts < to_]
  by_cases here : kind = 1
  · by_cases inside : from_ ≤ second ∧ second < to_
    · simp only [here, inside, and_self, decide_true, if_true, ofKey]
    · simp only [here, inside, and_false, decide_false, if_true, Bool.false_eq_true, if_false,
        map_nil]
  · simp [here]

/-- The pause is not over by then. -/
def lasts (since : Int) (pause : HeartbeatPause) : Bool :=
  match pause.resumedAt with
  | none => true
  | some resumed => since < resumed

/-- What a pause row contributes to the events of a key. -/
def pauseShare (key : Int ×ₗ Nat) (from_ to_ : Int) (pause : HeartbeatPause) : List HbEvent :=
  if overlaps from_ to_ pause then ofKey HbEvent.key key (pauseEvents pause) else []

theorem ofKey_heartbeatPauseEvents (key : Int ×ₗ Nat) :
    ofKey HbEvent.key key (heartbeatPauseEvents pauses from_ to_) =
      pauses.flatMap (pauseShare key from_ to_) := by
  rw [heartbeatPauseEvents]
  induction pauses with
  | nil => rfl
  | cons pause pauses ih =>
    rw [flatMap_cons, ← ih, pauseShare, filter_cons]
    split
    · rw [flatMap_cons, ofKey_append]
    · rfl

/-- Pauses that are over by a second matter to no event from its pings on, and where reading starts
before that second does not matter either. -/
theorem pauseShare_eq {key : Int ×ₗ Nat} (above : toLex (since, 1) ≤ key) (reads : from_ ≤ since)
    (pause : HeartbeatPause) : pauseShare key from_ to_ pause =
      if lasts since pause then pauseShare key since to_ pause else [] := by
  cases ended : pause.resumedAt with
  | none => simp [pauseShare, overlaps, lasts, ended]
  | some resumed =>
    by_cases later : since < resumed
    · have read : from_ < resumed := by omega
      simp [pauseShare, overlaps, lasts, ended, later, read]
    simp only [lasts, ended, later, decide_false, Bool.false_eq_true, if_false, pauseShare]
    split
    · rename_i counted
      obtain ⟨-, -, before⟩ :
          pause.pausedAt < to_ ∧ from_ < resumed ∧ pause.pausedAt < resumed := by
        simpa [overlaps, ended] using counted
      rw [ofKey, filter_eq_nil_iff]
      intro event mem
      simp only [decide_eq_true_eq]
      rintro rfl
      simp only [pauseEvents, ended, mem_cons, not_mem_nil, or_false] at mem
      rcases Prod.Lex.toLex_le_toLex.mp above with ahead | ⟨level, last⟩
      · rcases mem with rfl | rfl
        · simp only [HbEvent.ts] at ahead
          omega
        · simp only [HbEvent.ts] at ahead
          omega
      · rcases mem with rfl | rfl
        · simp only [HbEvent.ts] at level
          omega
        · simp only [HbEvent.kind] at last
          omega
    · rfl

theorem flatMap_filter {α β : Type} (test : α → Bool) (share : α → List β) (items : List α) :
    (items.flatMap fun item => if test item then share item else []) =
      (items.filter test).flatMap share := by
  induction items with
  | nil => rfl
  | cons item items ih =>
    rw [flatMap_cons, ih, filter_cons]
    split
    · rw [flatMap_cons]
    · rfl

theorem seed_of_completion (mem : ping ∈ pings)
    (completion : completes ping.pingType) (before : ping.timestamp < from_) :
    ∃ last ∈ pings, completes last.pingType ∧ last.timestamp = seed pings from_ ∧
      last.timestamp < from_ ∧ ∀ other ∈ pings, completes other.pingType →
        other.timestamp < from_ → other.timestamp ≤ last.timestamp := by
  let earlier := (pings.filter fun ping => completes ping.pingType ∧ ping.timestamp < from_).map
    HeartbeatPing.timestamp
  have listed : ∀ other ∈ pings, completes other.pingType → other.timestamp < from_ →
      other.timestamp ∈ earlier := by
    intro other mem completion before
    exact mem_map_of_mem (mem_filter.mpr ⟨mem, decide_eq_true ⟨completion, before⟩⟩)
  obtain ⟨latest, max_eq⟩ : ∃ latest, earlier.max? = some latest :=
    Option.isSome_iff_exists.mp (isSome_max?_of_mem (listed ping mem completion before))
  obtain ⟨latest_mem, upper⟩ := max?_eq_some_iff.mp max_eq
  obtain ⟨last, last_mem, rfl⟩ := mem_map.mp latest_mem
  obtain ⟨last_mem, last_ok⟩ := mem_filter.mp last_mem
  obtain ⟨last_completion, last_before⟩ := of_decide_eq_true last_ok
  refine ⟨last, last_mem, last_completion, ?_, last_before, ?_⟩
  · rw [seed, max_eq, Option.getD_some]
  · intro other mem completion before
    exact upper _ (listed other mem completion before)

theorem seed_of_none
    (none_before : ∀ ping ∈ pings, completes ping.pingType → from_ ≤ ping.timestamp) :
    seed pings from_ = 0 := by
  have empty :
      (pings.filter fun ping => completes ping.pingType ∧ ping.timestamp < from_) = [] := by
    rw [filter_eq_nil_iff]
    intro ping mem
    simp only [decide_eq_true_eq, not_and, not_lt]
    exact none_before ping mem
  rw [seed, empty]
  rfl

theorem valueOn_heartbeatDays : valueOn (heartbeatDays period pings pauses from_ to_) day =
      if day ∈ daysOf from_ to_ ∧ (heartbeatTimeline period pings pauses from_ to_).started then
        heartbeatDay (heartbeatTimeline period pings pauses from_ to_) from_ to_ day else none := by
  rw [heartbeatDays]
  split
  next closed =>
    rw [if_neg]
    · rfl
    rintro ⟨served, started⟩
    have := mem_daysOf.mp served
    simp only [started, Bool.not_true, Bool.false_eq_true, or_false] at closed
    omega
  next open_ =>
    have started : (heartbeatTimeline period pings pauses from_ to_).started := by
      simpa using (not_or.mp open_).2
    simp only [valueOn_eachDay, started, and_true]

/-- The rows agree on everything since a completion. -/
structure AgreeSince (since : Int) (pings others : List HeartbeatPing)
    (pauses other_pauses : List HeartbeatPause) : Prop where
  same_pings : ∀ second, since ≤ second → (pings.filter fun ping => ping.timestamp = second) =
    others.filter fun ping => ping.timestamp = second
  same_pauses : pauses.filter (lasts since) = other_pauses.filter (lasts since)
  completion : ∃ ping ∈ pings, completes ping.pingType ∧ ping.timestamp = since

section Agreement

variable {others : List HeartbeatPing} {other_pauses : List HeartbeatPause}

theorem AgreeSince.refl (mem : ping ∈ pings)
    (completion : completes ping.pingType) : AgreeSince ping.timestamp pings pings pauses pauses :=
  ⟨fun _ _ => rfl, rfl, ping, mem, completion, rfl⟩

theorem lasts_of_le {earlier : Int} (le : earlier ≤ since) {pause : HeartbeatPause}
    (longer : lasts since pause) : lasts earlier pause := by
  rw [lasts] at longer ⊢
  split
  · rfl
  next resumed ended =>
    rw [ended] at longer
    simp only [decide_eq_true_eq] at longer ⊢
    omega

theorem AgreeSince.later (agree : AgreeSince since pings others pauses
    other_pauses) (mem : ping ∈ pings) (completion : completes ping.pingType)
    (after : since ≤ ping.timestamp) :
    AgreeSince ping.timestamp pings others pauses other_pauses := by
  refine ⟨fun second reached => agree.same_pings second (after.trans reached), ?_, ping, mem,
    completion, rfl⟩
  have narrow : ∀ rows : List HeartbeatPause, rows.filter (lasts ping.timestamp) =
      (rows.filter (lasts since)).filter (lasts ping.timestamp) := by
    intro rows
    rw [filter_filter]
    refine filter_congr ?_
    intro pause _
    cases longer : lasts ping.timestamp pause with
    | true => simp [lasts_of_le after longer]
    | false => rfl
  rw [narrow, agree.same_pauses, ← narrow]

theorem seed_le {bound : Int} (nonneg : 0 ≤ bound) (latest : ∀ ping ∈ pings,
      completes ping.pingType → ping.timestamp < from_ → ping.timestamp ≤ bound) :
    seed pings from_ ≤ bound := by
  by_cases none_before : ∀ ping ∈ pings, completes ping.pingType → from_ ≤ ping.timestamp
  · rw [seed_of_none none_before]
    exact nonneg
  push Not at none_before
  obtain ⟨ping, mem, completion, before⟩ := none_before
  obtain ⟨last, last_mem, last_completion, last_eq, last_before, -⟩ :=
    seed_of_completion mem completion before
  exact last_eq ▸ latest last last_mem last_completion last_before

section

variable (agree : AgreeSince since pings others pauses other_pauses)
include agree

theorem AgreeSince.sameSince (reads : from_ ≤ since) (other_reads : other_from ≤ since)
    (ahead : since < to_) : SameSince since (heartbeatEvents pings pauses from_ to_)
      (heartbeatEvents others other_pauses other_from to_) where
  same := by
    intro key above
    obtain ⟨second, kind⟩ := key
    have above : toLex (since, 1) ≤ toLex (second, kind) := above
    have reached : since ≤ second := by
      rcases Prod.Lex.toLex_le_toLex.mp above with less | ⟨level, -⟩
      · exact less.le
      · exact level.le
    change ofKey HbEvent.key (toLex (second, kind)) _ = ofKey HbEvent.key (toLex (second, kind)) _
    rw [heartbeatEvents, heartbeatEvents, ofKey_append, ofKey_append, ofKey_heartbeatPingEvents,
      ofKey_heartbeatPingEvents, ofKey_heartbeatPauseEvents, ofKey_heartbeatPauseEvents,
      agree.same_pings second reached]
    congr 1
    · have read : from_ ≤ second := reads.trans reached
      have other_read : other_from ≤ second := other_reads.trans reached
      simp only [read, other_read]
    · rw [funext (pauseShare_eq above reads), funext (pauseShare_eq above other_reads),
        flatMap_filter, flatMap_filter, agree.same_pauses]
  completion := by
    obtain ⟨ping, mem, completion, rfl⟩ := agree.completion
    refine ⟨ping.pingType, ping.exitCode, completion, mem_append_left _ ?_⟩
    refine mem_map.mpr ⟨ping, mem_sortOn.mpr (mem_filter.mpr ⟨mem, ?_⟩), rfl⟩
    exact decide_eq_true ⟨reads, ahead⟩

theorem AgreeSince.mem_iff (reached : since ≤ ping.timestamp) : ping ∈ pings ↔ ping ∈ others := by
  simpa using congrArg (ping ∈ ·) (agree.same_pings ping.timestamp reached)

/-- Windows that hold a day read the rows from its last completion on at the latest. -/
theorem AgreeSince.common (epoch : 0 ≤ since) (after : since < day)
    (window : from_ ≤ day) (other_window : other_from ≤ day) :
    ∃ common, AgreeSince common pings others pauses other_pauses ∧ common < day ∧
      seed pings from_ ≤ common ∧ seed others other_from ≤ common := by
  obtain ⟨ping, mem, completion, rfl⟩ := agree.completion
  obtain ⟨last, last_mem, last_completion, -, last_before, latest⟩ :=
    seed_of_completion mem completion after
  have ge := latest ping mem completion after
  refine ⟨last.timestamp, agree.later last_mem last_completion ge, last_before,
    seed_le (epoch.trans ge) ?_, seed_le (epoch.trans ge) ?_⟩
  · intro earlier earlier_mem completed before
    exact latest earlier earlier_mem completed (before.trans_le window)
  · intro earlier earlier_mem completed before
    rcases le_total earlier.timestamp ping.timestamp with old | new
    · exact old.trans ge
    · exact latest earlier ((agree.mem_iff new).mpr earlier_mem) completed
        (before.trans_le other_window)

theorem AgreeSince.valueOn_eq (nonneg : 0 ≤ period)
    (epoch : 0 ≤ since) (after : since < day) (window : from_ ≤ day)
    (other_window : other_from ≤ day)
    (both : day ∈ daysOf from_ to_ ↔ day ∈ daysOf other_from to_) :
    valueOn (heartbeatDays period pings pauses from_ to_) day =
      valueOn (heartbeatDays period others other_pauses other_from to_) day := by
  by_cases served : day ∈ daysOf from_ to_
  swap
  · have other_unserved := mt both.mpr served
    simp only [valueOn_heartbeatDays, served, other_unserved, false_and, if_false]
  obtain ⟨-, day_before, -⟩ := mem_daysOf.mp served
  obtain ⟨common, agree, common_day, reads, other_reads⟩ :=
    agree.common epoch after window other_window
  have same : SameSince common (heartbeatEvents pings pauses (seed pings from_) to_)
      (heartbeatEvents others other_pauses (seed others other_from) to_) :=
    agree.sameSince reads other_reads (common_day.trans day_before)
  obtain ⟨started, other_started⟩ := (same.replays nonneg).1.started
  rw [valueOn_heartbeatDays, valueOn_heartbeatDays, if_pos ⟨served, started⟩,
    if_pos ⟨both.mp served, other_started⟩]
  exact same.heartbeatDay_eq nonneg common_day window other_window

end

/-- What a day is worth depends on the end of the window only. -/
theorem valueOn_heartbeatDays_window {other_from period day : Int} (nonneg : 0 ≤ period)
    (epoch : ∀ ping ∈ pings, 0 ≤ ping.timestamp) (served : day ∈ daysOf from_ to_)
    (other_served : day ∈ daysOf other_from to_) :
    valueOn (heartbeatDays period pings pauses from_ to_) day =
      valueOn (heartbeatDays period pings pauses other_from to_) day := by
  have window := (mem_daysOf.mp served).1
  have other_window := (mem_daysOf.mp other_served).1
  by_cases none_before : ∀ ping ∈ pings, completes ping.pingType → day ≤ ping.timestamp
  · -- both replays start at the beginning of time
    have unseeded : ∀ start ≤ day, seed pings start = 0 := by
      intro start le
      exact seed_of_none fun ping mem completion =>
        le.trans (none_before ping mem completion)
    have from_day : ∀ start ≤ day, ∀ first, max day (max first start) = max day first := by
      omega
    simp only [valueOn_heartbeatDays, heartbeatTimeline, unseeded _ window,
      unseeded _ other_window, served, other_served, heartbeatDay, from_day _ window,
      from_day _ other_window]
  push Not at none_before
  obtain ⟨ping, mem, completion, before⟩ := none_before
  exact (AgreeSince.refl mem completion).valueOn_eq nonneg (epoch ping mem) before window
    other_window (iff_of_true served other_served)

/-- The second of two days, asked for with the first one and alone. -/
theorem valueOn_heartbeatDays_window_of_ping :
    let pings : List HeartbeatPing := [⟨1, .success, none, none, 100⟩]
    valueOn (heartbeatDays 90000 pings [] 0 172800) 86400 =
      valueOn (heartbeatDays 90000 pings [] 86400 172800) 86400 :=
  valueOn_heartbeatDays_window (by decide) (by decide) (by decide) (by decide)

end Agreement

end Rows

end Maintenant.Uptime
