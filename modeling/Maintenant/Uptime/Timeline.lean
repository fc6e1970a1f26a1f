import Maintenant.Heartbeats.Store
import Maintenant.StableSort
import Mathlib.Data.Prod.Lex

/-!
# The replayed timeline of a heartbeat

The daily uptime of a heartbeat is read off a replay of its recorded pings and pauses, which lays
out its time in spans that are up, down or paused.  An event never rewrites what came before it, so
the span that holds a second is settled by the events up to that second.
-/

namespace Maintenant.Uptime

open List
open Heartbeats (PingType HeartbeatPing HeartbeatPause)

/-- What the replay reads. -/
inductive HbEvent
  | resume (ts : Int)
  | ping (ts : Int) (pingType : PingType) (exitCode : Option Int)
  | pause (ts : Int)

namespace HbEvent

def ts : HbEvent → Int
  | .resume ts | .ping ts _ _ | .pause ts => ts

/-- Within one second, a resume comes before the ping that caused it, and a pause after the ping it
follows. -/
def kind : HbEvent → Nat
  | .resume _ => 0
  | .ping .. => 1
  | .pause _ => 2

def key (event : HbEvent) : Int ×ₗ Nat := toLex (event.ts, event.kind)

theorem key_le {left right : HbEvent} :
    left.key ≤ right.key ↔ left.ts < right.ts ∨ left.ts = right.ts ∧ left.kind ≤ right.kind :=
  Prod.Lex.toLex_le_toLex

end HbEvent

/-- State of a span. -/
inductive HbState
  | down
  | up
  | paused
  deriving DecidableEq

/-- A span of the timeline. -/
structure HbSpan where
  from_ : Int
  to_ : Int
  state : HbState

/-- A stretch that goes on in the same state lengthens the last one. -/
def extend (spans : List HbSpan) (from_ to_ : Int) (state : HbState) : List HbSpan :=
  match spans.getLast? with
  | some last =>
    if last.state = state ∧ last.to_ = from_ then spans.dropLast ++ [{ last with to_ }]
    else spans ++ [⟨from_, to_, state⟩]
  | none => spans ++ [⟨from_, to_, state⟩]

/-- The replay so far. -/
structure HbTimeline where
  period : Int
  started : Bool
  first : Int
  /-- Neither a failure nor a lapsed deadline is unanswered. -/
  up : Bool
  paused : Bool
  cursor : Int
  /-- When the heartbeat goes down without another ping. -/
  deadline : Int
  spans : List HbSpan
  incidents : List Int

namespace HbTimeline

def new (period : Int) : HbTimeline where
  period
  started := false
  first := 0
  up := false
  paused := false
  cursor := 0
  deadline := 0
  spans := []
  incidents := []

def span (t : HbTimeline) (from_ to_ : Int) (state : HbState) : HbTimeline :=
  { t with spans := extend t.spans from_ to_ state }

/-- A deadline that lapsed before this time takes the heartbeat down. -/
def lapse (t : HbTimeline) (ts : Int) : HbTimeline :=
  if t.up ∧ t.deadline < ts then
    { t.span t.cursor t.deadline .up with
      incidents := t.incidents ++ [t.deadline]
      cursor := t.deadline
      up := false }
  else t

/-- `advance`: lay out the time up to here. -/
def advance (t : HbTimeline) (ts : Int) : HbTimeline :=
  let lapsed := t.lapse ts
  { lapsed.span lapsed.cursor ts (if lapsed.up then .up else .down) with cursor := ts }

def resume (t : HbTimeline) (ts : Int) : HbTimeline :=
  if t.paused then
    { t.span t.cursor ts .paused with
      cursor := ts
      paused := false
      up := true
      deadline := ts + t.period }
  else t

def pause (t : HbTimeline) (ts : Int) : HbTimeline :=
  if !t.started || t.paused then t else { t.advance ts with paused := true }

def succeeds : PingType → Option Int → Bool
  | .success, _ => true
  | .exitCode, some code => code = 0
  | _, _ => false

/-- Time up to a ping is laid out; the first ping starts the timeline. -/
def reach (t : HbTimeline) (ts : Int) : HbTimeline :=
  if !t.started then { t with started := true, first := ts, up := true, cursor := ts }
  else if t.paused then t.resume ts
  else t.advance ts

def report (t : HbTimeline) (ts : Int) (pingType : PingType) (exitCode : Option Int) : HbTimeline :=
  if succeeds pingType exitCode then { t with up := true }
  else if pingType = .exitCode then
    { t with incidents := if t.up then t.incidents ++ [ts] else t.incidents, up := false }
  else t

def ping (t : HbTimeline) (ts : Int) (pingType : PingType) (exitCode : Option Int) : HbTimeline :=
  let reported := (t.reach ts).report ts pingType exitCode
  { reported with deadline := ts + reported.period }

def apply (t : HbTimeline) : HbEvent → HbTimeline
  | .resume ts => t.resume ts
  | .ping ts pingType exitCode => t.ping ts pingType exitCode
  | .pause ts => t.pause ts

def replay (t : HbTimeline) (events : List HbEvent) : HbTimeline := events.foldl apply t

def close (t : HbTimeline) (end_ : Int) : HbTimeline :=
  if end_ ≤ t.cursor then t
  else if t.paused then t.span t.cursor end_ .paused
  else t.advance end_

end HbTimeline

/-! ### Spans -/

def HbSpan.holds (span : HbSpan) (second : Int) : Bool :=
  span.from_ ≤ second ∧ second < span.to_

theorem HbSpan.holds_iff {span : HbSpan} {second : Int} :
    span.holds second ↔ span.from_ ≤ second ∧ second < span.to_ := by
  simp [HbSpan.holds]

/-- The state of the span that holds the second. -/
def spanAt (spans : List HbSpan) (second : Int) : Option HbState :=
  (spans.find? fun span => span.holds second).map HbSpan.state

/-- Spans follow one another up to the cursor. -/
structure Laid (spans : List HbSpan) (cursor : Int) : Prop where
  ordered : spans.Pairwise fun left right => left.to_ ≤ right.from_
  /-- No span ends before it begins or after the cursor. -/
  bounded : ∀ span ∈ spans, span.from_ ≤ span.to_ ∧ span.to_ ≤ cursor

section Spans

variable {spans : List HbSpan} {cursor to_ second : Int} {state : HbState}

theorem extend_cases (spans : List HbSpan) (from_ to_ : Int) (state : HbState) :
    (∃ front last, spans = front ++ [last] ∧ last.state = state ∧ last.to_ = from_ ∧
      extend spans from_ to_ state = front ++ [{ last with to_ }]) ∨
    extend spans from_ to_ state = spans ++ [⟨from_, to_, state⟩] := by
  rw [extend]
  split
  next last found =>
    split
    next goes_on =>
      obtain ⟨front, rfl⟩ := getLast?_eq_some_iff.mp found
      exact .inl ⟨front, last, rfl, goes_on.1, goes_on.2, by rw [dropLast_concat]⟩
    · exact .inr rfl
  · exact .inr rfl

theorem spanAt_append {front back : List HbSpan} :
    spanAt (front ++ back) second = (spanAt front second).or (spanAt back second) := by
  simp only [spanAt, find?_append, Option.map_or]

theorem spanAt_singleton (span : HbSpan) : spanAt [span] second =
      if span.from_ ≤ second ∧ second < span.to_ then some span.state else none := by
  simp only [← HbSpan.holds_iff]
  cases holds : span.holds second with
  | true | false => simp [spanAt, holds]

variable (laid : Laid spans cursor)
include laid

theorem Laid.spanAt_of_le (past : cursor ≤ second) : spanAt spans second = none := by
  rw [spanAt, Option.map_eq_none_iff, find?_eq_none]
  intro span mem
  have := (laid.bounded span mem).2
  rw [HbSpan.holds_iff]
  omega

theorem Laid.spanAt_extend (forward : cursor ≤ to_) :
    spanAt (extend spans cursor to_ state) second =
      if cursor ≤ second ∧ second < to_ then some state else spanAt spans second := by
  rcases extend_cases spans cursor to_ state with ⟨front, last, rfl, rfl, ends, extended⟩ | extended
  · rw [extended, spanAt_append, spanAt_append, spanAt_singleton, spanAt_singleton]
    have bounds := laid.bounded last (by simp)
    have front_laid : Laid front cursor :=
      ⟨(pairwise_append.mp laid.ordered).1,
        fun span mem => laid.bounded span (mem_append_left _ mem)⟩
    by_cases past : cursor ≤ second
    · have outside : ¬(last.from_ ≤ second ∧ second < last.to_) := by omega
      have inside : (last.from_ ≤ second ∧ second < to_) ↔ (cursor ≤ second ∧ second < to_) := by
        omega
      simp only [front_laid.spanAt_of_le past, Option.none_or, inside, outside, if_false]
    have outside : ¬(cursor ≤ second ∧ second < to_) := by omega
    have inside : (last.from_ ≤ second ∧ second < to_) ↔
        (last.from_ ≤ second ∧ second < last.to_) := by
      omega
    simp only [outside, inside, if_false]
  · rw [extended, spanAt_append, spanAt_singleton]
    by_cases past : cursor ≤ second
    · rw [laid.spanAt_of_le past, Option.none_or]
    · have outside : ¬(cursor ≤ second ∧ second < to_) := fun inside => past inside.1
      rw [if_neg outside, if_neg outside, Option.or_none]

theorem Laid.extend (forward : cursor ≤ to_) (state : HbState) :
    Laid (extend spans cursor to_ state) to_ := by
  rcases extend_cases spans cursor to_ state with ⟨front, last, rfl, rfl, ends, extended⟩ | extended
  · obtain ⟨front_ordered, below⟩ := pairwise_snoc.mp laid.ordered
    have bounds := laid.bounded last (by simp)
    rw [extended]
    refine ⟨pairwise_snoc.mpr ⟨front_ordered, below⟩, ?_⟩
    intro span mem
    rcases mem_snoc.mp mem with old | rfl
    · have := laid.bounded span (mem_append_left _ old)
      exact ⟨this.1, by omega⟩
    · exact ⟨by dsimp only; omega, le_refl _⟩
  · rw [extended]
    refine ⟨pairwise_snoc.mpr ⟨laid.ordered, fun span mem => (laid.bounded span mem).2⟩, ?_⟩
    intro span mem
    rcases mem_snoc.mp mem with old | rfl
    · have := laid.bounded span old
      exact ⟨this.1, by omega⟩
    · exact ⟨forward, le_refl _⟩

end Spans

variable {exitCode : Option Int} {pingType : PingType} {later end_ : Int}

namespace HbTimeline

/-! ### What a second is -/

/-- What a second past the cursor is if nothing more happens up to it. -/
def current (t : HbTimeline) (second : Int) : Option HbState :=
  if !t.started then none
  else if t.paused then some .paused
  else if t.up ∧ second < t.deadline then some .up
  else some .down

/-- What a second is if nothing more happens up to it. -/
def stateAt (t : HbTimeline) (second : Int) : Option HbState :=
  if second < t.cursor then spanAt t.spans second else t.current second

/-- The spans follow each other up to the cursor. -/
structure WellFormed (t : HbTimeline) : Prop where
  laid : Laid t.spans t.cursor
  settled : ∀ incident ∈ t.incidents, incident ≤ t.cursor
  unstarted : t.started = false → t.spans = [] ∧ t.paused = false ∧ t.incidents = []
  begun : t.started → t.first ≤ t.cursor
  /-- A heartbeat that is up is not past its deadline. -/
  pending : t.started → t.up → t.cursor ≤ t.deadline
  period : 0 ≤ t.period

variable {t : HbTimeline} {ts second : Int} {event : HbEvent} {events : List HbEvent}

/-- An event of this time does not lie in the past of the timeline. -/
def Reaches (t : HbTimeline) (ts : Int) : Prop := t.started → t.cursor ≤ ts

theorem WellFormed.new {period : Int} (nonneg : 0 ≤ period) :
    (HbTimeline.new period).WellFormed where
  laid := ⟨List.Pairwise.nil, fun _ mem => absurd mem not_mem_nil⟩
  settled _ mem := absurd mem not_mem_nil
  unstarted _ := ⟨rfl, rfl, rfl⟩
  begun started := absurd started Bool.false_ne_true
  pending started := absurd started Bool.false_ne_true
  period := nonneg

theorem advance_of_not_lapsed (intime : ¬(t.up ∧ t.deadline < ts)) : t.advance ts = { t with
        spans := extend t.spans t.cursor ts (if t.up then .up else .down)
        cursor := ts } := by
  simp only [advance, lapse, if_neg intime, span]

theorem advance_of_lapsed (late : t.up ∧ t.deadline < ts) : t.advance ts = { t with
        spans := extend (extend t.spans t.cursor t.deadline .up) t.deadline ts .down
        incidents := t.incidents ++ [t.deadline]
        cursor := ts
        up := false } := by
  simp only [advance, lapse, if_pos late, span, Bool.false_eq_true, if_false]

theorem advance_static (t : HbTimeline) :
    (t.advance ts).started = t.started ∧ (t.advance ts).first = t.first ∧
      (t.advance ts).paused = t.paused ∧ (t.advance ts).period = t.period ∧
      (t.advance ts).deadline = t.deadline := by
  by_cases late : t.up ∧ t.deadline < ts
  · rw [advance_of_lapsed late]
    exact ⟨rfl, rfl, rfl, rfl, rfl⟩
  · rw [advance_of_not_lapsed late]
    exact ⟨rfl, rfl, rfl, rfl, rfl⟩

theorem up_advance : (t.advance ts).up ↔ t.up ∧ ts ≤ t.deadline := by
  by_cases late : t.up ∧ t.deadline < ts
  · rw [advance_of_lapsed late]
    simp only [Bool.false_eq_true, false_iff]
    omega
  rw [advance_of_not_lapsed late]
  constructor
  · intro up
    exact ⟨up, not_lt.mp fun past => late ⟨up, past⟩⟩
  · exact And.left

section

-- what holds of the spans up to the cursor and goes on to hold when they are extended
variable {P : List HbSpan → Int → Prop} (grows : ∀ {spans cursor to_}, P spans cursor →
  cursor ≤ to_ → ∀ state, P (extend spans cursor to_ state) to_)
include grows

theorem WellFormed.advance_keeps (good : t.WellFormed) (here : P t.spans t.cursor)
    (started : t.started) (forward : t.cursor ≤ ts) : P (t.advance ts).spans ts := by
  by_cases late : t.up ∧ t.deadline < ts
  · rw [advance_of_lapsed late]
    exact grows (grows here (good.pending started late.1) .up) late.2.le .down
  · rw [advance_of_not_lapsed late]
    exact grows here forward _

theorem WellFormed.close_keeps (good : t.WellFormed) (here : P t.spans t.cursor)
    (started : t.started) (end_ : Int) : P (t.close end_).spans (max t.cursor end_) := by
  rw [close]
  split
  next closed =>
    rw [max_eq_left closed]
    exact here
  have forward : t.cursor ≤ end_ := by omega
  rw [max_eq_right forward]
  cases paused : t.paused with
  | true => exact grows here forward _
  | false => exact good.advance_keeps grows here started forward

end

theorem WellFormed.laid_advance (good : t.WellFormed) (started : t.started)
    (forward : t.cursor ≤ ts) : Laid (t.advance ts).spans ts :=
  good.advance_keeps Laid.extend good.laid started forward

theorem WellFormed.settled_advance (good : t.WellFormed) (forward : t.cursor ≤ ts) :
    ∀ incident ∈ (t.advance ts).incidents, incident ≤ ts := by
  intro incident mem
  by_cases late : t.up ∧ t.deadline < ts
  · rw [advance_of_lapsed late] at mem
    rcases mem_snoc.mp mem with old | rfl
    · exact (good.settled incident old).trans forward
    · exact late.2.le
  · rw [advance_of_not_lapsed late] at mem
    exact (good.settled incident mem).trans forward

theorem WellFormed.spanAt_advance (good : t.WellFormed) (started : t.started)
    (running : t.paused = false) (forward : t.cursor ≤ ts) (before : second < ts) :
    spanAt (t.advance ts).spans second = t.stateAt second := by
  simp only [stateAt, current, started, running, Bool.not_true, Bool.false_eq_true, if_false]
  by_cases late : t.up ∧ t.deadline < ts
  · have due := good.pending started late.1
    have upper := good.laid.extend due .up
    rw [advance_of_lapsed late]
    simp only [upper.spanAt_extend late.2.le, good.laid.spanAt_extend due, late.1, true_and]
    split
    · rw [if_neg (by omega), if_neg (by omega)]
    · split
      · rw [if_neg (by omega), if_pos (by omega)]
      · rw [if_pos (by omega)]
  · rw [advance_of_not_lapsed late]
    simp only [good.laid.spanAt_extend forward]
    by_cases past : t.cursor ≤ second
    · have here : ¬second < t.cursor := by omega
      rw [if_pos ⟨past, before⟩, if_neg here]
      cases up : t.up with
      | true =>
        have due : second < t.deadline := by
          simp only [up, true_and] at late
          omega
        simp [due]
      | false => simp
    · rw [if_neg (fun inside => past inside.1), if_pos (by omega)]

theorem resume_of_paused (paused : t.paused) : t.resume ts = { t with
        spans := extend t.spans t.cursor ts .paused
        cursor := ts
        paused := false
        up := true
        deadline := ts + t.period } := by
  simp only [resume, paused, if_true, span]

theorem resume_of_running (running : t.paused = false) : t.resume ts = t := by
  simp [resume, running]

@[simp] theorem started_resume : (t.resume ts).started = t.started := by
  cases paused : t.paused with
  | false => rw [resume_of_running paused]
  | true => rw [resume_of_paused paused]

@[simp] theorem started_pause : (t.pause ts).started = t.started := by
  rw [pause]
  split
  · rfl
  · exact (advance_static t).1

theorem WellFormed.spanAt_paused (good : t.WellFormed) (started : t.started) (paused : t.paused)
    (forward : t.cursor ≤ ts) (before : second < ts) :
    spanAt (extend t.spans t.cursor ts .paused) second = t.stateAt second := by
  simp only [stateAt, current, started, paused, Bool.not_true, Bool.false_eq_true, if_false,
    if_true, good.laid.spanAt_extend forward]
  by_cases past : t.cursor ≤ second
  · rw [if_pos ⟨past, before⟩, if_neg (by omega)]
  · rw [if_neg (fun inside => past inside.1), if_pos (by omega)]

theorem WellFormed.started_of_paused (good : t.WellFormed) (paused : t.paused) : t.started := by
  by_contra unstarted
  have := (good.unstarted (by simpa using unstarted)).2.1
  simp [paused] at this

/-! ### Events -/

theorem WellFormed.resume (good : t.WellFormed) (forward : t.Reaches ts) :
    (t.resume ts).WellFormed := by
  cases paused : t.paused with
  | false => rwa [resume_of_running paused]
  | true =>
    have started := good.started_of_paused paused
    rw [resume_of_paused paused]
    refine ⟨good.laid.extend (forward started) _, ?_, ?_, ?_, fun _ _ => ?_, good.period⟩
    · exact fun incident mem => (good.settled incident mem).trans (forward started)
    · intro unstarted
      simp [started] at unstarted
    · exact fun _ => (good.begun started).trans (forward started)
    · have := good.period
      dsimp only
      omega

theorem WellFormed.pause (good : t.WellFormed) (forward : t.Reaches ts) :
    (t.pause ts).WellFormed := by
  rw [HbTimeline.pause]
  split
  · exact good
  rename_i open_
  obtain ⟨started, running⟩ : t.started ∧ t.paused = false := by simpa using open_
  obtain ⟨same_started, same_first, -, same_period, same_deadline⟩ := advance_static t
  refine ⟨good.laid_advance started (forward started), good.settled_advance (forward started), ?_,
    ?_, ?_, ?_⟩
  · intro unstarted
    rw [same_started, started] at unstarted
    cases unstarted
  · exact fun _ => same_first ▸ (good.begun started).trans (forward started)
  · intro _ up
    exact same_deadline ▸ (up_advance.mp up).2
  · exact same_period ▸ good.period

theorem WellFormed.reach (good : t.WellFormed) (forward : t.Reaches ts) :
    Laid (t.reach ts).spans ts ∧ (∀ incident ∈ (t.reach ts).incidents, incident ≤ ts) ∧
      (t.reach ts).cursor = ts ∧ (t.reach ts).started ∧ (t.reach ts).first ≤ ts ∧
      (t.reach ts).paused = false ∧ (t.reach ts).period = t.period := by
  rw [HbTimeline.reach]
  cases started : t.started with
  | false =>
    obtain ⟨none_laid, running, quiet⟩ := good.unstarted started
    simp only [Bool.not_false, if_true, none_laid, running, quiet]
    exact ⟨⟨List.Pairwise.nil, fun _ mem => absurd mem not_mem_nil⟩,
      fun _ mem => absurd mem not_mem_nil, trivial, trivial, le_refl _, trivial, trivial⟩
  | true =>
    cases paused : t.paused with
    | true =>
      rw [resume_of_paused paused]
      exact ⟨good.laid.extend (forward started) _,
        fun incident mem => (good.settled incident mem).trans (forward started), rfl,
        started, (good.begun started).trans (forward started), rfl, rfl⟩
    | false =>
      obtain ⟨same_started, same_first, same_paused, same_period, -⟩ := advance_static t
      exact ⟨good.laid_advance started (forward started),
        good.settled_advance (forward started), rfl, same_started ▸ started,
        same_first ▸ (good.begun started).trans (forward started), same_paused ▸ paused,
        same_period⟩

theorem report_static (pingType : PingType) (exitCode : Option Int) :
    let after := t.report ts pingType exitCode
    after.spans = t.spans ∧ after.cursor = t.cursor ∧ after.started = t.started ∧
      after.first = t.first ∧ after.paused = t.paused ∧ after.period = t.period := by
  rw [report]
  split
  · exact ⟨rfl, rfl, rfl, rfl, rfl, rfl⟩
  · split
    · exact ⟨rfl, rfl, rfl, rfl, rfl, rfl⟩
    · exact ⟨rfl, rfl, rfl, rfl, rfl, rfl⟩

theorem WellFormed.ping_static (good : t.WellFormed) (forward : t.Reaches ts)
    (pingType : PingType) (exitCode : Option Int) : let after := t.ping ts pingType exitCode
    after.spans = (t.reach ts).spans ∧ after.cursor = ts ∧ after.started ∧ after.first ≤ ts ∧
      after.paused = false ∧ after.period = t.period ∧ after.deadline = ts + t.period := by
  obtain ⟨-, -, cursor, started, first, paused, period⟩ := good.reach forward
  obtain ⟨same_spans, same_cursor, same_started, same_first, same_paused, same_period⟩ :=
    report_static pingType exitCode
  refine ⟨same_spans, same_cursor.trans cursor, ?_, ?_, same_paused.trans paused,
    same_period.trans period, ?_⟩
  · exact same_started.trans started
  · exact same_first.le.trans first
  · rw [ping, same_period, period]

theorem up_reach : (t.reach ts).up ↔ t.started = false ∨ t.paused ∨ t.up ∧ ts ≤ t.deadline := by
  rw [reach]
  cases started : t.started with
  | false => simp
  | true =>
    cases paused : t.paused with
    | true => simp [resume_of_paused paused]
    | false => simp [up_advance]

theorem up_ping (pingType : PingType) (exitCode : Option Int) : (t.ping ts pingType exitCode).up ↔
      succeeds pingType exitCode ∨ pingType = .start ∧ (t.reach ts).up := by
  simp only [ping, report]
  cases ok : succeeds pingType exitCode with
  | true => simp
  | false =>
    cases pingType with
    | success => cases ok
    | start | exitCode => simp

section

variable (good : t.WellFormed)
include good

theorem WellFormed.settled_ping (forward : t.Reaches ts) :
    ∀ incident ∈ (t.ping ts pingType exitCode).incidents, incident ≤ ts := by
  have settled := (good.reach forward).2.1
  intro incident mem
  simp only [ping, report] at mem
  split at mem
  · exact settled incident mem
  split at mem
  · split at mem
    · rcases mem_append.mp mem with old | new
      · exact settled incident old
      · exact (mem_singleton.mp new).le
    · exact settled incident mem
  · exact settled incident mem

theorem WellFormed.ping (forward : t.Reaches ts) : (t.ping ts pingType exitCode).WellFormed := by
  obtain ⟨spans, cursor, started, first, paused, period, deadline⟩ :=
    good.ping_static forward pingType exitCode
  refine ⟨?_, ?_, ?_, ?_, ?_, period ▸ good.period⟩
  · rw [spans, cursor]
    exact (good.reach forward).1
  · rw [cursor]
    exact good.settled_ping forward
  · intro unstarted
    rw [started] at unstarted
    cases unstarted
  · exact fun _ => first.trans cursor.ge
  have := good.period
  omega

variable (forward : t.Reaches event.ts)
include forward

theorem WellFormed.apply : (t.apply event).WellFormed := by
  cases event with
  | resume => exact good.resume forward
  | ping => exact good.ping forward
  | pause => exact good.pause forward

theorem WellFormed.reaches_apply (after : event.ts ≤ later) : (t.apply event).Reaches later := by
  intro started
  have kept : ∀ {same : HbTimeline}, same = t → same.started → same.cursor ≤ later := by
    rintro _ rfl started
    exact (forward started).trans after
  cases event with
  | resume =>
    cases paused : t.paused with
    | false => exact kept (resume_of_running paused) started
    | true =>
      simp only [HbTimeline.apply, resume_of_paused paused]
      exact after
  | ping _ pingType exitCode =>
    exact (good.ping_static forward pingType exitCode).2.1.le.trans after
  | pause =>
    simp only [HbTimeline.apply, HbTimeline.pause] at started ⊢
    split
    next idle =>
      rw [if_pos idle] at started
      exact kept rfl started
    · exact after

theorem WellFormed.stateAt_apply
    (before : second < event.ts) : (t.apply event).stateAt second = t.stateAt second := by
  cases event with
  | resume =>
    cases paused : t.paused with
    | false => rw [HbTimeline.apply, resume_of_running paused]
    | true =>
      have started := good.started_of_paused paused
      rw [HbTimeline.apply, resume_of_paused paused, ← good.spanAt_paused started paused
        (forward started) before]
      exact if_pos before
  | ping ts pingType exitCode =>
    have forward : t.Reaches ts := forward
    have before : second < ts := before
    obtain ⟨spans, cursor, -, -, -, -, -⟩ := good.ping_static forward pingType exitCode
    rw [HbTimeline.apply, stateAt, cursor, if_pos before, spans, HbTimeline.reach]
    cases started : t.started with
    | false =>
      obtain ⟨none_laid, -, -⟩ := good.unstarted started
      simp [stateAt, current, started, none_laid, spanAt]
    | true =>
      cases paused : t.paused with
      | true =>
        rw [resume_of_paused paused]
        exact good.spanAt_paused started paused (forward started) before
      | false =>
        exact good.spanAt_advance started paused (forward started) before
  | pause =>
    simp only [HbTimeline.apply, HbTimeline.pause]
    split
    · rfl
    next open_ =>
      obtain ⟨started, running⟩ : t.started ∧ t.paused = false := by simpa using open_
      rw [← good.spanAt_advance started running (forward started) before]
      exact if_pos before

end

/-- Events in order, none in the past of the timeline. -/
structure InOrder (t : HbTimeline) (events : List HbEvent) : Prop where
  sorted : events.Pairwise fun left right => left.ts ≤ right.ts
  reaches : ∀ event ∈ events, t.Reaches event.ts

theorem InOrder.tail (order : t.InOrder (event :: events)) (good : t.WellFormed) :
    (t.apply event).InOrder events where
  sorted := (pairwise_cons.mp order.sorted).2
  reaches := by
    intro later mem
    have forward := order.reaches event (mem_cons_self ..)
    exact good.reaches_apply forward ((pairwise_cons.mp order.sorted).1 later mem)

theorem InOrder.append {front back : List HbEvent} (order : t.InOrder (front ++ back))
    (good : t.WellFormed) : (t.replay front).WellFormed ∧ (t.replay front).InOrder back := by
  induction front generalizing t with
  | nil => exact ⟨good, order⟩
  | cons event front ih =>
    have forward := order.reaches event (mem_cons_self ..)
    exact ih (order.tail good) (good.apply forward)

section

variable (good : t.WellFormed)
include good

theorem WellFormed.replay (order : t.InOrder events) : (t.replay events).WellFormed := by
  rw [← append_nil events] at order
  exact (order.append good).1

theorem WellFormed.reaches_replay (order : t.InOrder events)
    (past : ∀ event ∈ events, event.ts ≤ later) (forward : t.Reaches later) :
    (t.replay events).Reaches later := by
  have longer : t.InOrder (events ++ [.pause later]) := by
    refine ⟨pairwise_snoc.mpr ⟨order.sorted, past⟩, ?_⟩
    intro event mem
    rcases mem_snoc.mp mem with old | rfl
    · exact order.reaches event old
    · exact forward
  exact (longer.append good).2.reaches _ mem_cons_self

theorem WellFormed.stateAt_replay (order : t.InOrder events)
    (later : ∀ event ∈ events, second < event.ts) :
    (t.replay events).stateAt second = t.stateAt second := by
  induction events generalizing t with
  | nil => rfl
  | cons event events ih =>
    obtain ⟨first, others⟩ := forall_mem_cons.mp later
    have forward := order.reaches event (mem_cons_self ..)
    rw [← good.stateAt_apply forward first]
    exact ih (good.apply forward) (order.tail good) others

theorem WellFormed.spanAt_close (started : t.started)
    (before : second < end_) : spanAt (t.close end_).spans second = t.stateAt second := by
  rw [close]
  split
  · rw [stateAt, if_pos (by omega)]
  have forward : t.cursor ≤ end_ := by omega
  cases paused : t.paused with
  | true => exact good.spanAt_paused started paused forward before
  | false => exact good.spanAt_advance started paused forward before

theorem WellFormed.stateAt_unstarted (unstarted : t.started = false) : t.stateAt second = none := by
  simp [stateAt, current, unstarted, (good.unstarted unstarted).1, spanAt]

theorem WellFormed.laid_close (started : t.started) :
    Laid (t.close end_).spans (max t.cursor end_) :=
  good.close_keeps Laid.extend good.laid started end_

end

end HbTimeline

end Maintenant.Uptime
