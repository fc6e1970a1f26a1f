import Maintenant.Heartbeats.Deadlines
import Maintenant.Heartbeats.Records
import Maintenant.Uptime.HeartbeatDays

/-!
# The replay and the monitor

The monitor knows the state of a heartbeat while it happens, the replay works it out later from the
pings and pauses that were recorded.  Every operation is an event of the replay, and the timeline
that has replayed the events so far goes along with the row.  They differ in what they make of the
second of a deadline, which is down in the replay and still up for the monitor, and of the time
before the first ping, which the replay does not observe.
-/

namespace Maintenant.Heartbeats

open Agent (unix nanosPerSecond unix_seconds)

/-- The operation is a ping, a pause or a resume of this second. -/
def Op.during (second : Int) : Op → Bool
  | .ping _ _ _ now | .startPing _ now | .exitCodePing _ _ _ _ now | .pause _ now
  | .resume _ now => unix now = second
  | _ => false

/-- The operations of the seconds after `start`, a deadline pass at the beginning of each. -/
def everySecond (start : Int) : List (List Op) → List Op
  | [] => []
  | ops :: seconds =>
    .deadlinePass ((start + 1) * nanosPerSecond) :: ops ++ everySecond (start + 1) seconds

/-- The operations are pings, pauses and resumes of their seconds. -/
def Timely (start : Int) : List (List Op) → Prop
  | [] => True
  | ops :: seconds => (∀ op ∈ ops, op.during (start + 1)) ∧ Timely (start + 1) seconds

instance decidableTimely : ∀ start seconds, Decidable (Timely start seconds)
  | _, [] => .isTrue trivial
  | start, ops :: seconds =>
    have := decidableTimely (start + 1) seconds
    inferInstanceAs (Decidable ((∀ op ∈ ops, op.during (start + 1)) ∧
      Timely (start + 1) seconds))

/-- The tables after operations one after the other. -/
def HeartbeatStore.after (ops : List Op) (store : HeartbeatStore) : HeartbeatStore :=
  ops.foldl (fun store op => op.perform store) store

/-- No pause that is still open began in this second. -/
def HeartbeatRecord.PausedBefore (record : HeartbeatRecord) (second : Int) : Prop :=
  ∀ pause ∈ record.pauses, pause.resumedAt = none → pause.pausedAt < second

instance (record : HeartbeatRecord) (second : Int) : Decidable (record.PausedBefore second) :=
  inferInstanceAs (Decidable (∀ pause ∈ record.pauses, _))

/-- The operation ends no pause within the second it began, and the first ping is not a start ping
that leaves an alert open. -/
def Op.Legible (record : HeartbeatRecord) : Op → Prop
  | .ping _ _ _ now | .resume _ now => record.PausedBefore (unix now)
  | .exitCodePing _ _ exitCode _ now =>
    validExitCode exitCode → record.PausedBefore (unix now)
  | .startPing _ now =>
    record.PausedBefore (unix now) ∧ (record.pings = [] → record.row.alertState = .normal)
  | _ => True

instance (record : HeartbeatRecord) : DecidablePred (Op.Legible record)
  | .ping .. | .resume .. => inferInstanceAs (Decidable (record.PausedBefore _))
  | .exitCodePing .. => inferInstanceAs (Decidable (_ → _))
  | .startPing .. => inferInstanceAs (Decidable (_ ∧ _))
  | .deadlinePass _ | .pause .. | .edit .. | .create .. | .delete _ => .isTrue trivial

/-- The replay can tell what the operation did to a heartbeat. -/
def Op.LegibleFor (id : HeartbeatId) (store : HeartbeatStore) (op : Op) : Prop :=
  op.addresses store id → ∀ record ∈ store.record id, op.Legible record

instance (id : HeartbeatId) (store : HeartbeatStore) (op : Op) :
    Decidable (op.LegibleFor id store) := by
  unfold Op.LegibleFor
  infer_instance

theorem monitors_of_during {op : Op} {second : Int} (during : op.during second) : op.monitors := by
  cases op with
  | edit | create | delete => cases during
  | _ => rfl

theorem everySecond_append (start : Int) (past later : List (List Op)) :
    everySecond start (past ++ later) =
      everySecond start past ++ everySecond (start + past.length) later := by
  induction past generalizing start with
  | nil => simp [everySecond]
  | cons ops past ih =>
    simp only [List.cons_append, everySecond, ih, List.append_assoc, List.length_cons,
      Nat.cast_add, Nat.cast_one]
    rw [Int.add_assoc, Int.add_comm 1]

theorem timely_append {start : Int} {past later : List (List Op)} :
    Timely start (past ++ later) ↔ Timely start past ∧ Timely (start + past.length) later := by
  induction past generalizing start with
  | nil => simp [Timely]
  | cons ops past ih =>
    simp only [List.cons_append, Timely, ih, and_assoc, List.length_cons, Nat.cast_add,
      Nat.cast_one]
    rw [Int.add_assoc, Int.add_comm 1]

theorem run_sequential {ops : List Op} (store : HeartbeatStore) :
    Execution.run sequential store ops = some (store.after ops) := by
  induction ops generalizing store with
  | nil => rfl
  | cons op ops ih => exact ih (op.perform store)

end Maintenant.Heartbeats

namespace Maintenant.Uptime

open Agent (unix nanosPerSecond unix_seconds)
open Heartbeats List Execution HbTimeline
open StableSort

/-! ### What the monitor knows -/

/-- What the status and the alert state of a heartbeat say it is. -/
def liveState (row : Heartbeat) : Option HbState :=
  match row.status with
  | .new => none
  | .paused => some .paused
  | .down => some .down
  | .up | .started => if row.alertState = .alerting then some .down else some .up

/-- What the monitor says a second was: nothing before the first ping, and down from the second of
the deadline on. -/
def monitored (record : HeartbeatRecord) (second : Int) : Option HbState :=
  if record.pings = [] then none
  else if (record.row.status = .up ∨ record.row.status = .started) ∧
      ∃ deadline ∈ record.row.nextDeadlineAt, deadline ≤ second then some .down
  else liveState record.row

/-- The state of the span that the replay of a window assigns to a second. -/
def replayed (record : HeartbeatRecord) (from_ to_ second : Int) : Option HbState :=
  let t := heartbeatTimeline record.row.window record.pings record.pauses from_ to_
  if t.started then spanAt (t.close to_).spans second else none

/-! ### The log of a heartbeat -/

def recordEvents (record : HeartbeatRecord) : List HbEvent :=
  record.pings.map pingEvent ++ record.pauses.flatMap pauseEvents

/-- A row and the timeline of its events agree. -/
structure Tracks (second : Int) (row : Heartbeat) (t : HbTimeline) : Prop where
  quiet : row.status = .paused → row.alertState = .normal
  alarmed : row.status = .down → row.alertState = .alerting
  /-- A heartbeat that is watched is not past its deadline, which the timeline knows too. -/
  due : row.status = .up ∨ row.status = .started →
    ∃ deadline, row.nextDeadlineAt = some deadline ∧ second ≤ deadline ∧
      (t.started → deadline = t.deadline ∧ (t.up ↔ row.alertState = .normal))
  /-- A heartbeat that is down failed or missed its deadline. -/
  late : row.status = .down → t.started → t.up → t.deadline < second
  paused : t.started → (t.paused ↔ row.status = .paused)
  pinged : t.started → row.status ≠ .new

/-- The log has the events of the record in the order of the replay, up to this second, and the
timeline that replayed them agrees with the row. -/
structure Mirrors (second : Int) (record : HeartbeatRecord) (log : List HbEvent) : Prop where
  sorted : SortedOn HbEvent.key log
  same : ∀ key, ofKey HbEvent.key key log = ofKey HbEvent.key key (recordEvents record)
  times : ∀ event ∈ log, 0 ≤ event.ts ∧ event.ts ≤ second
  lengths : ∀ pause ∈ record.pauses, ∀ resumed ∈ pause.resumedAt, pause.pausedAt < resumed
  /-- The last pause is open while the heartbeat is paused, and nothing came after it. -/
  open_ : record.row.status = .paused → ∃ front since,
    record.pauses = front ++ [⟨record.row.id, since, none⟩] ∧
      (∀ pause ∈ front, pause.resumedAt ≠ none) ∧ ∀ event ∈ log, event.key ≤ toLex (since, 2)
  closed : record.row.status ≠ .paused → ∀ pause ∈ record.pauses, pause.resumedAt ≠ none
  started : ((HbTimeline.new record.row.window).replay log).started ↔ record.pings ≠ []
  window : 0 ≤ record.row.window
  tracks : Tracks second record.row ((HbTimeline.new record.row.window).replay log)

/-- What the replay of a log makes of the record. -/
abbrev timelineOf (record : HeartbeatRecord) (log : List HbEvent) : HbTimeline :=
  (HbTimeline.new record.row.window).replay log

variable {state : HeartbeatState} {now second : Int} {id : HeartbeatId} {record : HeartbeatRecord}
  {log : List HbEvent}

namespace Mirrors

variable {event : HbEvent}

section

variable (mirrors : Mirrors second record log)
include mirrors

theorem inOrder : (HbTimeline.new record.row.window).InOrder log := by
  refine ⟨mirrors.sorted.imp ?_, fun _ _ started => absurd started Bool.false_ne_true⟩
  intro left right ordered
  rcases HbEvent.key_le.mp ordered with less | ⟨same, -⟩
  · exact less.le
  · exact same.le

theorem good : (timelineOf record log).WellFormed :=
  (HbTimeline.WellFormed.new mirrors.window).replay mirrors.inOrder

theorem reaches : (timelineOf record log).Reaches second :=
  (HbTimeline.WellFormed.new mirrors.window).reaches_replay mirrors.inOrder
    (fun event mem => (mirrors.times event mem).2)
    fun started => absurd started Bool.false_ne_true

theorem mem_iff : event ∈ log ↔ event ∈ recordEvents record := by
  have found : event ∈ ofKey HbEvent.key event.key log ↔
      event ∈ ofKey HbEvent.key event.key (recordEvents record) := by
    rw [mirrors.same]
  simpa [mem_ofKey] using found

theorem key_le_of_running (running : record.row.status ≠ .paused) (mem : event ∈ log) :
    event.key ≤ toLex (second, 1) := by
  obtain ⟨-, past⟩ := mirrors.times event mem
  refine Prod.Lex.toLex_le_toLex.mpr ?_
  rcases past.lt_or_eq with before | here
  · exact .inl before
  refine .inr ⟨here, ?_⟩
  rcases mem_append.mp (mirrors.mem_iff.mp mem) with ping | paused
  · obtain ⟨ping, -, rfl⟩ := mem_map.mp ping
    exact le_refl 1
  obtain ⟨pause, pause_mem, event_mem⟩ := mem_flatMap.mp paused
  obtain ⟨resumed, ended⟩ := Option.ne_none_iff_exists'.mp (mirrors.closed running pause pause_mem)
  have length := mirrors.lengths pause pause_mem resumed ended
  have resume_mem : HbEvent.resume resumed ∈ log := by
    refine mirrors.mem_iff.mpr (mem_append_right _ (mem_flatMap.mpr ⟨pause, pause_mem, ?_⟩))
    simp [pauseEvents, ended]
  have known : resumed ≤ second := (mirrors.times _ resume_mem).2
  simp only [pauseEvents, ended, mem_cons, not_mem_nil, or_false] at event_mem
  rcases event_mem with rfl | rfl
  · have here : pause.pausedAt = second := here
    omega
  · exact Nat.zero_le 1

end

/-! ### One operation -/

theorem kind_pauseEvents {pause : HeartbeatPause} (mem : event ∈ pauseEvents pause) :
    event.kind ≠ 1 := by
  rw [pauseEvents] at mem
  split at mem
  · obtain rfl := mem_singleton.mp mem
    exact Nat.succ_ne_self 1
  simp only [mem_cons, not_mem_nil, or_false] at mem
  rcases mem with rfl | rfl
  · exact Nat.succ_ne_self 1
  · exact Nat.zero_ne_one

theorem timelineOf_concat :
    timelineOf record (log ++ [event]) = (timelineOf record log).apply event :=
  replay_append

section

variable (mirrors : Mirrors second record log)
include mirrors

theorem sorted_concat
    (last : ∀ earlier ∈ log, earlier.key ≤ event.key) : SortedOn HbEvent.key (log ++ [event]) := by
  exact pairwise_snoc.mpr ⟨mirrors.sorted, last⟩

theorem times_concat (here : event.ts = second)
    (epoch : 0 ≤ second) : ∀ known ∈ log ++ [event], 0 ≤ known.ts ∧ known.ts ≤ second := by
  intro known mem
  rcases mem_snoc.mp mem with old | rfl
  · exact mirrors.times known old
  · exact ⟨here ▸ epoch, here.le⟩

theorem pass :
    Mirrors (second + 1) ((Op.deadlinePass ((second + 1) * nanosPerSecond)).amend record) log := by
  have times : ∀ event ∈ log, 0 ≤ event.ts ∧ event.ts ≤ second + 1 := by
    intro event mem
    have := mirrors.times event mem
    omega
  have tracks := mirrors.tracks
  simp only [Op.amend, Op.effect, Op.recorded, append_nil]
  split
  · rename_i overdue
    obtain ⟨watched, deadline, deadline_eq, passed⟩ :
        (record.row.status = .up ∨ record.row.status = .started) ∧
          ∃ deadline, record.row.nextDeadlineAt = some deadline ∧ deadline < second + 1 := by
      simpa [Heartbeat.overdue, unix_seconds] using overdue
    have running : record.row.status ≠ .paused := by
      rcases watched with up | started
      · simp [up]
      · simp [started]
    refine ⟨mirrors.sorted, mirrors.same, times, mirrors.lengths, by rintro ⟨⟩,
      fun _ => mirrors.closed running, mirrors.started, mirrors.window, ?_⟩
    refine ⟨by rintro ⟨⟩, fun _ => rfl, ?_, fun _ started up => ?_, fun started => ?_,
      by rintro _ ⟨⟩⟩
    · rintro (up | started)
      · cases up
      · cases started
    · obtain ⟨known, known_eq, -, agrees⟩ := tracks.due watched
      obtain rfl : deadline = known := Option.some.inj (deadline_eq.symm.trans known_eq)
      exact (agrees started).1 ▸ passed
    · refine ⟨fun paused => absurd ((tracks.paused started).mp paused) running, by rintro ⟨⟩⟩
  · rename_i intime
    refine ⟨mirrors.sorted, mirrors.same, times, mirrors.lengths, mirrors.open_, mirrors.closed,
      mirrors.started, mirrors.window, ?_⟩
    refine ⟨tracks.quiet, tracks.alarmed, fun watched => ?_, fun down started up => ?_,
      tracks.paused, tracks.pinged⟩
    · obtain ⟨deadline, deadline_eq, -, agrees⟩ := tracks.due watched
      refine ⟨deadline, deadline_eq, ?_, agrees⟩
      have not_passed : ¬deadline < second + 1 := by
        intro passed
        refine intime (decide_eq_true ⟨watched, deadline, deadline_eq, ?_⟩)
        rwa [unix_seconds]
      omega
    · exact (tracks.late down started up).trans (Int.lt_succ second)

theorem resume (paused : record.row.status = .paused)
    (here : unix now = second) (before : record.PausedBefore second) :
    Mirrors second ((Op.resume id now).amend record) (log ++ [.resume second]) := by
  obtain ⟨front, since, pauses, ended, last⟩ := mirrors.open_ paused
  have open_mem : ⟨record.row.id, since, none⟩ ∈ record.pauses := by simp [pauses]
  have earlier : since < second := before _ open_mem rfl
  have epoch : 0 ≤ second := by
    have pause_mem : HbEvent.pause since ∈ log := by
      refine mirrors.mem_iff.mpr (mem_append_right _ (mem_flatMap.mpr ⟨_, open_mem, ?_⟩))
      simp [pauseEvents]
    have : 0 ≤ since := (mirrors.times _ pause_mem).1
    omega
  have front_same : front.map (ending record.row.id now) = front := by
    rw [map_congr_left (g := fun pause => pause), map_id']
    intro pause mem
    rw [ending, if_neg]
    exact fun open_ => ended pause mem open_.2
  have closing : record.pauses.map (ending record.row.id now) =
      front ++ [⟨record.row.id, since, some second⟩] := by
    rw [pauses, map_append, front_same]
    simp [ending, here]
  have row : (record.row.set ((Op.resume id now).effect record.row)) =
      record.row.set { record.row.toHeartbeatState with
        status := .up, nextDeadlineAt := some (second + record.row.window) } := by
    simp only [Op.effect, paused, if_true, unix_deadline, here]
  simp only [Op.amend, Op.recorded, Op.pausing, Heartbeat.unpause, paused, if_true,
    append_nil, closing, row]
  have tracks := mirrors.tracks
  refine ⟨mirrors.sorted_concat ?_, ?_, mirrors.times_concat rfl epoch, ?_, by rintro ⟨⟩,
    fun _ => ?_, ?_, mirrors.window, ?_⟩
  · intro event mem
    refine (last event mem).trans (Prod.Lex.toLex_le_toLex.mpr (Or.inl earlier))
  · intro key
    rw [ofKey_append, mirrors.same, ← ofKey_append]
    simp [recordEvents, pauses, pauseEvents]
  · intro pause mem resumed resumed_eq
    rcases mem_snoc.mp mem with old | rfl
    · exact mirrors.lengths pause (by simp [pauses, old]) resumed resumed_eq
    · obtain rfl := Option.some.inj resumed_eq
      exact earlier
  · intro pause mem
    rcases mem_snoc.mp mem with old | rfl
    · exact ended pause old
    · simp
  · change (timelineOf record (log ++ [.resume second])).started ↔ _
    rw [timelineOf_concat, apply, started_resume]
    exact mirrors.started
  · change Tracks second _ (timelineOf record (log ++ [.resume second]))
    rw [timelineOf_concat, apply]
    have quiet := tracks.quiet paused
    refine ⟨by rintro ⟨⟩, by rintro ⟨⟩, fun _ => ⟨_, rfl, ?_, fun started => ?_⟩, by rintro ⟨⟩,
      fun started => ?_, by rintro _ ⟨⟩⟩
    · have := mirrors.window
      omega
    · rw [started_resume] at started
      rw [resume_of_paused ((tracks.paused started).mpr paused), period_replay]
      exact ⟨rfl, by simpa [Heartbeat.set] using quiet⟩
    · rw [started_resume] at started
      rw [resume_of_paused ((tracks.paused started).mpr paused)]
      simp [Heartbeat.set]

variable (running : record.row.status ≠ .paused)
include running

theorem pause (here : unix now = second) (epoch : 0 ≤ second) :
    Mirrors second ((Op.pause id now).amend record) (log ++ [.pause second]) := by
  have row : (record.row.set ((Op.pause id now).effect record.row)) =
      record.row.set { record.row.toHeartbeatState with
        status := .paused, alertState := .normal, nextDeadlineAt := none } := by
    simp only [Op.effect, running, if_false]
  simp only [Op.amend, Op.recorded, Op.pausing, running, if_false, append_nil, row, here]
  have last : ∀ event ∈ log, event.key ≤ toLex (second, 2) := by
    intro event mem
    refine (mirrors.key_le_of_running running mem).trans (Prod.Lex.toLex_le_toLex.mpr ?_)
    exact Or.inr ⟨rfl, Nat.le_succ 1⟩
  have tracks := mirrors.tracks
  refine ⟨mirrors.sorted_concat last, ?_, mirrors.times_concat rfl epoch, ?_,
    fun _ => ⟨record.pauses, second, rfl, mirrors.closed running, ?_⟩,
    fun moved => absurd rfl moved, ?_, mirrors.window, ?_⟩
  · intro key
    rw [ofKey_append, mirrors.same, ← ofKey_append]
    simp [recordEvents, pauseEvents]
  · intro pause mem resumed resumed_eq
    rcases mem_snoc.mp mem with old | rfl
    · exact mirrors.lengths pause old resumed resumed_eq
    · cases resumed_eq
  · intro event mem
    rcases mem_snoc.mp mem with old | rfl
    · exact last event old
    · exact le_refl _
  · change (timelineOf record (log ++ [.pause second])).started ↔ _
    rw [timelineOf_concat, apply, started_pause]
    exact mirrors.started
  · change Tracks second _ (timelineOf record (log ++ [.pause second]))
    rw [timelineOf_concat, apply]
    refine ⟨fun _ => rfl, by rintro ⟨⟩, ?_, by rintro ⟨⟩,
      fun started => ⟨fun _ => rfl, fun _ => ?_⟩, by rintro _ ⟨⟩⟩
    · rintro (up | started)
      · cases up
      · cases started
    rw [started_pause] at started
    have unpaused : (timelineOf record log).paused = false :=
      Bool.eq_false_iff.mpr fun paused => running ((tracks.paused started).mp paused)
    simp [HbTimeline.pause, started, unpaused]

theorem ping (epoch : 0 ≤ second) {ping : HeartbeatPing} (here : ping.timestamp = second)
    (watched : state.status = .up ∨ state.status = .started)
    (deadline : state.nextDeadlineAt = some (second + record.row.window))
    (alert : ((timelineOf record log).ping second ping.pingType
      ping.exitCode).up ↔ state.alertState = .normal) :
    Mirrors second ⟨record.row.set state, record.pings ++ [ping], record.pauses⟩
      (log ++ [pingEvent ping]) := by
  have moved : state.status ≠ .paused ∧ state.status ≠ .down ∧ state.status ≠ .new := by
    rcases watched with up | started
    · simp [up]
    · simp [started]
  have applied : timelineOf record (log ++ [pingEvent ping]) =
      (timelineOf record log).ping second ping.pingType ping.exitCode := by
    rw [timelineOf_concat, pingEvent, apply, here]
  obtain ⟨-, -, started, -, unpaused, -, due⟩ :=
    mirrors.good.ping_static mirrors.reaches ping.pingType ping.exitCode
  rw [period_replay] at due
  refine ⟨mirrors.sorted_concat ?_, ?_, mirrors.times_concat here epoch, mirrors.lengths,
    fun paused => absurd paused moved.1, fun _ => mirrors.closed running, ?_, mirrors.window, ?_⟩
  · intro event mem
    rw [key_pingEvent, here]
    exact mirrors.key_le_of_running running mem
  · intro key
    -- pauses begin and end under other keys than pings
    have apart : ofKey HbEvent.key key [pingEvent ping] ++
          ofKey HbEvent.key key (record.pauses.flatMap pauseEvents) =
        ofKey HbEvent.key key (record.pauses.flatMap pauseEvents) ++
          ofKey HbEvent.key key [pingEvent ping] := by
      by_cases this : (pingEvent ping).key = key
      · have none_there : ofKey HbEvent.key key (record.pauses.flatMap pauseEvents) = [] := by
          rw [ofKey, filter_eq_nil_iff]
          intro event mem
          obtain ⟨pause, -, event_mem⟩ := mem_flatMap.mp mem
          simp only [decide_eq_true_eq, ← this]
          intro same
          have kind : event.kind = 1 := congrArg (fun key => (ofLex key).2) same
          exact kind_pauseEvents event_mem kind
        rw [none_there, append_nil, nil_append]
      · have none_here : ofKey HbEvent.key key [pingEvent ping] = [] := by
          simp [ofKey, this]
        rw [none_here, append_nil, nil_append]
    rw [ofKey_append, mirrors.same, recordEvents, recordEvents, map_append, ofKey_append,
      ofKey_append, ofKey_append, append_assoc, append_assoc]
    exact congrArg _ apart.symm
  · change (timelineOf record (log ++ [pingEvent ping])).started ↔ _
    rw [applied]
    simp [started]
  · change Tracks second _ (timelineOf record (log ++ [pingEvent ping]))
    rw [applied]
    refine ⟨fun paused => absurd paused moved.1, fun down => absurd down moved.2.1,
      fun _ => ⟨_, deadline, ?_, fun _ => ⟨due.symm, alert⟩⟩, fun down => absurd down moved.2.1,
      fun _ => ?_, fun _ => moved.2.2⟩
    · have := mirrors.window
      omega
    · rw [unpaused]
      exact ⟨by simp, fun paused => absurd paused moved.1⟩

theorem up_reach_iff (first : record.pings = [] → record.row.alertState = .normal) :
    ((timelineOf record log).reach second).up ↔ record.row.alertState = .normal := by
  have tracks := mirrors.tracks
  rw [up_reach]
  by_cases started : (timelineOf record log).started
  · have unpaused : (timelineOf record log).paused = false :=
      Bool.eq_false_iff.mpr fun paused => running ((tracks.paused started).mp paused)
    simp only [started, unpaused, Bool.true_eq_false, Bool.false_eq_true, false_or]
    cases status : record.row.status with
    | new => exact absurd status (tracks.pinged started)
    | paused => exact absurd status running
    | down =>
      rw [tracks.alarmed status]
      constructor
      · rintro ⟨up, intime⟩
        exact absurd intime (not_le.mpr (tracks.late status started up))
      · nofun
    | up | started =>
      obtain ⟨deadline, -, intime, agrees⟩ := tracks.due (by simp [status])
      obtain ⟨rfl, alert⟩ := agrees started
      rw [← alert]
      exact and_iff_left intime
  · have none_yet : record.pings = [] := not_not.mp fun pinged =>
      started (mirrors.started.mpr pinged)
    simp [started, first none_yet]

end

/-- What the state columns say after a ping is what the ping reports. -/
structure Answers (second : Int) (row : Heartbeat) (ping : HeartbeatPing) (state : HeartbeatState) :
    Prop where
  here : ping.timestamp = second
  watched : state.status = .up ∨ state.status = .started
  deadline : state.nextDeadlineAt = some (second + row.window)
  success : HbTimeline.succeeds ping.pingType ping.exitCode → state.alertState = .normal
  failure : ping.pingType ≠ .start → ¬HbTimeline.succeeds ping.pingType ping.exitCode →
    state.alertState = .alerting
  start : ping.pingType = .start → state.alertState = row.alertState

variable (mirrors : Mirrors second record log)
include mirrors

theorem answer (running : record.row.status ≠ .paused) (epoch : 0 ≤ second) {ping : HeartbeatPing}
    (answers : Answers second record.row ping state)
    (first : ping.pingType = .start → record.pings = [] → record.row.alertState = .normal) :
    Mirrors second ⟨record.row.set state, record.pings ++ [ping], record.pauses⟩
      (log ++ [pingEvent ping]) := by
  refine mirrors.ping running epoch answers.here answers.watched answers.deadline ?_
  rw [up_ping]
  by_cases ok : succeeds ping.pingType ping.exitCode
  · simp [ok, answers.success ok]
  by_cases start : ping.pingType = .start
  · rw [answers.start start, ← mirrors.up_reach_iff running (first start)]
    exact ⟨fun either => (either.resolve_left ok).2, fun up => .inr ⟨start, up⟩⟩
  · simp [ok, start, answers.failure start ok]

theorem pinged (epoch : 0 ≤ second)
    (here : unix now = second) (before : record.PausedBefore second) {ping : HeartbeatPing}
    (answers : Answers second record.row ping state)
    (first : ping.pingType = .start → record.pings = [] → record.row.alertState = .normal) :
    ∃ new, (∀ event ∈ new, event.ts = second) ∧
      Mirrors second ⟨record.row.set state, record.pings ++ [ping],
        record.row.unpause now record.pauses⟩ (log ++ new) := by
  by_cases paused : record.row.status = .paused
  · have resumed : Mirrors second ((Op.resume record.row.id now).amend record)
        (log ++ [.resume second]) := mirrors.resume paused here before
    refine ⟨[.resume second, pingEvent ping], ?_, ?_⟩
    · exact forall_mem_cons.mpr ⟨rfl, forall_mem_singleton.mpr answers.here⟩
    have row : ((Op.resume record.row.id now).amend record).row =
        record.row.set { record.row.toHeartbeatState with
          status := .up, nextDeadlineAt := some (unix (record.row.deadline now)) } := by
      simp only [Op.amend, Op.effect, paused, if_true]
    have running : ((Op.resume record.row.id now).amend record).row.status ≠ .paused := by
      rw [row]
      rintro ⟨⟩
    have after : Answers second ((Op.resume record.row.id now).amend record).row ping state := by
      rw [row]
      exact ⟨answers.here, answers.watched, answers.deadline, answers.success, answers.failure,
        answers.start⟩
    have done := resumed.answer running epoch after fun _ _ => by
      rw [row]
      exact mirrors.tracks.quiet paused
    rw [append_assoc] at done
    simp only [Op.amend, Op.recorded, append_nil] at done
    exact done
  · refine ⟨[pingEvent ping], forall_mem_singleton.mpr answers.here, ?_⟩
    rw [Heartbeat.unpause, if_neg paused]
    exact mirrors.answer paused epoch answers first

theorem amend (epoch : 0 ≤ second) {op : Op}
    (during : op.during second) (legible : op.Legible record) :
    ∃ new, (∀ event ∈ new, event.ts = second) ∧ Mirrors second (op.amend record) (log ++ new) := by
  have idle : record = op.amend record → ∃ new, (∀ event ∈ new, event.ts = second) ∧
      Mirrors second (op.amend record) (log ++ new) := by
    intro same
    refine ⟨[], by simp, ?_⟩
    rwa [append_nil, ← same]
  have due : ∀ now, unix now = second →
      some (unix (record.row.deadline now)) = some (second + record.row.window) := by
    rintro now rfl
    rw [unix_deadline]
  cases op with
  | ping _ _ _ now =>
    have here : unix now = second := of_decide_eq_true during
    have calms : (record.row.pinged now).alertState = .normal := by
      simp only [Heartbeat.pinged]
      split
      · rfl
      next calm =>
        exact AlertState.eq_normal fun alerting => calm (decide_eq_true (.inr alerting))
    exact mirrors.pinged epoch here (here ▸ legible)
      ⟨here, .inl rfl, due now here, fun _ => calms, fun _ failure => absurd rfl failure,
        by rintro ⟨⟩⟩ (by rintro ⟨⟩)
  | startPing _ now =>
    have here : unix now = second := of_decide_eq_true during
    exact mirrors.pinged epoch here (here ▸ legible.1)
      ⟨here, .inr rfl, due now here, by rintro ⟨⟩, fun failure => absurd rfl failure, fun _ => rfl⟩
      fun _ => legible.2
  | exitCodePing canStorePayload _ exitCode payload now =>
    have here : unix now = second := of_decide_eq_true during
    by_cases valid : validExitCode exitCode
    · have answers : Answers second record.row
          ⟨record.row.id, .exitCode, some exitCode, filterPayload canStorePayload payload, unix now⟩
          (record.row.exitPinged now exitCode) := by
        refine ⟨here, .inl rfl, due now here, fun success => ?_, fun _ failure => ?_, by simp⟩
        · have zero : exitCode = 0 := by simpa [HbTimeline.succeeds] using success
          simp only [Heartbeat.exitPinged, zero, if_true]
          split
          · rfl
          next calm => exact AlertState.eq_normal calm
        · have nonzero : exitCode ≠ 0 := by simpa [HbTimeline.succeeds] using failure
          simp only [Heartbeat.exitPinged, nonzero, if_false]
      simp only [Op.amend, Op.effect, Op.recorded, Op.pausing, valid]
      exact mirrors.pinged epoch here (here ▸ legible valid) answers (by simp)
    · refine idle ?_
      simp [Op.amend, Op.effect, Op.recorded, Op.pausing, valid, Heartbeat.set]
  | pause _ now =>
    have here : unix now = second := of_decide_eq_true during
    by_cases paused : record.row.status = .paused
    · refine idle ?_
      simp [Op.amend, Op.effect, Op.recorded, Op.pausing, paused, Heartbeat.set]
    · exact ⟨[.pause second], forall_mem_singleton.mpr rfl, mirrors.pause paused here epoch⟩
  | resume _ now =>
    have here : unix now = second := of_decide_eq_true during
    by_cases paused : record.row.status = .paused
    · exact ⟨[.resume second], forall_mem_singleton.mpr rfl,
        mirrors.resume paused here (here ▸ legible)⟩
    · refine idle ?_
      simp [Op.amend, Op.effect, Op.recorded, Op.pausing, Heartbeat.unpause, paused, Heartbeat.set]
  | deadlinePass | edit | create | delete => cases during

end Mirrors

/-! ### Whole histories -/

section Histories

variable {start : Int} {store : HeartbeatStore}

theorem Mirrors.second_run (mirrors : Mirrors second record log) (epoch : 0 ≤ second)
    {ops : List Op} (during : ∀ op ∈ ops, op.during second) (found : store.record id = some record)
    (legible : Guarded sequential (fun store op => op.LegibleFor id store) store ops) :
    ∃ after new, (store.after ops).record id = some after ∧ after.row.window = record.row.window ∧
      (∀ event ∈ new, event.ts = second) ∧ Mirrors second after (log ++ new) := by
  induction ops generalizing store record log with
  | nil => exact ⟨record, [], found, rfl, nofun, by rwa [append_nil]⟩
  | cons op ops ih =>
    obtain ⟨here, rest⟩ := forall_mem_cons.mp during
    obtain ⟨readable, legible⟩ := legible
    have next := record_perform (monitors_of_during here) found
    by_cases addressed : op.addresses store id
    · rw [if_pos addressed] at next
      obtain ⟨new, new_ts, amended⟩ := mirrors.amend epoch here (readable addressed record found)
      obtain ⟨after, later, final, window, later_ts, done⟩ := ih amended rest next legible
      refine ⟨after, new ++ later, final, window, ?_, by rwa [← append_assoc]⟩
      intro event mem
      exact (mem_append.mp mem).elim (new_ts event) (later_ts event)
    · rw [if_neg addressed] at next
      exact ih mirrors rest next legible

theorem Mirrors.run (mirrors : Mirrors start record log) (epoch : 0 ≤ start)
    {seconds : List (List Op)} (timely : Timely start seconds)
    (found : store.record id = some record)
    (legible : Guarded sequential (fun store op => op.LegibleFor id store) store
      (everySecond start seconds)) :
    ∃ after new, (store.after (everySecond start seconds)).record id = some after ∧
      after.row.window = record.row.window ∧ (∀ event ∈ new, start < event.ts) ∧
      Mirrors (start + seconds.length) after (log ++ new) := by
  induction seconds generalizing store record log start with
  | nil => exact ⟨record, [], found, rfl, nofun, by simpa using mirrors⟩
  | cons ops seconds ih =>
    obtain ⟨during, timely⟩ := timely
    obtain ⟨-, legible⟩ := legible
    obtain ⟨in_second, legible⟩ := guarded_append.mp legible
    have passed : ((Op.deadlinePass ((start + 1) * nanosPerSecond)).perform store).record id =
        some ((Op.deadlinePass ((start + 1) * nanosPerSecond)).amend record) :=
      record_perform rfl found
    have next_epoch : 0 ≤ start + 1 := by omega
    obtain ⟨middle, front, middle_found, middle_window, front_ts, reached⟩ :=
      mirrors.pass.second_run next_epoch during passed in_second
    obtain ⟨after, back, final, window, back_ts, done⟩ := ih reached next_epoch timely middle_found
      (legible _ (run_sequential _))
    have ran : (store.after (everySecond start (ops :: seconds))) =
        (((Op.deadlinePass ((start + 1) * nanosPerSecond)).perform store).after ops).after
          (everySecond (start + 1) seconds) := foldl_append
    refine ⟨after, front ++ back, ran ▸ final, window.trans middle_window, ?_, ?_⟩
    · intro event mem
      rcases mem_append.mp mem with in_front | in_back
      · have := front_ts event in_front
        omega
      · have := back_ts event in_back
        omega
    · rw [← append_assoc, length_cons, Nat.cast_add, Int.add_comm (seconds.length : Int),
        ← Int.add_assoc]
      exact done

/-! ### Reading the record -/

theorem replayed_eq_stateAt {from_ to_ : Int} (nonneg : 0 ≤ record.row.window)
    (before : second < to_) : replayed record from_ to_ second =
      (heartbeatTimeline record.row.window record.pings record.pauses from_ to_).stateAt
        second := by
  have good :
      (heartbeatTimeline record.row.window record.pings record.pauses from_ to_).WellFormed :=
    (HbTimeline.WellFormed.new nonneg).replay (inOrder_new _ _)
  simp only [replayed]
  split
  · rename_i started
    exact good.spanAt_close started before
  · rename_i unstarted
    exact (good.stateAt_unstarted (by simpa using unstarted)).symm

theorem stateAt_seeded {pings : List HeartbeatPing} {pauses : List HeartbeatPause}
    {period from_ to_ : Int} (nonneg : 0 ≤ period) (epoch : ∀ ping ∈ pings, 0 ≤ ping.timestamp)
    (after : from_ ≤ second) (before : second < to_) :
    (heartbeatTimeline period pings pauses from_ to_).stateAt second =
      ((HbTimeline.new period).replay
        (sortOn HbEvent.key (heartbeatEvents pings pauses 0 to_))).stateAt second := by
  rw [heartbeatTimeline]
  by_cases none_before : ∀ ping ∈ pings, completes ping.pingType → from_ ≤ ping.timestamp
  · rw [seed_of_none none_before]
  push Not at none_before
  obtain ⟨ping, mem, completion, earlier⟩ := none_before
  obtain ⟨last, last_mem, last_completion, last_eq, last_before, -⟩ :=
    seed_of_completion mem completion earlier
  have agree : AgreeSince last.timestamp pings pings pauses pauses :=
    AgreeSince.refl last_mem last_completion
  have same := agree.sameSince last_eq.ge (epoch last last_mem)
    ((last_before.trans_le after).trans before)
  exact (same.replays nonneg).2 second (last_before.le.trans after)

section

variable (mirrors : Mirrors second record log)
include mirrors

theorem Mirrors.epoch_ping {ping : HeartbeatPing}
    (mem : ping ∈ record.pings) : 0 ≤ ping.timestamp := by
  have logged : pingEvent ping ∈ log :=
    mirrors.mem_iff.mpr (mem_append_left _ (mem_map_of_mem mem))
  exact (mirrors.times _ logged).1

theorem Mirrors.epoch_pause {pause : HeartbeatPause}
    (mem : pause ∈ record.pauses) : 0 ≤ pause.pausedAt := by
  have begins : HbEvent.pause pause.pausedAt ∈ pauseEvents pause := by
    rw [pauseEvents]
    split
    · exact mem_cons_self
    · exact mem_cons_self
  have logged : HbEvent.pause pause.pausedAt ∈ log :=
    mirrors.mem_iff.mpr (mem_append_right _ (mem_flatMap.mpr ⟨pause, mem, begins⟩))
  exact (mirrors.times _ logged).1

theorem Mirrors.ts_pauseEvents {pause : HeartbeatPause} {event : HbEvent}
    (mem : pause ∈ record.pauses)
    (event_mem : event ∈ pauseEvents pause) : pause.pausedAt ≤ event.ts := by
  cases ended : pause.resumedAt with
  | none =>
    simp only [pauseEvents, ended, mem_singleton] at event_mem
    rw [event_mem]
    exact le_refl _
  | some resumed =>
    simp only [pauseEvents, ended, mem_cons, not_mem_nil, or_false] at event_mem
    rcases event_mem with rfl | rfl
    · exact le_refl _
    · exact (mirrors.lengths pause mem resumed ended).le

theorem Mirrors.ofKey_events {to_ at_ : Int} {kind : Nat} (before : at_ < to_) :
    ofKey HbEvent.key (toLex (at_, kind)) (heartbeatEvents record.pings record.pauses 0 to_) =
      ofKey HbEvent.key (toLex (at_, kind)) (recordEvents record) := by
  rw [heartbeatEvents, recordEvents, ofKey_append, ofKey_append, ofKey_heartbeatPingEvents,
    ofKey_map_pingEvent, ofKey_heartbeatPauseEvents]
  congr 1
  · by_cases here : kind = 1
    · by_cases past : 0 ≤ at_
      · simp [past, before, ofKey]
      · -- there is no ping before the epoch
        have none_there : ofKey HeartbeatPing.timestamp at_ record.pings = [] := by
          rw [ofKey, filter_eq_nil_iff]
          intro ping mem
          have := mirrors.epoch_ping mem
          simp only [decide_eq_true_eq]
          omega
        simp [past, none_there]
    · simp [here]
  · rw [ofKey, filter_flatMap]
    refine flatMap_congr ?_
    intro pause mem
    rw [pauseShare]
    split
    · rfl
    next missed => -- the pause begins at the end of the window or later
      have began : to_ ≤ pause.pausedAt := by
        by_contra inside
        refine missed ?_
        rw [overlaps, decide_eq_true (not_le.mp inside), Bool.true_and]
        cases ended : pause.resumedAt with
        | none => rfl
        | some resumed =>
          have length := mirrors.lengths pause mem resumed ended
          have := mirrors.epoch_pause mem
          simp only [decide_eq_true_eq]
          omega
      symm
      rw [filter_eq_nil_iff]
      intro event event_mem
      simp only [decide_eq_true_eq]
      intro same
      have level : event.ts = at_ := congrArg (fun key => (ofLex key).1) same
      have := mirrors.ts_pauseEvents mem event_mem
      omega

theorem Mirrors.replayed_eq {later : HeartbeatRecord} {new : List HbEvent} {until_ from_ to_ : Int}
    (grown : Mirrors until_ later (log ++ new))
    (new_ts : ∀ event ∈ new, second < event.ts) (window : later.row.window = record.row.window)
    (after : from_ ≤ second) (before : second < to_) : replayed later from_ to_ second =
      (timelineOf record log).stateAt second := by
  rw [replayed_eq_stateAt grown.window before,
    stateAt_seeded grown.window (fun _ => grown.epoch_ping) after before, window]
  let events := heartbeatEvents later.pings later.pauses 0 to_
  have past : sortOn HbEvent.key (events.filter fun event => event.key < toLex (second + 1, 0)) =
      log := by
    refine sortOn_eq mirrors.sorted ?_
    rintro ⟨at_, kind⟩
    change ofKey HbEvent.key (toLex (at_, kind)) _ = ofKey HbEvent.key (toLex (at_, kind)) log
    have none_of : ∀ list : List HbEvent, (∀ event ∈ list, event.ts ≠ at_) →
        ofKey HbEvent.key (toLex (at_, kind)) list = [] := by
      intro list elsewhere
      rw [ofKey, filter_eq_nil_iff]
      intro event mem
      simp only [decide_eq_true_eq]
      intro same
      exact elsewhere event mem (congrArg (fun key => (ofLex key).1) same)
    have below : toLex (at_, kind) < toLex (second + 1, 0) ↔ at_ ≤ second := by
      rw [Prod.Lex.toLex_lt_toLex]
      simp
    rw [ofKey_filter (toLex (at_, kind)) fun key => key < toLex (second + 1, 0)]
    simp only [decide_eq_true_eq, below]
    split
    next reached =>
      rw [grown.ofKey_events (reached.trans_lt before), ← grown.same, ofKey_append,
        none_of new, append_nil]
      intro event mem
      exact (reached.trans_lt (new_ts event mem)).ne'
    next ahead =>
      refine (none_of log ?_).symm
      intro event mem same
      exact ahead (same ▸ (mirrors.times event mem).2)
  have order := inOrder_new record.row.window events
  rw [sortOn_split (toLex (second + 1, 0)), past] at order ⊢
  obtain ⟨good, rest⟩ := order.append (HbTimeline.WellFormed.new mirrors.window)
  rw [replay_append]
  refine good.stateAt_replay rest ?_
  intro event mem
  have late : toLex (second + 1, 0) ≤ event.key := by
    simpa using (mem_filter.mp (mem_sortOn.mp mem)).2
  rcases Prod.Lex.toLex_le_toLex.mp late with ahead | ⟨level, -⟩
  · exact (Int.lt_succ second).trans ahead
  · exact (Int.lt_succ second).trans_eq level

end

theorem Tracks.watched_eq {row : Heartbeat} {t : HbTimeline} (tracks : Tracks second row t)
    (started : t.started) (watched : row.status = .up ∨ row.status = .started) :
    (if t.up ∧ second < t.deadline then some HbState.up else some HbState.down) =
      if (row.status = .up ∨ row.status = .started) ∧
          ∃ deadline ∈ row.nextDeadlineAt, deadline ≤ second then some .down
      else liveState row := by
  obtain ⟨deadline, deadline_eq, -, agrees⟩ := tracks.due watched
  obtain ⟨rfl, alert⟩ := agrees started
  have live : liveState row = if row.alertState = .alerting then some .down else some .up := by
    rcases watched with up | started
    · simp only [liveState, up]
    · simp only [liveState, started]
  simp only [watched, true_and, deadline_eq, Option.mem_some_iff, exists_eq_left', live]
  by_cases lapsed : t.deadline ≤ second
  · rw [if_neg (fun intime => absurd intime.2 (not_lt.mpr lapsed)), if_pos lapsed]
  cases state : row.alertState with
  | normal => simp [alert.mpr state, not_le.mp lapsed]
  | alerting =>
    have down : ¬t.up := fun up => by simp [alert.mp up] at state
    simp [down]

theorem Mirrors.stateAt_eq (mirrors : Mirrors second record log) :
    (timelineOf record log).stateAt second = monitored record second := by
  have tracks := mirrors.tracks
  rw [monitored]
  by_cases started : (timelineOf record log).started
  swap
  · have none_yet : record.pings = [] := not_not.mp fun pinged =>
      started (mirrors.started.mpr pinged)
    rw [if_pos none_yet, mirrors.good.stateAt_unstarted (by simpa using started)]
  have reached := mirrors.reaches started
  rw [if_neg (mirrors.started.mp started), stateAt, if_neg (not_lt.mpr reached), current]
  simp only [started, Bool.not_true, Bool.false_eq_true, if_false, tracks.paused started]
  cases status : record.row.status with
  | new => exact absurd status (tracks.pinged started)
  | paused => simp [liveState, status]
  | down =>
    have late : ¬((timelineOf record log).up ∧ second < (timelineOf record log).deadline) :=
      fun h => absurd (tracks.late status started h.1) (not_lt.mpr h.2.le)
    simp [late, liveState, status]
  | up | started =>
    rw [if_neg (by simp)]
    simpa only [status] using tracks.watched_eq started (by simp [status])

end Histories

def created (id : HeartbeatId) (token name : String) (interval grace : Int) : HeartbeatRecord where
  row :=
    { status := .new
      alertState := .normal
      lastPingAt := none
      nextDeadlineAt := none
      currentRunStartedAt := none
      lastExitCode := none
      lastDurationMs := none
      consecutiveFailures := 0
      consecutiveSuccesses := 0
      id
      pingToken := token
      name
      intervalSeconds := interval
      graceSeconds := grace }
  pings := []
  pauses := []

theorem Mirrors.created (start : Int) (id : HeartbeatId) (token name : String)
    {interval grace : Int} (valid : validInterval interval && validGrace interval grace) :
    Mirrors start (created id token name interval grace) [] where
  sorted := List.Pairwise.nil
  same _ := rfl
  times := by simp
  lengths := by rintro _ ⟨⟩
  open_ := by rintro ⟨⟩
  closed _ := by rintro _ ⟨⟩
  started := by simp [Uptime.created, HbTimeline.replay, HbTimeline.new]
  window := by
    simp only [validGrace, Bool.and_eq_true, decide_eq_true_eq] at valid
    simp only [Heartbeat.window, Uptime.created]
    omega
  tracks := by
    refine ⟨by rintro ⟨⟩, by rintro ⟨⟩, ?_, by rintro ⟨⟩, by rintro ⟨⟩, by rintro ⟨⟩⟩
    rintro (up | started)
    · cases up
    · cases started

/-- With a deadline pass every second, in which no pause ends within the second it began and the
first ping is not a start ping that finds an alert open, the span that a later replay assigns to a
second is what the monitor knew at the end of it, but for the time before the first ping and for the
second of a deadline. -/
theorem replay_agrees_with_monitor (store : HeartbeatStore) (id : HeartbeatId) (token name : String)
    (interval grace : Int) (valid : validInterval interval && validGrace interval grace)
    (found : store.record id = some (created id token name interval grace))
    (start : Int) (epoch : 0 ≤ start) (past later : List (List Op))
    (timely : Timely start (past ++ later))
    (legible : Guarded sequential (fun store op => op.LegibleFor id store) store
      (everySecond start (past ++ later)))
    (from_ to_ : Int) (after : from_ ≤ start + past.length) (before : start + past.length < to_) :
    ∃ then_ now_, (store.after (everySecond start past)).record id = some then_ ∧
      (store.after (everySecond start (past ++ later))).record id = some now_ ∧
      replayed now_ from_ to_ (start + past.length) = monitored then_ (start + past.length) := by
  obtain ⟨past_timely, later_timely⟩ := timely_append.mp timely
  rw [everySecond_append] at legible
  obtain ⟨past_legible, later_legible⟩ := guarded_append.mp legible
  have initial := Mirrors.created start id token name valid
  obtain ⟨then_, log, then_found, -, -, reached⟩ :=
    initial.run epoch past_timely found past_legible
  have later_epoch : 0 ≤ start + past.length := by omega
  obtain ⟨now_, new, now_found, window, new_ts, grown⟩ :=
    reached.run later_epoch later_timely then_found (later_legible _ (run_sequential store))
  refine ⟨then_, now_, then_found, ?_, ?_⟩
  · rw [everySecond_append, HeartbeatStore.after, foldl_append]
    exact now_found
  · rw [reached.replayed_eq grown new_ts window after before, reached.stateAt_eq]

/-- A job that is started, fails, is paused for a while and succeeds again was down while it had
failed. -/
theorem replay_agrees_on_failure : let store := (Op.create "token" "backup" 60 0).perform .empty
    let past : List (List Op) := [[.startPing "token" 1000000000],
      [.exitCodePing false "token" 1 none 2500000000]]
    let later : List (List Op) := [[.pause 0 3000000000], [], [.ping false "token" none 5000000000]]
    ∃ then_ now_, (store.after (everySecond 0 past)).record 0 = some then_ ∧
      (store.after (everySecond 0 (past ++ later))).record 0 = some now_ ∧
      replayed now_ 0 6 2 = monitored then_ 2 ∧ replayed now_ 0 6 2 = some .down := by
  intro store past later
  obtain ⟨then_, now_, then_found, now_found, agree⟩ :=
    replay_agrees_with_monitor store 0 "token" "backup" 60 0 (by decide) (by rfl) 0 (by decide)
      past later (by decide) (by decide) 0 6 (by decide) (by decide)
  refine ⟨then_, now_, then_found, now_found, agree, ?_⟩
  have down : ∃ record ∈ (store.after (everySecond 0 (past ++ later))).record 0,
      replayed record 0 6 2 = some .down := by decide
  obtain ⟨record, record_found, down⟩ := down
  obtain rfl : record = now_ := Option.some.inj (record_found.symm.trans now_found)
  exact down

/-- In the second of the deadline the replay is down and the monitor up, and a pause before the
first ping is not observed. -/
theorem replay_differs_from_monitor : let store := (Op.create "token" "backup" 60 0).perform .empty
    (∃ record ∈ (store.after (everySecond 0
        ([.ping false "token" none 1000000000] :: replicate 60 []))).record 0,
      liveState record.row = some .up ∧ replayed record 0 86400 61 = some .down) ∧
    ∃ record ∈ (store.after (everySecond 0 [[.pause 0 1000000000]])).record 0,
      liveState record.row = some .paused ∧ replayed record 0 86400 1 = none := by
  decide +kernel

end Maintenant.Uptime
