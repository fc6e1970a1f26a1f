import Maintenant.Uptime.ContainerDays

/-!
# Retention of container transitions

A retention pass aggregates the completed days of every container and then purges transitions by
age, keeping the newest of each container.  That is the state the container is in, but not the state
a day that is still read from the transitions began in: once a newer transition is there, the one
before the day may go.  Passes change nothing that is served as long as the transition that a
container's last aggregated day begins with is not purged.
-/

namespace Maintenant.Uptime

open Agent (unix nanosPerSecond)
open Containers List Option Keyed Execution

/-- `defaultRetention`, of transitions. -/
def transitionRetention : Int := 90 * 86400 * nanosPerSecond

/-- `containerUntil`: when an archived container stopped existing. -/
def containerUntil (c : Container) : Option Int := if c.archived then c.archivedAt else none

/-- The instant, or when the container stopped existing if that is earlier. -/
def closing (c : Container) (instant : Int) : Int :=
  match containerUntil c with
  | some until_ => min (until_ * nanosPerSecond) instant
  | none => instant

/-- The second, or when the container stopped existing if that is earlier. -/
def closingSecond (c : Container) (second : Int) : Int :=
  match containerUntil c with
  | some until_ => min until_ second
  | none => second

/-- What `GetContainerDailyUptime` computes days with. -/
def containerCompute (containers : Keyed Container.id) (rows : List StateTransition) :
    ComputeDays ContainerId := fun id from_ to_ =>
  containerDays (transitionsOf id rows) from_
    (match containers.lookup id with
    | some c => closing c to_
    | none => to_)

def rollupContainers (store : ContainerStore) (now : Int) :
    UptimeTable ContainerId → UptimeTable ContainerId :=
  rollup (fun id => containerDays (transitionsOf id store.transitions.items))
    (store.containers.items.map fun c => (c.id, containerUntil c)) now transitionRetention

/-- The purge leaves the transition: it is not old, or there is no later one of the container. -/
def keeps (cutoff : Int) (rows : List StateTransition) (t : StateTransition) : Bool :=
  ¬(t.timestamp < cutoff ∧
    ∃ later ∈ rows, later.containerId = t.containerId ∧ t.timestamp < later.timestamp)

def deleteTransitionsBefore (before : Int) (store : ContainerStore) : ContainerStore :=
  { store with
    transitions := store.transitions.filter (keeps (unix before) store.transitions.items) }

/-- The tables, and what they would hold had nothing been purged. -/
structure ContainerArchive where
  store : ContainerStore
  uptime : UptimeTable ContainerId
  history : List StateTransition
  clock : Option Int
  /-- A transition of an aggregated day was recorded since then. -/
  late : Bool

/-- What happens to the tables of transitions. -/
inductive ContainerAction
  /-- A new transition is recorded. -/
  | transition (t : StateTransition)
  /-- A retention pass, whose rollup may fail. -/
  | retention (now : Int) (fails : Bool)

variable {containers : Keyed Container.id} {earlier later : Int}

namespace ContainerArchive

/-- Nothing has been aggregated or purged yet. -/
def of (store : ContainerStore) : ContainerArchive :=
  ⟨store, .empty UptimeRow.key, store.transitions.items, none, false⟩

/-- What a pass whose rollup succeeds does to the transitions. -/
def retention (now : Int) (archive : ContainerArchive) : ContainerArchive where
  store := deleteTransitionsBefore (now - transitionRetention) archive.store
  uptime := rollupContainers archive.store now archive.uptime
  history := archive.history
  clock := some now
  late := false

def record (t : StateTransition) (archive : ContainerArchive) : ContainerArchive :=
  { archive with
    store := archive.store.insertTransition t
    history := archive.history ++ [t]
    late := archive.late || decide (∃ last ∈ lastDay archive.uptime,
      t.timestamp < last + secondsPerDay) }

/-- A pass does not come before the last one. -/
def Due (archive : ContainerArchive) (now : Int) : Prop := ∀ last ∈ archive.clock, last ≤ now

instance (archive : ContainerArchive) (now : Int) : Decidable (archive.Due now) :=
  inferInstanceAs (Decidable (∀ last ∈ archive.clock, last ≤ now))

/-- One action.  A pass whose rollup fails purges nothing. -/
def next (archive : ContainerArchive) : ContainerAction → Option ContainerArchive
  | .transition t =>
    if archive.store.transitions.lookup t.id = none then some (archive.record t) else none
  | .retention now fails =>
    if archive.Due now then some (if fails then archive else archive.retention now) else none

/-- `GetContainerDailyUptime`. -/
def served (archive : ContainerArchive) (id : ContainerId) (days now : Int) :
    List (Int × Option DayUptime) :=
  daily (containerCompute archive.store.containers archive.store.transitions.items) archive.uptime
    id days now

/-- What it would serve had nothing been purged. -/
def servedUnpurged (archive : ContainerArchive) (id : ContainerId) (days now : Int) :
    List (Int × Option DayUptime) :=
  daily (containerCompute archive.store.containers archive.history) archive.uptime id days now

/-- The pass changes nothing that is served. -/
def PassesUnseen (archive : ContainerArchive) (now : Int) : Prop :=
  ∀ c ∈ archive.store.containers, ∀ days,
    (archive.retention now).served c.id days now = archive.served c.id days now

/-- The current day is served as if nothing had been purged. -/
def TodayKept (archive : ContainerArchive) : Prop :=
  ∀ now, archive.Due now → ∀ c ∈ archive.store.containers, ∀ days,
    (archive.served c.id days now).head? = (archive.servedUnpurged c.id days now).head?

/-! ### The condition -/

def rowsOf (archive : ContainerArchive) (id : ContainerId) : List StateTransition :=
  transitionsOf id archive.store.transitions.items

/-- The first day the rollup of a pass aggregates. -/
def rollupStart (archive : ContainerArchive) (now : Int) : Int :=
  rollupFrom archive.uptime now transitionRetention

/-- The purge keeps the transition. -/
def leaves (archive : ContainerArchive) (now : Int) (t : StateTransition) : Bool :=
  keeps (unix (now - transitionRetention)) archive.store.transitions.items t

/-- The pass purges nothing of the container, leaves a transition before the last day it aggregates,
or has no day of it to aggregate. -/
def Covered (archive : ContainerArchive) (now : Int) (c : Container) : Prop :=
  (∀ t ∈ archive.rowsOf c.id, archive.leaves now t) ∨
  (∃ t ∈ archive.rowsOf c.id, archive.leaves now t ∧
    t.timestamp < startOfDay (closingSecond c (startOfDay (unix now)) - 1)) ∨
  closingSecond c (startOfDay (unix now)) ≤ archive.rollupStart now

/-- The days of the last year before the rollup starts on which the container existed have all been
aggregated. -/
def Complete (archive : ContainerArchive) (now : Int) (c : Container) : Prop :=
  ∀ t ∈ archive.rowsOf c.id,
    ∀ day ∈ daysOf (max (startOfDay t.timestamp) (windowStart maxUptimeDays now))
        (min (archive.rollupStart now) (closingSecond c (startOfDay (unix now)))),
      (aggregate archive.uptime c.id day).isSome

/-- A pass purges no state that a day which is still read from the transitions begins in. -/
def Spares (archive : ContainerArchive) : ContainerAction → Prop
  | .retention now false => ∀ c ∈ archive.store.containers.items, archive.Covered now c
  | _ => True

/-- Every day that a pass gives up is aggregated, and the aggregates are those of the transitions
recorded. -/
def UpToDate (archive : ContainerArchive) (now : Int) : Prop :=
  archive.late = false ∧ ∀ c ∈ archive.store.containers.items, archive.Complete now c

instance (archive : ContainerArchive) (now : Int) (c : Container) :
    Decidable (archive.Covered now c) :=
  inferInstanceAs (Decidable (_ ∨ _ ∨ _))

instance (archive : ContainerArchive) (now : Int) (c : Container) :
    Decidable (archive.Complete now c) :=
  inferInstanceAs (Decidable (∀ t ∈ archive.rowsOf c.id, ∀ day ∈ daysOf _ _, _))

instance (archive : ContainerArchive) : DecidablePred archive.Spares := fun _ => by
  unfold Spares
  split <;> infer_instance

instance (archive : ContainerArchive) (now : Int) : Decidable (archive.UpToDate now) :=
  inferInstanceAs (Decidable (_ ∧ ∀ c ∈ archive.store.containers.items, archive.Complete now c))

abbrev dayOf (now : Int) : Int := startOfDay (unix now)

/-- Where a pass ends what it aggregates of the container. -/
abbrev rollupEnd (c : Container) (now : Int) : Int := closingSecond c (dayOf now)

/-! ### Closing times -/

variable {archive : ContainerArchive} {c : Container} {now day : Int} {row : UptimeRow ContainerId}

section Closing

variable {second to_ other : Int}

theorem closing_seconds :
    closing c (second * nanosPerSecond) = closingSecond c second * nanosPerSecond := by
  rw [closing, closingSecond]
  split
  · simp only [nanosPerSecond]
    omega
  · rfl

theorem closingSecond_le : closingSecond c second ≤ second := by
  rw [closingSecond]
  split
  · exact min_le_right _ _
  · exact le_refl _

theorem lt_closing_iff (before : to_ ≤ other) (inside : day * nanosPerSecond < to_) :
    day * nanosPerSecond < closing c to_ ↔ day * nanosPerSecond < closing c other := by
  rw [closing, closing]
  split
  · simp only [lt_min_iff, inside, inside.trans_le before]
  · simp only [inside, inside.trans_le before]

theorem dayValue_closing {rows : List StateTransition}
    (whole : (day + secondsPerDay) * nanosPerSecond ≤ to_)
    (other_whole : (day + secondsPerDay) * nanosPerSecond ≤ other) :
    dayValue rows (closing c to_) day = dayValue rows (closing c other) day := by
  refine dayValue_congr ?_
  rw [closing, closing]
  split
  · omega
  · omega

end Closing

/-! ### What a rollup writes -/

theorem valueOn_containerCompute (mem : c ∈ containers)
    (rows : List StateTransition) (from_ to_ : Int) :
    valueOn (containerCompute containers rows c.id from_ to_) day =
      if day ∈ daysOf from_ (ceilUnix (closing c to_)) then
        dayValue (transitionsOf c.id rows) (closing c to_) day else none := by
  have found : containers.lookup c.id = some c := lookup_eq_some.mpr ⟨mem, rfl⟩
  simp only [containerCompute, found, valueOn_containerDays]

/-- The rows that the rollup writes. -/
def rolled (archive : ContainerArchive) (now : Int) : List (UptimeRow ContainerId) :=
  (archive.store.containers.items.map fun c => (c.id, containerUntil c)).flatMap
    (rollupRows (fun id => containerDays (archive.rowsOf id)) (archive.rollupStart now)
      (startOfDay (unix now)))

theorem ceilUnix_seconds (second : Int) : ceilUnix (second * nanosPerSecond) = second := by
  simp only [ceilUnix, nanosPerSecond]
  omega

theorem mem_rolled : row ∈ archive.rolled now ↔ ∃ c ∈ archive.store.containers, c.id = row.monitor ∧
      row.day ∈ daysOf (archive.rollupStart now) (rollupEnd c now) ∧ dayValue (archive.rowsOf c.id)
        (closing c (dayOf now * nanosPerSecond)) row.day = some row.value := by
  have one : ∀ c : Container, row ∈ rollupRows (fun id => containerDays (archive.rowsOf id))
        (archive.rollupStart now) (dayOf now) (c.id, containerUntil c) ↔
      c.id = row.monitor ∧ row.day ∈ daysOf (archive.rollupStart now) (rollupEnd c now) ∧
        dayValue (archive.rowsOf c.id)
          (closing c (dayOf now * nanosPerSecond)) row.day = some row.value := by
    intro c
    have rows_eq : rollupRows (fun id => containerDays (archive.rowsOf id))
          (archive.rollupStart now) (dayOf now) (c.id, containerUntil c) =
        if rollupEnd c now ≤ archive.rollupStart now then []
        else (containerDays (archive.rowsOf c.id) (archive.rollupStart now)
          (rollupEnd c now * nanosPerSecond)).map fun entry =>
            ⟨c.id, entry.1, entry.2⟩ := rfl
    rw [rows_eq, closing_seconds]
    split
    · simp only [not_mem_nil, mem_daysOf, false_iff, not_and]
      omega
    simp only [List.mem_map, Prod.exists, mem_containerDays, ceilUnix_seconds]
    constructor
    · rintro ⟨day, value, here, rfl⟩
      exact ⟨rfl, here⟩
    · rintro ⟨same, here⟩
      exact ⟨row.day, row.value, here, by rw [same]⟩
  simp only [rolled, flatMap_map, mem_flatMap, one]
  exact Iff.rfl

theorem eq_of_mem_rolled {other : UptimeRow ContainerId} (mem : row ∈ archive.rolled now)
    (other_mem : other ∈ archive.rolled now) (same : other.key = row.key) : other = row := by
  obtain ⟨c, c_mem, c_id, -, value⟩ := mem_rolled.mp mem
  obtain ⟨d, d_mem, d_id, -, other_value⟩ := mem_rolled.mp other_mem
  obtain ⟨monitor, day⟩ := Prod.mk.inj same
  obtain rfl : c = d := eq_of_key c_mem d_mem (c_id.trans (monitor.symm.trans d_id.symm))
  obtain ⟨_, _, _⟩ := row
  simp only at monitor day value other_value
  subst monitor day
  rw [value] at other_value
  rw [some.inj other_value]

theorem mem_uptime_retention : row ∈ (archive.retention now).uptime ↔ row ∈ archive.rolled now ∨
      row ∈ archive.uptime ∧ ∀ new ∈ archive.rolled now, row.key ≠ new.key := by
  have written : ∀ {new}, new ∈ archive.rolled now →
      new ∈ (archive.rolled now).foldl Keyed.insert archive.uptime := fun mem =>
    mem_foldl_insert mem fun _ other_mem same => eq_of_mem_rolled mem other_mem same
  constructor
  · intro mem
    by_cases new : row ∈ archive.rolled now
    · exact .inl new
    · refine .inr ⟨(mem_of_mem_foldl_insert mem).resolve_right new, ?_⟩
      intro other other_mem same
      exact new (eq_of_key mem (written other_mem) same ▸ other_mem)
  · rintro (new | ⟨old, untouched⟩)
    · exact written new
    have kept : ((archive.rolled now).foldl Keyed.insert archive.uptime).lookup row.key =
        archive.uptime.lookup row.key := lookup_foldl_insert_of_ne untouched
    rw [lookup_eq_some.mpr ⟨old, rfl⟩] at kept
    exact (lookup_eq_some.mp kept).1

/-! ### What a purge leaves -/

section Purge

variable {t other : StateTransition}

theorem rowsOf_retention (id : ContainerId) :
    (archive.retention now).rowsOf id = (archive.rowsOf id).filter (archive.leaves now) := by
  have purged : (archive.retention now).store.transitions.items =
      archive.store.transitions.items.filter (archive.leaves now) := rfl
  rw [rowsOf, rowsOf, purged, transitionsOf, transitionsOf, List.filter_filter, List.filter_filter]
  exact filter_congr fun _ _ => Bool.and_comm _ _

variable {id : ContainerId}

theorem mem_rowsOf :
    t ∈ archive.rowsOf id ↔ t ∈ archive.store.transitions.items ∧ t.containerId = id := by
  simp [rowsOf, transitionsOf]

theorem leaves_of_le (mem : t ∈ archive.rowsOf id) (other_mem : other ∈ archive.rowsOf id)
    (left : archive.leaves now t) (later : t.timestamp ≤ other.timestamp) :
    archive.leaves now other := by
  have same := (mem_rowsOf.mp mem).2.trans (mem_rowsOf.mp other_mem).2.symm
  simp only [leaves, keeps, decide_eq_true_eq] at left ⊢
  rintro ⟨old, newest, newest_mem, newest_same, after⟩
  exact left ⟨later.trans_lt old, newest, newest_mem, newest_same.trans same.symm,
    later.trans_lt after⟩

theorem sameRowsSince_retention (mem : t ∈ archive.rowsOf c.id) (left : archive.leaves now t) :
    SameRowsSince t.timestamp ((archive.retention now).rowsOf c.id) (archive.rowsOf c.id) := by
  rw [rowsOf_retention]
  refine ⟨?_, t, mem_filter.mpr ⟨mem, left⟩, rfl⟩
  rw [List.filter_filter]
  refine filter_congr ?_
  intro other other_mem
  by_cases later : t.timestamp ≤ other.timestamp
  · simp [leaves_of_le mem other_mem left later]
  · simp [later]

theorem subset_retention : ∀ t ∈ (archive.retention now).rowsOf id, t ∈ archive.rowsOf id := by
  intro t mem
  rw [rowsOf_retention] at mem
  exact mem_of_mem_filter mem

end Purge

/-! ### Invariant -/

/-- The first day whose transitions no pass up to an instant has touched. -/
def untouched (now : Int) : Int := startOfDay (unix (now - transitionRetention)) + secondsPerDay

theorem untouched_mono (le : earlier ≤ later) : untouched earlier ≤ untouched later := by
  simp only [untouched, startOfDay, secondsPerDay, unix, nanosPerSecond]
  omega

theorem dayOf_mono (le : earlier ≤ later) : dayOf earlier ≤ dayOf later := by
  simp only [startOfDay, secondsPerDay, unix, nanosPerSecond]
  omega

/-- The rows of the container are all there, or all since a transition before the day of the last
pass, or the container was gone by then. -/
def Kept (archive : ContainerArchive) (c : Container) : Prop :=
  archive.rowsOf c.id = transitionsOf c.id archive.history ∨
  ∃ last ∈ archive.clock,
    (∃ since < startOfDay (unix last),
      SameRowsSince since (archive.rowsOf c.id) (transitionsOf c.id archive.history)) ∨
    closingSecond c (startOfDay (unix last)) < startOfDay (unix last)

/-- What every run that spares the states of the containers keeps. -/
structure Sound (archive : ContainerArchive) : Prop where
  aligned : ∀ row ∈ archive.uptime, secondsPerDay ∣ row.day
  past : ∀ row ∈ archive.uptime, ∃ last ∈ archive.clock, row.day < startOfDay (unix last)
  /-- The rows that the next pass may write again are what the transitions still say. -/
  current : archive.late = false → ∀ last ∈ archive.clock, ∀ row ∈ archive.uptime,
    lastDay archive.uptime = some row.day → untouched last ≤ row.day →
    ∀ c ∈ archive.store.containers, c.id = row.monitor →
      row.day * nanosPerSecond < closing c ((row.day + secondsPerDay) * nanosPerSecond) →
      dayValue (archive.rowsOf c.id) (closing c ((row.day + secondsPerDay) * nanosPerSecond))
        row.day ∈ [none, some row.value]
  kept : ∀ c ∈ archive.store.containers, archive.Kept c

theorem Sound.of {store : ContainerStore} : (ContainerArchive.of store).Sound where
  aligned _ mem := absurd mem (not_mem_empty _)
  past _ mem := absurd mem (not_mem_empty _)
  current _ _ _ _ mem := absurd mem (not_mem_empty _)
  kept _ _ := .inl rfl

section Passes

theorem Sound.day_add_le (sound : archive.Sound) (due : archive.Due now)
    (mem : row ∈ archive.uptime) : row.day + secondsPerDay ≤ dayOf now := by
  obtain ⟨last, last_mem, before⟩ := sound.past row mem
  obtain ⟨count, aligned⟩ := sound.aligned row mem
  have later := dayOf_mono (due last last_mem)
  simp only [startOfDay, secondsPerDay] at *
  omega

theorem lt_of_day_add_le {bound : Int} (before : day + secondsPerDay ≤ bound) : day < bound := by
  simp only [secondsPerDay] at before
  omega

theorem Sound.day_lt (sound : archive.Sound) (due : archive.Due now) (mem : row ∈ archive.uptime) :
    row.day < dayOf now :=
  lt_of_day_add_le (sound.day_add_le due mem)

theorem rollupStart_eq :
    archive.rollupStart now = untouched now ∧ (∀ row ∈ archive.uptime, row.day ≤ untouched now) ∨
    lastDay archive.uptime = some (archive.rollupStart now) ∧
      untouched now ≤ archive.rollupStart now :=
  rollupFrom_cases

theorem Sound.rollupStart_lt (sound : archive.Sound) (due : archive.Due now) :
    archive.rollupStart now < dayOf now ∧ secondsPerDay ∣ archive.rollupStart now := by
  refine ⟨?_, dvd_rollupFrom sound.aligned now transitionRetention⟩
  rcases rollupStart_eq with ⟨start, -⟩ | ⟨last, -⟩
  · rw [start]
    simp only [untouched, startOfDay, secondsPerDay, unix, transitionRetention, nanosPerSecond]
    omega
  obtain ⟨row, mem, day⟩ := (lastDay_eq_some.mp last).1
  exact day ▸ sound.day_lt due mem

/-! ### What is served for a day -/

/-- What is served for a day: the aggregate, or what the transitions say of a day after those that
are aggregated. -/
def entry (uptime : UptimeTable ContainerId) (rows : List StateTransition) (c : Container)
    (days now day : Int) : Option DayUptime :=
  let start := windowStart days now
  let today := startOfDay (unix now)
  (if start ≤ day ∧ day < today then aggregate uptime c.id day else none).or
    (if day ∈ daysOf (computeFrom (storedDays uptime c.id start today) start)
        (ceilUnix (closing c now)) then
      dayValue rows (closing c now) day
    else none)

theorem daily_eq (mem : c ∈ containers)
    (rows : List StateTransition) (uptime : UptimeTable ContainerId) (days : Int) :
    daily (containerCompute containers rows) uptime c.id days now =
      (range (clampUptimeDays days).toNat).map fun index : Nat =>
        (dayOf now - (index : Int) * secondsPerDay,
          entry uptime (transitionsOf c.id rows) c days now
            (dayOf now - (index : Int) * secondsPerDay)) := by
  simp only [daily, valueOn_storedDays, valueOn_containerCompute mem]
  rfl

theorem clampUptimeDays_bounds (days : Int) :
    1 ≤ clampUptimeDays days ∧ clampUptimeDays days ≤ maxUptimeDays := by
  rw [clampUptimeDays, maxUptimeDays]
  split
  · omega
  · split
    · omega
    · omega

variable {uptime : UptimeTable ContainerId} {rows : List StateTransition} {days : Int}

variable {value : DayUptime}

theorem entry_of_aggregate (inside : windowStart days now ≤ day)
    (before : day < dayOf now) (found : aggregate uptime c.id day = some value) :
    entry uptime rows c days now day = some value := by
  simp only [entry, if_pos (And.intro inside before), found, some_or]

theorem entry_none (missing : aggregate uptime c.id day = none)
    (worthless : day * nanosPerSecond < closing c now → dayValue rows (closing c now) day = none) :
    entry uptime rows c days now day = none := by
  simp only [entry, missing, ite_self]
  split
  next computed => exact worthless (lt_ceilUnix.mp (mem_daysOf.mp computed).2.1)
  · rfl

theorem entry_computed (inside : windowStart days now ≤ day) (whole : secondsPerDay ∣ day)
    (aligned : ∀ row ∈ uptime, secondsPerDay ∣ row.day)
    (later : ∀ row ∈ uptime, row.monitor = c.id → row.day < day)
    (open_ : day * nanosPerSecond < closing c now) :
    entry uptime rows c days now day = dayValue rows (closing c now) day := by
  have missing : aggregate uptime c.id day = none := by
    rw [eq_none_iff_forall_ne_some]
    intro value found
    exact lt_irrefl day (later _ (aggregate_eq_some.mp found) rfl)
  have start_aligned : secondsPerDay ∣ windowStart days now :=
    Int.dvd_sub dvd_startOfDay (Int.dvd_mul_left _ _)
  have stored_aligned : ∀ stored ∈ storedDays uptime c.id (windowStart days now)
      (dayOf now), secondsPerDay ∣ stored.1 ∧ stored.1 + secondsPerDay ≤ day := by
    rintro ⟨other, value⟩ mem
    have stored := aggregate_eq_some.mp (mem_storedDays.mp mem).1
    obtain ⟨count, other_eq⟩ := aligned _ stored
    have before := later _ stored rfl
    simp only [secondsPerDay] at *
    omega
  have computed : day ∈ daysOf
      (computeFrom (storedDays uptime c.id (windowStart days now) (dayOf now))
        (windowStart days now)) (ceilUnix (closing c now)) := by
    refine mem_daysOf.mpr ⟨computeFrom_le.mpr ⟨inside, fun stored mem =>
      (stored_aligned stored mem).2⟩, lt_ceilUnix.mpr open_, Int.dvd_sub whole ?_⟩
    exact dvd_computeFrom start_aligned fun stored mem => (stored_aligned stored mem).1
  simp only [entry, missing, ite_self, none_or, if_pos computed]

theorem windowStart_le : windowStart days now ≤ dayOf now := by
  have := (clampUptimeDays_bounds days).1
  simp only [windowStart, secondsPerDay, dayOf]
  omega

theorem entry_today (aligned : ∀ row ∈ uptime, secondsPerDay ∣ row.day)
    (past : ∀ row ∈ uptime, row.day < dayOf now) : entry uptime rows c days now (dayOf now) =
      if dayOf now * nanosPerSecond < closing c now then
        dayValue rows (closing c now) (dayOf now) else none := by
  split
  next open_ =>
    exact entry_computed (windowStart_le) dvd_startOfDay aligned
      (fun row mem _ => past row mem) open_
  rename_i gone
  refine entry_none ?_ fun open_ => absurd open_ gone
  rw [eq_none_iff_forall_ne_some]
  intro value found
  exact lt_irrefl _ (past _ (aggregate_eq_some.mp found))

/-! ### A pass -/

theorem Sound.rewritten (sound : archive.Sound) (due : archive.Due now)
    (settled : archive.late = false) (mem : c ∈ archive.store.containers)
    (stored : ⟨c.id, day, value⟩ ∈ archive.uptime) (start : archive.rollupStart now ≤ day)
    (open_ : day * nanosPerSecond < closing c ((day + secondsPerDay) * nanosPerSecond)) :
    dayValue (archive.rowsOf c.id) (closing c ((day + secondsPerDay) * nanosPerSecond)) day ∈
      [none, some value] := by
  have first : day = archive.rollupStart now :=
    le_antisymm (day_le_rollupFrom stored) start
  obtain ⟨last, last_mem, -⟩ := sound.past _ stored
  have mono := untouched_mono (due last last_mem)
  have latest : lastDay archive.uptime = some day ∧ untouched last ≤ day := by
    rcases rollupStart_eq with ⟨start_eq, all⟩ | ⟨last_eq, late⟩
    · rw [first, start_eq]
      exact ⟨lastDay_eq_some.mpr ⟨⟨_, stored, first.trans start_eq⟩, all⟩, mono⟩
    · rw [first]
      exact ⟨last_eq, mono.trans late⟩
  exact sound.current settled last last_mem _ stored latest.1 latest.2 c mem rfl open_

theorem today_le : dayOf now * nanosPerSecond ≤ now :=
  le_unix.mp (startOfDay_le _)

theorem lt_closingSecond_iff (before : day < dayOf now) :
    day < rollupEnd c now ↔ day * nanosPerSecond < closing c now := by
  have inside : day * nanosPerSecond < dayOf now * nanosPerSecond :=
    Int.mul_lt_mul_of_pos_right before (by decide)
  rw [← lt_closing_iff (today_le) inside, closing_seconds]
  constructor
  · exact fun less => Int.mul_lt_mul_of_pos_right less (by decide)
  · exact fun less => Int.lt_of_mul_lt_mul_right less (by decide)

theorem dayValue_today (before : day + secondsPerDay ≤ dayOf now) :
    dayValue rows (closing c now) day =
      dayValue rows (closing c (dayOf now * nanosPerSecond)) day := by
  have whole : (day + secondsPerDay) * nanosPerSecond ≤ dayOf now * nanosPerSecond :=
    Int.mul_le_mul_of_nonneg_right before (by decide)
  exact dayValue_closing (whole.trans (today_le)) whole

theorem Sound.worthless (sound : archive.Sound) (due : archive.Due now)
    (mem : c ∈ archive.store.containers) (complete : archive.Complete now c)
    (inside : windowStart maxUptimeDays now ≤ day)
    (before : day + secondsPerDay ≤ dayOf now) (whole : secondsPerDay ∣ day)
    (missing : aggregate archive.uptime c.id day = none)
    (unwritten : ∀ value, ⟨c.id, day, value⟩ ∉ archive.rolled now)
    (open_ : day * nanosPerSecond < closing c now) :
    dayValue (archive.rowsOf c.id) (closing c now) day = none := by
  have earlier := lt_of_day_add_le before
  have existed := (lt_closingSecond_iff earlier).mpr open_
  by_cases started : archive.rollupStart now ≤ day
  · cases value : dayValue (archive.rowsOf c.id) (closing c now) day with
    | none => rfl
    | some value_ =>
      refine absurd (mem_rolled.mpr ⟨c, mem, rfl, mem_daysOf.mpr ⟨started, existed, ?_⟩, ?_⟩)
        (unwritten value_)
      · exact Int.dvd_sub whole (sound.rollupStart_lt due).2
      · exact (dayValue_today before).symm.trans value
  · rw [dayValue_eq_none open_]
    by_contra older
    push Not at older
    obtain ⟨t, t_mem, early⟩ := older
    have t_day : startOfDay t.timestamp ≤ day := by
      simp only [startOfDay, secondsPerDay] at *
      omega
    have counted : day ∈ daysOf (max (startOfDay t.timestamp) (windowStart maxUptimeDays now))
        (min (archive.rollupStart now) (rollupEnd c now)) := by
      refine mem_daysOf.mpr ⟨max_le t_day inside, lt_min (not_le.mp started) existed,
        Int.dvd_sub whole ?_⟩
      rcases max_choice (startOfDay t.timestamp) (windowStart maxUptimeDays now) with left | right
      · rw [left]
        exact dvd_startOfDay
      · rw [right]
        exact Int.dvd_sub dvd_startOfDay (Int.dvd_mul_left _ _)
    have stored := complete t t_mem day counted
    rw [missing] at stored
    cases stored

theorem Sound.entry_past (sound : archive.Sound) (due : archive.Due now)
    (settled : archive.late = false) (mem : c ∈ archive.store.containers)
        (complete : archive.Complete now c)
    (inside : windowStart days now ≤ day) (year : windowStart maxUptimeDays now ≤ day)
    (before : day + secondsPerDay ≤ dayOf now) (whole : secondsPerDay ∣ day) :
    entry (archive.retention now).uptime ((archive.retention now).rowsOf c.id) c days now day =
      entry archive.uptime (archive.rowsOf c.id) c days now day := by
  have earlier := lt_of_day_add_le before
  by_cases written : ∃ value, ⟨c.id, day, value⟩ ∈ archive.rolled now
  · obtain ⟨value, new⟩ := written
    obtain ⟨d, d_mem, d_id, d_days, d_value⟩ := mem_rolled.mp new
    obtain rfl := eq_of_key d_mem mem d_id
    obtain ⟨started, existed, -⟩ := mem_daysOf.mp d_days
    have open_ := (lt_closingSecond_iff earlier).mp existed
    rw [entry_of_aggregate inside earlier
      (aggregate_eq_some.mpr (mem_uptime_retention.mpr (Or.inl new)))]
    cases stored : aggregate archive.uptime d.id day with
    | none =>
      rw [entry_computed inside whole sound.aligned ?_ open_, dayValue_today before, d_value]
      intro row row_mem row_id
      have bound := (day_le_rollupFrom row_mem).trans started
      refine lt_of_le_of_ne bound ?_
      rintro rfl
      have found : aggregate archive.uptime d.id row.day = some row.value :=
        aggregate_eq_some.mpr (row_id ▸ row_mem)
      rw [stored] at found
      cases found
    | some =>
      rw [entry_of_aggregate inside earlier stored]
      have whole_day : (day + secondsPerDay) * nanosPerSecond ≤ dayOf now * nanosPerSecond :=
        Int.mul_le_mul_of_nonneg_right before (by decide)
      have inside_day : day * nanosPerSecond < (day + secondsPerDay) * nanosPerSecond := by
        simp only [secondsPerDay, nanosPerSecond]
        omega
      have same := sound.rewritten due settled mem (aggregate_eq_some.mp stored) started
        ((lt_closing_iff (whole_day.trans (today_le)) inside_day).mpr open_)
      rw [dayValue_closing (le_refl _) whole_day, d_value] at same
      simpa using same
  · have unwritten : ∀ value, ⟨c.id, day, value⟩ ∉ archive.rolled now := not_exists.mp written
    have kept : aggregate (archive.retention now).uptime c.id day = _ :=
      aggregate_insert_of_unwritten unwritten
    cases stored : aggregate archive.uptime c.id day with
    | some =>
      rw [entry_of_aggregate inside earlier (kept.trans stored),
        entry_of_aggregate inside earlier stored]
    | none =>
      have worthless := sound.worthless due mem complete year before whole stored unwritten
      rw [entry_none (kept.trans stored) fun open_ =>
        dayValue_none_of_subset open_ (subset_retention) (worthless open_),
        entry_none stored worthless]

/-- What a pass leaves of a container that it covers gives the same value to its days from the last
aggregated one on. -/
theorem Covered.dayValue_eq (covered : archive.Covered now c) {to_ : Int}
    (last : startOfDay (rollupEnd c now - 1) ≤ day)
    (ahead : archive.rollupStart now < rollupEnd c now) :
    dayValue ((archive.retention now).rowsOf c.id) to_ day =
      dayValue (archive.rowsOf c.id) to_ day := by
  rcases covered with all | ⟨t, mem, left, before⟩ | gone
  · rw [rowsOf_retention, filter_eq_self.mpr all]
  · exact (sameRowsSince_retention mem left).dayValue_eq (before.trans_le last)
  · exact absurd gone (not_le.mpr ahead)

/-! ### Runs -/

theorem last_of_rolled (mem : c ∈ archive.store.containers)
    (days_ : day ∈ daysOf (archive.rollupStart now) (rollupEnd c now))
    (whole : secondsPerDay ∣ archive.rollupStart now) (valued : dayValue (archive.rowsOf c.id)
      (closing c (dayOf now * nanosPerSecond)) day ≠ none)
    (last : ∀ row ∈ archive.rolled now, row.day ≤ day) :
    startOfDay (rollupEnd c now - 1) ≤ day := by
  by_contra later
  obtain ⟨started, existed, aligned⟩ := mem_daysOf.mp days_
  have end_lt : startOfDay (rollupEnd c now - 1) < rollupEnd c now := by
    have := startOfDay_le (rollupEnd c now - 1)
    omega
  have open_ : ∀ other < rollupEnd c now,
      other * nanosPerSecond < closing c (dayOf now * nanosPerSecond) := by
    intro other less
    rw [closing_seconds]
    exact Int.mul_lt_mul_of_pos_right less (by decide)
  have value : dayValue (archive.rowsOf c.id) (closing c (dayOf now * nanosPerSecond))
      (startOfDay (rollupEnd c now - 1)) ≠ none := by
    intro unvalued
    refine valued ((dayValue_eq_none (open_ day existed)).mpr fun t t_mem => ?_)
    have := (dayValue_eq_none (open_ _ end_lt)).mp unvalued t t_mem
    omega
  obtain ⟨uptime, found⟩ := ne_none_iff_exists'.mp value
  have written : ⟨c.id, startOfDay (rollupEnd c now - 1), uptime⟩ ∈ archive.rolled now :=
    mem_rolled.mpr ⟨c, mem, rfl, mem_daysOf.mpr ⟨started.trans (Int.not_le.mp later).le, end_lt,
      Int.dvd_sub dvd_startOfDay whole⟩, found⟩
  exact later (last _ written)

theorem Sound.aligned_retention (sound : archive.Sound) (due : archive.Due now) :
    ∀ row ∈ (archive.retention now).uptime, secondsPerDay ∣ row.day ∧ row.day < dayOf now := by
  intro row mem
  rcases mem_uptime_retention.mp mem with new | ⟨old, -⟩
  · obtain ⟨c, -, -, days_, -⟩ := mem_rolled.mp new
    obtain ⟨-, existed, aligned⟩ := mem_daysOf.mp days_
    refine ⟨?_, existed.trans_le (closingSecond_le)⟩
    have sum := Int.dvd_add aligned (sound.rollupStart_lt due).2
    rwa [Int.sub_add_cancel] at sum
  · exact ⟨sound.aligned row old, sound.day_lt due old⟩

theorem Sound.current_retention (sound : archive.Sound) (due : archive.Due now)
    (mem : c ∈ archive.store.containers) (covered : archive.Covered now c)
    (row_mem : row ∈ (archive.retention now).uptime)
    (last : lastDay (archive.retention now).uptime = some row.day)
    (recent : untouched now ≤ row.day) (here : c.id = row.monitor)
    (open_ : row.day * nanosPerSecond < closing c ((row.day + secondsPerDay) * nanosPerSecond)) :
    dayValue ((archive.retention now).rowsOf c.id)
      (closing c ((row.day + secondsPerDay) * nanosPerSecond)) row.day ∈
        [none, some row.value] := by
  have latest := (lastDay_eq_some.mp last).2
  obtain ⟨aligned, before⟩ := sound.aligned_retention due row row_mem
  have whole : row.day + secondsPerDay ≤ dayOf now := by
    simp only [startOfDay, secondsPerDay] at *
    omega
  have whole_day : (row.day + secondsPerDay) * nanosPerSecond ≤ dayOf now * nanosPerSecond :=
    Int.mul_le_mul_of_nonneg_right whole (by decide)
  rcases mem_uptime_retention.mp row_mem with new | ⟨old, unwritten⟩
  · obtain ⟨d, d_mem, d_id, days_, value⟩ := mem_rolled.mp new
    obtain rfl : d = c := eq_of_key d_mem mem (d_id.trans here.symm)
    obtain ⟨started, existed, -⟩ := mem_daysOf.mp days_
    have closes := last_of_rolled mem days_ (sound.rollupStart_lt due).2 (by simp [value])
      fun other other_mem => latest other (mem_uptime_retention.mpr (Or.inl other_mem))
    rw [covered.dayValue_eq closes (started.trans_lt existed),
      dayValue_closing (le_refl _) whole_day, value]
    simp
  · -- the pass found no value for the day, so it will not find one later
    have started : archive.rollupStart now ≤ row.day := by
      rcases rollupStart_eq with ⟨start, -⟩ | ⟨start, -⟩
      · exact start ▸ recent
      obtain ⟨first, first_mem, first_day⟩ := (lastDay_eq_some.mp start).1
      by_cases rewritten : ∃ new ∈ archive.rolled now, first.key = new.key
      · obtain ⟨new, new_mem, same⟩ := rewritten
        have day_eq : first.day = new.day := (Prod.mk.inj same).2
        exact first_day ▸ day_eq ▸ latest new (mem_uptime_retention.mpr (Or.inl new_mem))
      · push Not at rewritten
        exact first_day ▸ latest first (mem_uptime_retention.mpr (Or.inr ⟨first_mem, rewritten⟩))
    have inside_day : row.day * nanosPerSecond < (row.day + secondsPerDay) * nanosPerSecond := by
      simp only [secondsPerDay, nanosPerSecond]
      omega
    have existed : row.day < rollupEnd c now := by
      rw [lt_closingSecond_iff before, ← lt_closing_iff (whole_day.trans (today_le)) inside_day]
      exact open_
    have unvalued : dayValue (archive.rowsOf c.id)
        (closing c ((row.day + secondsPerDay) * nanosPerSecond)) row.day = none := by
      rw [dayValue_closing (le_refl _) whole_day]
      cases value : dayValue (archive.rowsOf c.id)
          (closing c (dayOf now * nanosPerSecond)) row.day with
      | none => rfl
      | some uptime =>
        have new : ⟨c.id, row.day, uptime⟩ ∈ archive.rolled now :=
          mem_rolled.mpr ⟨c, mem, rfl, mem_daysOf.mpr ⟨started, existed,
            Int.dvd_sub aligned (sound.rollupStart_lt due).2⟩, value⟩
        exact absurd (by simp [UptimeRow.key, here]) (unwritten _ new)
    rw [dayValue_none_of_subset open_ (subset_retention) unvalued]
    simp

theorem gone_of_le (le : earlier ≤ later)
    (gone : closingSecond c earlier < earlier) : closingSecond c later < later := by
  rw [closingSecond] at gone ⊢
  split
  next until_ found =>
    rw [found] at gone
    simp only at gone
    omega
  next found =>
    rw [found] at gone
    exact absurd gone (lt_irrefl _)

/-- A container that is there today is there when the rollup ends. -/
theorem le_closingSecond_today (open_ : dayOf now * nanosPerSecond < closing c now) :
    dayOf now ≤ rollupEnd c now := by
  rw [closing] at open_
  rw [rollupEnd, closingSecond]
  split
  next until_ found =>
    rw [found] at open_
    have less := Int.lt_of_mul_lt_mul_right (open_.trans_le (min_le_left _ _)) (by decide)
    exact le_min less.le le_rfl
  · exact le_refl _

theorem lastDay_lt : startOfDay (rollupEnd c now - 1) < dayOf now :=
  (startOfDay_le _).trans_lt (Int.sub_one_lt_of_le (closingSecond_le))

section

variable (sound : archive.Sound)
include sound

section

variable (due : archive.Due now)
include due

theorem Sound.kept_retention
    (mem : c ∈ archive.store.containers) (covered : archive.Covered now c) :
    (archive.retention now).Kept c := by
  have today_last : ∀ last ∈ archive.clock, dayOf last ≤ dayOf now :=
    fun last last_mem => dayOf_mono (due last last_mem)
  rcases covered with all | ⟨t, t_mem, left, before⟩ | gone
  · -- nothing of the container is purged
    have same : (archive.retention now).rowsOf c.id = archive.rowsOf c.id := by
      rw [rowsOf_retention, filter_eq_self.mpr all]
    rw [Kept, same]
    rcases sound.kept c mem with intact | ⟨last, last_mem, ⟨since, early, agree⟩ | gone⟩
    · exact .inl intact
    · exact .inr ⟨now, rfl, .inl ⟨since, early.trans_le (today_last last last_mem), agree⟩⟩
    · exact .inr ⟨now, rfl, .inr (gone_of_le (today_last last last_mem) gone)⟩
  · have today : t.timestamp < dayOf now := before.trans (lastDay_lt)
    have purged := sameRowsSince_retention t_mem left
    rcases sound.kept c mem with intact | ⟨last, last_mem, ⟨since, early, agree⟩ | gone⟩
    · exact .inr ⟨now, rfl, .inl ⟨t.timestamp, today, intact ▸ purged⟩⟩
    · exact .inr ⟨now, rfl, .inl ⟨max t.timestamp since,
        max_lt today (early.trans_le (today_last last last_mem)), purged.trans agree⟩⟩
    · exact .inr ⟨now, rfl, .inr (gone_of_le (today_last last last_mem) gone)⟩
  · exact .inr ⟨now, rfl, .inr (gone.trans_lt (sound.rollupStart_lt due).1)⟩

theorem Sound.retention
    (spares : archive.Spares (.retention now false)) : (archive.retention now).Sound where
  aligned row mem := (sound.aligned_retention due row mem).1
  past row mem := ⟨now, rfl, (sound.aligned_retention due row mem).2⟩
  current := by
    rintro - _ ⟨⟩ row row_mem last recent c mem here open_
    exact sound.current_retention due mem (spares c mem) row_mem last recent here open_
  kept c mem := sound.kept_retention due mem (spares c mem)

theorem Sound.entry_today_retention (covered : archive.Covered now c) :
    entry (archive.retention now).uptime ((archive.retention now).rowsOf c.id) c days now
        (dayOf now) = entry archive.uptime (archive.rowsOf c.id) c days now (dayOf now) := by
  rw [entry_today (fun row mem => (sound.aligned_retention due row mem).1)
      (fun row mem => (sound.aligned_retention due row mem).2),
    entry_today sound.aligned fun row mem => sound.day_lt due mem]
  split
  next open_ =>
    refine covered.dayValue_eq ?_ ?_
    · exact (lastDay_lt).le
    · exact (sound.rollupStart_lt due).1.trans_le (le_closingSecond_today open_)
  · rfl

theorem Sound.passesUnseen
    (spares : archive.Spares (.retention now false)) (upToDate : archive.UpToDate now) :
    archive.PassesUnseen now := by
  intro c mem days
  have kept : c ∈ (archive.retention now).store.containers := mem
  rw [served, served, daily_eq kept, daily_eq mem]
  refine map_congr_left ?_
  intro index inside
  have bounds := clampUptimeDays_bounds days
  rw [mem_range] at inside
  refine Prod.ext rfl ?_
  rcases Nat.eq_zero_or_pos index with rfl | older
  · have today : dayOf now - ((0 : Nat) : Int) * secondsPerDay = dayOf now := by simp
    rw [today]
    exact sound.entry_today_retention due (spares c mem)
  refine sound.entry_past due upToDate.1 mem (upToDate.2 c mem) ?_ ?_ ?_ ?_
  · simp only [windowStart, secondsPerDay, dayOf]
    omega
  · have year : clampUptimeDays maxUptimeDays = maxUptimeDays := by decide
    simp only [windowStart, secondsPerDay, dayOf]
    omega
  · simp only [secondsPerDay]
    omega
  · exact Int.dvd_sub dvd_startOfDay (Int.dvd_mul_left _ _)

end

theorem Sound.todayKept : archive.TodayKept := by
  intro now due c mem days
  have positive : ∃ count, (clampUptimeDays days).toNat = count + 1 :=
    Nat.exists_eq_succ_of_ne_zero (by have := (clampUptimeDays_bounds days).1; omega)
  obtain ⟨count, positive⟩ := positive
  rw [served, servedUnpurged, daily_eq mem, daily_eq mem, positive, range_succ_eq_map]
  simp only [map_cons, head?_cons, Nat.cast_zero, zero_mul, sub_zero,
    entry_today sound.aligned fun row mem => sound.day_lt due mem, some.injEq,
    Prod.mk.injEq, true_and]
  split
  next open_ =>
    rcases sound.kept c mem with intact | ⟨last, last_mem, ⟨since, early, agree⟩ | gone⟩
    · exact congrArg (dayValue · _ _) intact
    · exact agree.dayValue_eq (early.trans_le (dayOf_mono (due last last_mem)))
    · -- the container was gone before today
      have gone := gone_of_le (dayOf_mono (due last last_mem)) gone
      exact absurd (le_closingSecond_today open_) (not_le.mpr gone)
  · rfl

end

variable {t : StateTransition}

theorem rowsOf_record (fresh : archive.store.transitions.lookup t.id = none) (id : ContainerId) :
    (archive.record t).rowsOf id = archive.rowsOf id ++ transitionsOf id [t] := by
  have items : (archive.record t).store.transitions.items =
      archive.store.transitions.items ++ [t] := upsert_items_of_fresh fresh
  rw [rowsOf, items, transitionsOf, filter_append]
  rfl

theorem Sound.record (sound : archive.Sound)
    (fresh : archive.store.transitions.lookup t.id = none) : (archive.record t).Sound where
  aligned := sound.aligned
  past := sound.past
  current settled last last_mem row row_mem latest recent c mem here open_ := by
    obtain ⟨settled, present⟩ := Bool.or_eq_false_iff.mp settled
    have kept := sound.current settled last last_mem row row_mem latest recent c mem here open_
    have after : row.day + secondsPerDay ≤ t.timestamp := by
      by_contra before
      exact of_decide_eq_false present ⟨row.day, latest, Int.not_le.mp before⟩
    rw [rowsOf_record fresh]
    by_cases own : t.containerId = c.id
    · rw [transitionsOf, filter_singleton, decide_eq_true own, cond_true,
        dayValue_append after]
      exact kept
    · rw [transitionsOf, filter_singleton, decide_eq_false own, cond_false, append_nil]
      exact kept
  kept c mem := by
    have history : transitionsOf c.id (archive.record t).history =
        transitionsOf c.id archive.history ++ transitionsOf c.id [t] := filter_append _ _
    rw [Kept, rowsOf_record fresh, history]
    rcases sound.kept c mem with intact | ⟨last, last_mem, ⟨since, early, agree⟩ | gone⟩
    · exact .inl (congrArg (· ++ _) intact)
    · exact .inr ⟨last, last_mem, .inl ⟨since, early, agree.append⟩⟩
    · exact .inr ⟨last, last_mem, .inr gone⟩

theorem Sound.next {next : ContainerArchive} {action : ContainerAction} (sound : archive.Sound)
    (spares : archive.Spares action) (taken : archive.next action = some next) : next.Sound := by
  cases action with
  | transition =>
    obtain ⟨fresh, ⟨⟩⟩ := ite_none_right_eq_some.mp taken
    exact sound.record fresh
  | retention _ fails =>
    obtain ⟨due, ⟨⟩⟩ := ite_none_right_eq_some.mp taken
    cases fails with
    | true => exact sound
    | false => exact sound.retention due spares

end Passes

/-- If no pass purges a state that a day still begins in, the current day is served as if nothing
had been purged, and a pass over aggregates that are up to date changes nothing that is served. -/
theorem container_uptime_kept_when_states_spared (store : ContainerStore)
    (actions : List ContainerAction) (spared : Guarded next Spares (.of store) actions) :
    Always next (fun archive => archive.TodayKept ∧
      ∀ now, archive.Due now → archive.Spares (.retention now false) → archive.UpToDate now →
        archive.PassesUnseen now) (.of store) actions := by
  refine always_of_guarded Sound (fun sound spares taken => sound.next spares taken) ?_
    Sound.of spared
  intro archive sound
  exact ⟨sound.todayKept, fun now due spares upToDate => sound.passesUnseen due spares upToDate⟩

/-! ### A container that exits after three quiet months -/

section Scenario

private def web : Container := ⟨⟨"local", "web"⟩, .running, none, false, false, none⟩

private def webStore : ContainerStore := ⟨(Keyed.empty Container.id).insert web, .empty _, 0⟩

private def webChange (number : Nat) (before after : ContainerState) (timestamp : Int) :
    ContainerAction :=
  .transition ⟨.fresh number, web.id, before, after, none, none, none, timestamp⟩

/-- A pass so many seconds after the start of a day. -/
private def passAt (day second : Int) : Int := (day * secondsPerDay + second) * nanosPerSecond

/-- The container restarts on day 130, and is quiet for two months. -/
private def quietActions : List ContainerAction :=
  [webChange 0 .created .running (100 * secondsPerDay),
    webChange 1 .running .exited (130 * secondsPerDay + 21600),
    webChange 2 .exited .running (130 * secondsPerDay + 25200),
    .retention (passAt 131 3600) false, .retention (passAt 200 43200) false]

theorem container_uptime_kept_over_quiet_months : Guarded next Spares (.of webStore) quietActions ∧
      Always next (fun archive => archive.TodayKept ∧
        ∀ now, archive.Due now → archive.Spares (.retention now false) → archive.UpToDate now →
          archive.PassesUnseen now) (.of webStore) quietActions := by
  have spared : Guarded next Spares (.of webStore) quietActions := by decide +kernel
  exact ⟨spared, container_uptime_kept_when_states_spared webStore quietActions spared⟩

/-- The container runs from day 10 on and exits on day 200. -/
private def exitActions : List ContainerAction :=
  [webChange 0 .created .running (10 * secondsPerDay), .retention (passAt 11 0) false,
    .retention (passAt 199 0) false,
    webChange 1 .running .exited (200 * secondsPerDay + 21600)]

/-- The pass at noon of the day of the exit purges the state the day began in. -/
theorem exit_after_quiet_months_forgets_running :
    (run next (.of webStore) exitActions).map (fun archive =>
        ((archive.served web.id 1 (passAt 200 43200)).map fun entry =>
            entry.2.map DayUptime.percent,
          ((archive.retention (passAt 200 43200)).served web.id 1 (passAt 200 43200)).map
            fun entry => entry.2.map DayUptime.percent)) = some ([some 50], [some 0]) := by
  decide +kernel

end Scenario

end ContainerArchive

end Maintenant.Uptime
