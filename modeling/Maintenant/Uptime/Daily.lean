import Maintenant.Agent.Event
import Maintenant.Keyed
import Maintenant.Uptime.Days

/-!
# Daily aggregates

Completed days are aggregated into a table by the rollup that starts every retention pass, and
served from there; days that are not aggregated yet are computed from the raw rows.  Days are the
seconds at which they begin, instants are nanoseconds.
-/

namespace Maintenant.Uptime

open List Option
open Agent (unix nanosPerSecond)

/-- A row of an `uptime_daily` table. -/
structure UptimeRow (μ : Type) where
  monitor : μ
  day : Int
  value : DayUptime
  deriving DecidableEq

def UptimeRow.key {μ : Type} (row : UptimeRow μ) : μ × Int := (row.monitor, row.day)

abbrev UptimeTable (μ : Type) := Keyed (UptimeRow.key (μ := μ))

/-- `computeDays`: the uptime of a monitor for each day from a day on up to an instant. -/
abbrev ComputeDays (μ : Type) := μ → Int → Int → List (Int × DayUptime)

def valueOn (days : List (Int × DayUptime)) (day : Int) : Option DayUptime :=
  (days.find? fun entry => entry.1 = day).map Prod.snd

/-- The values of the days of `[from, to)` that have one. -/
def eachDay (from_ to_ : Int) (value : Int → Option DayUptime) : List (Int × DayUptime) :=
  (daysOf from_ to_).filterMap fun day => (value day).map fun uptime => (day, uptime)

theorem valueOn_eachDay (from_ to_ : Int) (value : Int → Option DayUptime) (day : Int) :
    valueOn (eachDay from_ to_ value) day = if day ∈ daysOf from_ to_ then value day else none := by
  rw [eachDay, valueOn]
  induction daysOf from_ to_ with
  | nil => rfl
  | cons first days ih =>
    rw [filterMap_cons]
    cases found : value first with
    | none =>
      rw [map_none, ih]
      by_cases here : day = first
      · simp [here, found]
      · simp [here]
    | some =>
      rw [map_some, find?_cons]
      by_cases here : first = day
      · simp [here, ← found]
      · have elsewhere : day ≠ first := fun same => here same.symm
        simp only [here, mem_cons, elsewhere, false_or]
        exact ih

theorem mem_eachDay {from_ to_ day : Int} {value : Int → Option DayUptime} {uptime : DayUptime} :
    (day, uptime) ∈ eachDay from_ to_ value ↔ day ∈ daysOf from_ to_ ∧ value day = some uptime := by
  simp only [eachDay, mem_filterMap, map_eq_some_iff, Prod.mk.injEq]
  constructor
  · rintro ⟨_, mem, _, found, rfl, rfl⟩
    exact ⟨mem, found⟩
  · rintro ⟨mem, found⟩
    exact ⟨day, mem, uptime, found, rfl, rfl⟩

def lastDay {μ : Type} (table : UptimeTable μ) : Option Int :=
  (table.items.map UptimeRow.day).max?

variable {μ : Type} {table : UptimeTable μ}

theorem lastDay_eq_some {last : Int} : lastDay table = some last ↔
      (∃ row ∈ table, row.day = last) ∧ ∀ row ∈ table, row.day ≤ last := by
  rw [lastDay, List.max?_eq_some_iff, List.forall_mem_map, List.mem_map]
  exact .rfl

theorem lastDay_eq_none : lastDay table = none ↔ ∀ row, row ∉ table := by
  rw [lastDay, max?_eq_none_iff, map_eq_nil_iff, eq_nil_iff_forall_not_mem]
  exact .rfl

/-- Where the rollup starts: at the last aggregated day, but not before the first day whose raw rows
no purge has touched. -/
def rollupFrom {μ : Type} (table : UptimeTable μ) (now rawRetention : Int) : Int :=
  let untouched := startOfDay (unix (now - rawRetention)) + secondsPerDay
  match lastDay table with
  | some last => max untouched last
  | none => untouched

theorem day_le_rollupFrom {now rawRetention : Int} {row : UptimeRow μ}
    (mem : row ∈ table) : row.day ≤ rollupFrom table now rawRetention := by
  rw [rollupFrom]
  cases last : lastDay table with
  | none => exact absurd mem (lastDay_eq_none.mp last row)
  | some => exact ((lastDay_eq_some.mp last).2 row mem).trans (le_max_right _ _)

theorem dvd_startOfDay {second : Int} : secondsPerDay ∣ startOfDay second :=
  ⟨second / secondsPerDay, Int.mul_comm _ _⟩

section Rollup

variable {now rawRetention day : Int}

theorem rollupFrom_cases : let start := startOfDay (unix (now - rawRetention)) + secondsPerDay
    (rollupFrom table now rawRetention = start ∧ ∀ row ∈ table, row.day ≤ start) ∨
      lastDay table = some (rollupFrom table now rawRetention) ∧
        start ≤ rollupFrom table now rawRetention := by
  intro start
  rw [rollupFrom]
  cases last : lastDay table with
  | none => exact .inl ⟨rfl, fun row mem => absurd mem (lastDay_eq_none.mp last row)⟩
  | some day =>
    dsimp only
    rcases le_total day start with early | late
    · rw [max_eq_left early]
      exact .inl ⟨rfl, fun row mem => ((lastDay_eq_some.mp last).2 row mem).trans early⟩
    · rw [max_eq_right late]
      exact .inr ⟨rfl, late⟩

/-- The days before the rollup are those before the last aggregated one or those of which rows may
have been purged. -/
theorem lt_rollupFrom (before : day < rollupFrom table now rawRetention) :
    day < startOfDay (unix (now - rawRetention)) + secondsPerDay ∨
      ∃ row ∈ table, day < row.day := by
  rcases rollupFrom_cases with ⟨start, -⟩ | ⟨last, -⟩
  · exact .inl (start ▸ before)
  · obtain ⟨row, mem, latest⟩ := (lastDay_eq_some.mp last).1
    exact .inr ⟨row, mem, latest ▸ before⟩

theorem dvd_rollupFrom (aligned : ∀ row ∈ table, secondsPerDay ∣ row.day) (now rawRetention : Int) :
    secondsPerDay ∣ rollupFrom table now rawRetention := by
  rcases rollupFrom_cases with ⟨start, -⟩ | ⟨last, -⟩
  · rw [start]
    exact Int.dvd_add dvd_startOfDay (Int.dvd_refl _)
  · obtain ⟨row, mem, latest⟩ := (lastDay_eq_some.mp last).1
    exact latest ▸ aligned row mem

theorem untouched_le_rollupFrom (table : UptimeTable μ) (now rawRetention : Int) :
    startOfDay (unix (now - rawRetention)) + secondsPerDay ≤ rollupFrom table now rawRetention := by
  rcases rollupFrom_cases with ⟨start, -⟩ | ⟨-, later⟩
  · exact start.ge
  · exact later

end Rollup

section Tables

variable [DecidableEq μ]

/-- The rows the rollup writes for one monitor, which may have stopped existing at some second. -/
def rollupRows (compute : ComputeDays μ) (from_ today : Int) (monitor : μ × Option Int) :
    List (UptimeRow μ) :=
  let to_ := match monitor.2 with
    | some until_ => min until_ today
    | none => today
  if to_ ≤ from_ then []
  else (compute monitor.1 from_ (to_ * nanosPerSecond)).map fun entry =>
    ⟨monitor.1, entry.1, entry.2⟩

/-- `rollup`: aggregate the completed days of every monitor. -/
def rollup (compute : ComputeDays μ) (monitors : List (μ × Option Int)) (now rawRetention : Int)
    (table : UptimeTable μ) : UptimeTable μ :=
  (monitors.flatMap
    (rollupRows compute (rollupFrom table now rawRetention) (startOfDay (unix now)))).foldl
      Keyed.insert table

def maxUptimeDays : Int := 365

def clampUptimeDays (days : Int) : Int :=
  if days ≤ 0 then 90 else if days > maxUptimeDays then maxUptimeDays else days

def windowStart (days now : Int) : Int :=
  startOfDay (unix now) - (clampUptimeDays days - 1) * secondsPerDay

def storedDays (table : UptimeTable μ) (id : μ) (from_ to_ : Int) : List (Int × DayUptime) :=
  (table.items.filter fun row => row.monitor = id ∧ from_ ≤ row.day ∧ row.day < to_).map fun row =>
    (row.day, row.value)

/-- The first day that is computed: the one after the last stored. -/
def computeFrom (stored : List (Int × DayUptime)) (windowStart : Int) : Int :=
  stored.foldl (fun from_ entry => max from_ (entry.1 + secondsPerDay)) windowStart

/-- `daily`: one entry per day up to the day of now, most recent first. -/
def daily (compute : ComputeDays μ) (table : UptimeTable μ) (id : μ) (days now : Int) :
    List (Int × Option DayUptime) :=
  let today := startOfDay (unix now)
  let start := windowStart days now
  let stored := storedDays table id start today
  let computed := compute id (computeFrom stored start) now
  (List.range (clampUptimeDays days).toNat).map fun index : Nat =>
    let day := today - (index : Int) * secondsPerDay
    (day, (valueOn stored day).or (valueOn computed day))

/-! ### Rows and days -/

def aggregate (table : UptimeTable μ) (id : μ) (day : Int) : Option DayUptime :=
  (table.lookup (id, day)).map UptimeRow.value

variable {id : μ} {day : Int}

variable {value : DayUptime}

theorem aggregate_eq_some : aggregate table id day = some value ↔ ⟨id, day, value⟩ ∈ table := by
  rw [aggregate, map_eq_some_iff]
  constructor
  · rintro ⟨row, found, rfl⟩
    obtain ⟨mem, same⟩ := Keyed.lookup_eq_some.mp found
    obtain ⟨rfl, rfl⟩ := Prod.mk.inj same
    exact mem
  · intro mem
    exact ⟨_, Keyed.lookup_eq_some.mpr ⟨mem, rfl⟩, rfl⟩

theorem aggregate_insert_of_unwritten {rows : List (UptimeRow μ)}
    (unwritten : ∀ value, ⟨id, day, value⟩ ∉ rows) :
    aggregate (rows.foldl Keyed.insert table) id day = aggregate table id day := by
  refine congrArg (Option.map UptimeRow.value) (Keyed.lookup_foldl_insert_of_ne ?_)
  rintro ⟨_, _, value⟩ mem same
  obtain ⟨rfl, rfl⟩ := Prod.mk.inj same
  exact unwritten value mem

theorem mem_storedDays {from_ to_ : Int} : (day, value) ∈ storedDays table id from_ to_ ↔
      aggregate table id day = some value ∧ from_ ≤ day ∧ day < to_ := by
  rw [aggregate_eq_some]
  simp only [storedDays, List.mem_map, List.mem_filter, decide_eq_true_eq, Prod.mk.injEq]
  constructor
  · rintro ⟨row, ⟨mem, rfl, inside⟩, rfl, rfl⟩
    exact ⟨mem, inside⟩
  · rintro ⟨mem, inside⟩
    exact ⟨_, ⟨mem, rfl, inside⟩, rfl, rfl⟩

theorem valueOn_storedDays (from_ to_ : Int) : valueOn (storedDays table id from_ to_) day =
      if from_ ≤ day ∧ day < to_ then aggregate table id day else none := by
  apply ext
  intro value
  have listed : ∀ {value}, valueOn (storedDays table id from_ to_) day = some value →
      (day, value) ∈ storedDays table id from_ to_ := by
    intro value found
    obtain ⟨⟨_, _⟩, entry, rfl⟩ := map_eq_some_iff.mp found
    have same := find?_some entry
    rw [decide_eq_true_eq] at same
    exact same ▸ mem_of_find?_eq_some entry
  constructor
  · intro found
    obtain ⟨here, inside⟩ := mem_storedDays.mp (listed found)
    rw [if_pos inside]
    exact here
  intro found
  have inside : from_ ≤ day ∧ day < to_ := by
    by_contra outside
    rw [if_neg outside] at found
    cases found
  rw [if_pos inside] at found
  have mem := mem_storedDays.mpr ⟨found, inside⟩
  obtain ⟨other, other_found⟩ :
      ∃ other, valueOn (storedDays table id from_ to_) day = some other := by
    rw [← isSome_iff_exists, valueOn, isSome_map, find?_isSome]
    exact ⟨_, mem, decide_eq_true rfl⟩
  have same : some other = some value := (mem_storedDays.mp (listed other_found)).1.symm.trans found
  rw [other_found, same]

variable {stored : List (Int × DayUptime)} {start : Int}

theorem computeFrom_le : computeFrom stored start ≤ day ↔
      start ≤ day ∧ ∀ entry ∈ stored, entry.1 + secondsPerDay ≤ day := by
  rw [computeFrom]
  induction stored generalizing start with
  | nil => simp
  | cons entry stored ih =>
    rw [foldl_cons, ih, max_le_iff, forall_mem_cons, and_assoc]

theorem dvd_computeFrom (aligned : secondsPerDay ∣ start)
    (all : ∀ entry ∈ stored, secondsPerDay ∣ entry.1) :
    secondsPerDay ∣ computeFrom stored start := by
  induction stored generalizing start with
  | nil => exact aligned
  | cons entry stored ih =>
    obtain ⟨first, rest⟩ := forall_mem_cons.mp all
    refine ih ?_ rest
    dsimp only
    rcases max_choice start (entry.1 + secondsPerDay) with left | right
    · rw [left]
      exact aligned
    · rw [right]
      exact Int.dvd_add first (Int.dvd_refl _)

end Tables

end Maintenant.Uptime
