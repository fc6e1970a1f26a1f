import Maintenant.Endpoints.Store
import Maintenant.StableSort
import Maintenant.Uptime.Daily

/-!
# Daily uptime of endpoints

The uptime of an endpoint over a day is the share of its checks that succeeded; an incident is a
failed check after a successful one.
-/

namespace Maintenant.Uptime

open Agent (unix nanosPerSecond)
open Endpoints List StableSort

/-- `checkCount`: the checks of one day. -/
structure CheckCount where
  day : Int
  up : Nat
  total : Nat
  incidents : Nat

/-- `checkDays`: the tally so far. -/
structure CheckDays where
  prev : Option Bool
  counts : Keyed CheckCount.day

def CheckCount.add (count : CheckCount) (prev : Option Bool) (up : Bool) : CheckCount :=
  { count with
    up := if up then count.up + 1 else count.up
    total := count.total + 1
    incidents := if !up && prev == some true then count.incidents + 1 else count.incidents }

/-- `add`.  A check before the window is only remembered. -/
def CheckDays.add (from_ : Int) (tally : CheckDays) (row : CheckRow) : CheckDays where
  prev := some row.success
  counts :=
    if from_ ≤ row.timestamp then
      let day := startOfDay row.timestamp
      tally.counts.upsert
        (((tally.counts.lookup day).getD ⟨day, 0, 0, 0⟩).add tally.prev row.success)
    else tally.counts

/-- `newCheckDays`. -/
def CheckDays.empty : CheckDays := ⟨none, .empty _⟩

def CheckDays.result (tally : CheckDays) : List (Int × DayUptime) :=
  tally.counts.items.map fun count =>
    (count.day, ⟨roundPercent count.up count.total, count.incidents⟩)

/-- `endpointDays`, which looks a day back for the check before the first one. -/
def endpointDays (rows : List CheckRow) (from_ to_ : Int) : List (Int × DayUptime) :=
  ((StableSort.sortOn CheckRow.timestamp
    (rows.filter fun row => from_ - secondsPerDay ≤ row.timestamp ∧ row.timestamp < unix to_)).foldl
      (CheckDays.add from_) .empty).result

def checksOn (day : Int) (rows : List CheckRow) : List CheckRow :=
  rows.filter fun row => startOfDay row.timestamp = day

/-- The percentage of checks that succeeded. -/
def checkPercent (checks : List CheckRow) : Float :=
  roundPercent (checks.countP CheckRow.success) checks.length

variable {value : DayUptime} {tally : CheckDays} {row : CheckRow}

section Tally

variable {rows : List CheckRow} {from_ to_ day : Int}

/-- A check is counted on its own day. -/
theorem lookup_add (inside : from_ ≤ day) :
    (tally.add from_ row).counts.lookup day = if startOfDay row.timestamp = day then
        some (((tally.counts.lookup day).getD ⟨day, 0, 0, 0⟩).add tally.prev row.success)
      else tally.counts.lookup day := by
  have own : ∀ key, (((tally.counts.lookup key).getD ⟨key, 0, 0, 0⟩).add tally.prev
      row.success).day = key := by
    intro key
    cases found : tally.counts.lookup key with
    | none => rfl
    | some => exact (Keyed.lookup_eq_some.mp found).2
  rw [CheckDays.add]
  by_cases here : startOfDay row.timestamp = day
  · have counted : from_ ≤ row.timestamp := inside.trans (here ▸ startOfDay_le row.timestamp)
    simp only [counted, if_true, here, Keyed.lookup_upsert, own]
  · split
    · rw [Keyed.lookup_upsert, own, if_neg (fun same => here same.symm)]
    · rfl

theorem checksOn_append (others : List CheckRow) :
    checksOn day (rows ++ others) = checksOn day rows ++ checksOn day others :=
  filter_append _ _

theorem mem_checksOn : row ∈ checksOn day rows ↔ row ∈ rows ∧ startOfDay row.timestamp = day := by
  simp only [checksOn, mem_filter, decide_eq_true_eq]

theorem lookup_tally (inside : from_ ≤ day) :
    ((rows.foldl (CheckDays.add from_) .empty).counts.lookup day).map
        (fun count => (count.up, count.total)) = if checksOn day rows = [] then none
      else some ((checksOn day rows).countP CheckRow.success, (checksOn day rows).length) := by
  induction rows using reverseRecOn with
  | nil => rfl
  | append_singleton rows row ih =>
    rw [foldl_append, foldl_cons, foldl_nil, checksOn_append, lookup_add inside]
    by_cases here : startOfDay row.timestamp = day
    · -- the check is counted on this day
      have alone : checksOn day [row] = [row] := by
        rw [checksOn, filter_singleton, decide_eq_true here]
        rfl
      rw [if_pos here, alone]
      cases found : (rows.foldl (CheckDays.add from_) .empty).counts.lookup day with
      | none =>
        rw [found] at ih
        have unchecked : checksOn day rows = [] := by
          by_contra checked
          rw [if_neg checked] at ih
          cases ih
        cases up : row.success with
        | true | false => simp [unchecked, CheckCount.add, up]
      | some =>
        rw [found, Option.map_some] at ih
        have checked : checksOn day rows ≠ [] := by
          intro unchecked
          rw [if_pos unchecked] at ih
          cases ih
        rw [if_neg checked, Option.some.injEq, Prod.mk.injEq] at ih
        obtain ⟨ups, totals⟩ := ih
        cases up : row.success with
        | true | false => simp [CheckCount.add, up, ups, totals]
    · -- the check is of another day or before the window
      have alone : checksOn day [row] = [] := by
        rw [checksOn, filter_singleton, decide_eq_false here]
        rfl
      rw [alone, append_nil, ← ih, if_neg here]

theorem mem_result : (day, value) ∈ tally.result ↔ ∃ count, tally.counts.lookup day = some count ∧
      value = ⟨roundPercent count.up count.total, count.incidents⟩ := by
  rw [CheckDays.result, mem_map]
  constructor
  · rintro ⟨count, mem, same⟩
    obtain ⟨rfl, rfl⟩ := Prod.mk.inj same
    exact ⟨count, Keyed.lookup_eq_some.mpr ⟨mem, rfl⟩, rfl⟩
  · rintro ⟨count, found, rfl⟩
    obtain ⟨mem, rfl⟩ := Keyed.lookup_eq_some.mp found
    exact ⟨count, mem, rfl⟩

/-- The tally of a window. -/
def windowTally (rows : List CheckRow) (from_ to_ : Int) : CheckDays :=
  (between CheckRow.timestamp (from_ - secondsPerDay) (unix to_) rows).foldl (CheckDays.add from_)
    .empty

theorem mem_endpointDays : (day, value) ∈ endpointDays rows from_ to_ ↔
      ∃ count, (windowTally rows from_ to_).counts.lookup day = some count ∧
        value = ⟨roundPercent count.up count.total, count.incidents⟩ :=
  mem_result

theorem eq_of_mem_endpointDays {other : DayUptime}
    (mem : (day, value) ∈ endpointDays rows from_ to_)
    (other_mem : (day, other) ∈ endpointDays rows from_ to_) : other = value := by
  obtain ⟨count, found, rfl⟩ := mem_endpointDays.mp mem
  obtain ⟨other_count, other_found, rfl⟩ := mem_endpointDays.mp other_mem
  rw [found] at other_found
  rw [Option.some.inj other_found]

theorem checksOn_window (rows : List CheckRow) (inside : from_ ≤ day)
    (whole : day + secondsPerDay ≤ unix to_) :
    (checksOn day (StableSort.sortOn CheckRow.timestamp (rows.filter fun row =>
      from_ - secondsPerDay ≤ row.timestamp ∧ row.timestamp < unix to_))).Perm
        (checksOn day rows) := by
  have sorted := (perm_insertionSort (fun left right : CheckRow =>
    left.timestamp ≤ right.timestamp) (rows.filter fun row =>
      from_ - secondsPerDay ≤ row.timestamp ∧ row.timestamp < unix to_)).filter
        fun row => startOfDay row.timestamp = day
  refine sorted.trans (Perm.of_eq ?_)
  rw [filter_filter]
  refine filter_congr ?_
  intro row _
  by_cases here : startOfDay row.timestamp = day
  · have started := startOfDay_le row.timestamp
    have ended := lt_startOfDay_add row.timestamp
    have read : from_ - secondsPerDay ≤ row.timestamp ∧ row.timestamp < unix to_ := by
      omega
    simp [read]
  · simp [here]

theorem counts_endpointDays (rows : List CheckRow) (inside : from_ ≤ day)
    (whole : day + secondsPerDay ≤ unix to_) :
    ((windowTally rows from_ to_).counts.lookup day).map (fun count => (count.up, count.total)) =
      if checksOn day rows = [] then none
      else some ((checksOn day rows).countP CheckRow.success, (checksOn day rows).length) := by
  have same := checksOn_window rows inside whole
  rw [windowTally, lookup_tally inside, between, same.countP_eq]
  simp only [← length_eq_zero_iff, same.length_eq]

theorem percent_of_mem_endpointDays (inside : from_ ≤ day)
    (whole : day + secondsPerDay ≤ unix to_) (mem : (day, value) ∈ endpointDays rows from_ to_) :
    value.percent = checkPercent (checksOn day rows) := by
  obtain ⟨count, found, rfl⟩ := mem_endpointDays.mp mem
  have counts := counts_endpointDays rows inside whole
  rw [found] at counts
  split at counts
  · cases counts
  · obtain ⟨ups, totals⟩ := Prod.mk.inj (Option.some.inj counts)
    rw [checkPercent, ← ups, ← totals]

theorem exists_mem_endpointDays (inside : from_ ≤ day) (whole : day + secondsPerDay ≤ unix to_)
    (checked : checksOn day rows ≠ []) : ∃ value, (day, value) ∈ endpointDays rows from_ to_ := by
  have counts := counts_endpointDays rows inside whole
  rw [if_neg checked] at counts
  obtain ⟨count, found, -⟩ := Option.map_eq_some_iff.mp counts
  exact ⟨_, mem_endpointDays.mpr ⟨count, found, rfl⟩⟩

theorem exists_check_of_count : ∀ count ∈ (rows.foldl (CheckDays.add from_) .empty).counts,
      ∃ row ∈ rows, from_ ≤ row.timestamp ∧ startOfDay row.timestamp = count.day := by
  induction rows using reverseRecOn with
  | nil => exact fun count mem => absurd mem (Keyed.not_mem_empty count)
  | append_singleton rows row ih =>
    intro count mem
    have earlier : ∀ old ∈ (rows.foldl (CheckDays.add from_) .empty).counts,
        ∃ first ∈ rows ++ [row], from_ ≤ first.timestamp ∧
          startOfDay first.timestamp = old.day := by
      intro old old_mem
      obtain ⟨first, first_mem, same⟩ := ih old old_mem
      exact ⟨first, mem_append_left [row] first_mem, same⟩
    rw [foldl_append, foldl_cons, CheckDays.add] at mem
    split at mem
    next inside =>
      rcases Keyed.mem_upsert.mp mem with ⟨old, -⟩ | rfl
      · exact earlier count old
      refine ⟨row, mem_append_right _ (mem_singleton_self row), inside, ?_⟩
      cases found : (rows.foldl (CheckDays.add from_) .empty).counts.lookup
          (startOfDay row.timestamp) with
      | none => rfl
      | some old => exact (Keyed.lookup_eq_some.mp found).2.symm
    · exact earlier count mem

theorem day_of_mem_endpointDays (aligned : secondsPerDay ∣ from_)
    (mem : (day, value) ∈ endpointDays rows from_ to_) :
    secondsPerDay ∣ day ∧ from_ ≤ day ∧ day < unix to_ := by
  obtain ⟨count, found, -⟩ := mem_endpointDays.mp mem
  obtain ⟨counted, rfl⟩ := Keyed.lookup_eq_some.mp found
  obtain ⟨row, row_mem, inside, same⟩ := exists_check_of_count count counted
  have read := (mem_filter.mp (mem_sortOn.mp row_mem)).2
  rw [decide_eq_true_eq] at read
  rw [← same]
  simp only [startOfDay, secondsPerDay] at *
  omega

/-! ### Windows -/

theorem lookup_foldl_of_ne (tally : CheckDays) (inside : from_ ≤ day)
    (elsewhere : ∀ row ∈ rows, startOfDay row.timestamp ≠ day) :
    (rows.foldl (CheckDays.add from_) tally).counts.lookup day = tally.counts.lookup day := by
  induction rows generalizing tally with
  | nil => rfl
  | cons row rows ih =>
    obtain ⟨here, rest⟩ := forall_mem_cons.mp elsewhere
    rw [foldl_cons, ih _ rest, lookup_add inside, if_neg here]

variable {other_from other_to : Int}

theorem lookup_foldl_congr {other : CheckDays} (inside : from_ ≤ day)
    (other_inside : other_from ≤ day) (prev : tally.prev = other.prev)
    (counts : tally.counts.lookup day = other.counts.lookup day) :
    (rows.foldl (CheckDays.add from_) tally).counts.lookup day =
      (rows.foldl (CheckDays.add other_from) other).counts.lookup day := by
  induction rows generalizing tally other with
  | nil => exact counts
  | cons row rows ih =>
    refine ih rfl ?_
    rw [lookup_add inside, lookup_add other_inside, counts, prev]

theorem prev_foldl :
    (rows.foldl (CheckDays.add from_) .empty).prev = rows.getLast?.map CheckRow.success := by
  induction rows using reverseRecOn with
  | nil => rfl
  | append_singleton =>
    rw [foldl_append, getLast?_concat]
    rfl

/-- How the last check before a day went, as far as it is looked for. -/
def lastBefore (rows : List CheckRow) (since day : Int) : Option Bool :=
  (between CheckRow.timestamp since day rows).getLast?.map CheckRow.success

theorem lookup_window (rows : List CheckRow) (inside : from_ ≤ day)
    (whole : day + secondsPerDay ≤ unix to_) : (windowTally rows from_ to_).counts.lookup day =
        ((between CheckRow.timestamp day (day + secondsPerDay) rows).foldl (CheckDays.add from_)
        ⟨lastBefore rows (from_ - secondsPerDay) day, .empty _⟩).counts.lookup day := by
  have back : from_ - secondsPerDay ≤ day ∧ day ≤ day + secondsPerDay := by
    simp only [secondsPerDay]
    omega
  rw [windowTally, between_append back.1 (back.2.trans whole),
    between_append back.2 whole, foldl_append, foldl_append, lookup_foldl_of_ne _ inside]
  · refine lookup_foldl_congr inside inside prev_foldl ?_
    rw [lookup_foldl_of_ne _ inside]
    · rfl
    intro row mem same
    have := startOfDay_le row.timestamp
    have := (mem_between.mp mem).2.2
    omega
  · intro row mem same
    have := lt_startOfDay_add row.timestamp
    have := (mem_between.mp mem).2.1
    omega

theorem exists_percent (inside : from_ ≤ day) (whole : day + secondsPerDay ≤ unix to_)
    (percent : Float) : (∃ incidents, (day, ⟨percent, incidents⟩) ∈ endpointDays rows from_ to_) ↔
      checksOn day rows ≠ [] ∧ percent = checkPercent (checksOn day rows) := by
  constructor
  · rintro ⟨incidents, mem⟩
    refine ⟨fun unchecked => ?_, percent_of_mem_endpointDays inside whole mem⟩
    obtain ⟨count, found, -⟩ := mem_endpointDays.mp mem
    have counts := counts_endpointDays rows inside whole
    rw [found, if_pos unchecked] at counts
    cases counts
  · rintro ⟨checked, rfl⟩
    obtain ⟨⟨percent, incidents⟩, mem⟩ := exists_mem_endpointDays inside whole checked
    exact ⟨incidents, percent_of_mem_endpointDays inside whole mem ▸ mem⟩

/-- A day is worth the same in all windows that hold it, but for an incident it begins with, which
is counted where the check before it is found. -/
theorem endpointDays_window (rows : List CheckRow) (inside : from_ ≤ day)
    (whole : day + secondsPerDay ≤ unix to_) (other_inside : other_from ≤ day)
    (other_whole : day + secondsPerDay ≤ unix other_to) :
    (∀ percent, (∃ incidents, (day, ⟨percent, incidents⟩) ∈ endpointDays rows from_ to_) ↔
      ∃ incidents, (day, ⟨percent, incidents⟩) ∈ endpointDays rows other_from other_to) ∧
    (lastBefore rows (from_ - secondsPerDay) day = lastBefore rows
    (other_from - secondsPerDay) day →
      ∀ value, (day, value) ∈ endpointDays rows from_ to_ ↔
        (day, value) ∈ endpointDays rows other_from other_to) := by
  refine ⟨fun percent => ?_, fun last value => ?_⟩
  · rw [exists_percent inside whole, exists_percent other_inside other_whole]
  have same :=
    (lookup_window rows inside whole).trans (lookup_foldl_congr inside other_inside rfl rfl)
  rw [last, ← lookup_window rows other_inside other_whole] at same
  exact mem_endpointDays.trans (same ▸ mem_endpointDays.symm)

private def siteCheck (number : Nat) (success : Bool) (timestamp : Int) : CheckRow :=
  ⟨.fresh number, ⟨"", "site", "0"⟩, success, 20, none, "", timestamp⟩

theorem endpointDays_window_of_checks :
    let rows := [siteCheck 0 true 86000, siteCheck 1 false 87000]
    let to_ := 172800 * nanosPerSecond
    (86400, (⟨0, 1⟩ : DayUptime)) ∈ endpointDays rows 0 to_ ↔
      (86400, (⟨0, 1⟩ : DayUptime)) ∈ endpointDays rows 86400 to_ :=
  (endpointDays_window _ (by decide) (by decide) (by decide) (by decide)).2 (by decide) _

/-- After two days without checks the day begins with a failure. -/
theorem incident_depends_on_window :
    let rows := [siteCheck 0 true 86000, siteCheck 1 false 260000]
    let to_ := 345600 * nanosPerSecond
    endpointDays rows 0 to_ = [(0, ⟨100, 0⟩), (259200, ⟨0, 1⟩)] ∧
      endpointDays rows 259200 to_ = [(259200, ⟨0, 0⟩)] := by
  decide +kernel

end Tally

end Maintenant.Uptime
