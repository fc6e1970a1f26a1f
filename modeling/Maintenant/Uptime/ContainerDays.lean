import Maintenant.Containers.Store
import Maintenant.StableSort
import Maintenant.Uptime.Daily

/-!
# Daily uptime of a container

The uptime of a day is the share of its time that the container spent up, starting from the state
that the last transition before the window left it in.  A day is worth the same in every window that
holds it: what matters is the last transition before the day and those of the day.
-/

namespace Maintenant.Uptime

open Agent (unix nanosPerSecond)
open Containers List
open StableSort

/-- `isUp`: the transition leaves the container up. -/
def isUp (t : StateTransition) : Bool := t.newState = .running ∧ t.newHealth ≠ some .unhealthy

def wasUp (t : StateTransition) : Bool :=
  t.previousState = .running ∧ t.previousHealth ≠ some .unhealthy

def instant (t : StateTransition) : Int := t.timestamp * nanosPerSecond

/-- Whether the container is up at an instant: what the last transition until then left. -/
def upAt (transitions : List StateTransition) (at_ : Int) : Bool :=
  (transitions.filter fun t => instant t ≤ at_).getLast?.any isUp

/-- When the state a transition left ends, at the end of the window at the latest. -/
def nextChange (rest : List StateTransition) (to_ : Int) : Int :=
  match rest with
  | next :: _ => min (instant next) to_
  | [] => to_

/-- The stretches of `[from, to)` spent up. -/
def upSpans (from_ to_ : Int) : List StateTransition → List Int
  | [] => []
  | t :: rest =>
    let span := nextChange rest to_ - max (instant t) from_
    if 0 < span ∧ isUp t then span :: upSpans from_ to_ rest else upSpans from_ to_ rest

/-- `Duration.Seconds`. -/
def seconds (duration : Int) : Float :=
  .ofInt (duration.tdiv nanosPerSecond) + .ofInt (duration.tmod nanosPerSecond) / 1000000000

/-- The percentage that spans make of a time, cut off after two decimals. -/
def cutPercent (spans : List Int) (total : Int) : Float :=
  let upSeconds := spans.foldl (fun sum span => sum + seconds span) 0
  let pct := upSeconds / seconds total * 100
  let pct := if 100 < pct then 100 else pct
  (pct * 100).toUInt64.toFloat / 100

/-- `ComputeUptime`.  `Seconds` keeps the sign of a duration, so durations are compared as such. -/
def computeUptime (transitions : List StateTransition) (from_ to_ : Int) : Float :=
  if to_ ≤ from_ then 0
  else if transitions = [] then 100
  else cutPercent (upSpans from_ to_ transitions) (to_ - from_)

def countContainerIncidents (transitions : List StateTransition) (from_ to_ : Int) : Nat :=
  (transitions.filter fun t =>
    (from_ ≤ instant t ∧ instant t < to_) ∧ wasUp t ∧ !isUp t).length

def overDay (transitions : List StateTransition) (start dayEnd : Int) : DayUptime where
  percent := computeUptime transitions start dayEnd
  incidents := countContainerIncidents transitions start dayEnd

def seedOf (rows : List StateTransition) (second : Int) : Option StateTransition :=
  (sortOn StateTransition.timestamp (rows.filter fun t => t.timestamp < second)).getLast?

/-- The transitions of `[from, to)` in order. -/
def inWindow (rows : List StateTransition) (from_ to_ : Int) : List StateTransition :=
  sortOn StateTransition.timestamp
    (rows.filter fun t => from_ ≤ t.timestamp ∧ t.timestamp < to_)

/-- The first second that does not begin before an instant. -/
def ceilUnix (instant : Int) : Int := -(-instant / nanosPerSecond)

/-- The value of one day of a window whose data begin at a second. -/
def containerDay (transitions : List StateTransition) (dataStart to_ day : Int) :
    Option DayUptime :=
  let dayEnd := min ((day + secondsPerDay) * nanosPerSecond) to_
  let start := max day dataStart * nanosPerSecond
  if dayEnd ≤ start then none else some (overDay transitions start dayEnd)

/-- `containerDays`, over the transitions of the container. -/
def containerDays (rows : List StateTransition) (from_ to_ : Int) : List (Int × DayUptime) :=
  if to_ ≤ from_ * nanosPerSecond then []
  else
    match seedOf rows from_, inWindow rows from_ (unix to_) with
    | some seed, later =>
      eachDay from_ (ceilUnix to_) (containerDay (seed :: later) from_ to_)
    | none, first :: later =>
      eachDay from_ (ceilUnix to_) (containerDay (first :: later) first.timestamp to_)
    | none, [] => []

/-! ### What matters to a day -/

variable {t : StateTransition} {earlier : Int}

section Days

variable {front mid back rows : List StateTransition} {from_ to_ start dayEnd day : Int}

theorem nextChange_le (rest : List StateTransition) (to_ : Int) : nextChange rest to_ ≤ to_ := by
  cases rest with
  | nil => exact le_refl _
  | cons => exact min_le_right _ _

theorem upSpans_cons_of_le {rest : List StateTransition}
    (empty : nextChange rest to_ ≤ max (instant t) from_) :
    upSpans from_ to_ (t :: rest) = upSpans from_ to_ rest := by
  rw [upSpans, if_neg]
  omega

theorem upSpans_append_late (late : ∀ t ∈ back, to_ ≤ instant t) (nonempty : mid ≠ []) :
    upSpans from_ to_ (mid ++ back) = upSpans from_ to_ mid := by
  have nothing : upSpans from_ to_ back = [] := by
    induction back with
    | nil => rfl
    | cons t back ih =>
      obtain ⟨here, rest⟩ := forall_mem_cons.mp late
      rw [upSpans_cons_of_le, ih rest]
      exact (nextChange_le back to_).trans (here.trans (le_max_left _ _))
  induction mid with
  | nil => exact absurd rfl nonempty
  | cons t mid ih =>
    cases mid with
    | nil =>
      cases back with
      | nil => rfl
      | cons next back =>
        have ends : nextChange (next :: back) to_ = nextChange [] to_ :=
          min_eq_right (late next mem_cons_self)
        rw [singleton_append, upSpans, nothing, ends]
        rfl
    | cons =>
      rw [cons_append, upSpans, ih (cons_ne_nil _ _)]
      rfl

theorem upSpans_append_early (early : ∀ earlier ∈ front, instant earlier ≤ from_)
    (last : instant t ≤ from_) :
    upSpans from_ to_ (front ++ t :: mid) = upSpans from_ to_ (t :: mid) := by
  induction front with
  | nil => rfl
  | cons earlier front ih =>
    obtain ⟨-, rest⟩ := forall_mem_cons.mp early
    have ends : nextChange (front ++ t :: mid) to_ ≤ from_ := by
      cases front with
      | nil => exact (min_le_left _ _).trans last
      | cons next => exact (min_le_left _ _).trans (rest next mem_cons_self)
    rw [cons_append, upSpans_cons_of_le (ends.trans (le_max_right _ _)), ih rest]

theorem countContainerIncidents_append : countContainerIncidents (front ++ back) from_ to_ =
      countContainerIncidents front from_ to_ + countContainerIncidents back from_ to_ := by
  rw [countContainerIncidents, filter_append, length_append]
  rfl

theorem countContainerIncidents_outside {list : List StateTransition}
    (outside : ∀ t ∈ list, instant t < from_ ∨ to_ ≤ instant t) :
    countContainerIncidents list from_ to_ = 0 := by
  rw [countContainerIncidents, length_eq_zero_iff, filter_eq_nil_iff]
  intro t mem
  have := outside t mem
  simp only [decide_eq_true_eq]
  omega

theorem overDay_append_late (late : ∀ t ∈ back, dayEnd ≤ instant t) (nonempty : mid ≠ []) :
    overDay (mid ++ back) start dayEnd = overDay mid start dayEnd := by
  rw [overDay, overDay, computeUptime, computeUptime, upSpans_append_late late nonempty,
    countContainerIncidents_append, countContainerIncidents_outside fun t mem =>
      .inr (late t mem)]
  simp [nonempty]

theorem overDay_append_early
    (early : ∀ earlier ∈ front, instant earlier < start) (last : instant t ≤ start) :
    overDay (front ++ t :: mid) start dayEnd = overDay (t :: mid) start dayEnd := by
  rw [overDay, overDay, computeUptime, computeUptime,
    upSpans_append_early (fun earlier mem => (early earlier mem).le) last,
    countContainerIncidents_append, countContainerIncidents_outside fun t mem =>
      Or.inl (early t mem)]
  simp

theorem lt_ceilUnix {second instant : Int} :
    second < ceilUnix instant ↔ second * nanosPerSecond < instant := by
  rw [ceilUnix, nanosPerSecond]
  omega

theorem le_unix {second instant : Int} :
    second ≤ unix instant ↔ second * nanosPerSecond ≤ instant := by
  rw [unix, nanosPerSecond]
  omega

/-! ### The value of a day -/

/-- The value of a day whose window ends at an instant: the last transition before the day and those
of the day decide. -/
def dayValue (rows : List StateTransition) (to_ day : Int) : Option DayUptime :=
  let dayEnd := min ((day + secondsPerDay) * nanosPerSecond) to_
  match seedOf rows day, inWindow rows day (min (day + secondsPerDay) (unix to_)) with
  | some seed, later => some (overDay (seed :: later) (day * nanosPerSecond) dayEnd)
  | none, first :: later => some (overDay (first :: later) (instant first) dayEnd)
  | none, [] => none

theorem mem_inWindow :
    t ∈ inWindow rows from_ to_ ↔ t ∈ rows ∧ from_ ≤ t.timestamp ∧ t.timestamp < to_ :=
  mem_between

theorem inWindow_append {middle : Int} (first : from_ ≤ middle) (second : middle ≤ to_) :
    inWindow rows from_ to_ = inWindow rows from_ middle ++ inWindow rows middle to_ :=
  between_append first second

theorem before_append (le : earlier ≤ day) :
    sortOn StateTransition.timestamp (rows.filter fun t => t.timestamp < day) =
      sortOn StateTransition.timestamp (rows.filter fun t => t.timestamp < earlier) ++
        inWindow rows earlier day := by
  rw [sortOn_split earlier, filter_filter, filter_filter]
  congr 2
  · refine filter_congr ?_
    intro t _
    rw [← Bool.decide_and, decide_eq_decide]
    omega
  · refine filter_congr ?_
    intro t _
    rw [← Bool.decide_and]

theorem seedOf_eq (le : earlier ≤ day) :
    seedOf rows day = (inWindow rows earlier day).getLast?.or (seedOf rows earlier) := by
  rw [seedOf, before_append le, getLast?_append]
  rfl

theorem timestamp_seedOf {seed : StateTransition} (found : seedOf rows day = some seed) :
    seed ∈ rows ∧ seed.timestamp < day := by
  have mem := mem_sortOn.mp (mem_of_getLast? found)
  simpa using mem

theorem inWindow_days (after : from_ ≤ day) (before : day * nanosPerSecond < to_) :
    ∃ late, inWindow rows from_ (unix to_) = inWindow rows from_ day ++
          (inWindow rows day (min (day + secondsPerDay) (unix to_)) ++ late) ∧
      ∀ t ∈ late, day + secondsPerDay ≤ t.timestamp := by
  have reached : day ≤ unix to_ := le_unix.mpr before.le
  have ahead : day ≤ min (day + secondsPerDay) (unix to_) := by
    simp only [secondsPerDay]
    omega
  refine ⟨inWindow rows (min (day + secondsPerDay) (unix to_)) (unix to_), ?_, ?_⟩
  · rw [inWindow_append after reached, inWindow_append ahead (min_le_right _ _)]
  · intro t mem
    have := mem_inWindow.mp mem
    omega

theorem containerDay_of_le {transitions : List StateTransition} {dataStart : Int}
    (begun : dataStart ≤ day) (before : day * nanosPerSecond < to_) :
    containerDay transitions dataStart to_ day = some (overDay transitions (day * nanosPerSecond)
        (min ((day + secondsPerDay) * nanosPerSecond) to_)) := by
  have open_ : ¬min ((day + secondsPerDay) * nanosPerSecond) to_ ≤ day * nanosPerSecond := by
    simp only [secondsPerDay, nanosPerSecond] at before ⊢
    omega
  simp only [containerDay, max_eq_left begun, if_neg open_]

theorem overDay_carried (earlier : List StateTransition) {late : List StateTransition}
    {last : StateTransition} (early : ∀ t ∈ earlier ++ [last], t.timestamp < day)
    (after : ∀ t ∈ late, day + secondsPerDay ≤ t.timestamp) :
    overDay (earlier ++ last :: (mid ++ late)) (day * nanosPerSecond)
        (min ((day + secondsPerDay) * nanosPerSecond) to_) =
      overDay (last :: mid) (day * nanosPerSecond)
        (min ((day + secondsPerDay) * nanosPerSecond) to_) := by
  have past : ∀ t ∈ earlier ++ [last], instant t < day * nanosPerSecond := by
    intro t mem
    have := early t mem
    simp only [instant, nanosPerSecond]
    omega
  rw [overDay_append_early (fun t mem => past t (mem_append_left _ mem)) (past last (by simp)).le]
  refine overDay_append_late ?_ (cons_ne_nil _ _)
  intro t mem
  have := after t mem
  simp only [instant, nanosPerSecond]
  omega

theorem containerDays_eq (inside : day ∈ daysOf from_ (ceilUnix to_)) :
    valueOn (containerDays rows from_ to_) day = dayValue rows to_ day := by
  obtain ⟨after, before, -⟩ := mem_daysOf.mp inside
  have before : day * nanosPerSecond < to_ := lt_ceilUnix.mp before
  obtain ⟨late, whole, late_ts⟩ := inWindow_days after before
  have open_ : ¬to_ ≤ from_ * nanosPerSecond := by
    simp only [nanosPerSecond] at before ⊢
    omega
  have early_ts : ∀ t ∈ inWindow rows from_ day, t.timestamp < day :=
    fun t mem => (mem_inWindow.mp mem).2.2
  rw [containerDays, if_neg open_, whole, dayValue, seedOf_eq after]
  cases carried : seedOf rows from_ with
  | some seed =>
    have seed_ts : seed.timestamp < day := (timestamp_seedOf carried).2.trans_le after
    simp only [valueOn_eachDay, if_pos inside, containerDay_of_le after before]
    rcases eq_nil_or_concat' (inWindow rows from_ day) with nothing | ⟨earlier, last, ends⟩
    · rw [nothing]
      exact congrArg some (overDay_carried [] (by simpa using seed_ts) late_ts)
    rw [ends] at early_ts ⊢
    rw [append_assoc, getLast?_concat]
    refine congrArg some (overDay_carried (seed :: earlier) ?_ late_ts)
    exact forall_mem_cons.mpr ⟨seed_ts, early_ts⟩
  | none =>
    rcases eq_nil_or_concat' (inWindow rows from_ day) with nothing | ⟨earlier, last, ends⟩
    · -- the data begin with the first transition of the window
      rw [nothing]
      cases today : inWindow rows day (min (day + secondsPerDay) (unix to_)) with
      | nil =>
        cases late with
        | nil => rfl
        | cons first =>
          have begins := late_ts first mem_cons_self
          have none_yet : min ((day + secondsPerDay) * nanosPerSecond) to_ ≤
              max day first.timestamp * nanosPerSecond := by
            simp only [secondsPerDay, nanosPerSecond] at begins ⊢
            omega
          simp [valueOn_eachDay, inside, containerDay, none_yet]
      | cons first =>
        obtain ⟨-, begins, ends⟩ := mem_inWindow.mp (today ▸ mem_cons_self)
        have within : ¬min ((day + secondsPerDay) * nanosPerSecond) to_ ≤ instant first := by
          have ahead : first.timestamp + 1 ≤ unix to_ :=
            Int.add_one_le_of_lt (ends.trans_le (min_le_right _ _))
          have ahead := le_unix.mp ahead
          simp only [instant, secondsPerDay, nanosPerSecond] at ahead ends ⊢
          omega
        simp only [nil_append, cons_append, valueOn_eachDay, if_pos inside,
          containerDay, max_eq_right begins, getLast?_nil, Option.none_or]
        change (if _ ≤ instant first then _ else _) = _
        rw [if_neg within]
        refine congrArg some (overDay_append_late ?_ (cons_ne_nil _ _))
        intro t mem
        have := late_ts t mem
        simp only [instant, nanosPerSecond]
        omega
    · obtain ⟨first, others, first_ts, list_eq⟩ : ∃ first others, first.timestamp < day ∧
          inWindow rows from_ day ++
            (inWindow rows day (min (day + secondsPerDay) (unix to_)) ++ late) =
              first :: others := by
        cases early : inWindow rows from_ day with
        | nil => simp [early] at ends
        | cons first => exact ⟨first, _, early_ts first (by simp [early]), rfl⟩
      rw [list_eq]
      simp only [valueOn_eachDay, if_pos inside, containerDay_of_le first_ts.le before]
      rw [← list_eq]
      rw [ends] at early_ts ⊢
      rw [append_assoc, getLast?_concat]
      exact congrArg some (overDay_carried earlier early_ts late_ts)

theorem valueOn_containerDays : valueOn (containerDays rows from_ to_) day =
      if day ∈ daysOf from_ (ceilUnix to_) then dayValue rows to_ day else none := by
  by_cases inside : day ∈ daysOf from_ (ceilUnix to_)
  · rw [if_pos inside, containerDays_eq inside]
  rw [containerDays]
  split
  · rfl
  split
  · rw [valueOn_eachDay, if_neg inside]
  · rw [valueOn_eachDay, if_neg inside]
  · rfl

theorem mem_containerDays {value : DayUptime} : (day, value) ∈ containerDays rows from_ to_ ↔
      day ∈ daysOf from_ (ceilUnix to_) ∧ dayValue rows to_ day = some value := by
  have listed : (day, value) ∈ containerDays rows from_ to_ ↔
      valueOn (containerDays rows from_ to_) day = some value := by
    rw [containerDays]
    split
    · simp [valueOn]
    split
    · rw [mem_eachDay, valueOn_eachDay]
      split <;> simp [*]
    · rw [mem_eachDay, valueOn_eachDay]
      split <;> simp [*]
    · simp [valueOn]
  rw [listed, valueOn_containerDays]
  split <;> simp [*]

theorem dayValue_congr {other : Int} (same : min ((day + secondsPerDay) * nanosPerSecond) to_ =
      min ((day + secondsPerDay) * nanosPerSecond) other) :
    dayValue rows to_ day = dayValue rows other day := by
  have seconds : min (day + secondsPerDay) (unix to_) = min (day + secondsPerDay) (unix other) := by
    simp only [unix, nanosPerSecond] at same ⊢
    omega
  rw [dayValue, dayValue, same, seconds]

theorem dayValue_eq_none (before : day * nanosPerSecond < to_) : dayValue rows to_ day = none ↔
      ∀ t ∈ rows, min (day + secondsPerDay) (unix to_) ≤ t.timestamp := by
  have reached : day ≤ min (day + secondsPerDay) (unix to_) := by
    have := le_unix.mpr before.le
    simp only [secondsPerDay]
    omega
  have unseeded : seedOf rows day = none ↔ ∀ t ∈ rows, day ≤ t.timestamp := by
    rw [seedOf, getLast?_eq_none_iff, eq_nil_iff_forall_not_mem]
    simp [mem_sortOn]
  have empty : inWindow rows day (min (day + secondsPerDay) (unix to_)) = [] ↔
      ∀ t ∈ rows, day ≤ t.timestamp → min (day + secondsPerDay) (unix to_) ≤ t.timestamp := by
    rw [eq_nil_iff_forall_not_mem]
    simp only [mem_inWindow, not_and, not_lt]
  have both : dayValue rows to_ day = none ↔
      seedOf rows day = none ∧ inWindow rows day (min (day + secondsPerDay) (unix to_)) = [] := by
    rw [dayValue]
    split
    · simp [*]
    · simp [*]
    · simp [*]
  rw [both, unseeded, empty]
  constructor
  · rintro ⟨after, late⟩ t mem
    exact late t mem (after t mem)
  · intro late
    exact ⟨fun t mem => reached.trans (late t mem), fun t mem _ => late t mem⟩

theorem dayValue_none_of_subset {others : List StateTransition}
    (before : day * nanosPerSecond < to_)
    (subset : ∀ t ∈ others, t ∈ rows) (unseen : dayValue rows to_ day = none) :
    dayValue others to_ day = none := by
  rw [dayValue_eq_none before] at unseen ⊢
  exact fun t mem => unseen t (subset t mem)

/-- The rows agree on everything since a transition. -/
structure SameRowsSince (since : Int) (rows others : List StateTransition) : Prop where
  same : (rows.filter fun t => since ≤ t.timestamp) = others.filter fun t => since ≤ t.timestamp
  there : ∃ t ∈ rows, t.timestamp = since

variable {since : Int} {others : List StateTransition}

section

variable (agree : SameRowsSince since rows others)
include agree

theorem SameRowsSince.inWindow_eq (after : since ≤ from_) :
    inWindow rows from_ to_ = inWindow others from_ to_ := by
  have narrow : ∀ list : List StateTransition,
      (list.filter fun t => from_ ≤ t.timestamp ∧ t.timestamp < to_) =
        (list.filter fun t => since ≤ t.timestamp).filter fun t =>
          from_ ≤ t.timestamp ∧ t.timestamp < to_ := by
    intro list
    rw [filter_filter]
    refine filter_congr ?_
    intro t _
    rw [← Bool.decide_and, decide_eq_decide]
    omega
  rw [inWindow, inWindow, narrow rows, agree.same, ← narrow]

theorem SameRowsSince.dayValue_eq (after : since < day) :
    dayValue rows to_ day = dayValue others to_ day := by
  have seeds : seedOf rows day = seedOf others day := by
    obtain ⟨t, mem, here⟩ := agree.there
    have listed : t ∈ inWindow rows since day :=
      mem_inWindow.mpr ⟨mem, here.ge, here.trans_lt after⟩
    obtain ⟨last, found⟩ : ∃ last, (inWindow rows since day).getLast? = some last :=
      ⟨_, getLast?_eq_some_getLast (ne_nil_of_mem listed)⟩
    rw [seedOf_eq after.le, seedOf_eq after.le, ← agree.inWindow_eq (le_refl since), found,
      Option.some_or, Option.some_or]
  simp only [dayValue, seeds, agree.inWindow_eq after.le]

theorem SameRowsSince.trans {rest : List StateTransition}
    (other_agree : SameRowsSince earlier others rest) :
    SameRowsSince (max since earlier) rows rest := by
  have narrow : ∀ (list : List StateTransition) (bound : Int), bound ≤ max since earlier →
      (list.filter fun t => max since earlier ≤ t.timestamp) =
        (list.filter fun t => bound ≤ t.timestamp).filter fun t =>
          max since earlier ≤ t.timestamp := by
    intro list bound le
    rw [filter_filter]
    refine filter_congr ?_
    intro t _
    rw [← Bool.decide_and, decide_eq_decide]
    omega
  refine ⟨?_, ?_⟩
  · rw [narrow rows since (le_max_left _ _), agree.same, ← narrow others since (le_max_left _ _),
      narrow others earlier (le_max_right _ _), other_agree.same,
      ← narrow rest earlier (le_max_right _ _)]
  rcases le_total earlier since with le | le
  · rw [max_eq_left le]
    exact agree.there
  rw [max_eq_right le]
  obtain ⟨t, mem, here⟩ := other_agree.there
  have listed : t ∈ others.filter fun t => since ≤ t.timestamp :=
    mem_filter.mpr ⟨mem, decide_eq_true (here ▸ le)⟩
  rw [← agree.same] at listed
  exact ⟨t, mem_of_mem_filter listed, here⟩

theorem SameRowsSince.append {new : List StateTransition} :
    SameRowsSince since (rows ++ new) (others ++ new) := by
  refine ⟨by rw [filter_append, filter_append, agree.same], ?_⟩
  obtain ⟨t, mem, here⟩ := agree.there
  exact ⟨t, mem_append_left _ mem, here⟩

end

theorem dayValue_append (late : day + secondsPerDay ≤ t.timestamp) :
    dayValue (rows ++ [t]) to_ day = dayValue rows to_ day := by
  have after : ¬t.timestamp < day := by
    simp only [secondsPerDay] at late
    omega
  have outside : ¬(day ≤ t.timestamp ∧
      t.timestamp < min (day + secondsPerDay) (unix to_)) := by omega
  have seeds : seedOf (rows ++ [t]) day = seedOf rows day := by
    simp [seedOf, after]
  have window : inWindow (rows ++ [t]) day (min (day + secondsPerDay) (unix to_)) =
      inWindow rows day (min (day + secondsPerDay) (unix to_)) := by
    simp only [inWindow, filter_append, filter_singleton, decide_eq_false outside]
    simp
  simp only [dayValue, seeds, window]

end Days

end Maintenant.Uptime
