import Mathlib.Data.Int.Interval
import Mathlib.Data.Int.SuccPred
import Mathlib.Data.Int.ConditionallyCompleteOrder
import Mathlib.Algebra.BigOperators.Group.Finset.Basic

/-!
# Days

The uptime of a monitor over one UTC day, days as the seconds at which they begin, and the time two
stretches share.
-/

namespace Maintenant.Uptime

/-- The value of a monitor for one day. -/
structure DayUptime where
  percent : Float
  incidents : Nat
  deriving DecidableEq

/-- `math.Round` of a number that is not negative. -/
def mathRound (x : Float) : Float :=
  let whole := x.toUInt64.toFloat
  if 0.5 ≤ x - whole then whole + 1 else whole

/-- The share as a percentage, rounded to two decimals. -/
def roundPercent (share whole : Int) : Float :=
  mathRound (.ofInt share / .ofInt whole * 10000) / 100

def secondsPerDay : Int := 86400

/-- `startOfUTCDay`. -/
def startOfDay (ts : Int) : Int := ts / secondsPerDay * secondsPerDay

theorem startOfDay_le (ts : Int) : startOfDay ts ≤ ts := by
  simp only [startOfDay, secondsPerDay]
  omega

theorem lt_startOfDay_add (ts : Int) : ts < startOfDay ts + secondsPerDay := by
  simp only [startOfDay, secondsPerDay]
  omega

/-- The days of `[from, to)`, `from` being the beginning of one. -/
def daysOf (from_ to_ : Int) : List Int :=
  (List.range ((to_ - from_ + secondsPerDay - 1) / secondsPerDay).toNat).map fun index : Nat =>
    from_ + (index : Int) * secondsPerDay

theorem mem_daysOf {from_ to_ day : Int} : day ∈ daysOf from_ to_ ↔
      from_ ≤ day ∧ day < to_ ∧ secondsPerDay ∣ day - from_ := by
  simp only [daysOf, List.mem_map, List.mem_range, secondsPerDay]
  constructor
  · rintro ⟨index, bound, rfl⟩
    refine ⟨by omega, by omega, ⟨index, by omega⟩⟩
  · rintro ⟨after, before, index, offset⟩
    exact ⟨index.toNat, by omega, by omega⟩

/-- How much of `[from, to)` lies in `[start, end)`. -/
def overlap (from_ to_ start end_ : Int) : Int := max 0 (min to_ end_ - max from_ start)

theorem overlap_eq_card (from_ to_ start end_ : Int) : overlap from_ to_ start end_ =
      ((Finset.Ico start end_).filter fun second => from_ ≤ second ∧ second < to_).card := by
  have same : ((Finset.Ico start end_).filter fun second => from_ ≤ second ∧ second < to_) =
      Finset.Ico (max from_ start) (min to_ end_) := by
    ext second
    simp only [Finset.mem_filter, Finset.mem_Ico, max_le_iff, lt_min_iff]
    tauto
  rw [same, Int.card_Ico, overlap]
  omega

end Maintenant.Uptime
