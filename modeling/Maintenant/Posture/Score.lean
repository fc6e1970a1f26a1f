import Mathlib.Algebra.BigOperators.Field
import Mathlib.Algebra.Order.BigOperators.Group.Finset
import Mathlib.Algebra.Order.Round
import Mathlib.Data.Rat.Floor
import Mathlib.Tactic.Linarith

/-!
# The score of a container

The weights of the categories that apply are scaled up to 100, and every term is rounded before it
is added, so the score is the rounded average only as long as the roundings cancel out.
-/

namespace Maintenant.Posture

/-- What a container is scored by. -/
inductive Category
  | tls
  | cves
  | updates
  | networkExposure
  | imageAge
  deriving DecidableEq

def Category.weight : Category → Nat
  | tls => 20
  | cves => 30
  | updates => 15
  | networkExposure => 25
  | imageAge => 10

open Finset

/-- The subscores of a container; a category without one does not apply. -/
abbrev Subscores := Category → Option Nat

namespace Subscores

variable (scores : Subscores)

def applicable : Finset Category :=
  {c ∈ {.tls, .cves, .updates, .networkExposure, .imageAge} | (scores c).isSome}

def subScore (c : Category) : Nat := (scores c).getD 0

def totalWeight : Nat := ∑ c ∈ scores.applicable, c.weight

/-- The term of a category before it is rounded. -/
def term (c : Category) : ℚ :=
  let adjustedWeight : ℚ := c.weight / scores.totalWeight * 100
  scores.subScore c * adjustedWeight / 100

def weightedSum : Int := ∑ c ∈ scores.applicable, round (scores.term c)

/-- The total score of `computeContainerScore`; `none` when no category applies. -/
def computeContainerScore : Option Int :=
  if scores.applicable = ∅ then none
  else
    let weightedSum := if 100 < scores.weightedSum then 100 else scores.weightedSum
    some (if weightedSum < 0 then 0 else weightedSum)

def weightedAverage : ℚ :=
  (∑ c ∈ scores.applicable, (c.weight * scores.subScore c : ℚ)) / scores.totalWeight

/-- The weighted subscore of a category, which the total weight divides. -/
def points (c : Category) : Nat := c.weight * scores.subScore c

/-- What is left when the total weight divides the points of a category. -/
def residue (c : Category) : Nat := scores.points c % scores.totalWeight

/-- The categories whose terms are rounded up: at least half a point is left. -/
def roundedUp : Finset Category :=
  {c ∈ scores.applicable | scores.totalWeight ≤ 2 * scores.residue c}

/-- The whole points in what is left of all categories together, to the nearest. -/
def carried : Nat :=
  (2 * ∑ c ∈ scores.applicable, scores.residue c + scores.totalWeight) / (2 * scores.totalWeight)

/-- The score is the rounded average, and between the lowest and the highest subscore. -/
def Averages : Prop :=
  ∃ score, scores.computeContainerScore = some score ∧ score = round scores.weightedAverage ∧
    ∀ low high : Nat,
      (∀ c ∈ scores.applicable, low ≤ scores.subScore c ∧ scores.subScore c ≤ high) →
        low ≤ score ∧ score ≤ high

variable {scores}

theorem term_eq (c : Category) : scores.term c = scores.points c / scores.totalWeight := by
  rw [term, points]
  push_cast
  ring

theorem weightedAverage_eq : scores.weightedAverage =
    (∑ c ∈ scores.applicable, scores.points c : Nat) / scores.totalWeight := by
  simp [weightedAverage, points]

theorem sum_term : ∑ c ∈ scores.applicable, scores.term c = scores.weightedAverage := by
  simp only [term_eq, weightedAverage_eq, Nat.cast_sum, sum_div]

/-- Every rounding adds half a point at most. -/
theorem abs_weightedSum_sub_le (scores : Subscores) :
    |scores.weightedSum - scores.weightedAverage| ≤ (scores.applicable.card : ℚ) / 2 := by
  rw [weightedSum, Int.cast_sum, ← sum_term, ← sum_sub_distrib]
  calc |∑ c ∈ scores.applicable, (round (scores.term c) - scores.term c)|
      ≤ ∑ c ∈ scores.applicable, |round (scores.term c) - scores.term c| := abs_sum_le_sum_abs _ _
    _ ≤ ∑ _c ∈ scores.applicable, 1 / 2 := by
        refine sum_le_sum fun c _ => ?_
        rw [abs_sub_comm]
        exact abs_sub_round _
    _ = scores.applicable.card / 2 := by
        rw [sum_const, nsmul_eq_mul]
        ring

section

variable (applies : scores.applicable ≠ ∅)
include applies

theorem totalWeight_pos : 0 < scores.totalWeight := by
  refine sum_pos (fun c _ => ?_) (nonempty_iff_ne_empty.mpr applies)
  cases c <;> decide

theorem weightedAverage_between {low high : Nat}
    (between : ∀ c ∈ scores.applicable, low ≤ scores.subScore c ∧ scores.subScore c ≤ high) :
    low ≤ scores.weightedAverage ∧ scores.weightedAverage ≤ high := by
  have positive : (0 : ℚ) < scores.totalWeight := Nat.cast_pos.mpr (totalWeight_pos applies)
  rw [weightedAverage_eq, le_div_iff₀ positive, div_le_iff₀ positive]
  norm_cast
  rw [totalWeight, mul_sum, mul_sum]
  constructor
  · refine sum_le_sum fun c mem => ?_
    rw [points, mul_comm]
    exact Nat.mul_le_mul_left c.weight (between c mem).1
  · refine sum_le_sum fun c mem => ?_
    rw [points, mul_comm]
    exact Nat.mul_le_mul_right c.weight (between c mem).2

theorem round_div_totalWeight (n : Nat) : round (n / scores.totalWeight : ℚ) =
    ((2 * n + scores.totalWeight) / (2 * scores.totalWeight) : Nat) := by
  have positive := totalWeight_pos applies
  have halves : (n / scores.totalWeight + 1 / 2 : ℚ) =
      (2 * n + scores.totalWeight : Nat) / (2 * scores.totalWeight : Nat) := by
    push_cast
    field_simp
  rw [round_eq, halves]
  exact_mod_cast Rat.floor_natCast_div_natCast _ _

/-- Whole points stay out of the rounding. -/
theorem round_whole_add (whole left : Nat) :
    round ((whole * scores.totalWeight + left : Nat) / scores.totalWeight : ℚ) =
      (whole + (2 * left + scores.totalWeight) / (2 * scores.totalWeight) : Nat) := by
  have positive := totalWeight_pos applies
  rw [round_div_totalWeight applies, Nat.add_comm whole, ← Nat.add_mul_div_right _ _ (by omega)]
  congr 2
  ring

/-- A term is rounded up when at least half a point is left of it. -/
theorem round_term (c : Category) : round (scores.term c) = (scores.points c / scores.totalWeight +
    if scores.totalWeight ≤ 2 * scores.residue c then 1 else 0 : Nat) := by
  have less : scores.residue c < scores.totalWeight := Nat.mod_lt _ (totalWeight_pos applies)
  rw [term_eq, ← Nat.div_add_mod' (scores.points c) scores.totalWeight, round_whole_add applies,
    Nat.div_add_mod', ← residue]
  congr 2
  split
  · exact Nat.div_eq_of_lt_le (by omega) (by omega)
  · exact Nat.div_eq_of_lt (by omega)

theorem weightedSum_eq : scores.weightedSum =
    (∑ c ∈ scores.applicable, scores.points c / scores.totalWeight + scores.roundedUp.card :
      Nat) := by
  rw [weightedSum, roundedUp, card_filter, ← sum_add_distrib, Nat.cast_sum]
  exact sum_congr rfl fun c _ => round_term applies c

theorem round_weightedAverage : round scores.weightedAverage =
    (∑ c ∈ scores.applicable, scores.points c / scores.totalWeight + scores.carried : Nat) := by
  rw [weightedAverage_eq, carried, ← round_whole_add applies, sum_mul, ← sum_add_distrib]
  simp only [residue, Nat.div_add_mod']

/-- Both clamps of `computeContainerScore`; the sum is never negative. -/
theorem computeContainerScore_eq :
    scores.computeContainerScore = some (min 100 scores.weightedSum) := by
  have nonneg := weightedSum_eq applies
  rw [computeContainerScore, if_neg applies, min_def]
  grind

theorem round_weightedAverage_between {low high : Nat}
    (all : ∀ c ∈ scores.applicable, low ≤ scores.subScore c ∧ scores.subScore c ≤ high) :
    low ≤ round scores.weightedAverage ∧ round scores.weightedAverage ≤ high := by
  obtain ⟨above, below⟩ := weightedAverage_between applies all
  rw [round_eq, Int.le_floor, ← Int.lt_add_one_iff, Int.floor_lt]
  push_cast
  constructor <;> linarith

theorem hundred_le_round_iff : 100 ≤ round scores.weightedAverage ↔
    199 * scores.totalWeight ≤ 2 * ∑ c ∈ scores.applicable, scores.points c := by
  have positive : (0 : ℚ) < scores.totalWeight := Nat.cast_pos.mpr (totalWeight_pos applies)
  rw [round_eq, Int.le_floor, ← sub_le_iff_le_add, weightedAverage_eq, le_div_iff₀ positive,
    ← Nat.cast_le (α := ℚ)]
  push_cast
  constructor <;> intro <;> linarith

end

/-- The score is the average exactly when as many terms are rounded up as their residues make whole
points, or the clamp hides the surplus; it is off by half a point a term at most. -/
theorem score_averages_iff (scores : Subscores) (applies : scores.applicable ≠ ∅)
    (bounded : ∀ c, scores.subScore c ≤ 100) :
    (scores.Averages ↔ scores.roundedUp.card = scores.carried ∨
      scores.carried < scores.roundedUp.card ∧
      199 * scores.totalWeight ≤ 2 * ∑ c ∈ scores.applicable, scores.points c) ∧
    ∀ score ∈ scores.computeContainerScore,
      |score - scores.weightedAverage| ≤ (scores.applicable.card : ℚ) / 2 := by
  have scored := computeContainerScore_eq applies
  constructor
  · have below : round scores.weightedAverage ≤ 100 :=
      (round_weightedAverage_between applies fun c _ => ⟨Nat.zero_le _, bounded c⟩).2
    have exactly : min 100 scores.weightedSum = round scores.weightedAverage ↔
        scores.roundedUp.card = scores.carried ∨
          scores.carried < scores.roundedUp.card ∧ 100 ≤ round scores.weightedAverage := by
      rw [weightedSum_eq applies, round_weightedAverage applies] at *
      omega
    rw [Averages, scored, ← hundred_le_round_iff applies, ← exactly]
    constructor
    · rintro ⟨_, ⟨⟩, equal, -⟩
      exact equal
    · intro equal
      exact ⟨_, rfl, equal, fun _ _ => equal ▸ round_weightedAverage_between applies⟩
  · rw [scored]
    rintro _ ⟨⟩
    have error := abs_le.mp (abs_weightedSum_sub_le scores)
    have below : scores.weightedAverage ≤ 100 :=
      (weightedAverage_between applies fun c _ => ⟨Nat.zero_le _, bounded c⟩).2
    push_cast
    rw [abs_le]
    grind

/-- With 53 and 51 on TLS and CVEs only the second term is rounded up, by as much as the first is
rounded down. -/
theorem two_categories_average : Averages <|
    Function.update (Function.update (fun _ => none) .tls (some 53)) .cves (some 51) := by
  refine (score_averages_iff _ (by decide) fun c => ?_).1.mpr (by decide)
  cases c <;> decide

/-- Five subscores of 50 make a score of 51. -/
theorem fifty_scores_fifty_one : computeContainerScore (fun _ => some 50) = some 51 ∧
    round (weightedAverage fun _ => some 50) = 50 := by
  decide +kernel

end Subscores

end Maintenant.Posture
