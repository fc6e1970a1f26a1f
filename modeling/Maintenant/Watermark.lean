import Mathlib.Data.List.Chain
import Mathlib.Order.MinMax

/-!
# Cumulative marks over a first-in first-out channel

A sender holds numbered items and sends them over a channel, from the oldest on and again after a
rewind; a receiver counts some of what arrives and returns a mark.  A mark is safe when every item
at or below it that is still held has been counted.  The channel carries this over when no item is
sent past a held one that was neither sent just before nor counted.
-/

namespace Watermark

variable {α : Type*} [LinearOrder α]

/-- Every held item at or below the mark is counted. -/
def Covered (held counted : Set α) (mark : α) : Prop :=
  ∀ item ∈ held, item ≤ mark → item ∈ counted

/-- Every held item below the mark is counted. -/
def CoveredBelow (held counted : Set α) (mark : α) : Prop :=
  ∀ item ∈ held, item < mark → item ∈ counted

/-- The channel may carry `next` right after `previous`. -/
def Follows (held counted : Set α) (previous next : α) : Prop :=
  ∀ item ∈ held, item < next → item ≤ previous ∨ item ∈ counted

/-- The channel, after an item that has already arrived. -/
def Paced (held counted : Set α) (arrived : α) (channel : List α) : Prop :=
  (arrived :: channel).IsChain (Follows held counted)

/-- Items are let go, or come in above `top`. -/
def Renewed (top : α) (held held' : Set α) : Prop :=
  ∀ item ∈ held', item ∈ held ∨ top < item

variable {held held' counted counted' : Set α} {top mark previous next arrived : α}
  {channel : List α}

theorem Renewed.refl : Renewed top held held := fun _ => .inl

theorem Covered.mono (covered : Covered held counted mark) (renewed : Renewed top held held')
    (grown : counted ⊆ counted') (below : mark ≤ top) : Covered held' counted' mark := by
  intro item mem passed
  rcases renewed item mem with old | new
  · exact grown (covered item old passed)
  · exact absurd (passed.trans below) (not_le.mpr new)

theorem CoveredBelow.mono (covered : CoveredBelow held counted mark)
    (renewed : Renewed top held held') (grown : counted ⊆ counted') (below : mark ≤ top) :
    CoveredBelow held' counted' mark := by
  intro item mem passed
  rcases renewed item mem with old | new
  · exact grown (covered item old passed)
  · exact absurd (passed.le.trans below) (not_le.mpr new)

theorem CoveredBelow.of_le {lower : α} (covered : CoveredBelow held counted mark)
    (le : lower ≤ mark) : CoveredBelow held counted lower :=
  fun item mem passed => covered item mem (passed.trans_le le)

theorem CoveredBelow.covered (below : CoveredBelow held counted mark) (this : mark ∈ counted) :
    Covered held counted mark := by
  intro item mem passed
  rcases passed.lt_or_eq with lower | rfl
  · exact below item mem lower
  · exact this

theorem Covered.max {left right : α} (covered_left : Covered held counted left)
    (covered_right : Covered held counted right) : Covered held counted (max left right) := by
  rcases max_choice left right with same | same
  · rw [same]
    exact covered_left
  · rw [same]
    exact covered_right

theorem Covered.follows (covered : Covered held counted previous)
    (follows : Follows held counted previous next) : CoveredBelow held counted next := by
  intro item mem passed
  rcases follows item mem passed with early | done
  · exact covered item mem early
  · exact done

theorem Follows.mono (follows : Follows held counted previous next)
    (renewed : Renewed top held held') (grown : counted ⊆ counted') (below : next ≤ top) :
    Follows held' counted' previous next := by
  intro item mem passed
  rcases renewed item mem with old | new
  · exact (follows item old passed).imp_right fun done => grown done
  · exact absurd (passed.le.trans below) (not_le.mpr new)

theorem Paced.nil (held counted : Set α) (arrived : α) : Paced held counted arrived [] :=
  List.isChain_singleton arrived

theorem Paced.mono (paced : Paced held counted arrived channel)
    (renewed : Renewed top held held') (grown : counted ⊆ counted')
    (below : ∀ item ∈ channel, item ≤ top) : Paced held' counted' arrived channel := by
  refine List.IsChain.imp_of_mem_tail_imp ?_ paced
  intro previous next _ next_mem follows
  exact follows.mono renewed grown (below next next_mem)

theorem Paced.send (paced : Paced held counted arrived channel)
    (follows : Follows held counted (channel.getLastD arrived) next) :
    Paced held counted arrived (channel ++ [next]) := by
  rw [Paced, ← List.cons_append, List.isChain_append]
  refine ⟨paced, List.isChain_singleton next, ?_⟩
  intro last last_mem first first_mem
  have at_end : channel.getLastD arrived = last := by
    rw [List.getLast?_cons, ← List.getLastD_eq_getLast?] at last_mem
    exact Option.some.inj last_mem
  obtain rfl : first = next := by simpa using first_mem.symm
  rwa [at_end] at follows

theorem Paced.arrive (paced : Paced held counted arrived (next :: channel)) :
    Follows held counted arrived next ∧ Paced held counted next channel :=
  List.isChain_cons_cons.mp paced

end Watermark
