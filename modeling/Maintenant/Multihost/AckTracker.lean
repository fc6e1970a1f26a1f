import Maintenant.Agent.Event
import Maintenant.Watermark

/-!
# The acknowledgement tracker

One tracker serves one stream.  It raises its watermark with every numbered event the server takes
and freezes it below the first one the server refuses, until the agent replays from there.
-/

namespace Maintenant.Multihost

open Agent

/-- Accepted events after which an acknowledgement is due. -/
def ackEvery : Nat := 100

/-- Time after which an acknowledgement is due. -/
def ackInterval : Int := 5 * nanosPerSecond

/-- Decides which event sequence a stream may acknowledge. -/
structure AckTracker where
  accepted : Nat := 0
  highest : Nat := 0
  /-- Refused sequence the watermark is frozen on, zero when it is not. -/
  refused : Nat := 0
  acked : Nat := 0
  lastAck : Int
  deriving DecidableEq

variable {seq : Nat} {tracker : AckTracker} {now : Int}

namespace AckTracker

def newAckTracker (now : Int) : AckTracker := { lastAck := now }

/-- Record an event the server took.  An unnumbered event never moves the watermark. -/
def accept (seq : Nat) (tracker : AckTracker) : AckTracker :=
  let tracker := { tracker with accepted := tracker.accepted + 1 }
  if seq = 0 then
    tracker
  else if 0 < tracker.refused then
    if tracker.refused < seq then tracker
    else { tracker with refused := 0, highest := seq }
  else
    { tracker with highest := max tracker.highest seq }

/-- Freeze the watermark below `seq` until the agent replays from there. -/
def refuse (seq : Nat) (tracker : AckTracker) : AckTracker :=
  if seq = 0 then tracker
  else if tracker.refused = 0 ∨ seq < tracker.refused then { tracker with refused := seq }
  else tracker

/-- The sequence to acknowledge when it is past the last one. -/
def pending (tracker : AckTracker) : Option Nat :=
  if tracker.highest ≤ tracker.acked then none else some tracker.highest

/-- The sequence to acknowledge once an event is handled, if one is owed. -/
def afterEvent (now : Int) (tracker : AckTracker) : Option Nat :=
  if tracker.accepted % ackEvery ≠ 0 ∧ now - tracker.lastAck < ackInterval then none
  else tracker.pending

def sent (seq : Nat) (now : Int) (tracker : AckTracker) : AckTracker :=
  { tracker with acked := seq, lastAck := now }

/-- Accepting `seq` sets or raises the watermark. -/
def counts (seq : Nat) (tracker : AckTracker) : Bool :=
  decide (seq ≠ 0) && (decide (tracker.refused = 0) || decide (seq ≤ tracker.refused))

/-- Refusing `seq` freezes the watermark on it. -/
def freezes (seq : Nat) (tracker : AckTracker) : Bool :=
  decide (seq ≠ 0) && (decide (tracker.refused = 0) || decide (seq < tracker.refused))

theorem pending_eq_some (owed : tracker.pending = some seq) :
    seq = tracker.highest ∧ tracker.acked < seq := by
  rw [pending] at owed
  split at owed
  · cases owed
  · cases owed
    omega

theorem pending_of_afterEvent
    (owed : tracker.afterEvent now = some seq) : tracker.pending = some seq := by
  rw [afterEvent] at owed
  split at owed
  · cases owed
  · exact owed

theorem accept_acked (seq : Nat) (tracker : AckTracker) :
    (tracker.accept seq).acked = tracker.acked := by
  simp only [accept]
  split_ifs <;> rfl

theorem accept_cases (tracker : AckTracker) (numbered : seq ≠ 0) :
    tracker.refused = 0 ∧ (tracker.accept seq).highest = max tracker.highest seq ∧
        (tracker.accept seq).refused = 0 ∨
      tracker.refused ≠ 0 ∧ seq ≤ tracker.refused ∧ (tracker.accept seq).highest = seq ∧
        (tracker.accept seq).refused = 0 ∨ tracker.refused ≠ 0 ∧ tracker.refused < seq ∧
        (tracker.accept seq).highest = tracker.highest ∧
        (tracker.accept seq).refused = tracker.refused := by
  simp only [accept, if_neg numbered]
  split_ifs <;> simp <;> omega

theorem refuse_cases (tracker : AckTracker) (numbered : seq ≠ 0) :
    tracker.freezes seq ∧ tracker.refuse seq = { tracker with refused := seq } ∨
      tracker.freezes seq = false ∧ tracker.refused ≠ 0 ∧ tracker.refused ≤ seq ∧
        tracker.refuse seq = tracker := by
  simp only [refuse, freezes]
  split_ifs <;> simp [numbered] <;> omega

/-! ## Safety of the watermark -/

/-- What the tracker knows about the rows the agent holds, after `arrived` was the last numbered
event of its stream. -/
structure Safe (held counted : Set Nat) (arrived : Nat) (tracker : AckTracker) : Prop where
  highest : Watermark.Covered held counted tracker.highest
  /-- So is everything that arrived, while the watermark is not frozen. -/
  unfrozen : tracker.refused = 0 → Watermark.Covered held counted arrived
  /-- A frozen watermark is safe up to the refused event. -/
  frozen : tracker.refused ≠ 0 → Watermark.CoveredBelow held counted tracker.refused

namespace Safe

variable {held held' counted counted' : Set Nat} {arrived : Nat}

theorem new (positive : ∀ item ∈ held, 0 < item) (now : Int) :
    Safe held counted 0 (newAckTracker now) := by
  have none_below : Watermark.Covered held counted 0 := by
    intro item mem passed
    have := positive item mem
    omega
  exact ⟨none_below, fun _ => none_below, fun frozen => absurd rfl frozen⟩

section

variable (safe : Safe held counted arrived tracker)
include safe

theorem mono {top : Nat} (renewed : Watermark.Renewed top held held') (grown : counted ⊆ counted')
    (arrived_le : arrived ≤ top) (highest_le : tracker.highest ≤ top)
    (refused_le : tracker.refused ≤ top) : Safe held' counted' arrived tracker where
  highest := safe.highest.mono renewed grown highest_le
  unfrozen := fun open_mark => (safe.unfrozen open_mark).mono renewed grown arrived_le
  frozen := fun frozen => (safe.frozen frozen).mono renewed grown refused_le

theorem accept (numbered : seq ≠ 0) (follows : Watermark.Follows held counted arrived seq)
    (grown : counted ⊆ counted') (counted_seq : tracker.counts seq → seq ∈ counted') :
    Safe held counted' seq (tracker.accept seq) := by
  have same : Watermark.Renewed seq held held := Watermark.Renewed.refl
  have highest : Watermark.Covered held counted' tracker.highest :=
    safe.highest.mono Watermark.Renewed.refl grown (le_rfl)
  rcases tracker.accept_cases numbered with ⟨unfrozen, raised, still⟩ | ⟨frozen, replayed, set,
    lifted⟩ | ⟨frozen, beyond, kept, still⟩
  · have this := counted_seq (by simp [counts, numbered, unfrozen])
    have below := ((safe.unfrozen unfrozen).follows follows).mono same grown (le_rfl)
    have here := below.covered this
    refine ⟨?_, fun _ => here, fun frozen => absurd still frozen⟩
    rw [raised]
    exact highest.max here
  · have this := counted_seq (by simp [counts, numbered, replayed])
    have below := ((safe.frozen frozen).of_le replayed).mono same grown (le_rfl)
    have here := below.covered this
    refine ⟨?_, fun _ => here, fun frozen => absurd lifted frozen⟩
    rw [set]
    exact here
  · refine ⟨?_, ?_, ?_⟩
    · rw [kept]
      exact highest
    · rw [still]
      exact fun open_mark => absurd open_mark frozen
    · rw [still]
      exact fun _ => (safe.frozen frozen).mono Watermark.Renewed.refl grown (le_rfl)

theorem refuse (numbered : seq ≠ 0) (follows : Watermark.Follows held counted arrived seq) :
    Safe held counted seq (tracker.refuse seq) := by
  rcases tracker.refuse_cases numbered with ⟨freezes, set⟩ | ⟨-, frozen, below, same⟩
  · rw [set]
    refine ⟨safe.highest, fun open_mark => absurd open_mark numbered, fun _ => ?_⟩
    by_cases unfrozen : tracker.refused = 0
    · exact (safe.unfrozen unfrozen).follows follows
    · simp only [AckTracker.freezes, unfrozen, numbered, ne_eq, not_false_eq_true, decide_true,
        decide_false, Bool.true_and, Bool.false_or, decide_eq_true_eq] at freezes
      exact (safe.frozen unfrozen).of_le freezes.le
  · rw [same]
    exact ⟨safe.highest, fun open_mark => absurd open_mark frozen, safe.frozen⟩

theorem sent : Safe held counted arrived (tracker.sent seq now) :=
  ⟨safe.highest, safe.unfrozen, safe.frozen⟩

end

end Safe

end AckTracker

end Maintenant.Multihost
