import Mathlib.Algebra.BigOperators.Fin
import Mathlib.Algebra.Group.Fin.Basic
import Mathlib.Algebra.Group.Units.Equiv
import Mathlib.Data.Rat.Defs

/-!
# The rate of incoming events

A ring of counters, one for each tick of five seconds, counts the events of five minutes.
-/

namespace Maintenant.Sessions

open Function (update)

/-- Sixty slots of five seconds. -/
structure RingBuffer where
  slots : Fin 60 → Nat
  cursor : Fin 60

namespace RingBuffer

def new : RingBuffer := ⟨0, 0⟩

def add (ring : RingBuffer) : RingBuffer :=
  { ring with slots := update ring.slots ring.cursor (ring.slots ring.cursor + 1) }

def advance (ring : RingBuffer) : RingBuffer :=
  let cursor := ring.cursor + 1
  ⟨update ring.slots cursor 0, cursor⟩

def rate (ring : RingBuffer) : ℚ := (∑ slot, ring.slots slot : Nat) / 300

inductive Op
  | add
  | advance

def perform (ring : RingBuffer) : Op → RingBuffer
  | .add => ring.add
  | .advance => ring.advance

/-- How many events came in this tick, counted back from the last one; the latest operation is
first. -/
def during : Nat → List Op → Nat
  | _, [] => 0
  | 0, .add :: ops => during 0 ops + 1
  | back + 1, .add :: ops => during (back + 1) ops
  | 0, .advance :: _ => 0
  | back + 1, .advance :: ops => during back ops

/-- Every slot holds the events of its tick. -/
def Holds (ring : RingBuffer) (ops : List Op) : Prop :=
  ∀ back : Fin 60, ring.slots (ring.cursor - back) = during back ops

variable {ring : RingBuffer} {past : List Op}

theorem Holds.perform (holds : ring.Holds past) (op : Op) :
    (ring.perform op).Holds (op :: past) := by
  intro back
  cases op with
  | add =>
    cases back using Fin.cases with
    | zero => simpa [RingBuffer.perform, add, during] using holds 0
    | succ back =>
      have apart : ring.cursor - back.succ ≠ ring.cursor := by grind
      simpa [RingBuffer.perform, add, during, apart] using holds back.succ
  | advance =>
    cases back using Fin.cases with
    | zero => simp [RingBuffer.perform, advance, during]
    | succ back =>
      have shifted : ring.cursor + 1 - back.succ = ring.cursor - back.castSucc := by grind
      have apart : ring.cursor - back.castSucc ≠ ring.cursor + 1 := by grind
      simpa [RingBuffer.perform, advance, during, shifted, apart] using holds back.castSucc

theorem Holds.run (holds : ring.Holds past) (ops : List Op) :
    (ops.foldl RingBuffer.perform ring).Holds (ops.reverse ++ past) := by
  induction ops generalizing ring past with
  | nil => exact holds
  | cons op ops ih => simpa using ih (holds.perform op)

/-- In every interleaving of events and ticks the rate is that of the last sixty ticks. -/
theorem rate_eq_during (ops : List Op) : (ops.foldl perform new).rate =
      (∑ back ∈ Finset.range 60, during back ops.reverse : Nat) / 300 := by
  have empty : new.Holds [] := fun _ => rfl
  have holds := empty.run ops
  rw [List.append_nil] at holds
  -- The slots are visited from the cursor backwards.
  rw [rate, Finset.sum_range, ← Equiv.sum_comp (Equiv.subLeft (ops.foldl perform new).cursor)]
  simp only [Equiv.subLeft_apply, holds _]

end RingBuffer

end Maintenant.Sessions
