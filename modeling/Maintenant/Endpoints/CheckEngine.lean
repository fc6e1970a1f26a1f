import Maintenant.Execution
import Mathlib.Data.Set.Function

/-!
# The loops of the check engine

An add removes the old runner of its endpoint and stores the new one in two steps on a concurrent
map, so two adds of one endpoint may both find nothing to remove.  Loops are numbered as they start.
-/

namespace Maintenant.Endpoints

open Option Execution
open Function (update update_apply)

/-- The map of runners and the loops that run. -/
structure CheckEngine where
  /-- Which loop the map holds for an endpoint. -/
  runners : String → Option Nat
  /-- The endpoint of a loop whose context is not cancelled. -/
  running : Nat → Option String
  started : Nat
  /-- The calls of `AddEndpoint` that have removed the old runner and not yet stored the new one. -/
  adding : Nat → Option String

/-- Sections under the lock of the map. -/
inductive CheckEngine.Action
  /-- A call of `AddEndpoint` or `ReconfigureEndpoint` removes the old runner. -/
  | add (caller : Nat) (id : String)
  /-- The call stores its runner and starts the loop. -/
  | store (caller : Nat)
  | remove (id : String)

namespace CheckEngine

def empty : CheckEngine := ⟨fun _ => none, fun _ => none, 0, fun _ => none⟩

/-- `LoadAndDelete`, and the loop is cancelled. -/
def removeEndpoint (id : String) (engine : CheckEngine) : CheckEngine :=
  match engine.runners id with
  | none => engine
  | some loop =>
    { engine with
      runners := update engine.runners id none
      running := update engine.running loop none }

/-- The second half of `AddEndpoint`. -/
def storeRunner (id : String) (engine : CheckEngine) : CheckEngine :=
  { engine with
    runners := update engine.runners id (some engine.started)
    running := update engine.running engine.started (some id)
    started := engine.started + 1 }

def next (engine : CheckEngine) : Action → Option CheckEngine
  | .add caller id =>
    if engine.adding caller = none then
      let after := engine.removeEndpoint id
      some { after with adding := update after.adding caller (some id) }
    else none
  | .store caller => (engine.adding caller).map fun id =>
    { engine.storeRunner id with adding := update engine.adding caller none }
  | .remove id => some (engine.removeEndpoint id)

/-- Every loop that runs is the one the map holds for its endpoint. -/
def Held (engine : CheckEngine) : Prop :=
  ∀ loop id, engine.running loop = some id → engine.runners id = some loop

/-- The runner is stored where the map holds none. -/
def Vacant (engine : CheckEngine) : Action → Prop
  | .store caller => ∀ id ∈ engine.adding caller, engine.runners id = none
  | _ => True

/-- Loops are those of the map, one for each endpoint, and none for an endpoint that the map does
not hold or that is removed now. -/
structure Single (engine : CheckEngine) : Prop where
  held : engine.Held
  alone : ∀ {id first second}, engine.running first = some id → engine.running second = some id →
    first = second
  absent : ∀ {id}, engine.runners id = none → ∀ loop, engine.running loop ≠ some id
  gone : ∀ id loop, (engine.removeEndpoint id).running loop ≠ some id

/-- What the map holds runs, and loops that run have started. -/
structure Sound (engine : CheckEngine) : Prop where
  runs : ∀ id loop, engine.runners id = some loop → engine.running loop = some id
  numbered : ∀ loop id, engine.running loop = some id → loop < engine.started

variable {engine : CheckEngine} {id : String}

theorem Sound.removeEndpoint (sound : engine.Sound) : (engine.removeEndpoint id).Sound := by
  obtain ⟨runs, numbered⟩ := sound
  rw [CheckEngine.removeEndpoint]
  split <;> constructor <;> grind [update_apply]

theorem Sound.storeRunner (sound : engine.Sound) : (engine.storeRunner id).Sound := by
  obtain ⟨runs, numbered⟩ := sound
  rw [CheckEngine.storeRunner]
  constructor <;> grind [update_apply]

theorem Held.removeEndpoint (held : engine.Held) : (engine.removeEndpoint id).Held := by
  rw [Held, CheckEngine.removeEndpoint] at *
  split <;> grind [update_apply]

/-- A new loop is the only one of its endpoint exactly when it is stored where there was none. -/
theorem Sound.held_storeRunner (sound : engine.Sound) (held : engine.Held) :
    (engine.storeRunner id).Held ↔ engine.runners id = none := by
  obtain ⟨runs, numbered⟩ := sound
  rw [Held, CheckEngine.storeRunner] at *
  constructor
  · intro held_after
    by_contra found
    obtain ⟨loop, found⟩ := ne_none_iff_exists'.mp found
    have := held_after loop id
    grind [update_apply]
  · grind [update_apply]

theorem Held.single (held : engine.Held) : engine.Single := by
  refine ⟨held, fun first second => ?_, fun absent loop running => ?_, fun id loop running => ?_⟩
  · exact some.inj ((held _ _ first).symm.trans (held _ _ second))
  · cases absent.symm.trans (held _ _ running)
  · have found := held.removeEndpoint loop id running
    rw [CheckEngine.removeEndpoint] at found
    split at found
    next absent => cases absent.symm.trans found
    · simp at found

/-- The loops that run are always those the map holds, one for each endpoint and none after its
removal, exactly when every runner is stored where the map holds none. -/
theorem one_loop_iff_vacant {actions : List Action} {final : CheckEngine}
    (execution : run next empty actions = some final) :
    Always next Single empty actions ↔ Guarded next Vacant empty actions := by
  have single_eq : Single = Held := funext fun _ => propext ⟨Single.held, Held.single⟩
  rw [single_eq]
  refine @Execution.always_iff_guarded _ _ next Held Sound Vacant ?_ ?_ _ final actions
    ⟨nofun, nofun⟩ nofun execution
  · rintro before after (⟨caller, id⟩ | caller | id) sound step
    · obtain ⟨-, ⟨⟩⟩ := ite_none_right_eq_some.mp step
      exact ⟨sound.removeEndpoint.runs, sound.removeEndpoint.numbered⟩
    · obtain ⟨id, -, rfl⟩ := map_eq_some_iff.mp step
      exact ⟨sound.storeRunner.runs, sound.storeRunner.numbered⟩
    · cases step
      exact sound.removeEndpoint
  · rintro before after (⟨caller, id⟩ | caller | id) sound held step
    · obtain ⟨-, ⟨⟩⟩ := ite_none_right_eq_some.mp step
      exact iff_of_true held.removeEndpoint trivial
    · obtain ⟨id, adding, rfl⟩ := map_eq_some_iff.mp step
      simp only [Vacant, adding, mem_some_iff, forall_eq']
      exact sound.held_storeRunner held
    · cases step
      exact iff_of_true held.removeEndpoint trivial

/-- Two adds that both find nothing to remove leave a loop that nothing can cancel. -/
theorem overlapping_adds_leak_loop : ∃ final,
    run next empty [.add 0 "a", .add 1 "a", .store 0, .store 1, .remove "a"] =
        some final ∧ final.runners "a" = none ∧ final.running 0 = some "a" :=
  ⟨_, rfl, by decide +kernel, by decide +kernel⟩

/-- Two adds of one endpoint in turn. -/
theorem one_loop_iff_vacant_in_turn :
    Always next Single empty [.add 0 "a", .store 0, .add 1 "a", .store 1] := by
  refine (one_loop_iff_vacant rfl).mpr ?_
  simp [Guarded, next, Vacant, empty, removeEndpoint, storeRunner]

end CheckEngine

end Maintenant.Endpoints
