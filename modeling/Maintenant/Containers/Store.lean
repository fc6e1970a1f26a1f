import Maintenant.Agent.Event
import Maintenant.Keyed

/-!
# Containers and their transitions

The rows of `containers` and `state_transitions`, and the statements on them.
-/

namespace Maintenant.Containers

open Agent (unix)

inductive ContainerState
  | running
  | exited
  | completed
  | restarting
  | paused
  | created
  | dead
  deriving DecidableEq

/-- What the health check of a container says; an agent may report any text. -/
inductive HealthStatus
  | healthy
  | unhealthy
  | starting
  | other (text : String)
  deriving DecidableEq

/-- `uid.Container`: the id of a container is derived from its agent and its runtime's id. -/
structure ContainerId where
  agent : String
  external : String
  deriving DecidableEq

/-- Rows that one event of an agent can write. -/
inductive RecordKind
  | stateTransition
  | healthTransition
  deriving DecidableEq

/-- Id of a transition. -/
inductive TransitionId
  | fresh (number : Nat)
  /-- `uid.EventRecord`: derived from the event of an agent that the row is written for. -/
  | derived (agent event : String) (record : RecordKind) (external : String)
  deriving DecidableEq

/-- A row of `state_transitions`. -/
structure StateTransition where
  id : TransitionId
  containerId : ContainerId
  previousState : ContainerState
  newState : ContainerState
  previousHealth : Option HealthStatus
  /-- Health after; a change of state leaves it out. -/
  newHealth : Option HealthStatus
  exitCode : Option Int
  timestamp : Int
  deriving DecidableEq

/-- A row of `containers`. -/
structure Container where
  id : ContainerId
  state : ContainerState
  healthStatus : Option HealthStatus
  isIgnored : Bool
  archived : Bool
  archivedAt : Option Int

/-- The tables of containers. -/
structure ContainerStore where
  containers : Keyed Container.id
  transitions : Keyed StateTransition.id
  nextUid : Nat

/-- `InsertTransition` of a row that has an id: a second row with the id takes the place of the
first. -/
def ContainerStore.insertTransition (t : StateTransition) (store : ContainerStore) :
    ContainerStore :=
  { store with transitions := store.transitions.upsert t }

/-- The transitions of a container, as the rows come. -/
def transitionsOf (id : ContainerId) (rows : List StateTransition) : List StateTransition :=
  rows.filter fun t => t.containerId = id

end Maintenant.Containers
