import Maintenant.Alerting.Model
import Maintenant.Multihost.Session
import Maintenant.Resources.Store

/-!
# The resource service, as far as agents are concerned
-/

namespace Maintenant.Resources

open Agent (unix)
open Alerting (uidAgent)
open Containers (ContainerId ContainerStore)
open Multihost (EventMeta)

/-- `agentpb.ResourceSample` of a container. -/
structure ResourceSample where
  /-- The container's id in the runtime; empty for the host itself. -/
  containerId : String
  cpuPercent : ℚ
  memoryBytes : Nat
  memoryLimitBytes : Nat
  networkRxBytes : Nat
  networkTxBytes : Nat
  diskReadBytes : Nat
  diskWriteBytes : Nat
  deriving DecidableEq

/-- `math.MaxInt64`. -/
def maxInt64 : Nat := 2 ^ 63 - 1

/-- `clampInt64`. -/
def clampInt64 (v : Nat) : Int := if maxInt64 < v then maxInt64 else v

def agentSnapshot (agentId : String) (sample : ResourceSample) (info : EventMeta)
    (id : SnapshotId) : ResourceSnapshot where
  id := id
  containerId := ⟨uidAgent agentId, sample.containerId⟩
  cpuPercent := sample.cpuPercent
  memUsed := clampInt64 sample.memoryBytes
  memLimit := clampInt64 sample.memoryLimitBytes
  netRxBytes := clampInt64 sample.networkRxBytes
  netTxBytes := clampInt64 sample.networkTxBytes
  blockReadBytes := clampInt64 sample.diskReadBytes
  blockWriteBytes := clampInt64 sample.diskWriteBytes
  timestamp := unix info.observedAt

/-- The id of the row of a sample; one whose event has no id gets a new one. -/
def agentSnapshotId (agentId : String) (info : EventMeta) (newId : Nat) : SnapshotId :=
  if info.eventId = "" then .fresh newId else .derived (uidAgent agentId) info.eventId

/-- `HandleAgentEvent`, but for samples of the host, which have no row.  A sample of a container
that is unknown or ignored is dropped. -/
def ResourceStore.handleAgentEvent (agentId : String) (sample : ResourceSample) (info : EventMeta)
    (newId : Nat) (containers : ContainerStore) (store : ResourceStore) : ResourceStore :=
  if sample.containerId = "" then store
  else
    match containers.containers.lookup ⟨uidAgent agentId, sample.containerId⟩ with
    | none => store
    | some c =>
      if c.isIgnored then store
      else store.insertSnapshot
        (agentSnapshot agentId sample info (agentSnapshotId agentId info newId))

end Maintenant.Resources
