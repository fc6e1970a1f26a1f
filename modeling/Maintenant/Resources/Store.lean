import Mathlib.Data.List.Dedup
import Mathlib.Algebra.Order.Field.Rat
import Mathlib.Algebra.BigOperators.Group.List.Basic
import Maintenant.Containers.Store

/-!
# Resource samples and their hourly averages

The rows of `resource_snapshots` and `resource_hourly`, and the statements on them.
-/

namespace Maintenant.Resources

open List
open Containers (ContainerId)

/-- Id of a sample. -/
inductive SnapshotId
  | fresh (number : Nat)
  /-- `uid.EventRecord`: derived from the event of an agent that brought the sample. -/
  | derived (agent event : String)
  deriving DecidableEq

/-- A row of `resource_snapshots`. -/
structure ResourceSnapshot where
  id : SnapshotId
  containerId : ContainerId
  cpuPercent : ℚ
  memUsed : Int
  memLimit : Int
  netRxBytes : Int
  netTxBytes : Int
  blockReadBytes : Int
  blockWriteBytes : Int
  timestamp : Int
  deriving DecidableEq

/-- A row of `resource_hourly`. -/
structure ResourceHourly where
  containerId : ContainerId
  bucket : Int
  avgCpuPercent : ℚ
  avgMemUsed : Int
  avgMemLimit : Int
  avgNetRxBytes : Int
  avgNetTxBytes : Int
  avgBlockReadBytes : Int
  avgBlockWriteBytes : Int
  sampleCount : Nat
  deriving DecidableEq

/-- `UNIQUE(container_id, bucket)`. -/
def ResourceHourly.key (row : ResourceHourly) : ContainerId × Int := (row.containerId, row.bucket)

/-- Samples and their hourly aggregates. -/
structure ResourceStore where
  snapshots : Keyed ResourceSnapshot.id
  hourly : Keyed ResourceHourly.key

/-- `CAST(AVG(..) AS BIGINT)`, which drops the fraction. -/
def avgBigint (metric : ResourceSnapshot → Int) (samples : List ResourceSnapshot) : Int :=
  (samples.map metric).sum.tdiv samples.length

/-- The row the samples of an hour are aggregated to. -/
def hourlyRow (containerId : ContainerId) (bucket : Int) (samples : List ResourceSnapshot) :
    ResourceHourly where
  containerId := containerId
  bucket := bucket
  avgCpuPercent := (samples.map ResourceSnapshot.cpuPercent).sum / samples.length
  avgMemUsed := avgBigint ResourceSnapshot.memUsed samples
  avgMemLimit := avgBigint ResourceSnapshot.memLimit samples
  avgNetRxBytes := avgBigint ResourceSnapshot.netRxBytes samples
  avgNetTxBytes := avgBigint ResourceSnapshot.netTxBytes samples
  avgBlockReadBytes := avgBigint ResourceSnapshot.blockReadBytes samples
  avgBlockWriteBytes := avgBigint ResourceSnapshot.blockWriteBytes samples
  sampleCount := samples.length

/-- The samples of a container between two seconds. -/
def samplesIn (id : ContainerId) (start end_ : Int) (rows : List ResourceSnapshot) :
    List ResourceSnapshot :=
  rows.filter fun s => s.containerId = id ∧ start ≤ s.timestamp ∧ s.timestamp < end_

namespace ResourceStore

/-- `InsertSnapshot` of a row that has an id. -/
def insertSnapshot (s : ResourceSnapshot) (store : ResourceStore) : ResourceStore :=
  { store with snapshots := store.snapshots.upsert s }

/-- The containers that have samples between two seconds. -/
def sampled (start end_ : Int) (store : ResourceStore) : List ContainerId :=
  ((store.snapshots.items.filter fun s => start ≤ s.timestamp ∧ s.timestamp < end_).map
    ResourceSnapshot.containerId).dedup

def aggregateHourlyRollup (bucketStart bucketEnd : Int) (store : ResourceStore) : ResourceStore :=
  { store with
    hourly := ((store.sampled bucketStart bucketEnd).map fun id =>
        hourlyRow id bucketStart (samplesIn id bucketStart bucketEnd store.snapshots.items)).foldl
      Keyed.insert store.hourly }

end ResourceStore

section Rows

variable {id : ContainerId} {start end_ bucket : Int} {s : ResourceSnapshot}
  {samples others rows : List ResourceSnapshot} {store : ResourceStore}

theorem mem_samplesIn : s ∈ samplesIn id start end_ rows ↔
      s ∈ rows ∧ s.containerId = id ∧ start ≤ s.timestamp ∧ s.timestamp < end_ := by
  simp only [samplesIn, mem_filter, decide_eq_true_eq]

theorem hourlyRow_perm (same : samples.Perm others) :
    hourlyRow id bucket samples = hourlyRow id bucket others := by
  have bytes : ∀ metric : ResourceSnapshot → Int,
      avgBigint metric samples = avgBigint metric others := by
    intro metric
    rw [avgBigint, avgBigint, (same.map metric).sum_eq, same.length_eq]
  simp only [hourlyRow, bytes, (same.map ResourceSnapshot.cpuPercent).sum_eq, same.length_eq]

theorem mem_sampled :
    id ∈ store.sampled start end_ ↔ samplesIn id start end_ store.snapshots.items ≠ [] := by
  simp only [ResourceStore.sampled, mem_dedup, mem_map, mem_filter, decide_eq_true_eq]
  constructor
  · rintro ⟨s, ⟨mem, inside⟩, rfl⟩
    exact ne_nil_of_mem (mem_samplesIn.mpr ⟨mem, rfl, inside⟩)
  intro sampled
  obtain ⟨s, mem⟩ := exists_mem_of_ne_nil _ sampled
  obtain ⟨mem, own, inside⟩ := mem_samplesIn.mp mem
  exact ⟨s, ⟨mem, inside⟩, own⟩

theorem lookup_aggregateHourlyRollup (hour : Int) :
    (store.aggregateHourlyRollup start end_).hourly.lookup (id, hour) =
      if hour = start ∧ samplesIn id start end_ store.snapshots.items ≠ [] then
        some (hourlyRow id start (samplesIn id start end_ store.snapshots.items))
      else store.hourly.lookup (id, hour) := by
  split
  next written =>
    obtain ⟨rfl, sampled⟩ := written
    rw [Keyed.lookup_eq_some]
    refine ⟨Keyed.mem_foldl_insert (mem_map.mpr ⟨id, mem_sampled.mpr sampled, rfl⟩) ?_, rfl⟩
    intro other other_mem same
    obtain ⟨other_id, -, rfl⟩ := mem_map.mp other_mem
    obtain rfl : other_id = id := (Prod.mk.inj same).1
    rfl
  next unwritten =>
    refine Keyed.lookup_foldl_insert_of_ne ?_
    intro row mem same
    obtain ⟨other_id, other_mem, rfl⟩ := mem_map.mp mem
    obtain ⟨rfl, rfl⟩ := Prod.mk.inj same
    exact unwritten ⟨rfl, mem_sampled.mp other_mem⟩

end Rows

end Maintenant.Resources
