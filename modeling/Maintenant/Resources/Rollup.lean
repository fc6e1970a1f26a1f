import Maintenant.Resources.Store

/-!
# Rollups of resource samples

Every few minutes each hour since the start of the raw window is aggregated again, while a retention
pass purges samples up to the second at which the window starts.  The hour that second lies in loses
samples little by little, and a rollup in between replaces its row by an aggregate of what is left.
As long as an hour is only aggregated with all of its samples or with none, its row stays.
-/

namespace Maintenant.Resources

open List Option Keyed Execution
open Agent (unix)
open Containers (ContainerId)

def secondsPerHour : Int := 3600

/-- `Truncate(time.Hour)`. -/
def truncateHour (second : Int) : Int := second / secondsPerHour * secondsPerHour

/-- The hours of `[from, to)`, both being starts of hours. -/
def hoursOf (from_ to_ : Int) : List Int :=
  (List.range ((to_ - from_) / secondsPerHour).toNat).map fun index : Nat =>
    from_ + (index : Int) * secondsPerHour

/-- The samples of a container in an hour. -/
def samplesOf (id : ContainerId) (hour : Int) (rows : List ResourceSnapshot) :
    List ResourceSnapshot :=
  samplesIn id hour (hour + secondsPerHour) rows

/-- The hours `rollupHourly` aggregates. -/
def rollupHours (rawWindow now : Int) : List Int :=
  hoursOf (truncateHour (unix (now - rawWindow))) (truncateHour (unix now))

/-- `rollupHourly`.  The statement of an hour may fail. -/
def rollupHourly (rawWindow now : Int) (failed : List Int) (store : ResourceStore) :
    ResourceStore :=
  ((rollupHours rawWindow now).filter fun hour => hour ∉ failed).foldl
    (fun store hour => store.aggregateHourlyRollup hour (hour + secondsPerHour)) store

/-- `runResourceCleanup`.  A pass whose time runs out leaves some of the samples it came for. -/
def runResourceCleanup (snapshots hourly now : Int) (left : List SnapshotId)
    (store : ResourceStore) : ResourceStore where
  snapshots := store.snapshots.filter fun s => ¬s.timestamp < unix (now - snapshots) ∨ s.id ∈ left
  hourly := store.hourly.filter fun row => ¬row.bucket < unix (now - hourly)

/-- The tables, and all samples they ever held. -/
structure ResourceArchive where
  store : ResourceStore
  recorded : Keyed ResourceSnapshot.id
  clock : Option Int

/-- What happens to the tables of samples. -/
inductive ResourceAction
  | sample (s : ResourceSnapshot)
  /-- A rollup, in which the statements of some hours fail. -/
  | rollup (now : Int) (failed : List Int)
  /-- A retention pass, which may leave samples. -/
  | retention (now : Int) (left : List SnapshotId)

namespace ResourceArchive

def of (store : ResourceStore) : ResourceArchive := ⟨store, store.snapshots, none⟩

/-- Rollups and passes run one after the other. -/
def Due (archive : ResourceArchive) (now : Int) : Prop := ∀ last ∈ archive.clock, last ≤ now

instance (archive : ResourceArchive) (now : Int) : Decidable (archive.Due now) :=
  inferInstanceAs (Decidable (∀ last ∈ archive.clock, last ≤ now))

/-- The id of a sample is its own: a sample that is sent again is the same. -/
def Owns (archive : ResourceArchive) (s : ResourceSnapshot) : Prop :=
  ∀ old ∈ archive.recorded.items, old.id = s.id → old = s

instance (archive : ResourceArchive) (s : ResourceSnapshot) : Decidable (archive.Owns s) :=
  inferInstanceAs (Decidable (∀ old ∈ archive.recorded.items, old.id = s.id → old = s))

/-- One action, the raw window being the retention of samples. -/
def next (snapshots hourly : Int) (archive : ResourceArchive) :
    ResourceAction → Option ResourceArchive
  | .sample s =>
    some { archive with
      store := archive.store.insertSnapshot s
      recorded := archive.recorded.upsert s }
  | .rollup now failed =>
    if archive.Due now then
      some { archive with
        store := rollupHourly snapshots now failed archive.store
        clock := some now }
    else none
  | .retention now left =>
    if archive.Due now then
      some { archive with
        store := runResourceCleanup snapshots hourly now left archive.store
        clock := some now }
    else none

/-- All recorded samples of the hour are in its row. -/
def Aggregated (archive : ResourceArchive) (id : ContainerId) (hour : Int) : Prop :=
  archive.store.hourly.lookup (id, hour) =
    some (hourlyRow id hour (samplesOf id hour archive.recorded.items))

/-- A rollup aggregates no hour that has lost some of a container's samples and kept others, and a
sample that is sent again brings the same row. -/
def Whole (snapshots : Int) (archive : ResourceArchive) : ResourceAction → Prop
  | .sample s => archive.Owns s
  | .rollup now failed =>
    ∀ hour ∈ (rollupHours snapshots now).filter fun hour => hour ∉ failed,
      ∀ s ∈ archive.store.snapshots.items, s ∈ samplesOf s.containerId hour [s] →
        ∀ other ∈ samplesOf s.containerId hour archive.recorded.items,
          other ∈ archive.store.snapshots.items
  | .retention .. => True

instance (snapshots : Int) (archive : ResourceArchive) :
    DecidablePred (archive.Whole snapshots) := fun _ => by
  unfold Whole
  split <;> infer_instance

/-! ### One action -/

variable {snapshots hourly now hour : Int} {failed : List Int} {store : ResourceStore}
  {id : ContainerId} {archive after : ResourceArchive} {action : ResourceAction}

theorem snapshots_rollup (hours : List Int) (store : ResourceStore) :
    (hours.foldl (fun store hour => store.aggregateHourlyRollup hour (hour + secondsPerHour))
      store).snapshots = store.snapshots := by
  induction hours generalizing store with
  | nil => rfl
  | cons hour hours ih => exact ih _

theorem lookup_rollup (hours : List Int) :
    (hours.foldl (fun store hour => store.aggregateHourlyRollup hour (hour + secondsPerHour))
        store).hourly.lookup (id, hour) =
      if hour ∈ hours ∧ samplesOf id hour store.snapshots.items ≠ [] then
        some (hourlyRow id hour (samplesOf id hour store.snapshots.items))
      else store.hourly.lookup (id, hour) := by
  induction hours generalizing store with
  | nil => simp
  | cons first hours ih =>
    have kept : (store.aggregateHourlyRollup first (first + secondsPerHour)).snapshots =
        store.snapshots := rfl
    rw [foldl_cons, ih, kept, lookup_aggregateHourlyRollup]
    by_cases here : hour = first
    · subst here
      by_cases bare : samplesOf id hour store.snapshots.items = []
      · have bare_in : samplesIn id hour (hour + secondsPerHour) store.snapshots.items = [] := bare
        simp [bare, bare_in]
      by_cases again : hour ∈ hours
      · simp [bare, again]
      · simp only [again, mem_cons_self]
        rfl
    · simp [here]

def Known (archive : ResourceArchive) : Prop :=
  ∀ s ∈ archive.store.snapshots, s ∈ archive.recorded

/-- What the tables keep while no sample of the hour arrives. -/
structure Settled (id : ContainerId) (hour : Int) (row : ResourceHourly)
    (archive : ResourceArchive) : Prop where
  full : hourlyRow id hour (samplesOf id hour archive.recorded.items) = row
  only : ∀ stored, archive.store.hourly.lookup (id, hour) = some stored → stored = row

theorem hourlyRow_of_whole (known : archive.Known)
    (all : ∀ s ∈ samplesOf id hour archive.recorded.items, s ∈ archive.store.snapshots.items) :
    hourlyRow id hour (samplesOf id hour archive.store.snapshots.items) =
      hourlyRow id hour (samplesOf id hour archive.recorded.items) := by
  refine hourlyRow_perm ((perm_ext_iff_of_nodup ?_ ?_).mpr ?_)
  · exact archive.store.snapshots.nodup.filter _
  · exact archive.recorded.nodup.filter _
  intro s
  constructor
  · intro mem
    obtain ⟨there, inside⟩ := mem_samplesIn.mp mem
    exact mem_samplesIn.mpr ⟨known s there, inside⟩
  · intro mem
    exact mem_samplesIn.mpr ⟨all s mem, (mem_samplesIn.mp mem).2⟩

variable {row : ResourceHourly}

theorem Settled.sample {s : ResourceSnapshot} (settled : archive.Settled id hour row)
    (owns : archive.Owns s) (other : s ∉ samplesOf id hour [s]) : Settled id hour row { archive with
      store := archive.store.insertSnapshot s
      recorded := archive.recorded.upsert s } where
  full := by
    rw [← settled.full]
    cases found : archive.recorded.lookup s.id with
    | some old =>
      obtain ⟨mem, same⟩ := lookup_eq_some.mp found
      obtain rfl := owns old mem same
      rw [upsert_eq_self mem]
    | none =>
      have outside : samplesOf id hour [s] = [] := by
        rw [eq_nil_iff_forall_not_mem]
        intro new mem
        obtain rfl := mem_singleton.mp (mem_samplesIn.mp mem).1
        exact other mem
      have split : samplesOf id hour (archive.recorded.items ++ [s]) =
          samplesOf id hour archive.recorded.items ++ samplesOf id hour [s] :=
        filter_append _ _
      rw [upsert_items_of_fresh found, split, outside, append_nil]
  only := settled.only

theorem Settled.rollup (settled : archive.Settled id hour row) (known : archive.Known)
    (whole : archive.Whole snapshots (.rollup now failed)) : Settled id hour row { archive with
      store := rollupHourly snapshots now failed archive.store
      clock := some now } where
  full := settled.full
  only stored found := by
    rw [rollupHourly, lookup_rollup] at found
    split at found
    next written =>
      obtain ⟨listed, sampled⟩ := written
      obtain ⟨s, s_mem⟩ := exists_mem_of_ne_nil _ sampled
      obtain ⟨there, own, inside⟩ := mem_samplesIn.mp s_mem
      have all := whole hour listed s there
        (mem_samplesIn.mpr ⟨mem_singleton_self s, rfl, inside⟩)
      rw [own] at all
      rw [← some.inj found, ← settled.full]
      exact hourlyRow_of_whole known all
    · exact settled.only stored found

theorem Settled.retention (settled : archive.Settled id hour row) (left : List SnapshotId) :
    Settled id hour row { archive with
      store := runResourceCleanup snapshots hourly now left archive.store
      clock := some now } where
  full := settled.full
  only stored found := by
    rw [runResourceCleanup, lookup_filter, filter_eq_some_iff] at found
    exact settled.only stored found.1

/-- A sample of the container and the hour. -/
def IsOf (id : ContainerId) (hour : Int) : ResourceAction → Prop
  | .sample s => s ∈ samplesOf id hour [s]
  | _ => False

/-- The row of the hour is purged. -/
def Drops (hourly hour : Int) : ResourceAction → Prop
  | .retention now _ => hour < unix (now - hourly)
  | _ => False

instance (id : ContainerId) (hour : Int) : DecidablePred (IsOf id hour) := fun _ => by
  unfold IsOf
  split <;> infer_instance

instance (hourly hour : Int) : DecidablePred (Drops hourly hour) := fun _ => by
  unfold Drops
  split <;> infer_instance

theorem Settled.step (settled : archive.Settled id hour row) (known : archive.Known)
    (whole : archive.Whole snapshots action) (other : ¬IsOf id hour action)
    (taken : archive.next snapshots hourly action = some after) : after.Settled id hour row := by
  cases action with
  | sample =>
    cases taken
    exact settled.sample whole other
  | rollup =>
    obtain ⟨-, ⟨⟩⟩ := ite_none_right_eq_some.mp taken
    exact settled.rollup known whole
  | retention _ left =>
    obtain ⟨-, ⟨⟩⟩ := ite_none_right_eq_some.mp taken
    exact settled.retention left

theorem isSome_next (there : (archive.store.hourly.lookup (id, hour)).isSome)
    (kept : ¬Drops hourly hour action) (taken : archive.next snapshots hourly action = some after) :
    (after.store.hourly.lookup (id, hour)).isSome := by
  cases action with
  | sample =>
    cases taken
    exact there
  | rollup =>
    obtain ⟨-, ⟨⟩⟩ := ite_none_right_eq_some.mp taken
    rw [rollupHourly, lookup_rollup]
    split
    · rfl
    · exact there
  | retention =>
    obtain ⟨-, ⟨⟩⟩ := ite_none_right_eq_some.mp taken
    obtain ⟨row, found⟩ := isSome_iff_exists.mp there
    have bucket : row.bucket = hour := (Prod.mk.inj (lookup_eq_some.mp found).2).2
    rw [runResourceCleanup, lookup_filter, found, filter_some, if_pos]
    · rfl
    · rw [bucket]
      exact decide_eq_true kept

theorem known_next (known : archive.Known)
    (taken : archive.next snapshots hourly action = some after) : after.Known := by
  cases action with
  | sample =>
    cases taken
    intro new mem
    rcases mem_upsert.mp mem with ⟨old, differs⟩ | rfl
    · exact mem_upsert.mpr (.inl ⟨known new old, differs⟩)
    · exact mem_upsert.mpr (.inr rfl)
  | rollup =>
    obtain ⟨-, ⟨⟩⟩ := ite_none_right_eq_some.mp taken
    intro s mem
    rw [rollupHourly, snapshots_rollup] at mem
    exact known s mem
  | retention =>
    obtain ⟨-, ⟨⟩⟩ := ite_none_right_eq_some.mp taken
    intro s mem
    exact known s (Keyed.mem_filter.mp mem).1

/-! ### Runs -/

variable {final : ResourceArchive} {actions : List ResourceAction}

theorem Settled.run (settled : archive.Settled id hour row) (known : archive.Known)
    (whole : Guarded (next snapshots hourly) (Whole snapshots) archive actions)
    (quiet : ∀ action ∈ actions, ¬IsOf id hour action)
    (ran : run (next snapshots hourly) archive actions = some final) :
    final.Settled id hour row := by
  induction actions generalizing archive with
  | nil =>
    obtain rfl := some.inj ran
    exact settled
  | cons action actions ih =>
    obtain ⟨after, taken, ran⟩ := (run_cons_eq_some _).mp ran
    obtain ⟨met, later⟩ := whole
    rw [taken] at later
    obtain ⟨other, quiet⟩ := forall_mem_cons.mp quiet
    exact ih (settled.step known met other taken) (known_next known taken) later quiet ran

theorem isSome_run (there : (archive.store.hourly.lookup (id, hour)).isSome)
    (kept : ∀ action ∈ actions, ¬Drops hourly hour action)
    (ran : run (next snapshots hourly) archive actions = some final) :
    (final.store.hourly.lookup (id, hour)).isSome := by
  induction actions generalizing archive with
  | nil =>
    obtain rfl := some.inj ran
    exact there
  | cons action actions ih =>
    obtain ⟨after, taken, ran⟩ := (run_cons_eq_some _).mp ran
    obtain ⟨stays, kept⟩ := forall_mem_cons.mp kept
    exact ih (isSome_next there stays taken) kept ran

/-- Once all samples of an hour are in its row, the row does not change in any run whose rollups
find every hour whole and in which no sample of the hour arrives. It goes only for its own age. -/
theorem hourly_row_kept_when_hours_whole (snapshots hourly : Int) (store : ResourceStore)
    (before actions : List ResourceAction) (archive final : ResourceArchive) (id : ContainerId)
    (hour : Int) (reached : run (next snapshots hourly) (.of store) before = some archive)
    (aggregated : archive.Aggregated id hour)
    (whole : Guarded (next snapshots hourly) (Whole snapshots) archive actions)
    (quiet : ∀ action ∈ actions, ¬IsOf id hour action)
    (ran : run (next snapshots hourly) archive actions = some final) :
    (∀ row, final.store.hourly.lookup (id, hour) = some row →
      archive.store.hourly.lookup (id, hour) = some row) ∧
    ((∀ action ∈ actions, ¬Drops hourly hour action) →
      final.store.hourly.lookup (id, hour) = archive.store.hourly.lookup (id, hour)) := by
  have known : archive.Known :=
    invariant_of_run known_next (fun _ mem => mem) reached
  have settled : archive.Settled id hour
      (hourlyRow id hour (samplesOf id hour archive.recorded.items)) :=
    ⟨rfl, fun stored found => some.inj (found.symm.trans aggregated)⟩
  have later := settled.run known whole quiet ran
  refine ⟨?_, ?_⟩
  · intro row found
    rw [later.only row found]
    exact aggregated
  intro kept
  have there : (archive.store.hourly.lookup (id, hour)).isSome := by
    rw [aggregated]
    rfl
  obtain ⟨row, found⟩ := isSome_iff_exists.mp (isSome_run there kept ran)
  rw [found, later.only row found, aggregated]

/-! ### A window of one day -/

section Scenario

private def web : ContainerId := ⟨"local", "web"⟩

private def noRows : ResourceStore := ⟨.empty _, .empty _⟩

private def day : Int := 86400 * Agent.nanosPerSecond

private def quarter : Int := 90 * day

/-- A sample of the container at a time of the first day. -/
private def sampleAt (number : Nat) (hours minutes : Int) : ResourceAction :=
  .sample ⟨.fresh number, web, 10, 1024, 4096, 0, 0, 0, 0, hours * 3600 + minutes * 60⟩

private def clockAt (days hours minutes : Int) : Int :=
  days * day + (hours * 3600 + minutes * 60) * Agent.nanosPerSecond

private def firstHour : List ResourceAction :=
  [sampleAt 0 10 10, sampleAt 1 10 50, .rollup (clockAt 0 11 5) []]

private def afterFirstHour : ResourceArchive :=
  (Execution.run (next day quarter) (.of noRows) firstHour).getD (.of noRows)

/-- The hour is purged as a whole, before and after a rollup. -/
private def wholeHours : List ResourceAction :=
  [.rollup (clockAt 1 9 55) [], .retention (clockAt 1 12 0) [], .rollup (clockAt 1 12 5) []]

theorem hourly_row_kept_over_whole_hours :
    (afterFirstHour.store.hourly.lookup (web, 36000)).isSome ∧
      (run (next day quarter) afterFirstHour wholeHours).map
          (fun final => final.store.hourly.lookup (web, 36000)) =
        some (afterFirstHour.store.hourly.lookup (web, 36000)) := by
  have reached : run (next day quarter) (.of noRows) firstHour = some afterFirstHour := rfl
  have ran : ∃ final, run (next day quarter) afterFirstHour wholeHours = some final :=
    isSome_iff_exists.mp (by decide +kernel)
  have aggregated : afterFirstHour.Aggregated web 36000 := by
    rw [Aggregated]
    decide +kernel
  obtain ⟨final, ran⟩ := ran
  obtain ⟨-, kept⟩ := hourly_row_kept_when_hours_whole day quarter noRows firstHour wholeHours
    afterFirstHour final web 36000 reached aggregated (by decide +kernel) (by decide +kernel) ran
  refine ⟨by decide +kernel, ?_⟩
  rw [ran, map_some, kept (by decide +kernel)]

/-- A pass in the middle of the hour, one day later, and the next rollup. -/
private def cutHour : List ResourceAction :=
  [.retention (clockAt 1 10 30) [], .rollup (clockAt 1 10 35) []]

/-- The hour of two samples becomes an hour of one. -/
theorem rollup_after_cut_forgets_sample :
    afterFirstHour.Aggregated web 36000 ∧ (∀ action ∈ cutHour, ¬IsOf web 36000 action) ∧
      (afterFirstHour.store.hourly.lookup (web, 36000)).map ResourceHourly.sampleCount = some 2 ∧
      ((run (next day quarter) afterFirstHour cutHour).bind fun final =>
          final.store.hourly.lookup (web, 36000)).map ResourceHourly.sampleCount = some 1 := by
  rw [Aggregated]
  decide +kernel

end Scenario

end ResourceArchive

end Maintenant.Resources
