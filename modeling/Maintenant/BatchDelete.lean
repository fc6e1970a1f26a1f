import Maintenant.Uptime.ContainerRetention
import Mathlib.Data.Finset.Max
import Mathlib.Data.Finset.SDiff
import Mathlib.Data.Finset.Sort

/-!
# Deletion in batches

`runBatchedDelete` repeats a bounded deletion until a batch is not full.  It is one deletion as long
as removing selected rows does not change which of the others are selected.  The purge of
transitions reads the table it deletes from and still is of this kind: the newest transition of a
container is never selected, and it is enough to select the others.
-/

namespace Maintenant.Store

open Finset Containers

/-- A `DELETE`, by the rows that its clause selects. -/
structure Deletion (ρ : Type) [DecidableEq ρ] where
  matching : Finset ρ → Finset ρ
  steady : ∀ {table rest}, rest ⊆ table → table \ rest ⊆ matching table →
    matching rest = matching table ∩ rest

/-- Size of a batch and time for all of them. -/
structure BatchOpts where
  batchSize : Int
  budget : Int

def BatchOpts.normalized (o : BatchOpts) : BatchOpts :=
  if o.batchSize ≤ 0 then { o with batchSize := 1000 } else o

variable {ρ : Type} [DecidableEq ρ] {deletion : Deletion ρ} {o : BatchOpts}
  {table rest taken : Finset ρ}

/-- What a round of the loop meets.  The statement takes as many rows as a batch may hold, or any
if it fails. -/
structure Round (deletion : Deletion ρ) (o : BatchOpts) where
  cancelled : Bool
  fails : Bool
  /-- Since the loop began. -/
  elapsed : Int
  step : Finset ρ → Finset ρ
  step_subset : ∀ table, step table ⊆ deletion.matching table
  card_step : fails = false → ∀ table,
    (step table).card = min o.normalized.batchSize.toNat (deletion.matching table).card

/-- The round is not cancelled, does not fail and leaves the budget. -/
def Round.Undisturbed (round : Round deletion o) : Prop :=
  round.cancelled = false ∧ round.fails = false ∧ (0 < o.budget → round.elapsed ≤ o.budget)

/-- An undisturbed round that takes the least rows first. -/
def Round.least [LinearOrder ρ] (deletion : Deletion ρ) (o : BatchOpts) : Round deletion o where
  cancelled := false
  fails := false
  elapsed := 0
  step table := (((deletion.matching table).sort).take o.normalized.batchSize.toNat).toFinset
  step_subset table row mem := by
    simpa using List.mem_of_mem_take (List.mem_toFinset.mp mem)
  card_step _ table := by
    have distinct := (List.take_sublist o.normalized.batchSize.toNat _).nodup
      (sort_nodup (deletion.matching table) (· ≤ ·))
    rw [List.toFinset_card_of_nodup distinct, List.length_take, length_sort]

/-- What a run returns, and the table it leaves. -/
structure Outcome (ρ : Type) where
  table : Finset ρ
  total : Nat
  truncated : Bool
  err : Bool

theorem Deletion.matching_subset : deletion.matching table ⊆ table :=
  inter_eq_left.mp (deletion.steady Subset.rfl (by simp)).symm

/-- The loop, from its `n`th round on. -/
def runBatchedDelete (rounds : Nat → Round deletion o) (n : Nat) (table : Finset ρ) (total : Nat) :
    Outcome ρ :=
  if (rounds n).cancelled then ⟨table, total, true, false⟩
  else
    let taken := (rounds n).step table
    let rest := table \ taken
    -- a failed statement reports no rows
    if (rounds n).fails then ⟨rest, total, true, true⟩
    else if taken.card = 0 ∨ taken.card < o.normalized.batchSize then
      ⟨rest, total + taken.card, false, false⟩
    else if 0 < o.budget ∧ o.budget < (rounds n).elapsed then
      ⟨rest, total + taken.card, true, false⟩
    else runBatchedDelete rounds (n + 1) rest (total + taken.card)
termination_by table.card
decreasing_by
  have inside : taken ⊆ table := ((rounds n).step_subset table).trans deletion.matching_subset
  have := card_le_card inside
  change (table \ taken).card < table.card
  rw [card_sdiff_of_subset inside]
  omega

/-- A run, whatever its options are and its rounds meet, leaves `rest` of `table`. -/
def Deletion.Run (deletion : Deletion ρ) (table rest : Finset ρ) : Prop :=
  ∃ (o : BatchOpts) (rounds : Nat → Round deletion o),
    (runBatchedDelete rounds 0 table 0).table = rest

/-- No rows are gone but rows to delete. -/
structure Deletion.Spares (deletion : Deletion ρ) (table rest : Finset ρ) : Prop where
  subset : rest ⊆ table
  removed : table \ rest ⊆ deletion.matching table

/-- What a run makes of the rest of a table. -/
structure Deletion.Settles (deletion : Deletion ρ) (table rest : Finset ρ) (total : Nat)
    (out : Outcome ρ) : Prop extends deletion.Spares table out.table where
  within : out.table ⊆ rest
  counted : out.err = false → out.total + out.table.card = total + rest.card
  complete : out.truncated = false →
    deletion.matching out.table = ∅ ∧ out.table = table \ deletion.matching table

theorem BatchOpts.normalized_pos : 0 < o.normalized.batchSize := by
  unfold normalized
  split <;> grind

theorem Round.exhausts (round : Round deletion o) (succeeds : round.fails = false)
    (short : (round.step table).card = 0 ∨ (round.step table).card < o.normalized.batchSize) :
    round.step table = deletion.matching table := by
  have := round.card_step succeeds table
  have := o.normalized_pos
  exact eq_of_subset_of_card_le (round.step_subset table) (by omega)

namespace Deletion.Spares

variable (spares : deletion.Spares table rest)

include spares

theorem step (selected : taken ⊆ deletion.matching rest) :
    deletion.Spares table (rest \ taken) := by
  obtain ⟨subset, removed⟩ := spares
  rw [deletion.steady subset removed] at selected
  exact ⟨by grind, by grind⟩

theorem drained : deletion.matching (rest \ deletion.matching rest) = ∅ ∧
    rest \ deletion.matching rest = table \ deletion.matching table := by
  obtain ⟨subset, removed⟩ := spares
  rw [deletion.steady sdiff_subset (by simp), deletion.steady subset removed]
  exact ⟨by grind, by grind⟩

theorem settles {rounds : Nat → Round deletion o} {n total : Nat} :
    deletion.Settles table rest total (runBatchedDelete rounds n rest total) := by
  fun_induction runBatchedDelete rounds n rest total with
  | case1 => exact ⟨spares, Subset.rfl, by simp, by simp⟩
  | case2 n rest =>
    exact ⟨spares.step ((rounds n).step_subset rest), sdiff_subset, by simp, by simp⟩
  | case3 n rest total _ taken left succeeds short =>
    have selected := (rounds n).step_subset rest
    have := card_sdiff_add_card_eq_card (selected.trans deletion.matching_subset)
    refine ⟨spares.step selected, sdiff_subset, by grind, fun _ => ?_⟩
    simp only [left, taken, (rounds n).exhausts (Bool.not_eq_true _ ▸ succeeds) short]
    exact spares.drained
  | case4 n rest =>
    have selected := (rounds n).step_subset rest
    have := card_sdiff_add_card_eq_card (selected.trans deletion.matching_subset)
    exact ⟨spares.step selected, sdiff_subset, by grind, by simp⟩
  | case5 n rest total _ taken left _ _ _ ih =>
    have selected := (rounds n).step_subset rest
    have := card_sdiff_add_card_eq_card (selected.trans deletion.matching_subset)
    obtain ⟨kept, within, counted, complete⟩ := ih (spares.step selected)
    exact ⟨kept, within.trans sdiff_subset, by grind, complete⟩

end Deletion.Spares

theorem finishes_of_undisturbed {rounds : Nat → Round deletion o}
    (calm : ∀ n, (rounds n).Undisturbed) {n total : Nat} :
    (runBatchedDelete rounds n table total).truncated = false ∧
      (runBatchedDelete rounds n table total).err = false := by
  fun_induction runBatchedDelete rounds n table total with
  | case1 n _ _ cancelled => simp [(calm n).1] at cancelled
  | case2 n _ _ _ _ _ fails => simp [(calm n).2.1] at fails
  | case3 => exact ⟨rfl, rfl⟩
  | case4 n _ _ _ _ _ _ _ spent => exact absurd spent.2 ((calm n).2.2 spent.1).not_gt
  | case5 _ _ _ _ _ _ _ _ _ ih => exact ih

/-- Each run removes only rows to delete and counts them; when it is not truncated they are all
gone, and it is not if nothing disturbs it. -/
def Deletion.Batches (deletion : Deletion ρ) : Prop :=
  ∀ (table rest : Finset ρ), Relation.ReflTransGen deletion.Run table rest →
    ∀ (o : BatchOpts) (rounds : Nat → Round deletion o),
      deletion.Settles table rest 0 (runBatchedDelete rounds 0 rest 0) ∧
        ((∀ n, (rounds n).Undisturbed) → (runBatchedDelete rounds 0 rest 0).truncated = false ∧
          (runBatchedDelete rounds 0 rest 0).err = false)

variable (deletion)

theorem Deletion.spares (runs : Relation.ReflTransGen deletion.Run table rest) :
    deletion.Spares table rest := by
  induction runs with
  | refl => exact ⟨Subset.rfl, by simp⟩
  | tail _ run ih =>
    obtain ⟨o, rounds, rfl⟩ := run
    exact ih.settles.toSpares

theorem Deletion.batches : deletion.Batches :=
  fun _ _ runs _ _ => ⟨(deletion.spares runs).settles, fun calm => finishes_of_undisturbed calm⟩

/-- A clause about the row alone, as of `deleteRowsBefore`. -/
def Deletion.whereRow (clause : ρ → Bool) : Deletion ρ where
  matching table := {row ∈ table | clause row}
  steady _ _ := by grind

/-- The clause of `deleteTransitionsBefore`. -/
def superseded (cutoff : Int) (table : Finset StateTransition) : Finset StateTransition :=
  {t ∈ table | t.timestamp < cutoff ∧
    ∃ later ∈ table, later.containerId = t.containerId ∧ t.timestamp < later.timestamp}

/-- The container has no later transition. -/
structure Newest (table : Finset StateTransition) (t : StateTransition) : Prop where
  mem : t ∈ table
  last : ∀ other ∈ table, other.containerId = t.containerId → other.timestamp ≤ t.timestamp

variable {table rest : Finset StateTransition} {t : StateTransition} {cutoff : Int}

theorem exists_newest (mem : t ∈ table) : ∃ newest, Newest table newest ∧
    newest.containerId = t.containerId ∧ t.timestamp ≤ newest.timestamp := by
  obtain ⟨newest, own, last⟩ := exists_max_image {other ∈ table | other.containerId = t.containerId}
    StateTransition.timestamp ⟨t, mem_filter.mpr ⟨mem, rfl⟩⟩
  simp only [mem_filter, and_imp] at own last
  exact ⟨newest, ⟨own.1, fun other here same => last other here (same.trans own.2)⟩, own.2,
    last t mem rfl⟩

theorem Newest.mem_rest (newest : Newest table t)
    (removed : table \ rest ⊆ superseded cutoff table) : t ∈ rest := by
  by_contra gone
  obtain ⟨-, -, later, mem, same, after⟩ :=
    mem_filter.mp (removed (mem_sdiff.mpr ⟨newest.mem, gone⟩))
  exact (newest.last later mem same).not_gt after

def transitionsBefore (cutoff : Int) : Deletion StateTransition where
  matching := superseded cutoff
  steady {table rest} subset removed := by
    ext t
    simp only [superseded, mem_filter, mem_inter]
    constructor
    · rintro ⟨mem, old, later, later_mem, after⟩
      exact ⟨⟨subset mem, old, later, subset later_mem, after⟩, mem⟩
    · rintro ⟨⟨-, old, later, later_mem, same, after⟩, mem⟩
      obtain ⟨newest, last, own, newer⟩ := exists_newest later_mem
      exact ⟨mem, old, newest, last.mem_rest removed, own.trans same, after.trans_le newer⟩

theorem batched_delete_eq_delete :
    (∀ {ρ : Type} [DecidableEq ρ] (clause : ρ → Bool), (Deletion.whereRow clause).Batches) ∧
    ∀ cutoff, (transitionsBefore cutoff).Batches ∧
      ∀ table rest, Relation.ReflTransGen (transitionsBefore cutoff).Run table rest →
        ∀ t, Newest table t → t ∈ rest := by
  refine ⟨fun clause => (Deletion.whereRow clause).batches, fun cutoff =>
    ⟨(transitionsBefore cutoff).batches, ?_⟩⟩
  intro table rest runs t newest
  exact newest.mem_rest ((transitionsBefore cutoff).spares runs).removed

/-- Seven rows go in three batches of at most three. -/
theorem seven_deleted_in_batches :
    let out := runBatchedDelete (fun _ => .least (.whereRow (· < 7)) ⟨3, 60⟩) 0 (range 10) 0
    out.truncated = false ∧ out.table = {7, 8, 9} ∧ out.total = 7 := by
  obtain ⟨settles, finishes⟩ := batched_delete_eq_delete.1 (· < 7) (range 10) (range 10) .refl
    ⟨3, 60⟩ fun _ => .least _ _
  obtain ⟨whole, succeeds⟩ := finishes fun _ => ⟨rfl, rfl, fun _ => by decide⟩
  have left : _ = {7, 8, 9} := (settles.complete whole).2.trans (by decide)
  have counted := settles.counted succeeds
  rw [left] at counted
  exact ⟨whole, left, by simpa using counted⟩

/-- The deletion at once is that of the retention pass. -/
theorem toFinset_deleteTransitionsBefore (before : Int) (store : ContainerStore) :
    (Uptime.deleteTransitionsBefore before store).transitions.items.toFinset =
      store.transitions.items.toFinset \
        superseded (Agent.unix before) store.transitions.items.toFinset := by
  ext t
  simp only [Uptime.deleteTransitionsBefore, Keyed.filter, Uptime.keeps, superseded,
    List.mem_toFinset, List.mem_filter, mem_sdiff, mem_filter]
  grind

end Maintenant.Store
