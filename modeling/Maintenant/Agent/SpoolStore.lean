import Maintenant.Execution
import Maintenant.Agent.Event
import Mathlib.Data.List.Sort

/-!
# The SQLite side of the spool

`spool_events` is kept as its rows in ascending sequence order together with the `AUTOINCREMENT`
high-water mark, so a sequence is never given out twice.  Every deletion returns the rows it removed
beside the surviving table; the source only counts them.
-/

namespace Maintenant.Agent

open List

/-- One row of `spool_events`. -/
structure SpooledEvent where
  seq : Nat
  event : PendingEvent
  deriving DecidableEq

/-- The `size_bytes` column. -/
def SpooledEvent.size (row : SpooledEvent) : Int := row.event.size

/-- Rows one `DeleteOldestBytes` call looks at. -/
def spoolDropScanLimit : Nat := 50000

/-- The spool database. -/
structure SpoolStore where
  /-- Rows of `spool_events`, by ascending sequence. -/
  rows : List SpooledEvent
  lastSeq : Nat
  /-- Value of the `dropped_since_connect` row of `spool_meta`. -/
  droppedSinceConnect : Nat
  ascending : rows.Pairwise (·.seq < ·.seq)
  /-- Sequences start at one and stay at or below the high-water mark. -/
  bounded : ∀ row ∈ rows, 0 < row.seq ∧ row.seq ≤ lastSeq

/-- Number consecutive events after `last`. -/
def numberFrom (last : Nat) : List PendingEvent → List SpooledEvent
  | [] => []
  | event :: events => { seq := last + 1, event } :: numberFrom (last + 1) events

@[simp] theorem numberFrom_nil (last : Nat) : numberFrom last [] = [] := rfl

@[simp] theorem map_event_numberFrom (last : Nat) (events : List PendingEvent) :
    (numberFrom last events).map SpooledEvent.event = events := by
  induction events generalizing last with
  | nil => rfl
  | cons event events ih => simp [numberFrom, ih]

variable {events : List PendingEvent} {row : SpooledEvent} {last : Nat}

theorem numberFrom_seq_bounds
    (mem : row ∈ numberFrom last events) : last < row.seq ∧ row.seq ≤ last + events.length := by
  induction events generalizing last with
  | nil => simp at mem
  | cons event events ih =>
    rw [numberFrom, mem_cons] at mem
    rw [length_cons]
    rcases mem with rfl | later
    · simp only
      omega
    · have := ih later
      omega

theorem event_mem_of_mem_numberFrom (mem : row ∈ numberFrom last events) : row.event ∈ events := by
  have mapped := mem_map_of_mem (f := SpooledEvent.event) mem
  rwa [map_event_numberFrom] at mapped

theorem numberFrom_ascending (last : Nat) : (numberFrom last events).Pairwise (·.seq < ·.seq) := by
  induction events generalizing last with
  | nil => exact List.Pairwise.nil
  | cons event events ih =>
    rw [numberFrom, pairwise_cons]
    refine ⟨?_, ih (last + 1)⟩
    intro row mem
    exact (numberFrom_seq_bounds mem).1

/-- The bytes up to and including each row, in row order. -/
def withRunning (before : Int) : List SpooledEvent → List (SpooledEvent × Int)
  | [] => []
  | row :: rows => (row, before + row.size) :: withRunning (before + row.size) rows

variable {target : Int}

/-- The rows selected for a target are those before which less than the target was passed. -/
theorem scan_withRunning {rows : List SpooledEvent} (before : Int) (limit : Nat) :
    ∃ n ≤ min rows.length limit, ((withRunning before rows).take limit).filterMap (fun scanned =>
        if scanned.2 - scanned.1.size < target then some scanned.1.seq else none) =
          (rows.take n).map SpooledEvent.seq ∧
      (∀ k < n, before + ((rows.take k).map SpooledEvent.size).sum < target) ∧
      (target ≤ before + ((rows.take n).map SpooledEvent.size).sum ∨
        n = min rows.length limit) := by
  induction rows generalizing before limit with
  | nil => exact ⟨0, by simp [withRunning]⟩
  | cons row rows ih =>
    cases limit with
    | zero => exact ⟨0, by simp⟩
    | succ limit =>
      obtain ⟨n, bounded, selected, short, enough⟩ := ih (before + row.size) limit
      rw [withRunning, take_succ_cons, filterMap_cons, selected, add_sub_cancel_right]
      by_cases wanted : before < target
      · refine ⟨n + 1, by simp; omega, by simp [wanted], ?_, ?_⟩
        · intro k below
          cases k with
          | zero => simpa using wanted
          | succ k => simpa [add_assoc] using short k (by omega)
        · simpa [add_assoc] using enough
      · -- Sizes are not negative, so no later row is selected either.
        have none_left : n = 0 := by
          by_contra some_left
          have passed := short 0 (by omega)
          have : 0 ≤ row.size := Int.natCast_nonneg _
          simp at passed
          omega
        exact ⟨0, by simp, by simp [wanted, none_left], by simp, .inl (by simpa using wanted)⟩

namespace SpoolStore

def empty : SpoolStore where
  rows := []
  lastSeq := 0
  droppedSinceConnect := 0
  ascending := List.Pairwise.nil
  bounded := by simp

def append (store : SpoolStore) (events : List PendingEvent) : SpoolStore where
  rows := store.rows ++ numberFrom store.lastSeq events
  lastSeq := store.lastSeq + events.length
  droppedSinceConnect := store.droppedSinceConnect
  ascending := by
    rw [List.pairwise_append]
    refine ⟨store.ascending, numberFrom_ascending _, ?_⟩
    intro old old_mem new new_mem
    have := (store.bounded old old_mem).2
    have := (numberFrom_seq_bounds new_mem).1
    omega
  bounded := by
    intro row mem
    rcases List.mem_append.mp mem with old | new
    · have := store.bounded row old
      omega
    · have := numberFrom_seq_bounds new
      omega

/-- Up to `limit` rows with a sequence strictly above `after`, oldest first. -/
def readFrom (store : SpoolStore) (after limit : Nat) : List SpooledEvent :=
  (store.rows.filter fun row => after < row.seq).take limit

/-- Delete the rows a `WHERE` clause selects; also returns them. -/
def deleteWhere (store : SpoolStore) (selected : SpooledEvent → Bool) :
    SpoolStore × List SpooledEvent :=
  ({ rows := store.rows.filter fun row => !selected row
     lastSeq := store.lastSeq
     droppedSinceConnect := store.droppedSinceConnect
     ascending := store.ascending.filter _
     bounded := fun row mem => store.bounded row (List.mem_of_mem_filter mem) },
    store.rows.filter selected)

/-- Remove every event whose sequence is at or below `seq`. -/
def deleteUpTo (store : SpoolStore) (seq : Nat) : SpoolStore × List SpooledEvent :=
  store.deleteWhere fun row => row.seq ≤ seq

/-- Remove every event observed before `cutoff`. -/
def deleteOlderThan (store : SpoolStore) (cutoff : Int) : SpoolStore × List SpooledEvent :=
  store.deleteWhere fun row => row.event.observedAt < cutoff

/-- The sequence below which `target` bytes are freed, if any row has to go. -/
def oldestBytesBound (store : SpoolStore) (target : Int) : Option Nat :=
  (((withRunning 0 store.rows).take spoolDropScanLimit).filterMap fun (row, running) =>
    if running - row.size < target then some row.seq else none).max?

/-- Drop the oldest events until `target` bytes are freed.  The scan is capped, so a large spool
takes several calls. -/
def deleteOldestBytes (store : SpoolStore) (target : Int) : SpoolStore × List SpooledEvent :=
  match store.oldestBytesBound target with
  | none => (store, [])
  | some bound => store.deleteUpTo bound

/-- Count `n` more dropped events. -/
def addDropped (store : SpoolStore) (n : Nat) : SpoolStore :=
  { store with droppedSinceConnect := store.droppedSinceConnect + n }

def resetDroppedSinceConnect (store : SpoolStore) : SpoolStore :=
  { store with droppedSinceConnect := 0 }

section Fields

variable (store : SpoolStore) (selected : SpooledEvent → Bool)

@[simp] theorem append_rows (events : List PendingEvent) :
    (store.append events).rows = store.rows ++ numberFrom store.lastSeq events := rfl

@[simp] theorem deleteWhere_rows :
    (store.deleteWhere selected).1.rows = store.rows.filter fun row => !selected row := rfl

@[simp] theorem deleteWhere_deleted :
    (store.deleteWhere selected).2 = store.rows.filter selected := rfl

@[simp] theorem resetDroppedSinceConnect_rows :
    store.resetDroppedSinceConnect.rows = store.rows := rfl

end Fields

/-- A budget deletion is a `WHERE` deletion of a prefix of the sequences. -/
theorem deleteOldestBytes_eq (store : SpoolStore) :
    ∃ bound, store.deleteOldestBytes target = store.deleteUpTo bound := by
  rw [deleteOldestBytes]
  split
  · refine ⟨0, ?_⟩
    have untouched : ∀ row ∈ store.rows, ¬ row.seq ≤ 0 := by
      intro row mem
      have := (store.bounded row mem).1
      omega
    have none_deleted : store.rows.filter (fun row => decide (row.seq ≤ 0)) = [] := by
      rw [filter_eq_nil_iff]
      intro row mem
      simpa using untouched row mem
    have all_kept : store.rows.filter (fun row => !decide (row.seq ≤ 0)) = store.rows := by
      rw [filter_eq_self]
      intro row mem
      simpa using untouched row mem
    simp only [deleteUpTo, deleteWhere, none_deleted, all_kept]
  · exact ⟨_, rfl⟩

theorem deleteWhere_perm (store : SpoolStore) (selected : SpooledEvent → Bool) :
    ((store.deleteWhere selected).2 ++ (store.deleteWhere selected).1.rows).Perm store.rows := by
  simpa using filter_append_perm selected store.rows

theorem mem_readFrom {store : SpoolStore} {after limit : Nat}
    (mem : row ∈ store.readFrom after limit) : row ∈ store.rows ∧ after < row.seq := by
  have filtered := mem_of_mem_take mem
  simpa using filtered

/-- `DeleteOldestBytes` removes the shortest run of oldest rows that holds the target, or all the
rows it looks at. -/
theorem deleteOldestBytes_shortest (store : SpoolStore) (target : Int) :
    let scanned := min store.rows.length spoolDropScanLimit
    let size (n : Nat) := ((store.rows.take n).map SpooledEvent.size).sum
    let after := store.deleteOldestBytes target
    ∃ n ≤ scanned, after.2 = store.rows.take n ∧ after.2.length = n ∧
      after.1.rows = store.rows.drop n ∧ (∀ k < n, size k < target) ∧
      (target ≤ size n ∨ n = scanned) ∧
      ∀ gone ∈ after.2, ∀ kept ∈ after.1.rows, gone.seq < kept.seq := by
  intro scanned size after
  obtain ⟨n, bounded, selected, short, enough⟩ :=
    scan_withRunning 0 spoolDropScanLimit
  simp only [zero_add] at short enough
  have order := store.ascending
  rw [← take_append_drop n store.rows, pairwise_append] at order
  have split : after.2 = store.rows.take n ∧ after.1.rows = store.rows.drop n := by
    have largest :
        store.oldestBytesBound target = ((store.rows.take n).map SpooledEvent.seq).max? :=
      congrArg max? selected
    simp only [after, deleteOldestBytes]
    cases found : store.oldestBytesBound target with
    | none =>
      have nothing : store.rows.take n = [] := by simpa [largest] using found
      have whole := take_append_drop n store.rows
      rw [nothing, nil_append] at whole
      exact ⟨nothing.symm, whole.symm⟩
    | some =>
      obtain ⟨reached, highest⟩ := max?_eq_some_iff.mp (largest.symm.trans found)
      obtain ⟨last, last_mem, rfl⟩ := mem_map.mp reached
      have older : ∀ row ∈ store.rows.take n, row.seq ≤ last.seq := fun row mem =>
        highest row.seq (mem_map_of_mem mem)
      have newer : ∀ row ∈ store.rows.drop n, last.seq < row.seq := order.2.2 last last_mem
      have removed : store.rows.filter (fun row => decide (row.seq ≤ last.seq)) =
          store.rows.take n := by
        conv_lhs => rw [← take_append_drop n store.rows]
        rw [filter_append, filter_eq_self.mpr (by simpa using older),
          filter_eq_nil_iff.mpr (by simpa using newer), append_nil]
      have kept : store.rows.filter (fun row => !decide (row.seq ≤ last.seq)) =
          store.rows.drop n := by
        conv_lhs => rw [← take_append_drop n store.rows]
        rw [filter_append, filter_eq_nil_iff.mpr (by simpa using older),
          filter_eq_self.mpr (by simpa using newer), nil_append]
      exact ⟨removed, kept⟩
  refine ⟨n, bounded, split.1, ?_, split.2, short, enough, ?_⟩
  · rw [split.1, length_take]
    omega
  · rw [split.1, split.2]
    exact order.2.2

end SpoolStore

end Maintenant.Agent
