import Maintenant.Escalation.Steps

/-!
# Terminated runs stay terminated

A cycle works on copies of the due runs and writes back with statements that do not look at the
status a run has by then.  A run stays as it ended exactly as long as no such statement reaches a
run that has ended meanwhile.
-/

namespace Maintenant.Escalation

open List Option Execution World RunStatus
open Agent (nanosPerSecond)
open Program (reading writing_cases)

/-- The entry is not the execution of a level of a run in a cycle that started after its end. -/
def Entry.InTime (ended : Nat → Option Ending) : Entry → Prop
  | .executed run _ cycle _ => ∀ ending ∈ ended run, cycle ≤ ending.cycles
  | .recorded _ _ => True

instance (ended : Nat → Option Ending) : DecidablePred (Entry.InTime ended) := fun _ => by
  unfold Entry.InTime
  split <;> infer_instance

/-- A run is terminal exactly if it has ended, with that status, and no cycle that started
afterwards executed a level of it. -/
def World.EndedForGood (world : World) : Prop :=
  (∀ row ∈ world.runs.items, (world.ended row.id).map Ending.status = row.status.ending) ∧
    ∀ entry ∈ world.journal, entry.InTime world.ended

instance : DecidablePred World.EndedForGood := fun _ => by
  unfold World.EndedForGood
  infer_instance

/-- A statement that sets the status of a run finds it not terminal, or gives it the status it
has. -/
def Respects (_who : Nat) (_op : Op) (input : Input) : {β : Type} → Call β → World → Prop
  | _, .updateRunProgress runId _ _ status, world =>
    input.fails ∨ ∀ row ∈ world.runs.lookup runId, row.status.terminal → status = row.status
  | _, .terminateRun runId status _, world =>
    input.fails ∨ ∀ row ∈ world.runs.lookup runId, row.status.terminal → status = row.status
  | _, _, _ => True

variable {status : RunStatus}

theorem RunStatus.eq_of_ending {other : RunStatus} (ends : status.ending = some other) :
    status = other := by
  rw [ending] at ends
  split at ends
  · exact some.inj ends
  · cases ends

theorem RunStatus.ending_of_terminal (terminal : status.terminal) :
    status.ending = some status := if_pos terminal

theorem RunStatus.ending_eq_none (running : status.terminal = false) : status.ending = none := by
  simp [ending, running]

variable {β : Type} {input : Input} {world before after : World}

/-! ### Endings -/

variable {row : Run}

theorem World.ended_withRuns {runs : Keyed Run.id} (mem : row ∈ runs) :
    (world.withRuns runs).ended row.id =
      (world.ended row.id).or (row.status.ending.map fun status => ⟨status, world.cycles⟩) := by
  have found : runs.lookup row.id = some row := Keyed.lookup_eq_some.mpr ⟨mem, rfl⟩
  simp only [withRuns, found, bind_eq_bind, bind_some]
  cases row.status.ending <;> rfl

/-- A statement on the runs that is not one of those in question. -/
structure Settles (before after : World) : Prop where
  /-- A row keeps a terminal status; a new row has a new id. -/
  rows : ∀ row ∈ after.runs,
    (∃ old ∈ before.runs, old.id = row.id ∧
      (row.status = old.status ∨ old.status.terminal = false)) ∨
      row.id = before.nextId ∧ before.nextId < after.nextId
  endings : after.runs = before.runs ∧ after.ended = before.ended ∨
    after.ended = (before.withRuns after.runs).ended
  cycles : after.cycles = before.cycles
  nextId : before.nextId ≤ after.nextId
  journal : ∀ entry ∈ after.journal, entry ∈ before.journal ∨ ∃ run level,
    entry = .recorded run level

/-- What a cycle relies on: a run that ends now ends in this cycle. -/
structure EndsNow (before after : World) : Prop where
  cycles : after.cycles = before.cycles
  ended : ∀ id, after.ended id = before.ended id ∨
    ∃ ending, after.ended id = some ending ∧ ending.cycles = before.cycles

theorem EndsNow.refl : EndsNow world world := ⟨rfl, fun _ => .inl rfl⟩

theorem EndsNow.trans {middle : World} (first : EndsNow before middle)
    (second : EndsNow middle after) : EndsNow before after := by
  refine ⟨second.cycles.trans first.cycles, ?_⟩
  intro id
  rcases second.ended id with same | ⟨ending, ended, now⟩
  · rw [same]
    exact first.ended id
  · exact .inr ⟨ending, ended, now.trans first.cycles⟩

theorem Settles.endsNow (settles : Settles before after) : EndsNow before after := by
  refine ⟨settles.cycles, ?_⟩
  intro id
  rcases settles.endings with ⟨-, ended⟩ | ended
  · exact .inl (congrFun ended id)
  rw [ended, withRuns]
  dsimp only
  cases before.ended id with
  | some => exact .inl rfl
  | none =>
    cases found : after.runs.lookup id with
    | none => exact .inl rfl
    | some row =>
      cases ends : row.status.ending with
      | none => exact .inl (by simp [ends])
      | some status => exact .inr ⟨⟨status, before.cycles⟩, by simp [ends], rfl⟩

/-- Ended runs, and which ids and cycles are in use. -/
structure World.Settled (world : World) : Prop where
  law : world.EndedForGood
  given : ∀ row ∈ world.runs, row.id < world.nextId
  fresh : ∀ id, world.nextId ≤ id → world.ended id = none
  /-- Levels are executed in cycles that have started. -/
  started : ∀ run level cycle at_, .executed run level cycle at_ ∈ world.journal →
    cycle ≤ world.cycles

theorem World.Settled.later (settled : before.Settled) (settles : Settles before after) :
    after.Settled := by
  have given : ∀ row ∈ after.runs, row.id < after.nextId := by
    intro row mem
    rcases settles.rows row mem with ⟨old, old_mem, same, -⟩ | ⟨new, more⟩
    · exact same ▸ Nat.lt_of_lt_of_le (settled.given old old_mem) settles.nextId
    · exact new ▸ more
  refine ⟨⟨?_, ?_⟩, given, ?_, ?_⟩
  · intro row mem
    rcases settles.endings with ⟨runs, ended⟩ | ended
    · rw [ended]
      exact settled.law.1 row (runs ▸ mem)
    rw [ended, ended_withRuns mem]
    rcases settles.rows row mem with ⟨old, old_mem, same, status⟩ | ⟨new, -⟩
    · have law := settled.law.1 old old_mem
      rw [same] at law
      cases terminal : old.status.terminal with
      | false =>
        rw [ending_eq_none terminal, map_eq_none_iff] at law
        simp [law, Function.comp_def]
      | true =>
        obtain kept : row.status = old.status := by
          simpa [terminal] using status
        rw [ending_of_terminal terminal, map_eq_some_iff] at law
        obtain ⟨ending, found, ends⟩ := law
        rw [kept, ending_of_terminal terminal, found]
        simp [ends]
    · rw [settled.fresh row.id new.ge]
      simp [Function.comp_def]
  · intro entry mem
    rcases settles.journal entry mem with old | ⟨run, level, rfl⟩
    · have in_time := settled.law.2 entry old
      cases entry with
      | recorded => trivial
      | executed run level cycle at_ =>
        intro ending ended
        rcases settles.endsNow.ended run with same | ⟨other, found, now⟩
        · exact in_time ending (same ▸ ended)
        · obtain rfl : other = ending := some.inj (found.symm.trans ended)
          rw [now]
          exact settled.started run level cycle at_ old
    · trivial
  · intro id new
    have absent : before.ended id = none := settled.fresh id (settles.nextId.trans new)
    rcases settles.endings with ⟨-, ended⟩ | ended
    · rw [ended, absent]
    have no_row : after.runs.lookup id = none := by
      rw [Keyed.lookup_eq_none]
      intro row mem same
      exact absurd (given row mem) (Nat.not_lt_of_le (same ▸ new))
    simp [ended, withRuns, absent, no_row]
  · intro run level cycle at_ mem
    rw [settles.cycles]
    rcases settles.journal _ mem with old | ⟨_, _, never⟩
    · exact settled.started run level cycle at_ old
    · cases never

/-! ### Calls -/

theorem Untouched.settles (untouched : Untouched before after) : Settles before after where
  rows row mem := .inl ⟨row, untouched.runs ▸ mem, rfl, .inl rfl⟩
  endings := .inl ⟨untouched.runs, untouched.ended⟩
  cycles := untouched.cycles
  nextId := untouched.nextId
  journal _ mem := .inl (untouched.journal ▸ mem)

theorem Settles.of_rows (rows : ∀ row ∈ after.runs, ∃ old ∈ before.runs, old.id = row.id ∧
      (row.status = old.status ∨ old.status.terminal = false))
    (ended : after.ended = (before.withRuns after.runs).ended)
    (cycles : after.cycles = before.cycles) (nextId : after.nextId = before.nextId)
    (journal : after.journal = before.journal) : Settles before after where
  rows row mem := .inl (rows row mem)
  endings := .inr ended
  cycles := cycles
  nextId := nextId.ge
  journal _ mem := .inl (journal ▸ mem)

variable {id : Nat} {change : Run → Run}

theorem settled_rows_modifyRun (keeps : ∀ row, (change row).id = row.id)
    (status : ∀ row ∈ world.runs, row.id = id →
      (change row).status = row.status ∨ row.status.terminal = false) :
    ∀ row ∈ (world.modifyRun id change keeps).runs, ∃ old ∈ world.runs, old.id = row.id ∧
      (row.status = old.status ∨ old.status.terminal = false) := by
  intro row mem
  rcases mem_modifyRun mem with ⟨old, -⟩ | ⟨old, old_mem, here, rfl⟩
  · exact ⟨row, old, rfl, .inl rfl⟩
  · exact ⟨old, old_mem, (keeps old).symm, status old old_mem here⟩

theorem settled_rows_deleteRuns {gone : Run → Bool} :
    ∀ row ∈ (world.deleteRuns gone).runs, ∃ old ∈ world.runs, old.id = row.id ∧
      (row.status = old.status ∨ old.status.terminal = false) :=
  fun row mem => ⟨row, mem_deleteRuns mem, rfl, .inl rfl⟩

theorem settled_rows_stop {endedAt : Int} (stopped : ∃ old ∈ world.runs, row = old ∨
      old.status.terminal = false ∧ row = World.stop status endedAt old) :
    ∃ old ∈ world.runs, old.id = row.id ∧
      (row.status = old.status ∨ old.status.terminal = false) := by
  obtain ⟨old, old_mem, rfl | ⟨running, rfl⟩⟩ := stopped
  · exact ⟨row, old_mem, rfl, .inl rfl⟩
  · exact ⟨old, old_mem, rfl, .inr running⟩

/-- The call executes no level. -/
def Call.Silent {β : Type} : Call β → Prop
  | .executing .. => False
  | _ => True

variable {who : Nat} {op : Op} {request : Call β}

theorem settles_exec (silent : request.Silent) (respects : Respects who op input request world) :
    Settles world (exec input request world).2 := by
  have nothing : Settles world world := Untouched.refl.settles
  -- Both statements in question set the status of one row.
  have one_row {runId : Nat} {status : RunStatus}
      (kept : input.fails ∨ ∀ row ∈ world.runs.lookup runId, row.status.terminal →
        status = row.status) (works : input.fails = false) :
      ∀ row ∈ world.runs, row.id = runId → status = row.status ∨ row.status.terminal = false := by
    intro row mem here
    cases terminal : row.status.terminal with
    | false => exact .inr rfl
    | true =>
      rcases kept with fails | kept
      · rw [works] at fails
        cases fails
      · exact .inl (kept row (Keyed.lookup_eq_some.mpr ⟨mem, here⟩) terminal)
  cases request with
  | insertRun =>
    refine writing_cases nothing fun _ => ?_
    refine ⟨?_, .inr rfl, rfl, Nat.le_succ _, fun entry mem => .inl mem⟩
    intro row mem
    rcases mem_insertRun mem with old | rfl
    · exact .inl ⟨row, old, rfl, .inl rfl⟩
    · exact .inr ⟨rfl, Nat.lt_succ_self _⟩
  | updateRunProgress runId level nextActionAt status =>
    refine writing_cases nothing fun works => ?_
    have kept : ∀ row ∈ world.runs, row.id = runId →
        status = row.status ∨ row.status.terminal = false := one_row respects works
    have rows : ∀ row ∈ (world.updateRunProgress runId level nextActionAt status).runs,
        ∃ old ∈ world.runs, old.id = row.id ∧
          (row.status = old.status ∨ old.status.terminal = false) :=
      settled_rows_modifyRun (by exact fun _ => rfl) kept
    refine ⟨fun row mem => .inl (rows row mem), .inr rfl, rfl, le_rfl, ?_⟩
    intro entry mem
    simp only [updateRunProgress] at mem
    split at mem
    · rcases mem_cons.mp mem with rfl | old
      · exact .inr ⟨runId, level, rfl⟩
      · exact .inl old
    · exact .inl mem
  | terminateRun runId status =>
    refine writing_cases nothing fun works => ?_
    have kept : ∀ row ∈ world.runs, row.id = runId →
        status = row.status ∨ row.status.terminal = false := one_row respects works
    exact .of_rows (settled_rows_modifyRun (by exact fun _ => rfl) kept) rfl rfl rfl rfl
  | pauseRunForMaintenance =>
    refine writing_cases nothing fun _ => ?_
    refine .of_rows (settled_rows_modifyRun (by intro row; split <;> rfl) ?_) rfl rfl rfl rfl
    intro row _ _
    split
    · exact .inl rfl
    next running => exact .inr (by simpa using running)
  | resumeRunFromMaintenance =>
    refine writing_cases nothing fun _ => ?_
    refine .of_rows (settled_rows_modifyRun (by intro row; split <;> rfl) ?_) rfl rfl rfl rfl
    intro row _ _
    split
    next paused => exact .inr (by rw [paused]; rfl)
    · exact .inl rfl
  | deletePolicyRow =>
    refine writing_cases nothing fun _ => ?_
    refine .of_rows ?_ rfl rfl rfl rfl
    intro row mem
    obtain ⟨old, old_mem, rfl | rfl⟩ := mem_deletePolicyRow mem
    · exact ⟨row, old_mem, rfl, .inl rfl⟩
    · exact ⟨old, old_mem, rfl, .inl rfl⟩
  | stopPolicyRuns =>
    refine writing_cases nothing fun _ => ?_
    exact .of_rows (fun row mem => settled_rows_stop (mem_stopPolicyRuns mem)) rfl rfl rfl rfl
  | bulkStopActiveRuns =>
    refine writing_cases nothing fun _ => ?_
    exact .of_rows (fun row mem => settled_rows_stop (mem_bulkStopActiveRuns mem)) rfl rfl rfl rfl
  | purgeBatch =>
    refine writing_cases nothing fun _ => ?_
    exact .of_rows settled_rows_deleteRuns rfl rfl rfl rfl
  | changeAlerts => exact .of_rows settled_rows_deleteRuns rfl rfl rfl rfl
  | executing => cases silent
  | _ => exact (untouched_of_quiet rfl).settles

/-! ### Cycles -/

/-- The run has not ended before this cycle. -/
def StillRunning (run : Run) (world : World) : Prop :=
  ∀ ending, world.ended run.id = some ending → world.cycles ≤ ending.cycles

def AllRunning (runs : List Run) (world : World) : Prop := ∀ run ∈ runs, StillRunning run world

variable {runs : List Run}

theorem AllRunning.later (running : AllRunning runs before)
    (later : EndsNow before after) : AllRunning runs after := by
  intro run mem ending ended
  rw [later.cycles]
  rcases later.ended run.id with same | ⟨other, found, now⟩
  · exact running run mem ending (same ▸ ended)
  · obtain rfl : other = ending := some.inj (found.symm.trans ended)
    exact now.ge

theorem World.Settled.executing (settled : world.Settled) {run : Run}
    (running : StillRunning run world) {level : Nat} {now : Int} :
    (exec input (.executing run.id level now) world).2.Settled := by
  refine ⟨⟨settled.law.1, ?_⟩, settled.given, settled.fresh, ?_⟩
  · intro entry mem
    rcases mem_cons.mp mem with rfl | old
    · exact fun ending ended => running ending ended
    · exact settled.law.2 entry old
  intro run level cycle at_ mem
  rcases mem_cons.mp mem with new | old
  · cases new
    exact le_rfl
  · exact settled.started run level cycle at_ old

/-- Thread 0 relies on the cycle count and on when runs end. -/
def terminationContract : Contract Call Input World Op where
  inv := World.Settled
  rely who before after := who = 0 → EndsNow before after
  allowed := Respects
  idle _ _ := True
  refl _ _ := fun _ => .refl
  trans first second := fun here => (first here).trans (second here)

section Threads

variable {configured : Int}

theorem Call.silent_of_foreign (request : Call β) (foreign : request.foreign) : request.Silent := by
  cases request <;> trivial

theorem stable_allRunning : terminationContract.Stable 0 (AllRunning runs) :=
  fun _ _ running later => running.later (later.1 rfl)

/-- Levels are executed for these runs only. -/
def Works (runs : List Run) {β : Type} : Call β → Prop
  | .executing runId _ _ => ∃ run ∈ runs, run.id = runId
  | _ => True

theorem works_of_quiet (request : Call β) (quiet : request.Quiet) : Works runs request := by
  cases request <;> trivial

variable {run : Run} {runId : Nat} {now : Int}

theorem uses_terminate : (terminate runId status now).Uses (Works runs) :=
  ⟨trivial, fun _ => trivial⟩

theorem uses_advanceRun (mem : run ∈ runs) {a : Alerting.Alert} {policy : Policy} :
    (advanceRun now run a policy).Uses (Works runs) := by
  have dispatches {levelIndex : Int} {channelIds : List String} {a : Alerting.Alert} :
      (dispatchSpecial run.id levelIndex channelIds a).Uses (Works runs) :=
    uses_dispatchSpecial.mono works_of_quiet
  simp only [advanceRun]
  split
  · split
    · exact uses_terminate
    · split
      · exact uses_terminate
      · exact Program.uses_bind dispatches fun _ => uses_terminate
  · refine Program.uses_call ⟨run, mem, rfl⟩ fun _ => ?_
    refine Program.uses_bind dispatches fun _ => ?_
    exact ⟨trivial, fun _ => ⟨trivial, fun _ => trivial⟩⟩

theorem uses_processRun (mem : run ∈ runs) : (processRun now run).Uses (Works runs) := by
  simp only [processRun, Program.bind_eq, Program.perform_bind]
  refine Program.uses_call trivial fun found => ?_
  split
  · trivial
  · exact uses_terminate
  split
  · exact uses_terminate
  split
  · exact uses_terminate
  refine Program.uses_call trivial fun suppressed => ?_
  split
  · exact ⟨trivial, fun _ => trivial⟩
  split
  · exact ⟨trivial, fun _ => trivial⟩
  · split
    · exact uses_terminate
    · exact uses_advanceRun mem

theorem silent_keeps (who : Nat) (op : Op) (silent : request.Silent) {now : World}
    (settled : now.Settled) (respects : Respects who op input request now) :
    (exec input request now).2.Settled ∧ EndsNow now (exec input request now).2 := by
  have settles := settles_exec silent respects
  exact ⟨settled.later settles, settles.endsNow⟩

variable {program : Text Unit}

theorem triple_foreign (calls : program.Uses Call.foreign) :
    terminationContract.Triple (shop configured) who op (fun _ => True) program
      fun _ _ => True := by
  refine .uses (fun _ _ _ _ => trivial) ?_ calls
  intro γ request foreign now input settled _ respects _
  obtain ⟨kept, ends⟩ := silent_keeps who op (request.silent_of_foreign foreign) settled respects
  exact ⟨kept, fun _ _ _ => ends, trivial⟩

theorem triple_works (calls : program.Uses (Works runs)) :
    terminationContract.Triple (shop configured) 0 op (AllRunning runs) program
      fun _ => AllRunning runs := by
  refine .uses stable_allRunning ?_ calls
  intro γ request works now input settled running respects _
  by_cases silent : request.Silent
  · obtain ⟨kept, ends⟩ := silent_keeps 0 op silent settled respects
    exact ⟨kept, fun _ _ _ => ends, running.later ends⟩
  cases request with
  | executing =>
    obtain ⟨run, mem, rfl⟩ := works
    refine ⟨settled.executing (running run mem), ?_, running⟩
    exact fun _ _ _ => ⟨rfl, fun _ => .inl rfl⟩
  | _ => exact absurd trivial silent

theorem triple_evaluateCycle {timeout now : Int} :
    terminationContract.Triple (shop configured) 0 op (fun _ => True) (evaluateCycle timeout now)
      fun _ _ => True := by
  have recovers : terminationContract.Triple (shop configured) 0 op (fun _ => True)
      (recoverOrphans timeout now) fun _ _ => True :=
    triple_foreign (uses_recoverOrphans.mono Call.foreign_of_quiet)
  simp only [evaluateCycle, Program.bind_eq, Program.perform_bind]
  refine .observe (fun _ _ _ _ => trivial) (fun _ _ => rfl) fun licensed => ?_
  cases licensed with
  | false => exact .done (fun _ _ _ _ => trivial) fun _ _ _ => trivial
  | true =>
    refine .bind recovers fun _ => ?_
    refine .call (fun found => AllRunning (found.getD [])) (fun _ _ _ _ => trivial) ?_ ?_
    · intro world input settled _ _ _
      refine ⟨settled, fun _ _ _ => .refl, ?_⟩
      intro run mem ending ended
      -- A run that is due has not ended.
      have due : run ∈ world.selectDueRuns now := by
        change run ∈ (reading input.fails (world.selectDueRuns now)).getD [] at mem
        cases fails : input.fails with
        | true => simp [reading, fails] at mem
        | false => simpa [reading, fails] using mem
      obtain ⟨listed, is_due⟩ := mem_filter.mp ((mem_insertionSort _).mp due)
      have running : run.status.terminal = false := by
        simp only [World.due, Bool.and_eq_true, Bool.not_eq_true'] at is_due
        exact is_due.1
      have law := settled.law.1 run listed
      rw [ending_eq_none running] at law
      rw [show world.ended run.id = some ending from ended] at law
      cases law
    · intro found
      cases found with
      | none => exact .done stable_allRunning fun _ _ _ => trivial
      | some =>
        refine .consequence (triple_works ?_) (fun _ _ running => running) fun _ _ _ _ => trivial
        exact Program.uses_forEach fun run mem => uses_processRun mem

end Threads

theorem termination_verified {configured : Int} :
    terminationContract.Verified (shop configured) := by
  refine .of_triples ?_ ?_ fun _ _ _ _ => trivial
  · intro who op world may settled
    simp only [shop]
    cases cycle : op.isCycle with
    | false => exact ⟨settled, fun _ _ _ => .refl⟩
    | true =>
      have engine : who = 0 := by simpa [shop, cycle] using may
      refine ⟨⟨settled.law, settled.given, settled.fresh, ?_⟩, ?_⟩
      · intro run level cycle at_ mem
        exact Nat.le_succ_of_le (settled.started run level cycle at_ mem)
      · exact fun other elsewhere here => absurd (here.trans engine.symm) elsewhere
  · intro who op may
    cases cycle : op.isCycle with
    | false => exact triple_foreign (op.uses_foreign _ cycle)
    | true =>
      have engine : who = 0 := by simpa [shop, cycle] using may
      subst engine
      cases op with
      | cycle => exact triple_evaluateCycle
      | _ => cases cycle

/-! ### The law -/

theorem status_kept_of_law {keeps : ∀ row, (change row).id = row.id} (law : world.EndedForGood)
    (after : ∀ row ∈ (world.modifyRun id change keeps).runs.items,
      ((world.modifyRun id change keeps).ended row.id).map Ending.status = row.status.ending)
    (found : row ∈ world.runs.lookup id) (terminal : row.status.terminal) :
    (change row).status = row.status := by
  obtain ⟨mem, here⟩ := Keyed.lookup_eq_some.mp found
  have changed : change row ∈ world.runs.update id change keeps :=
    (Keyed.mem_update keeps).mpr (.inr ⟨row, mem, here, rfl⟩)
  have before := law.1 row mem
  rw [ending_of_terminal terminal, map_eq_some_iff] at before
  obtain ⟨ending, ended, ends⟩ := before
  have now := after _ changed
  rw [modifyRun, ended_withRuns changed, keeps, ended] at now
  rw [← ends]
  exact eq_of_ending now.symm

theorem respects_of_law (law : world.EndedForGood)
    (after : (exec input request world).2.EndedForGood) : Respects who op input request world := by
  cases request with
  | updateRunProgress | terminateRun =>
    cases fails : input.fails with
    | true => exact .inl fails
    | false =>
      simp only [exec, fails] at after
      refine .inr fun row found terminal => ?_
      exact status_kept_of_law law after.1 found terminal
  | _ => trivial

/-- From a new database, ended runs stay as they ended and no later cycle executes a level of them,
exactly when no `UpdateRunProgress` and no `TerminateRun` gives another status to a run that has
ended. -/
theorem ended_runs_stay_iff_respected (configured : Int) (actions : List (Pool.Action Input Op)) :
    Always (Pool.next (shop configured)) (fun pool => pool.shared.EndedForGood)
        (Pool.idle .empty) actions ↔
      Guarded (Pool.next (shop configured)) (Pool.Meets Respects) (Pool.idle .empty) actions := by
  constructor
  · refine guarded_of_always (Pool.meets_of_next_none fun _ _ _ _ => rfl) ?_
    intro before after action law step kept
    refine Pool.meets_of_next ?_ step
    intro who op input β request same
    rw [same] at kept
    exact respects_of_law law kept
  · have empty : empty.Settled :=
      ⟨⟨fun _ mem => absurd mem not_mem_nil, fun _ mem => absurd mem not_mem_nil⟩,
        fun _ mem => absurd mem not_mem_nil, fun _ _ => rfl,
        fun _ _ _ _ mem => absurd mem not_mem_nil⟩
    have sound : terminationContract.Sound (shop configured) (Pool.idle .empty) :=
      .initial empty fun _ _ _ => trivial
    exact sound.always termination_verified fun pool sound => sound.inv.law

/-- Two levels, after one and after two minutes. -/
def twoLevels : PolicyRequest where
  name := "on call"
  active := true
  filters := ⟨[], []⟩
  levels := [⟨60, ["ops"]⟩, ⟨120, ["ops"]⟩]

/-- The policy of a run is deleted when the cycle that executed its first level is about to record
it. -/
def deletedDuringCycle : List (Pool.Action Input Op) :=
  [.start 1 (.alerts ((Keyed.empty _).insert standingAlert)), .step 1 fine,
    .start 1 (.createPolicy twoLevels), .step 1 fine,
    .start 1 (.created standingAlert 0), .step 1 fine, .step 1 fine, .step 1 fine, .step 1 fine,
    .start 0 (.cycle (60 * nanosPerSecond))] ++ List.replicate 9 (.step 0 fine) ++
  [.start 1 (.deletePolicy 0 (60 * nanosPerSecond)), .step 1 fine, .step 1 fine, .step 1 fine,
    .step 0 fine, .start 0 (.cycle (120 * nanosPerSecond))] ++ List.replicate 6 (.step 0 fine)

/-- The run is stopped with its policy, becomes active again and has its second level executed. -/
theorem deleted_policy_escalates :
    ¬Always (Pool.next (shop 0)) (fun pool => pool.shared.EndedForGood)
        (Pool.idle .empty) deletedDuringCycle ∧
      (run (Pool.next (shop 0)) (Pool.idle .empty) deletedDuringCycle).map
          (fun pool => (pool.shared.ended 1, pool.shared.journal)) =
        some (some ⟨.stoppedByPolicyDelete, 1⟩,
          [.executed 1 1 2 (120 * nanosPerSecond), .recorded 1 0,
            .executed 1 0 1 (60 * nanosPerSecond)]) := by
  decide

end Maintenant.Escalation
