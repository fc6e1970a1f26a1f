import Maintenant.Multihost.AckSafety

/-!
# Acknowledged rows were handled

The session counts an event before it dispatches it, and a failed dispatch is only logged.  So an
acknowledgement covers handled rows exactly as far as no counted event fails in a way that a replay
could have mended.
-/

namespace Maintenant.Multihost

open Agent List Execution

namespace System

/-- Every row an acknowledgement on its way covers was dispatched or rejected for good, unless the
agent itself gave it up. -/
def AcksHandled (codec : Codec) (system : System) : Prop :=
  ∀ session, system.session = some session → ∀ seq ∈ ackSeqs session.outbox,
    ∀ row ∈ system.agent.spool.history.stored, row.seq ≤ seq →
      HasRow codec system.trace.handled row ∨ row ∈ system.agent.spool.history.lost

/-- An event that is counted does not fail for a passing reason, unless a copy was handled
before. -/
def dispatchHolds (server : Server) (system : System) : Action → Bool
  | .serve arrival =>
    match system.session, system.agent.wire with
    | some session, event :: _ =>
      !(arrival.refusal.isNone && session.acks.counts event.seq) ||
        Session.handled (Session.outcome server arrival event) ||
        system.trace.handled.any fun copy => copy.seq = event.seq
    | _, _ => true
  | _ => true

/-- What was counted was handled. -/
structure Handles (trace : Trace) : Prop where
  /-- Counted sequences are those of handled events. -/
  counted : ∀ seq ∈ trace.counted, ∃ event ∈ trace.handled, event.seq = seq
  accepted : ∀ event ∈ trace.handled, event ∈ trace.accepted

variable {codec : Codec} {server : Server} {system after : System}

theorem Handles.read {trace : Trace} {arrival : Arrival} {event : AgentEvent}
    {tracker : AckTracker} (handles : Handles trace)
    (holds : arrival.refusal.isNone → tracker.counts event.seq →
      Session.handled (Session.outcome server arrival event) ∨
        ∃ copy ∈ trace.handled, copy.seq = event.seq) :
    Handles (trace.read server arrival event tracker) where
  counted := by
    intro seq mem
    have grown : ∀ copy ∈ trace.handled,
        copy ∈ (trace.read server arrival event tracker).handled := by
      intro copy here
      simp only [Trace.read]
      split
      · exact mem_append_left _ here
      · exact here
    simp only [Trace.read] at mem
    split at mem
    · rename_i counts
      obtain ⟨taken, counted⟩ := Bool.and_eq_true_iff.mp counts
      rcases mem_snoc.mp mem with old | rfl
      · obtain ⟨copy, here, same⟩ := handles.counted seq old
        exact ⟨copy, grown copy here, same⟩
      rcases holds taken counted with done | ⟨copy, here, same⟩
      · simp [Trace.read, taken, done]
      · exact ⟨copy, grown copy here, same⟩
    · obtain ⟨copy, here, same⟩ := handles.counted seq mem
      exact ⟨copy, grown copy here, same⟩
  accepted := by
    intro copy mem
    simp only [Trace.read] at mem ⊢
    split at mem
    · rename_i done
      rw [if_pos (Bool.and_eq_true_iff.mp done).1]
      rcases mem_append.mp mem with old | new
      · exact mem_append_left _ (handles.accepted copy old)
      · exact mem_append_right _ new
    · split
      · exact mem_append_left _ (handles.accepted copy mem)
      · exact handles.accepted copy mem

theorem handles_next {action : Action} (handles : Handles system.trace)
    (holds : system.dispatchHolds server action)
    (step : system.next codec server action = some after) : Handles after.trace := by
  cases step_of_next step with
  | own | cut | ack | error | tick => exact handles
  | connect => exact ⟨handles.counted, handles.accepted⟩
  | serve live wire =>
    apply handles.read
    intro taken counts
    simpa [dispatchHolds, live, wire, taken, counts] using holds

theorem Sound.acksHandled (sound : Sound codec system) (handles : Handles system.trace) :
    system.AcksHandled codec := by
  intro session live seq owed row committed covered
  have streaming := sound.streaming session live
  have formed := sound.agent.formed
  have handled_of_counted : row.seq ∈ system.trace.counted →
      HasRow codec system.trace.handled row := by
    intro counted
    obtain ⟨event, mem, same⟩ := handles.counted row.seq counted
    exact sound.hasRow committed (handles.accepted event mem) same mem
  rcases formed.places row committed with held | acked | lost
  · exact .inl (handled_of_counted ((streaming.acks seq owed).2 row.seq ⟨row, held, rfl⟩ covered))
  · exact .inl (handled_of_counted (sound.linked.acked row acked))
  · exact .inr lost

/-- In every run in which no counted event fails for a passing reason, acknowledgements cover
handled rows only. -/
theorem acks_cover_handled_rows (codec : Codec) (server : Server) (cfg : SpoolConfig)
    (opened : Bool) (actions : List Action) (holds : Guarded (next codec server)
      (fun system action => system.dispatchHolds server action) (init cfg opened) actions) :
    Always (next codec server) (AcksHandled codec) (init cfg opened) actions := by
  refine always_of_guarded (fun system => Sound codec system ∧ Handles system.trace) ?_ ?_ ?_ holds
  · rintro before after action ⟨sound, handles⟩ allowed step
    exact ⟨sound.next step, handles_next handles allowed step⟩
  · rintro system ⟨sound, handles⟩
    exact sound.acksHandled handles
  refine ⟨Sound.init, ?_, ?_⟩
  · intro seq mem
    cases mem
  · intro event mem
    cases mem

def storeBusy : Arrival :=
  { taken with handle := fun _ _ => some { invalid := false, message := "database is locked" } }

/-- A row whose dispatch failed is acknowledged by the timer. -/
def acknowledgeFailed : List Action := sendFirstRow ++ [.serve storeBusy, .tick 6 true]

/-- The row is covered by an acknowledgement though no handler took it. -/
theorem failed_dispatch_is_acknowledged :
    ∃ final, run (next oneEvent plainServer) (init roomyConfig true)
        acknowledgeFailed = some final ∧ ¬ final.AcksHandled oneEvent := by
  have reached : ((run (next oneEvent plainServer) (init roomyConfig true)
      acknowledgeFailed).map fun final => (final.session.map fun session => ackSeqs session.outbox,
        final.agent.spool.history.stored.map SpooledEvent.seq, final.trace.handled,
        final.agent.spool.history.lost)) = some (some [1], [1], [], []) := by
    decide
  obtain ⟨final, execution, shown⟩ := Option.map_eq_some_iff.mp reached
  simp only [Prod.mk.injEq] at shown
  obtain ⟨owed, stored, none_handled, none_lost⟩ := shown
  obtain ⟨session, live, acks⟩ := Option.map_eq_some_iff.mp owed
  refine ⟨final, execution, ?_⟩
  intro handled
  obtain ⟨row, mem, seq⟩ : ∃ row ∈ final.agent.spool.history.stored, row.seq = 1 := by
    rw [← mem_map, stored]
    exact mem_singleton_self 1
  have covered := handled session live 1 (by rw [acks]; exact mem_singleton_self 1) row mem
    (Nat.le_of_eq seq)
  rw [none_handled, none_lost] at covered
  simp [HasRow] at covered

def acknowledgeHandled : List Action := sendFirstRow ++ [.serve taken, .tick 6 true]

theorem acks_cover_handled_rows_first :
    Always (next oneEvent plainServer) (AcksHandled oneEvent) (init roomyConfig true)
        acknowledgeHandled ∧ (run (next oneEvent plainServer) (init roomyConfig true)
        acknowledgeHandled).isSome :=
  ⟨acks_cover_handled_rows oneEvent plainServer roomyConfig true acknowledgeHandled (by decide),
    by decide⟩

end System

end Maintenant.Multihost
