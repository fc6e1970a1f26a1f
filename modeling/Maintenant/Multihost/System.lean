import Maintenant.Agent.Refinement
import Maintenant.Multihost.Session

/-!
# One agent and its server

The agent's threads, the server's session and the two directions of the stream between them.  What
the agent sent and the server has not read is the agent's wire, what the server sent and the agent
has not read is the session's outbox; both are read in order, and a cut loses what is left of them.
A session and its tracker live as long as their stream.
-/

namespace Maintenant.Multihost

open Agent Option

/-- History variables of the server: no code reads them. -/
structure Trace where
  /-- Last numbered event read from the current stream, zero when there is none. -/
  arrived : Nat := 0
  accepted : List AgentEvent := []
  counted : List Nat := []
  /-- Events that were dispatched, or rejected for good. -/
  handled : List AgentEvent := []

/-- An agent, its session and what has happened. -/
structure System where
  agent : Machine
  session : Option Session := none
  trace : Trace := {}

/-- A step of either side or of the stream. -/
inductive Action
  | agent (action : Agent.Action)
  | connect (agentNow serverNow : Int)
  | cut
  | deliver (now : Int)
  | serve (arrival : Arrival)
  | tick (now : Int) (ok : Bool)

/-- What the server records about an event it reads. -/
def Trace.read (server : Server) (arrival : Arrival) (event : AgentEvent) (tracker : AckTracker)
    (trace : Trace) : Trace where
  arrived := if event.seq = 0 then trace.arrived else event.seq
  accepted := if arrival.refusal.isNone then trace.accepted ++ [event] else trace.accepted
  counted :=
    if arrival.refusal.isNone && tracker.counts event.seq then trace.counted ++ [event.seq]
    else trace.counted
  handled :=
    if arrival.refusal.isNone && Session.handled (Session.outcome server arrival event) then
      trace.handled ++ [event]
    else trace.handled

namespace System

def init (cfg : SpoolConfig) (opened : Bool) : System := { agent := Machine.init cfg opened }

/-- The agent's receive loop reads one message. -/
def receive (codec : Codec) (now : Int) (message : ServerMessage) (agent : Machine) :
    Option Machine :=
  match message with
  | .ack seq => agent.next codec (.acked seq)
  | .error code _ retryAfterMs =>
    if code = "rate_limited" then
      agent.next codec (.rateLimited (retryAfterMs * 1000000) now)
    else if agent.recv = .idle then some agent
    else none

/-- One step of the agent, the server or the network between them. -/
def next (codec : Codec) (server : Server) (system : System) : Action → Option System
  | .agent action =>
    if action.fromServer then none
    else (system.agent.next codec action).map fun agent => { system with agent }
  | .connect agentNow serverNow =>
    if system.session.isNone ∧ system.agent.recv = .idle then
      (system.agent.next codec (.attach agentNow)).map fun agent =>
        { agent
          session := some { acks := .newAckTracker serverNow }
          trace := { system.trace with arrived := 0 } }
    else
      none
  | .cut => if system.session.isSome then some { system with session := none } else none
  | .deliver now =>
    match system.session with
    | none => none
    | some session =>
      match session.outbox with
      | [] => none
      | message :: rest =>
        (receive codec now message system.agent).map fun agent =>
          { system with agent, session := some { session with outbox := rest } }
  | .serve arrival =>
    match system.session, system.agent.wire with
    | some session, event :: rest =>
      some
        { agent := { system.agent with wire := rest }
          session := session.handleEvent server arrival event
          trace := system.trace.read server arrival event session.acks }
    | _, _ => none
  | .tick now ok =>
    match system.session with
    | none => none
    | some session => some { system with session := session.tick now ok }

/-- What a step of the system does, one case for each way it can go. -/
inductive Step (codec : Codec) (server : Server) (system : System) : Action → System → Prop
  | own {action : Agent.Action} {agent : Machine} (own : action.fromServer = false)
      (moved : system.agent.next codec action = some agent) :
      Step codec server system (.agent action) { system with agent }
  | connect {agentNow serverNow : Int} {agent : Machine} (offline : system.session = none)
      (moved : system.agent.next codec (.attach agentNow) = some agent) :
      Step codec server system (.connect agentNow serverNow)
        { agent
          session := some { acks := .newAckTracker serverNow }
          trace := { system.trace with arrived := 0 } }
  | cut : Step codec server system .cut { system with session := none }
  | ack {now : Int} {session : Session} {seq : Nat} {rest : List ServerMessage} {agent : Machine}
      (live : system.session = some session) (outbox : session.outbox = .ack seq :: rest)
      (moved : system.agent.next codec (.acked seq) = some agent) :
      Step codec server system (.deliver now)
        { system with agent, session := some { session with outbox := rest } }
  | error {now : Int} {session : Session} {code text : String} {retryAfterMs : Nat}
      {rest : List ServerMessage} {agent : Machine} (live : system.session = some session)
      (outbox : session.outbox = .error code text retryAfterMs :: rest)
      (moved : receive codec now (.error code text retryAfterMs) system.agent = some agent) :
      Step codec server system (.deliver now)
        { system with agent, session := some { session with outbox := rest } }
  | serve {arrival : Arrival} {session : Session} {event : AgentEvent} {rest : List AgentEvent}
      (live : system.session = some session) (wire : system.agent.wire = event :: rest) :
      Step codec server system (.serve arrival)
        { agent := { system.agent with wire := rest }
          session := session.handleEvent server arrival event
          trace := system.trace.read server arrival event session.acks }
  | tick {now : Int} {ok : Bool} {session : Session} (live : system.session = some session) :
      Step codec server system (.tick now ok) { system with session := session.tick now ok }

variable {codec : Codec}

theorem step_of_next {server : Server} {system after : System} {action : Action}
    (step : system.next codec server action = some after) :
    Step codec server system action after := by
  cases action with
  | agent =>
    obtain ⟨own, step⟩ := ite_none_left_eq_some.mp step
    obtain ⟨agent, moved, rfl⟩ := map_eq_some_iff.mp step
    exact .own (by simpa using own) moved
  | connect =>
    obtain ⟨free, step⟩ := ite_none_right_eq_some.mp step
    obtain ⟨agent, moved, rfl⟩ := map_eq_some_iff.mp step
    exact .connect (isNone_iff_eq_none.mp free.1) moved
  | cut =>
    simp only [next] at step
    split at step
    · cases step
      exact .cut
    · cases step
  | deliver =>
    simp only [next] at step
    split at step
    · cases step
    rename_i session live
    split at step
    · cases step
    rename_i message rest outbox
    obtain ⟨agent, moved, rfl⟩ := map_eq_some_iff.mp step
    cases message with
    | ack => exact .ack live outbox moved
    | error => exact .error live outbox moved
  | serve =>
    simp only [next] at step
    split at step
    next session event rest live wire =>
      cases step
      exact .serve live wire
    · cases step
  | tick =>
    simp only [next] at step
    split at step
    · cases step
    next session live =>
      cases step
      exact .tick live

theorem receive_error_replay {now : Int} {code text : String} {retryAfterMs : Nat}
    {before after : Machine}
    (step : receive codec now (.error code text retryAfterMs) before = some after) :
    ∃ sendSeq generation, after.replay = { before.replay with sendSeq, generation } := by
  rw [receive] at step
  split at step
  · exact ⟨_, _, Machine.rateLimited_replay step⟩
  split at step
  · cases step
    exact ⟨_, _, rfl⟩
  · cases step

/-- Sequences of the rows held. -/
def held (replay : Replay) : Set Nat := { seq | ∃ row ∈ replay.rows, row.seq = seq }

/-- Sequences the server has counted. -/
def counted (trace : Trace) : Set Nat := { seq | seq ∈ trace.counted }

/-- Sequences of the numbered events on a wire. -/
def numbers (wire : List AgentEvent) : List Nat :=
  (wire.map AgentEvent.seq).filter fun seq => seq ≠ 0

/-- The event is that of a stored row. -/
def Genuine (codec : Codec) (stored : List SpooledEvent) (event : AgentEvent) : Prop :=
  ∃ row ∈ stored, ∃ attachedAt source, codec.unmarshal row.event.payload = some source ∧
    event = wireEvent attachedAt row source

variable {event : AgentEvent}

theorem numbers_cons_zero (plain : event.seq = 0) (wire : List AgentEvent) :
    numbers (event :: wire) = numbers wire := by
  simp [numbers, plain]

theorem numbers_cons (numbered : event.seq ≠ 0) (wire : List AgentEvent) :
    numbers (event :: wire) = event.seq :: numbers wire := by
  simp [numbers, numbered]

theorem numbers_concat_zero (plain : event.seq = 0) (wire : List AgentEvent) :
    numbers (wire ++ [event]) = numbers wire := by
  simp [numbers, plain]

theorem numbers_concat (numbered : event.seq ≠ 0) (wire : List AgentEvent) :
    numbers (wire ++ [event]) = numbers wire ++ [event.seq] := by
  simp [numbers, numbered]

theorem mem_numbers {seq : Nat} {wire : List AgentEvent} (mem : seq ∈ numbers wire) :
    seq ≠ 0 ∧ ∃ event ∈ wire, event.seq = seq := by
  simp only [numbers, List.mem_filter, List.mem_map, decide_eq_true_eq] at mem
  exact ⟨mem.2, mem.1⟩

theorem Genuine.mono {stored stored' : List SpooledEvent} (genuine : Genuine codec stored event)
    (grown : ∀ row ∈ stored, row ∈ stored') : Genuine codec stored' event := by
  obtain ⟨row, mem, rest⟩ := genuine
  exact ⟨row, grown row mem, rest⟩

end System

end Maintenant.Multihost
