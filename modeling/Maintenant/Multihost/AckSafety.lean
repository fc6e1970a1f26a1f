import Maintenant.Multihost.Link

/-!
# Acknowledged rows were taken by the server

In every run of the agent, the server and the network between them, a row the agent deletes because
of an acknowledgement was accepted by the server, on this stream or on an earlier one.
-/

namespace Maintenant.Multihost

open Agent Execution

variable {cfg : SpoolConfig} {opened : Bool}

namespace System

/-- The invariant of an agent and its server. -/
structure Sound (codec : Codec) (system : System) : Prop where
  agent : Machine.Sound codec system.agent
  linked : Linked codec system.agent.replay system.trace
  streaming : ∀ session, system.session = some session →
    Streaming codec system.agent.replay system.trace session

variable {codec : Codec} {server : Server} {system after : System}

theorem machine_sound_of_wire {agent : Machine} (sound : Machine.Sound codec agent)
    (rest : List AgentEvent) : Machine.Sound codec { agent with wire := rest } where
  accounted := sound.accounted
  nonempty := sound.nonempty
  serialized := sound.serialized
  committed := sound.committed
  formed := { sound.formed with }
  paced := ⟨sound.paced.cursor, by
    have point := sound.paced.point
    simp only [Machine.replay, Replay.of] at point ⊢
    cases pc : agent.drain <;> rw [pc] at point <;> exact point⟩
  inOrder := { sound.inOrder with
    behind := fun row mem new overtaken =>
      { sound.inOrder.behind row mem new overtaken with } }

namespace Sound

theorem init : Sound codec (System.init cfg opened) where
  agent := Machine.Sound.init
  linked :=
    { ackSeq_le := Nat.zero_le _
      ackSeq := by
        rintro seq ⟨row, mem, rfl⟩ passed
        have agent : Machine.Sound codec (Machine.init cfg opened) := Machine.Sound.init
        have := (agent.formed.bounded row (agent.formed.rows_stored row mem)).1
        have nothing : (System.init cfg opened).agent.replay.ackSeq = 0 := rfl
        omega
      acked := by
        intro row mem
        cases mem
      genuine := by
        intro event mem
        cases mem
      counted := by
        intro seq mem
        cases mem }
  streaming := by
    intro session live
    cases live

section

variable {agent : Machine} (sound : Sound codec system)

include sound

theorem own_step {action : Agent.Action}
    (own : action.fromServer = false) (step : system.agent.next codec action = some agent) :
    Sound codec { system with agent } := by
  have replays := Machine.next_replays sound.agent.readable step
  have not_server : ¬ (system.agent.cause action).server := by
    simp [Machine.cause, own]
  have kept : Replay.WellFormed codec agent.replay ∧ Replay.Paced agent.replay ∧
      Linked codec agent.replay system.trace ∧ ∀ session, system.session = some session →
        Streaming codec agent.replay system.trace session := by
    refine replays.preserves (fun replay => Replay.WellFormed codec replay ∧ Replay.Paced replay ∧
      Linked codec replay system.trace ∧ ∀ session, system.session = some session →
        Streaming codec replay system.trace session) ?_
      ⟨sound.agent.formed, sound.agent.paced, sound.linked, sound.streaming⟩
    rintro first last ⟨formed, paced, linked, streaming⟩ one
    exact ⟨formed.step one, paced.step formed one, linked.step formed not_server one,
      fun session live => (streaming session live).step linked formed paced not_server one⟩
  obtain ⟨-, -, linked, streaming⟩ := kept
  exact ⟨sound.agent.next step, linked, streaming⟩

theorem connect {agentNow serverNow : Int}
    (step : system.agent.next codec (.attach agentNow) = some agent) : Sound codec
      { agent
        session := some { acks := .newAckTracker serverNow }
        trace := { system.trace with arrived := 0 } } := by
  have replay := Machine.attach_replay step
  have formed := sound.agent.formed
  refine ⟨sound.agent.next step, ?_, ?_⟩
  · rw [replay]
    exact { sound.linked with }
  rintro session live
  cases live
  rw [replay]
  exact
    { genuine := by
        intro event mem
        cases mem
      paced := Watermark.Paced.nil _ _ _
      last := rfl
      arrived_le := Nat.zero_le _
      highest_le := Nat.zero_le _
      refused_le := Nat.zero_le _
      safe := by
        apply AckTracker.Safe.new
        rintro seq ⟨row, mem, rfl⟩
        exact (formed.bounded row (formed.rows_stored row mem)).1
      acks := by
        intro seq mem
        cases mem }

variable {session : Session} {rest : List ServerMessage}

theorem receive_ack {seq : Nat} (live : system.session = some session)
    (outbox : session.outbox = .ack seq :: rest)
    (step : system.agent.next codec (.acked seq) = some agent) :
    Sound codec { system with agent, session := some { session with outbox := rest } } := by
  have streaming := sound.streaming session live
  have owed : seq ∈ ackSeqs session.outbox := by
    rw [outbox]
    exact List.mem_cons_self
  have later : ∀ other ∈ ackSeqs rest, other ∈ ackSeqs session.outbox := by
    intro other mem
    rw [outbox]
    exact List.mem_cons_of_mem seq mem
  have moved := Machine.acked_replay step
  obtain ⟨given, covered⟩ := streaming.acks seq owed
  have fewer : Streaming codec system.agent.replay system.trace { session with outbox := rest } :=
    { streaming with acks := fun other mem => streaming.acks other (later other mem) }
  refine ⟨sound.agent.next step, ?_, ?_⟩
  · rcases moved with same | ⟨recv, raised⟩
    · rw [same]
      exact sound.linked
    · rw [raised]
      exact { sound.linked with ackSeq_le := given, ackSeq := covered }
  · rintro other still
    cases still
    rcases moved with same | ⟨recv, raised⟩
    · rw [same]
      exact fewer
    · rw [raised]
      exact { fewer with }

theorem receive_error {code text : String} {retryAfterMs : Nat} {now : Int}
    (live : system.session = some session)
    (outbox : session.outbox = .error code text retryAfterMs :: rest)
    (step : receive codec now (.error code text retryAfterMs) system.agent = some agent) :
    Sound codec { system with agent, session := some { session with outbox := rest } } := by
  have streaming := sound.streaming session live
  have fewer :
      Streaming codec system.agent.replay system.trace { session with outbox := rest } := by
    have same : ackSeqs session.outbox = ackSeqs rest := by rw [outbox]; rfl
    have acks := streaming.acks
    rw [same] at acks
    exact { streaming with acks := acks }
  rw [receive] at step
  split at step
  · have rewound : Renew system.agent.replay agent.replay := by
      rw [Machine.rateLimited_replay step]
      exact ⟨rfl, rfl, rfl, fun _ => id, Nat.le_refl _, fun _ => Or.inl, fun _ => Or.inl⟩
    refine ⟨sound.agent.next step, sound.linked.renew rewound, ?_⟩
    rintro other still
    cases still
    exact fewer.renew sound.agent.formed rewound
  · split at step
    · cases step
      refine ⟨sound.agent, sound.linked, ?_⟩
      rintro other still
      cases still
      exact fewer
    · cases step

theorem serve {arrival : Arrival} {event : AgentEvent} {rest : List AgentEvent}
    (live : system.session = some session) (wire : system.agent.wire = event :: rest) : Sound codec
      { agent := { system.agent with wire := rest }
        session := session.handleEvent server arrival event
        trace := system.trace.read server arrival event session.acks } := by
  have streaming := sound.streaming session live
  refine ⟨machine_sound_of_wire sound.agent rest, sound.linked.read streaming wire, ?_⟩
  intro last answered
  exact (streaming.read sound.agent.formed wire).answers (Session.handleEvent_answers answered)

theorem next {action : Action} (step : system.next codec server action = some after) :
    Sound codec after := by
  cases step_of_next step with
  | own own moved => exact sound.own_step own moved
  | connect _ moved => exact sound.connect moved
  | cut =>
    refine ⟨sound.agent, sound.linked, ?_⟩
    intro session live
    cases live
  | ack live outbox moved => exact sound.receive_ack live outbox moved
  | error live outbox moved => exact sound.receive_error live outbox moved
  | serve live wire => exact sound.serve live wire
  | tick live =>
    refine ⟨sound.agent, sound.linked, ?_⟩
    intro last answered
    exact (sound.streaming _ live).answers (Session.tick_answers answered)

end

theorem of_run {actions : List Action}
    (execution : run (System.next codec server) (System.init cfg opened) actions =
      some system) : Sound codec system :=
  invariant_of_run (fun sound step => sound.next step) init execution

end Sound

/-- The server was handed this very row among `events`. -/
def HasRow (codec : Codec) (events : List AgentEvent) (row : SpooledEvent) : Prop :=
  ∃ attachedAt source, codec.unmarshal row.event.payload = some source ∧
    wireEvent attachedAt row source ∈ events

theorem Sound.hasRow (sound : Sound codec system) {row : SpooledEvent} {event : AgentEvent}
    {events : List AgentEvent} (committed : row ∈ system.agent.replay.stored)
    (accepted : event ∈ system.trace.accepted) (same : event.seq = row.seq)
    (mem : event ∈ events) : HasRow codec events row := by
  have numbered : event.seq ≠ 0 := by
    have := (sound.agent.formed.bounded row committed).1
    omega
  obtain ⟨other, other_mem, attachedAt, source, read, rfl⟩ :=
    sound.linked.genuine event accepted numbered
  obtain rfl : other = row := sound.agent.formed.eq_of_seq other_mem committed same
  exact ⟨attachedAt, source, read, mem⟩

/-- Every row deleted because of an acknowledgement was accepted by the server. -/
theorem acked_rows_were_accepted (codec : Codec) (server : Server) (cfg : SpoolConfig)
    (opened : Bool) (actions : List Action) {final : System}
    (execution : run (next codec server) (init cfg opened) actions = some final) :
    ∀ row ∈ final.agent.spool.history.acked, HasRow codec final.trace.accepted row := by
  intro row deleted
  have sound : Sound codec final := Sound.of_run execution
  obtain ⟨committed, -⟩ := sound.agent.formed.acked_le row deleted
  obtain ⟨-, event, accepted, same⟩ := sound.linked.counted row.seq (sound.linked.acked row deleted)
  exact sound.hasRow committed accepted same accepted

def plainServer : Server := { agentId := "host-1", dispatcher := some {} }

def taken : Arrival where
  refusal := none
  handle := fun _ _ => none
  now := 6
  replied := true
  acked := true

/-- One event is queued, written to the spool and sent on a fresh stream. -/
def sendFirstRow : List Action :=
  [.agent (.send (containerEvent "e1") 0 true), .agent .loopFlush,
    .agent (.flush 0 (.append true)), .agent (.flush 0 .capture), .connect 5 5,
    .agent .attachRewind, .agent .drainStart, .agent (.drainCapture 5), .agent (.drainRead true),
    .agent (.drainRow true), .agent (.drainSend true)]

/-- The row is taken, acknowledged and deleted. -/
def acknowledgeFirstRow : List Action :=
  sendFirstRow ++ [.serve taken, .tick 6 true, .deliver 6, .agent (.purgeAcked true)]

theorem acked_rows_were_accepted_first :
    ∃ final, run (next oneEvent plainServer) (init roomyConfig true)
        acknowledgeFirstRow = some final ∧
      final.agent.spool.history.acked.length = 1 ∧
      ∀ row ∈ final.agent.spool.history.acked, HasRow oneEvent final.trace.accepted row := by
  have reached : ((run (next oneEvent plainServer) (init roomyConfig true)
      acknowledgeFirstRow).map fun final => final.agent.spool.history.acked.length) = some 1 := by
    decide
  obtain ⟨final, execution, deleted⟩ := Option.map_eq_some_iff.mp reached
  exact ⟨final, execution, deleted, acked_rows_were_accepted oneEvent plainServer roomyConfig true
    acknowledgeFirstRow execution⟩

/-- A row the agent ever committed is in its database, was accepted by the server or was dropped by
a budget or by age; and every numbered event the server accepted was sent for exactly one row. -/
theorem rows_kept_accepted_or_dropped (codec : Codec) (server : Server) (cfg : SpoolConfig)
    (opened : Bool) (actions : List Action) : Always (next codec server) (fun system =>
        (∀ row ∈ system.agent.replay.stored, row ∈ system.agent.replay.rows ∨
          HasRow codec system.trace.accepted row ∨ row ∈ system.agent.replay.lost) ∧
        ∀ event ∈ system.trace.accepted, event.seq ≠ 0 → ∃! row, row ∈ system.agent.replay.stored ∧
          ∃ attachedAt source, codec.unmarshal row.event.payload = some source ∧
            event = wireEvent attachedAt row source) (init cfg opened) actions := by
  refine always_of_invariant (Sound codec) (fun sound step => sound.next step) ?_ .init actions
  intro system sound
  refine ⟨fun row committed => ?_, fun event accepted numbered => ?_⟩
  · rcases sound.agent.formed.places row committed with kept | acked | lost
    · exact .inl kept
    · obtain ⟨-, event, accepted, same⟩ :=
        sound.linked.counted row.seq (sound.linked.acked row acked)
      exact .inr (.inl (sound.hasRow committed accepted same accepted))
    · exact .inr (.inr lost)
  · obtain ⟨row, committed, attachedAt, source, read, rfl⟩ :=
      sound.linked.genuine event accepted numbered
    refine ⟨row, ⟨committed, attachedAt, source, read, rfl⟩, ?_⟩
    rintro other ⟨other_mem, _, _, _, sent⟩
    exact sound.agent.formed.eq_of_seq other_mem committed (congrArg AgentEvent.seq sent).symm

end System

end Maintenant.Multihost
