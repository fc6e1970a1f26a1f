import Maintenant.Multihost.AckTracker

/-!
# The server's end of a stream

What the push session does with one event: the rate limiter, the tracker, the dispatcher and the
replies.  The limiter's verdict, the clock, the handlers and the fate of each reply are arguments.
-/

namespace Maintenant.Multihost

open Agent

/-! ## Dispatcher -/

/-- Furthest an observation may lie ahead of the server's clock. -/
def maxClockSkew : Int := 60 * nanosPerSecond

def maxObservationAge : Int := 24 * 3600 * nanosPerSecond

/-- Observation time and replay flag of an event. -/
structure EventMeta where
  /-- When it was observed, as far as the server knows. -/
  observedAt : Int
  replayed : Bool
  eventId : String
  deriving DecidableEq

/-- An error of a handler. -/
structure HandlerError where
  /-- The error wraps `ErrInvalid`. -/
  invalid : Bool
  message : String

/-- Why an event is not handled. -/
inductive DispatchError
  | agentMismatch (claimed authenticated : String)
  | observedAhead (observed : Int)
  | observedOld (observed : Int)
  | handler (context : String) (err : HandlerError)

/-- Sending the same event again would fail again. -/
def DispatchError.permanent : DispatchError → Bool
  | .handler _ err => err.invalid
  | _ => true

/-- Handlers that are wired; events of the other families are ignored. -/
structure DispatchDeps where
  container : Bool := true
  inventory : Bool := true
  endpoint : Bool := true
  heartbeat : Bool := true
  resource : Bool := true
  certificate : Bool := true
  swarm : Bool := true
  kubernetes : Bool := true
  hostOs : Bool := true
  runtime : Bool := true

/-- A family's handler, if it is wired, fails under `context`. -/
def dispatchTo (wired : Bool) (context : String) (failure : Option HandlerError) :
    Except DispatchError Unit :=
  match wired, failure with
  | true, some err => .error (.handler context err)
  | _, _ => .ok ()

/-- Hand an event to the handler of its family; `handle` is what that handler answers. -/
def route (deps : DispatchDeps) (handle : Body → EventMeta → Option HandlerError)
    (event : AgentEvent) (observed : EventMeta) : Except DispatchError Unit :=
  let failure := handle event.body observed
  match event.body with
  | .unset => .ok ()
  | .container _ => dispatchTo deps.container "dispatch container event" failure
  | .inventory _ => dispatchTo deps.inventory "dispatch container inventory" failure
  | .endpoint _ => dispatchTo deps.endpoint "dispatch endpoint event" failure
  | .heartbeat _ => dispatchTo deps.heartbeat "dispatch heartbeat event" failure
  | .resource _ _ => dispatchTo deps.resource "dispatch resource event" failure
  | .certificate _ => dispatchTo deps.certificate "dispatch certificate event" failure
  | .swarm _ => dispatchTo deps.swarm "dispatch swarm topology" failure
  | .kubernetes _ => dispatchTo deps.kubernetes "dispatch kubernetes topology" failure
  | .hostOs _ => dispatchTo deps.hostOs "dispatch host os identity" failure
  | .runtime _ => dispatchTo deps.runtime "dispatch runtime" failure

/-- Read the observation time an event carries; one out of range is refused. -/
def eventMeta (event : AgentEvent) (now : Int) : Except DispatchError EventMeta :=
  let received : EventMeta :=
    { observedAt := now, replayed := event.replayed, eventId := event.eventId }
  match event.observedAt with
  | none => .ok received
  | some observed =>
    if observed = 0 then .ok received
    else if now + maxClockSkew < observed then .error (.observedAhead observed)
    else if observed < now - maxObservationAge then .error (.observedOld observed)
    else .ok { received with observedAt := observed }

/-- Route an event of the authenticated agent to its handler. -/
def dispatch (deps : DispatchDeps) (agentId : String)
    (handle : Body → EventMeta → Option HandlerError) (now : Int) (event : AgentEvent) :
    Except DispatchError Unit :=
  if event.agentId ≠ "" ∧ event.agentId ≠ agentId then
    .error (.agentMismatch event.agentId agentId)
  else
    match eventMeta event now with
    | .error err => .error err
    | .ok observed => route deps handle event observed

/-! ## Push session -/

/-- Messages of the server that concern the spool. -/
inductive ServerMessage
  | ack (lastEventSeq : Nat)
  | error (code message : String) (retryAfterMs : Nat)

/-- Sequences the acknowledgements among these messages carry. -/
def ackSeqs (messages : List ServerMessage) : List Nat :=
  messages.filterMap fun message =>
    match message with
    | .ack seq => some seq
    | _ => none

/-- The tracker and what the server has sent. -/
structure Session where
  acks : AckTracker
  outbox : List ServerMessage := []

/-- What a server does not change from one event to the next. -/
structure Server where
  agentId : String
  dispatcher : Option DispatchDeps

/-- An event read, and what it meets. -/
structure Arrival where
  /-- The limiter refuses the event and asks for a delay. -/
  refusal : Option Nat
  handle : Body → EventMeta → Option HandlerError
  now : Int
  replied : Bool
  acked : Bool

variable {session : Session} {ok : Bool}

namespace Session

/-- Send a message; one that does not reach the stream is lost. -/
def send (message : ServerMessage) (ok : Bool) (session : Session) : Session :=
  if ok then { session with outbox := session.outbox ++ [message] } else session

/-- Acknowledge a sequence; the session ends when that fails. -/
def sendAck (seq : Nat) (now : Int) (ok : Bool) (session : Session) : Option Session :=
  if ok then
    some { session.send (.ack seq) true with acks := session.acks.sent seq now }
  else
    none

def rateLimited (event : AgentEvent) (retryMs : Nat) (replied : Bool) (session : Session) :
    Session :=
  { session with acks := session.acks.refuse event.seq }.send
    (.error "rate_limited" "event rate limit exceeded" retryMs) replied

/-- How the dispatcher ends with the event; a missing dispatcher takes everything. -/
def outcome (server : Server) (arrival : Arrival) (event : AgentEvent) :
    Except DispatchError Unit :=
  match server.dispatcher with
  | none => .ok ()
  | some deps => dispatch deps server.agentId arrival.handle arrival.now event

/-- A dispatch error is logged, and answered only when the payload is invalid. -/
def replyTo (result : Except DispatchError Unit) (replied : Bool) (session : Session) : Session :=
  match result with
  | .error (.handler context { invalid := true, message }) =>
    session.send (.error "invalid_argument" (context ++ ": " ++ message) 0) replied
  | _ => session

/-- The session after one event, or `none` when it ended. -/
def handleEvent (server : Server) (arrival : Arrival) (event : AgentEvent) (session : Session) :
    Option Session :=
  match arrival.refusal with
  | some retryMs => some (session.rateLimited event retryMs arrival.replied)
  | none =>
    let taken := { session with acks := session.acks.accept event.seq }
    let answered := taken.replyTo (outcome server arrival event) arrival.replied
    match answered.acks.afterEvent arrival.now with
    | none => some answered
    | some seq => answered.sendAck seq arrival.now arrival.acked

def tick (now : Int) (ok : Bool) (session : Session) : Option Session :=
  match session.acks.pending with
  | none => some session
  | some seq => session.sendAck seq now ok

/-- Dispatching succeeded, or failed for good. -/
def handled (result : Except DispatchError Unit) : Bool :=
  match result with
  | .ok _ => true
  | .error err => err.permanent

/-! ### What a session sends -/

theorem ackSeqs_append (left right : List ServerMessage) :
    ackSeqs (left ++ right) = ackSeqs left ++ ackSeqs right := by
  rw [ackSeqs, List.filterMap_append]
  rfl

theorem send_ackSeqs_error {code message : String} {retryAfterMs : Nat} :
    ackSeqs (session.send (.error code message retryAfterMs) ok).outbox =
      ackSeqs session.outbox := by
  rw [send]
  split
  · simp [ackSeqs]
  · rfl

@[simp] theorem send_acks {message : ServerMessage} :
    (session.send message ok).acks = session.acks := by
  rw [send]
  split <;> rfl

theorem replyTo_frame (session : Session) (result : Except DispatchError Unit) (replied : Bool) :
    (session.replyTo result replied).acks = session.acks ∧
      ackSeqs (session.replyTo result replied).outbox = ackSeqs session.outbox := by
  rw [replyTo.eq_def]
  split
  · exact ⟨send_acks, send_ackSeqs_error⟩
  · exact ⟨rfl, rfl⟩

/-- A session after a step: its tracker, possibly having sent a pending acknowledgement. -/
inductive Answers (tracker : AckTracker) (owed : List Nat) : Session → Prop
  | silent {session : Session} (acks : session.acks = tracker)
      (same : ackSeqs session.outbox = owed) : Answers tracker owed session
  | acknowledged {session : Session} (seq : Nat) (now : Int) (pending : tracker.pending = some seq)
      (acks : session.acks = tracker.sent seq now) (more : ackSeqs session.outbox = owed ++ [seq]) :
      Answers tracker owed session

variable {after : Session} {now : Int}

theorem Answers.of_sendAck {seq : Nat} (pending : session.acks.pending = some seq)
    (sent : session.sendAck seq now ok = some after) :
    Answers session.acks (ackSeqs session.outbox) after := by
  obtain ⟨-, ⟨⟩⟩ := Option.ite_none_right_eq_some.mp sent
  refine .acknowledged seq now pending rfl ?_
  simp only [send, if_true]
  rw [ackSeqs_append]
  rfl

theorem handleEvent_answers {server : Server} {arrival : Arrival} {event : AgentEvent}
    (step : session.handleEvent server arrival event = some after) :
    Answers (if arrival.refusal.isSome then session.acks.refuse event.seq
      else session.acks.accept event.seq) (ackSeqs session.outbox) after := by
  rw [handleEvent] at step
  cases refusal : arrival.refusal with
  | some =>
    simp only [refusal] at step
    cases step
    exact .silent send_acks send_ackSeqs_error
  | none =>
    simp only [refusal] at step
    obtain ⟨acks, same⟩ := replyTo_frame { session with acks := session.acks.accept event.seq }
      (outcome server arrival event) arrival.replied
    split at step
    · cases step
      exact .silent acks same
    next seq due =>
      have answers := Answers.of_sendAck (AckTracker.pending_of_afterEvent due) step
      rw [acks, same] at answers
      exact answers

theorem tick_answers (step : session.tick now ok = some after) :
    Answers session.acks (ackSeqs session.outbox) after := by
  rw [tick] at step
  split at step
  · cases step
    exact .silent rfl rfl
  next seq pending => exact Answers.of_sendAck pending step

end Session

end Maintenant.Multihost
