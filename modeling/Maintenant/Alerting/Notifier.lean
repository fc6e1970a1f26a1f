import Maintenant.Alerting.Engine
import Maintenant.Program

/-!
# The notifier

Jobs wait in one bounded queue per worker.  The queue is chosen by a hash of the alert and the
channel, and one worker empties it: it takes a job, checks the channel and makes up to three
attempts.  Beside the queues the state keeps the order in which jobs were offered and every
beginning and end of a send.
-/

namespace Maintenant.Alerting

/-- A notification channel, as far as jobs depend on it. -/
structure NotificationChannel where
  id : String
  channelType : String
  url : String
  enabled : Bool

/-- Status of a notification delivery. -/
inductive NotificationStatus
  | pending
  | delivered
  | failed
  | suspended

/-- A delivery of `notification_deliveries`. -/
structure NotificationDelivery where
  /-- It has a row; jobs of webhook subscriptions have none. -/
  stored : Bool
  status : NotificationStatus
  attempts : Nat
  lastError : String

/-- An alert as `alertToMap` renders it. -/
abbrev Rendering := List (String × Value)

def renderedId (alert : Rendering) : Option AlertId :=
  match alert.lookup "id" with
  | some (.id id) => some id
  | _ => none

/-- The alert is resolved, so that `alertEventType` answers `alert.resolved`. -/
def renderedResolved (alert : Rendering) : Bool := alert.lookup "status" = some (.status .resolved)

/-- What waits in a queue. -/
structure NotificationJob where
  delivery : NotificationDelivery
  channel : NotificationChannel
  /-- The alert to format, none for a body that is sent as it is. -/
  alert : Option Rendering
  body : Option (List UInt8)
  done : Bool

namespace NotificationJob

/-- The alert and the channel a job is about, unless it has no alert. -/
def pair (job : NotificationJob) : Option (Option AlertId × String) :=
  job.alert.map fun alert => (renderedId alert, job.channel.id)

def recovers (job : NotificationJob) : Bool := job.alert.any renderedResolved

end NotificationJob

/-! ### Streams -/

def fnv32a (bytes : List UInt8) : UInt32 :=
  bytes.foldl (fun hash byte => (hash ^^^ byte.toUInt32) * 16777619) 2166136261

def utf8 (text : String) : List UInt8 := text.toUTF8.data.toList

/-- What a notifier and its engine are built with. -/
structure NotifierSetup where
  workers : Nat
  idText : AlertId → String
  deps : EngineDeps

def notifierChannelBuffer : Nat := 256

def NotifierSetup.streamOf (setup : NotifierSetup) (job : NotificationJob) : Nat :=
  let hashed :=
    match job.alert with
    | some alert => ((renderedId alert).elim "" setup.idText) ++ "\x00" ++ job.channel.id
    | none => job.channel.url
  (fnv32a (utf8 hashed)).toNat % setup.workers

theorem NotifierSetup.streamOf_eq (setup : NotifierSetup) {left right : NotificationJob}
    (alert : left.pair.isSome) (same : left.pair = right.pair) :
    setup.streamOf left = setup.streamOf right := by
  cases left_alert : left.alert with
  | none => simp [NotificationJob.pair, left_alert] at alert
  | some =>
    cases right_alert : right.alert with
    | none => simp [NotificationJob.pair, left_alert, right_alert] at same
    | some =>
      simp only [NotificationJob.pair, left_alert, right_alert, Option.map_some,
        Option.some.injEq, Prod.mk.injEq] at same
      simp only [streamOf, left_alert, right_alert, same.1, same.2]

/-! ### State -/

/-- A job given to `Enqueue`. -/
structure Ticket where
  serial : Nat
  /-- For a job of the engine, the alert that the event was about. -/
  subject : Option AlertId
  job : NotificationJob

/-- What happens to a send. -/
inductive SendPhase
  | begun
  /-- An attempt fails, to be repeated. -/
  | failed
  | delivered
  | exhausted

def SendPhase.completes : SendPhase → Bool
  | .delivered | .exhausted => true
  | .begun | .failed => false

/-- An entry of the log of sends. -/
structure SendEntry where
  ticket : Ticket
  phase : SendPhase

/-- The engine, the queues and what was done with the jobs. -/
structure Dispatch where
  engine : Engine
  /-- All jobs given to `Enqueue`, those dropped included. -/
  offered : List Ticket
  queues : Nat → List Ticket
  taken : Nat → List Ticket
  sending : List (Nat × Ticket)
  log : List SendEntry

namespace Dispatch

/-- A notifier just started, with an engine over this table. -/
def started (store : AlertStore) : Dispatch where
  engine := reloadActiveAlerts store
  offered := []
  queues _ := []
  taken _ := []
  sending := []
  log := []

/-- `Enqueue`: a job that finds its queue full is dropped. -/
def enqueue (setup : NotifierSetup) (subject : Option AlertId) (job : NotificationJob)
    (state : Dispatch) : Dispatch :=
  let ticket : Ticket := ⟨state.offered.length, subject, job⟩
  let stream := setup.streamOf job
  { state with
    offered := state.offered ++ [ticket]
    queues :=
      if (state.queues stream).length < notifierChannelBuffer then
        Function.update state.queues stream (state.queues stream ++ [ticket])
      else state.queues }

/-- A worker takes the next job of its queue. -/
def receive (worker : Nat) (state : Dispatch) : Option Ticket × Dispatch :=
  match state.queues worker with
  | [] => (none, state)
  | ticket :: queue =>
    (some ticket,
      { state with
        queues := Function.update state.queues worker queue
        taken := Function.update state.taken worker (state.taken worker ++ [ticket]) })

def beginSend (worker : Nat) (ticket : Ticket) (state : Dispatch) : Dispatch :=
  { state with
    sending := state.sending ++ [(worker, ticket)]
    log := state.log ++ [⟨ticket, .begun⟩] }

def endSend (worker : Nat) (ticket : Ticket) (phase : SendPhase) (state : Dispatch) : Dispatch :=
  { state with
    sending := state.sending.filter fun send => send.1 ≠ worker
    log := state.log ++ [⟨ticket, phase⟩] }

/-- Sends that are over, repeated ones apart. -/
def completed (state : Dispatch) : List Ticket :=
  (state.log.filter fun entry => entry.phase.completes).map SendEntry.ticket

end Dispatch

/-! ### Workers and producers -/

/-- Steps of the notifier and of those who give it jobs. -/
inductive NotifierCall : Type → Type
  /-- The engine handles an event; the alert it is about and the jobs the engine makes of it. -/
  | processEvent (env : Environment) (evt : Event) (channels : String → NotificationChannel) :
      NotifierCall (Option AlertId × List NotificationJob)
  | enqueue (subject : Option AlertId) (job : NotificationJob) : NotifierCall Unit
  | receive : NotifierCall (Option Ticket)
  /-- `suspension`: why the channel's type is closed in the running edition. -/
  | suspension (channel : NotificationChannel) : NotifierCall (Option String)
  /-- `Ready` of the sender of a channel type: why it is not. -/
  | ready (channelType : String) : NotifierCall (Option String)
  | beginSend (ticket : Ticket) : NotifierCall Unit
  /-- The end of an attempt that is the last one or not: what it failed with. -/
  | endSend (ticket : Ticket) (last : Bool) : NotifierCall (Option String)
  /-- A pause before the next attempt; false when the notifier is stopped meanwhile. -/
  | wait (seconds : Nat) : NotifierCall Bool
  /-- `UpdateDelivery`; nothing reads the row back. -/
  | updateDelivery (delivery : NotificationDelivery) : NotifierCall Unit
  | done (error : Option String) : NotifierCall Unit

/-- What the outside answers to an attempt. -/
structure NotifierInput where
  error : Option String
  stopping : Bool

/-- The alert an event is about: the active one of its key, which a recovery takes off and any other
event leaves there. -/
def subjectOf (evt : Event) (before after : Engine) : Option AlertId :=
  ((if evt.isRecover then before else after).active.lookup evt.key).map Alert.id

/-- The jobs `enqueueDelivery` makes of what the engine puts out. -/
def notificationJobs (channels : String → NotificationChannel) (outputs : List Output) :
    List NotificationJob :=
  outputs.filterMap fun
    | .notify channel payload =>
      some
        { delivery := ⟨true, .pending, 0, ""⟩
          channel := { channels channel with id := channel }
          alert := some payload
          body := none
          done := false }
    | _ => none

def SendPhase.ofResult (last : Bool) : Option String → SendPhase
  | none => .delivered
  | some _ => if last then .exhausted else .failed

/-- Answer one call of a thread.  Worker `i` is thread `i`. -/
def notifierExec (setup : NotifierSetup) (who : Nat) (input : NotifierInput) :
    {β : Type} → NotifierCall β → Dispatch → β × Dispatch
  | _, .processEvent env evt channels, state =>
    let after := processEvent setup.deps env evt state.engine
    ((subjectOf evt state.engine after.1, notificationJobs channels after.2),
      { state with engine := after.1 })
  | _, .enqueue subject job, state => ((), state.enqueue setup subject job)
  | _, .receive, state => state.receive who
  | _, .suspension _, state => (input.error, state)
  | _, .ready _, state => (input.error, state)
  | _, .beginSend ticket, state => ((), state.beginSend who ticket)
  | _, .endSend ticket last, state =>
    (input.error, state.endSend who ticket (.ofResult last input.error))
  | _, .wait _, state => (!input.stopping, state)
  | _, .updateDelivery _, state => ((), state)
  | _, .done _, state => ((), state)

open Program (perform)

def maxRetries : Nat := 3

/-- `retryBackoffs`, in seconds. -/
def retryBackoffs : List Nat := [1, 5]

def saveDelivery (delivery : NotificationDelivery) : Program NotifierCall Unit := do
  if delivery.stored then
    perform (.updateDelivery delivery)

def failDelivery (delivery : NotificationDelivery) (errMsg : String) :
    Program NotifierCall Unit :=
  saveDelivery { delivery with status := .failed, lastError := errMsg }

def reportDone (job : NotificationJob) (error : Option String) : Program NotifierCall Unit := do
  if job.done then
    perform (.done error)

def backoff : (attempt : Nat) → Program NotifierCall Bool
  | 0 => pure true
  | attempt + 1 => perform (.wait (retryBackoffs.getD attempt 0))

/-- The loop of `deliver` with some attempts left. -/
def deliverFrom (ticket : Ticket) : (left : Nat) → (lastErr : String) → Program NotifierCall Unit
  | 0, lastErr => do
      failDelivery { ticket.job.delivery with attempts := maxRetries } lastErr
      reportDone ticket.job (some lastErr)
  | left + 1, _ => do
      let attempt := maxRetries - (left + 1)
      match ← backoff attempt with
      | false => pure ()
      | true =>
        perform (.beginSend ticket)
        match ← perform (.endSend ticket (left == 0)) with
        | none =>
          saveDelivery
            { ticket.job.delivery with status := .delivered, attempts := attempt + 1 }
          reportDone ticket.job none
        | some err => deliverFrom ticket left err

def deliver (ticket : Ticket) : Program NotifierCall Unit := deliverFrom ticket maxRetries ""

def processJob (ticket : Ticket) : Program NotifierCall Unit := do
  match ticket.job.body with
  | some _ => deliver ticket
  | none =>
    match ← perform (.suspension ticket.job.channel) with
    | some err =>
      saveDelivery { ticket.job.delivery with status := .suspended, lastError := err }
    | none =>
      match ← perform (.ready ticket.job.channel.channelType) with
      | some err => failDelivery ticket.job.delivery err
      | none => deliver ticket

/-- One turn of the loop of `worker`. -/
def workerTurn : Program NotifierCall Unit := do
  match ← perform .receive with
  | some ticket => processJob ticket
  | none => pure ()

/-- The engine handles an event and enqueues what it makes of it. -/
def dispatchEvent (env : Environment) (evt : Event) (channels : String → NotificationChannel) :
    Program NotifierCall Unit := do
  let (subject, jobs) ← perform (.processEvent env evt channels)
  Program.forEach (fun job => perform (.enqueue subject job)) jobs

/-- What a thread of the notifier does. -/
inductive NotifierOp
  /-- A worker takes a job and handles it. -/
  | work
  | event (env : Environment) (evt : Event) (channels : String → NotificationChannel)
  | offer (job : NotificationJob)

def NotifierOp.code : NotifierOp → Program NotifierCall Unit
  | .work => workerTurn
  | .event env evt channels => dispatchEvent env evt channels
  | .offer job => perform (.enqueue none job)

/-- Who does what: the workers are the first threads, the engine's loop is the next. -/
def NotifierOp.allowedTo (setup : NotifierSetup) (who : Nat) : NotifierOp → Bool
  | .work => who < setup.workers
  | .event .. => who = setup.workers
  | .offer _ => setup.workers < who

/-- The notifier, its engine and everyone who offers jobs.  A worker waits while its queue is
empty. -/
def notifierShop (setup : NotifierSetup) :
    Workshop NotifierCall NotifierInput Dispatch NotifierOp where
  exec who _ input _ request := notifierExec setup who input request
  enabled who _ request state :=
    match request with
    | .receive => !(state.queues who).isEmpty
    | _ => true
  enter _ _ state := state
  code := NotifierOp.code
  may := NotifierOp.allowedTo setup
  mortal _ := false

end Maintenant.Alerting
