import Maintenant.Keyed
import Maintenant.Program

/-!
# The registry of agent streams

Which stream of an agent is active, who waits for the results of its commands, and what the alert
hook was told.  A section under the registry's or a stream's lock is one call, and so is every use
of a channel outside of the locks and every callback.  Request ids are fresh, so the channel of a
request is named by its id.
-/

namespace Maintenant.Sessions

open Function

/-- Why the context of a stream was cancelled. -/
inductive Cause
  | revoked
  | replaced
  | stale
  | closed

def terminal (reason : String) : Bool := reason = "revoked" || reason = "deleted"

def causeForReason (reason : String) : Cause :=
  if terminal reason then .revoked else if reason = "stale" then .stale else .closed

/-- A part of the answer to a command. -/
structure Result where
  requestId : Nat
  last : Bool
  errorCode : String
  errorMessage : String
  lines : List String

/-- The channel of a command. -/
structure Channel where
  buffer : List Result
  closes : Nat
  misuses : Nat

namespace Channel

def empty : Channel := ⟨[], 0, 0⟩

def capacity : Nat := 32

def closed (channel : Channel) : Bool := 0 < channel.closes

def close (channel : Channel) : Channel := { channel with closes := channel.closes + 1 }

def offer (result : Result) (channel : Channel) : Channel :=
  if channel.closed then { channel with misuses := channel.misuses + 1 }
  else if channel.buffer.length < capacity then
    { channel with buffer := channel.buffer ++ [result] }
  else channel

end Channel

/-- A stream and the commands in flight on it. -/
structure Stream where
  connectedAt : Int
  caps : List String
  sends : Bool
  cancelled : Option Cause
  pending : List Nat
  closed : Bool

def Stream.blank : Stream := ⟨0, [], false, none, [], false⟩

/-- A call of the alert hook. -/
structure HookCall where
  agentId : String
  reason : String
  connected : Bool

abbrev ByThread (α : Type) := Keyed (Prod.fst : Nat × α → Nat)

/-- `Sessions`, the channels, and what threads have begun and not finished. -/
structure Registry where
  active : String → Option Nat
  offlineReported : String → Bool
  streams : Nat → Stream
  nextStream : Nat
  channels : Nat → Channel
  nextRequest : Nat
  hookCalls : List HookCall
  /-- The last change of the agent was a loss that the hook is told of. -/
  lost : String → Bool
  /-- The agent whose change a thread is still to report. -/
  owing : ByThread String
  /-- The stream whose waiters a thread is still to release. -/
  closing : ByThread Nat
  /-- The request whose channel a thread is about to send on, and whether it will close it. -/
  holding : ByThread (Nat × Bool)
  /-- The stream on which a request waits that was not given up. -/
  waiting : Nat → Option Nat

namespace Registry

/-- `NewSessions`. -/
def empty : Registry where
  active _ := none
  offlineReported _ := false
  streams _ := .blank
  nextStream := 0
  channels _ := .empty
  nextRequest := 0
  hookCalls := []
  lost _ := false
  owing := .empty _
  closing := .empty _
  holding := .empty _
  waiting _ := none

def modifyStream (id : Nat) (change : Stream → Stream) (registry : Registry) : Registry :=
  { registry with streams := update registry.streams id (change (registry.streams id)) }

/-- Cancel the context of a stream; the first cause stays. -/
def cancel (id : Nat) (cause : Cause) : Registry → Registry :=
  modifyStream id fun stream => { stream with cancelled := stream.cancelled.or (some cause) }

def closeAll (id : Nat) (registry : Registry) : Registry :=
  if (registry.streams id).closed then registry
  else
    { registry.modifyStream id fun stream => { stream with closed := true, pending := [] } with
      channels := fun request =>
        if request ∈ (registry.streams id).pending then (registry.channels request).close
        else registry.channels request }

def forget (id request : Nat) : Registry → Registry :=
  modifyStream id fun stream => { stream with pending := stream.pending.filter (· ≠ request) }

/-- The last thing the hook was told of the agent is that it is lost. -/
def saysOffline (registry : Registry) (agentId : String) : Bool :=
  (registry.hookCalls.find? fun call => call.agentId = agentId).any fun call =>
    !call.connected && !terminal call.reason

/-- The thread is still to report a change of the agent. -/
def owe (who : Nat) (agentId : String) (registry : Registry) : Registry :=
  { registry with owing := registry.owing.insert (who, agentId) }

/-- End the context of an agent's active stream; the agent has none then. -/
def drop (who : Nat) (agentId : String) (stream : Nat) (cause : Cause) (registry : Registry) :
    Registry :=
  { registry.cancel stream cause with
    active := update registry.active agentId none
    closing := registry.closing.insert (who, stream) }

end Registry

/-! ### Calls -/

/-- What `remove` finds under the lock. -/
inductive Detached
  /-- Another stream than the one to remove. -/
  | mismatch
  | absent
  | removed (stream : Nat)

/-- What a sweep of an agent found. -/
structure Swept where
  removed : Option Nat
  announce : Bool

/-- What a lookup returns of a stream. -/
structure Handle where
  stream : Nat
  sends : Bool
  caps : List String

/-- The outcome of a registration. -/
inductive Registered
  | registered (request : Nat)
  | closed
  | full

/-- What a reader gets. -/
inductive Received
  | value (result : Result)
  | closed
  /-- Its own context was cancelled or timed out. -/
  | cancelled

/-- Why a command fails. -/
inductive CommandError
  | notConnected
  | cannotServe
  | tooManyRequests
  | context
  | failed (message : String)

/-- Lock sections, uses of channels and callbacks. -/
inductive Call : Type → Type
  | openStream (agentId : String) (connectedAt : Int) (caps : List String) (sends : Bool) : Call Nat
  /-- The first section of `remove`. -/
  | detach (agentId : String) (only : Option Nat) (reason : String) : Call Detached
  | closeAll (stream : Nat) : Call Unit
  /-- The second section of `remove`. -/
  | mark (agentId : String) (reported : Bool) : Call Unit
  /-- The section of the stale watcher. -/
  | sweep (agentId : String) (sweepStart : Int) (settled : Bool) : Call Swept
  | alertHook (agentId reason : String) (connected : Bool) : Call Unit
  | lookup (agentId : String) : Call (Option Handle)
  /-- The section of `SendCommand`, for a new request with a new channel. -/
  | register (stream : Nat) : Call Registered
  /-- The section of `release`: whether the command was in flight. -/
  | unregister (stream request : Nat) : Call Bool
  /-- `enqueue`, for which there may be no room in time. -/
  | enqueue (stream : Nat) : Call (Option CommandError)
  /-- The section of `deliver`: whether somebody waits. -/
  | take (stream request : Nat) (last : Bool) : Call Bool
  | send (result : Result) : Call Unit
  | close (request : Nat) : Call Unit
  | receive (request : Nat) : Call Received

/-- What the outside answers to a call. -/
structure Input where
  cancelled : Bool
  error : Option CommandError

def maxInFlightPerAgent : Nat := 8

namespace Registry

def replace (agentId : String) (registry : Registry) : Registry :=
  match registry.active agentId with
  | some existing => (registry.cancel existing .replaced).closeAll existing
  | none => registry

/-- The section of `Open`. -/
def openStream (hooked : Bool) (who : Nat) (agentId : String) (connectedAt : Int)
    (caps : List String) (sends : Bool) (registry : Registry) : Nat × Registry :=
  let replaced := registry.replace agentId
  let opened :=
    { replaced with
      streams := update replaced.streams registry.nextStream
        ⟨connectedAt, caps, sends, none, [], false⟩
      nextStream := registry.nextStream + 1
      offlineReported := update replaced.offlineReported agentId false
      active := update replaced.active agentId (some registry.nextStream)
      lost := update replaced.lost agentId false }
  (registry.nextStream, if hooked then opened.owe who agentId else opened)

/-- The first section of `remove`. -/
def detach (hooked : Bool) (who : Nat) (agentId : String) (only : Option Nat) (reason : String)
    (registry : Registry) : Detached × Registry :=
  let reported (registry : Registry) : Registry :=
    if hooked then
      owe who agentId
        { registry with lost := update registry.lost agentId (!terminal reason) }
    else registry
  match registry.active agentId with
  | none => (.absent, if terminal reason then reported registry else registry)
  | some stream =>
    if only.any fun wanted => wanted ≠ stream then (.mismatch, registry)
    else
      (.removed stream, reported (registry.drop who agentId stream (causeForReason reason)))

def sweep (hooked : Bool) (who : Nat) (agentId : String) (sweepStart : Int) (settled : Bool)
    (registry : Registry) : Swept × Registry :=
  let reported (announce : Bool) (registry : Registry) : Registry :=
    if announce then
      owe who agentId
        { registry with
          offlineReported := update registry.offlineReported agentId true
          lost := update registry.lost agentId true }
    else registry
  match registry.active agentId with
  | some stream =>
    if sweepStart < (registry.streams stream).connectedAt then (⟨none, false⟩, registry)
    else (⟨some stream, hooked⟩, reported hooked (registry.drop who agentId stream .stale))
  | none =>
    let announce := hooked && (settled && !registry.offlineReported agentId)
    (⟨none, announce⟩, reported announce registry)

/-- The section of `SendCommand`. -/
def register (stream : Nat) (registry : Registry) : Registered × Registry :=
  if (registry.streams stream).closed then (.closed, registry)
  else if maxInFlightPerAgent ≤ (registry.streams stream).pending.length then (.full, registry)
  else
    (.registered registry.nextRequest,
      { registry.modifyStream stream fun stream =>
          { stream with pending := stream.pending ++ [registry.nextRequest] } with
        nextRequest := registry.nextRequest + 1
        waiting := update registry.waiting registry.nextRequest (some stream) })

/-- The section of `deliver`. -/
def take (who stream request : Nat) (last : Bool) (registry : Registry) : Bool × Registry :=
  if request ∈ (registry.streams stream).pending then
    let taken := if last then registry.forget stream request else registry
    (true, { taken with holding := taken.holding.insert (who, request, last) })
  else (false, registry)

/-- Read a channel.  Where there is nothing to read, only the end of the reader's own context can
move it on. -/
def receive (cancelled : Bool) (request : Nat) (registry : Registry) : Received × Registry :=
  if cancelled then (.cancelled, registry)
  else
    match (registry.channels request).buffer with
    | result :: rest =>
      (.value result,
        { registry with
          channels := update registry.channels request
            { registry.channels request with buffer := rest } })
    | [] => (if (registry.channels request).closed then .closed else .cancelled, registry)

end Registry

/-- Answer one call of a thread; the registry may have an alert hook. -/
def exec (hooked : Bool) (who : Nat) (input : Input) :
    {β : Type} → Call β → Registry → β × Registry
  | _, .openStream agentId connectedAt caps sends, registry =>
    registry.openStream hooked who agentId connectedAt caps sends
  | _, .detach agentId only reason, registry => registry.detach hooked who agentId only reason
  | _, .closeAll stream, registry =>
    ((), { registry.closeAll stream with
      closing := registry.closing.erase who })
  | _, .mark agentId reported, registry =>
    ((), { registry with
      offlineReported := update registry.offlineReported agentId reported })
  | _, .sweep agentId sweepStart settled, registry =>
    registry.sweep hooked who agentId sweepStart settled
  | _, .alertHook agentId reason connected, registry =>
    ((), { registry with
      hookCalls := ⟨agentId, reason, connected⟩ :: registry.hookCalls
      owing := registry.owing.erase who })
  | _, .lookup agentId, registry =>
    ((registry.active agentId).map fun stream =>
      ⟨stream, (registry.streams stream).sends, (registry.streams stream).caps⟩, registry)
  | _, .register stream, registry => registry.register stream
  | _, .unregister stream request, registry =>
    (request ∈ (registry.streams stream).pending,
      { registry.forget stream request with
        waiting := update registry.waiting request none })
  | _, .enqueue _, registry => (input.error, registry)
  | _, .take stream request last, registry => registry.take who stream request last
  | _, .send result, registry =>
    ((), { registry with
      channels := update registry.channels result.requestId
        ((registry.channels result.requestId).offer result)
      holding := if result.last then registry.holding else registry.holding.erase who })
  | _, .close request, registry =>
    ((), { registry with
      channels := update registry.channels request (registry.channels request).close
      holding := registry.holding.erase who })
  | _, .receive request, registry => registry.receive input.cancelled request

/-! ### Operations -/

abbrev Text := Program Call

open Program (perform)

/-- `Open`, which answers the token of the stream. -/
def open_ (hooked : Bool) (agentId : String) (connectedAt : Int) (caps : List String)
    (sends : Bool) : Text Nat := do
  let stream ← perform (.openStream agentId connectedAt caps sends)
  if hooked then
    perform (.alertHook agentId "" true)
    pure stream
  else pure stream

/-- The end of `remove`: record and announce what happened to the agent. -/
def report (hooked : Bool) (agentId reason : String) : Text Unit :=
  if hooked then do
    perform (.mark agentId (!terminal reason))
    perform (.alertHook agentId reason false)
  else pure ()

def remove (hooked : Bool) (agentId : String) (only : Option Nat) (reason : String) :
    Text Unit := do
  match ← perform (.detach agentId only reason) with
  | .mismatch => pure ()
  | .removed stream =>
    perform (.closeAll stream)
    report hooked agentId reason
  | .absent => if terminal reason then report hooked agentId reason else pure ()

def closeStream (hooked : Bool) (agentId : String) (tok : Option Nat) (reason : String) :
    Text Unit :=
  match tok with
  | none => pure ()
  | some stream => remove hooked agentId (some stream) reason

def close (hooked : Bool) (agentId reason : String) : Text Unit := remove hooked agentId none reason

/-- The body of the loop of the stale watcher. -/
def sweepAgent (sweepStart : Int) (settled : Bool) (agentId : String) : Text Unit := do
  let swept ← perform (.sweep agentId sweepStart settled)
  let announce : Text Unit :=
    if swept.announce then perform (.alertHook agentId "stale" false) else pure ()
  match swept.removed with
  | some stream =>
    perform (.closeAll stream)
    announce
  | none => announce

/-- One tick of the stale watcher, for these stale agents. -/
def sweep (sweepStart : Int) (settled : Bool) (ids : List String) : Text Unit :=
  Program.forEach (sweepAgent sweepStart settled) ids

/-- The release function of `SendCommand`, which may send a cancellation. -/
def release (stream request : Nat) : Text Unit := do
  match ← perform (.unregister stream request) with
  | true =>
    let _ ← perform (.enqueue stream)
  | false => pure ()

/-- `SendCommand`, which answers the stream and the request with its channel. -/
def sendCommand (agentId capability : String) : Text (Except CommandError (Nat × Nat)) := do
  match ← perform (.lookup agentId) with
  | none => pure (.error .notConnected)
  | some handle =>
    if !handle.sends then pure (.error .notConnected)
    else if capability ∉ handle.caps then pure (.error .cannotServe)
    else
      match ← perform (.register handle.stream) with
      | .closed => pure (.error .notConnected)
      | .full => pure (.error .tooManyRequests)
      | .registered request =>
        match ← perform (.enqueue handle.stream) with
        | some error =>
          release handle.stream request
          pure (.error error)
        | none => pure (.ok (handle.stream, request))

/-- The loop of `FetchLogs`, which its context ends after so many results at the latest. -/
def collect (request : Nat) :
    (patience : Nat) → List String → Text (Except CommandError (List String))
  | 0, _ => pure (.error .context)
  | patience + 1, collected => do
      match ← perform (.receive request) with
      | .cancelled => pure (.error .context)
      | .closed => if collected = [] then pure (.error .notConnected) else pure (.ok collected)
      | .value result =>
        if result.errorCode ≠ "" then pure (.error (.failed result.errorMessage))
        else if result.last then pure (.ok (collected ++ result.lines))
        else collect request patience (collected ++ result.lines)

def capabilityLogs : String := "logs"

def fetchLogs (agentId : String) (patience : Nat) : Text (Except CommandError (List String)) := do
  match ← sendCommand agentId capabilityLogs with
  | .error error => pure (.error error)
  | .ok (stream, request) =>
    let answer ← collect request patience []
    release stream request
    pure answer

def deliver (stream : Nat) (result : Result) : Text Unit := do
  match ← perform (.take stream result.requestId result.last) with
  | false => pure ()
  | true =>
    perform (.send result)
    if result.last then perform (.close result.requestId) else pure ()

def deliverResult (agentId : String) (result : Result) : Text Unit := do
  match ← perform (.lookup agentId) with
  | none => pure ()
  | some handle => deliver handle.stream result

/-- An operation of the registry. -/
inductive Op
  | openSession (agentId : String) (connectedAt : Int) (caps : List String) (sends : Bool)
  | closeStream (agentId : String) (tok : Option Nat) (reason : String)
  | close (agentId reason : String)
  | sweep (sweepStart : Int) (settled : Bool) (ids : List String)
  | sendCommand (agentId capability : String)
  /-- The caller of `SendCommand` reads from its channel. -/
  | receive (request : Nat)
  | release (stream request : Nat)
  | fetchLogs (agentId : String) (patience : Nat)
  | deliverResult (agentId : String) (result : Result)

def Op.code (hooked : Bool) : Op → Text Unit
  | .openSession agentId connectedAt caps sends =>
    (open_ hooked agentId connectedAt caps sends).bind fun _ => pure ()
  | .closeStream agentId tok reason => Sessions.closeStream hooked agentId tok reason
  | .close agentId reason => Sessions.close hooked agentId reason
  | .sweep sweepStart settled ids => Sessions.sweep sweepStart settled ids
  | .sendCommand agentId capability =>
    (Sessions.sendCommand agentId capability).bind fun _ => pure ()
  | .receive request => (perform (.receive request)).bind fun _ => pure ()
  | .release stream request => Sessions.release stream request
  | .fetchLogs agentId patience => (Sessions.fetchLogs agentId patience).bind fun _ => pure ()
  | .deliverResult agentId result => Sessions.deliverResult agentId result

def shop (hooked : Bool) : Workshop Call Input Registry Op where
  exec who _ input _ request := exec hooked who input request
  enabled _ _ _ _ := true
  enter _ _ registry := registry
  code := Op.code hooked
  may _ _ := true
  mortal _ := false

end Maintenant.Sessions
