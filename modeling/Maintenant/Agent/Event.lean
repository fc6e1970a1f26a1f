import Mathlib.Algebra.Order.Ring.Int
import Mathlib.Data.List.Basic

/-!
# Agent events

The events an agent collects, which of them only restate current state, and the protobuf codec
through which the others reach the spool.  Message contents that neither the spool nor the server
session reads are carried as opaque text.
-/

namespace Maintenant.Agent

/-- Nanoseconds in one second: instants are nanoseconds since the epoch. -/
def nanosPerSecond : Int := 1000000000

/-- Seconds since the epoch of an instant, rounded down. -/
def unix (instant : Int) : Int := instant / nanosPerSecond

theorem unix_add_seconds (instant seconds : Int) :
    unix (instant + seconds * nanosPerSecond) = unix instant + seconds :=
  Int.add_mul_ediv_right instant seconds (by decide)

theorem unix_seconds (seconds : Int) : unix (seconds * nanosPerSecond) = seconds :=
  Int.mul_ediv_cancel seconds (by decide)

theorem unix_sub_le {first second : Int} (le : first ≤ second) (span : Int) :
    unix (first - span) ≤ unix (second - span) :=
  Int.ediv_le_ediv (by decide) (Int.sub_le_sub_right le span)

/-- The family of an agent event with its message. -/
inductive Body
  | unset
  | container (message : String)
  | inventory (message : String)
  | endpoint (message : String)
  | heartbeat (message : String)
  | resource (containerId message : String)
  | certificate (message : String)
  | swarm (message : String)
  | kubernetes (message : String)
  | hostOs (message : String)
  | runtime (message : String)
  deriving DecidableEq

/-- An event as it goes over the stream. -/
structure AgentEvent where
  agentId : String
  eventId : String
  /-- Instant of the observation, when the agent recorded one. -/
  observedAt : Option Int
  /-- Spool row the event was read from; zero for an event that was never spooled. -/
  seq : Nat
  /-- The event was observed before the stream it is sent on. -/
  replayed : Bool
  body : Body
  deriving DecidableEq

/-- A container event as a collector makes it, for runs on fixed inputs. -/
def containerEvent (eventId : String) : AgentEvent where
  agentId := "host-1"
  eventId := eventId
  observedAt := some 0
  seq := 0
  replayed := false
  body := .container "start"

/-- Event families that restate current state and are never queued. -/
inductive SnapshotKind
  | inventory
  | swarm
  | kubernetes
  | certScan
  | hostSample
  | hostOS
  | runtime
  deriving DecidableEq

/-- Classify an event, answering `none` for anything worth queueing. -/
def snapshotOf (event : AgentEvent) : Option SnapshotKind :=
  match event.body with
  | .inventory _ => some .inventory
  | .swarm _ => some .swarm
  | .kubernetes _ => some .kubernetes
  | .certificate _ => some .certScan
  | .hostOs _ => some .hostOS
  | .runtime _ => some .runtime
  | .resource containerId _ => if containerId = "" then some .hostSample else none
  | _ => none

abbrev Payload := List UInt8

/-- The protobuf codec, taken with the round trip its documentation promises. -/
structure Codec where
  marshal : AgentEvent → Option Payload
  unmarshal : Payload → Option AgentEvent
  /-- What was serialized reads back as the same event. -/
  unmarshal_marshal : ∀ event payload, marshal event = some payload →
    unmarshal payload = some event

/-- A codec over a finite table: an event is written as its position, in unary. -/
def Codec.ofTable (table : List AgentEvent) : Codec where
  marshal event := if event ∈ table then some (List.replicate (table.idxOf event + 1) 0) else none
  unmarshal
    | [] => none
    | _ :: rest => table[rest.length]?
  unmarshal_marshal := by
    intro event payload serialized
    obtain ⟨mem, ⟨⟩⟩ := Option.ite_none_right_eq_some.mp serialized
    simp [List.replicate_succ, List.getElem?_eq_getElem (List.idxOf_lt_length_of_mem mem)]

/-- A codec for one event, for runs on fixed inputs. -/
def oneEvent : Codec := Codec.ofTable [containerEvent "e1"]

/-- A serialized event waiting for its batch write. -/
structure PendingEvent where
  eventId : String
  observedAt : Int
  payload : Payload
  /-- History variable: how many events were queued before this one.  No code reads it. -/
  ticket : Nat
  deriving DecidableEq

/-- Bytes an event counts for in either budget. -/
def PendingEvent.size (event : PendingEvent) : Int := event.payload.length

def totalSize (events : List PendingEvent) : Int := (events.map PendingEvent.size).sum

@[simp] theorem totalSize_nil : totalSize [] = 0 := rfl

@[simp] theorem totalSize_cons (event : PendingEvent) (events : List PendingEvent) :
    totalSize (event :: events) = event.size + totalSize events := by
  simp [totalSize]

@[simp] theorem totalSize_append (left right : List PendingEvent) :
    totalSize (left ++ right) = totalSize left + totalSize right := by
  simp [totalSize]

theorem totalSize_nonneg (events : List PendingEvent) : 0 ≤ totalSize events := by
  induction events with
  | nil => simp
  | cons event =>
    have : 0 ≤ event.size := Int.natCast_nonneg _
    rw [totalSize_cons]
    omega

end Maintenant.Agent
