import Maintenant.Execution
import Mathlib.Data.Set.Function

/-!
# Edition quotas

Standalone endpoints, heartbeats and certificate monitors are created alike: the rows are counted,
the limit is asked whether one more fits, and the row is inserted, each on its own.
-/

namespace Maintenant.Quota

open Execution

open Function (update)

/-- What is limited. -/
inductive Resource
  | endpoints
  | heartbeats
  | certificates
  deriving DecidableEq

/-- A negative limit is none. -/
def withinLimit (limit : Int) (count : Nat) : Bool := limit < 0 || (count : Int) < limit

/-- How far a request is. -/
inductive Phase
  | begun
  | counted (count : Nat)
  | cleared

/-- A create request in progress. -/
structure Request where
  resource : Resource
  phase : Phase
  /-- The limit was reached at some moment since the request began. -/
  reached : Bool

/-- The rows, and the requests in progress. -/
structure Desk where
  /-- How many rows of each kind there are. -/
  count : Resource → Nat
  requests : Nat → Option Request
  /-- The requests that were answered with `ErrLimitReached`. -/
  refused : List Request

/-- One step of a request, or a deletion. -/
inductive Action
  | start (caller : Nat) (resource : Resource)
  | count (caller : Nat)
  | check (caller : Nat)
  | insert (caller : Nat)
  /-- The request ends without a new row: a statement failed, the monitor exists, or it is a
  certificate monitor that exists, which is updated in place. -/
  | fail (caller : Nat)
  | delete (resource : Resource)

variable (limit : Resource → Int)

def Desk.put (desk : Desk) (caller : Nat) (request : Option Request) : Desk :=
  { desk with requests := update desk.requests caller request }

@[grind =] theorem Desk.requests_put (desk : Desk) (caller other : Nat) (request : Option Request) :
    (desk.put caller request).requests other =
      if other = caller then request else desk.requests other :=
  Function.update_apply ..

def perform (desk : Desk) : Action → Option Desk
  | .start caller resource =>
    if (desk.requests caller).isNone then some (desk.put caller (some ⟨resource, .begun, false⟩))
    else none
  | .count caller =>
    match desk.requests caller with
    | some ⟨resource, .begun, reached⟩ =>
      some (desk.put caller (some ⟨resource, .counted (desk.count resource), reached⟩))
    | _ => none
  | .check caller =>
    match desk.requests caller with
    | some ⟨resource, .counted count, reached⟩ =>
      if withinLimit (limit resource) count then
        some (desk.put caller (some ⟨resource, .cleared, reached⟩))
      else
        some { desk.put caller none with
          refused := ⟨resource, .counted count, reached⟩ :: desk.refused }
    | _ => none
  | .insert caller =>
    match desk.requests caller with
    | some ⟨resource, .cleared, _⟩ => some { desk.put caller none with
        count := update desk.count resource (desk.count resource + 1) }
    | _ => none
  | .fail caller => some (desk.put caller none)
  | .delete resource =>
    some { desk with count := update desk.count resource (desk.count resource - 1) }

def Request.observe (count : Resource → Nat) (request : Request) : Request :=
  { request with
    reached := request.reached || !withinLimit (limit request.resource) (count request.resource) }

/-- A step, after which every request sees whether its limit is reached. -/
def next (desk : Desk) (action : Action) : Option Desk :=
  (perform limit desk action).map fun after =>
    { after with
      requests := fun caller => (after.requests caller).map (.observe limit after.count) }

/-- No kind has more rows than its limit. -/
def Held (desk : Desk) : Prop :=
  ∀ resource, limit resource < 0 ∨ desk.count resource ≤ limit resource

/-- A row is inserted only while one more still fits. -/
def StillFits (desk : Desk) : Action → Prop
  | .insert caller => ∀ request ∈ desk.requests caller,
    withinLimit (limit request.resource) (desk.count request.resource)
  | _ => True

/-- A request whose count leaves no room saw its limit reached, and so did those refused. -/
structure Sound (desk : Desk) : Prop where
  counted : ∀ caller resource count reached,
    desk.requests caller = some ⟨resource, .counted count, reached⟩ →
      withinLimit (limit resource) count ∨ reached
  refused : ∀ request ∈ desk.refused, request.reached

variable {limit} {desk after : Desk} {action : Action}

/-- A step leaves a count that was taken before, or the one it takes now. -/
theorem Sound.perform (sound : Sound limit desk) (step : perform limit desk action = some after) :
    (∀ caller resource count reached,
      after.requests caller = some ⟨resource, .counted count, reached⟩ →
        withinLimit (limit resource) count ∨ reached ∨ count = after.count resource) ∧
    ∀ request ∈ after.refused, request.reached := by
  obtain ⟨counted, refused⟩ := sound
  cases action with
  | start =>
    obtain ⟨-, ⟨⟩⟩ := Option.ite_none_right_eq_some.mp step
    exact ⟨by grind, refused⟩
  | fail | delete =>
    cases step
    exact ⟨by grind, refused⟩
  | count =>
    simp only [perform] at step
    split at step <;> cases step
    exact ⟨by grind [Desk.put], refused⟩
  | check =>
    simp only [perform] at step
    split at step
    next found =>
      split at step <;> cases step
      · exact ⟨by grind, refused⟩
      · exact ⟨by grind, by grind⟩
    · cases step
  | insert =>
    simp only [perform] at step
    split at step <;> cases step
    exact ⟨by grind, refused⟩

theorem Sound.next (sound : Sound limit desk) (step : next limit desk action = some after) :
    Sound limit after := by
  obtain ⟨middle, performed, rfl⟩ := Option.map_eq_some_iff.mp step
  obtain ⟨counted, refused⟩ := sound.perform performed
  refine ⟨fun caller resource count reached found => ?_, refused⟩
  obtain ⟨⟨kind, phase, before⟩, held, ⟨⟩⟩ := Option.map_eq_some_iff.mp found
  rcases counted caller kind count before held with fits | reached | rfl
  · exact .inl fits
  · simp [reached]
  · cases withinLimit (limit kind) (middle.count kind) <;> simp

theorem held_next_iff (held : Held limit desk) (step : next limit desk action = some after) :
    Held limit after ↔ StillFits limit desk action := by
  obtain ⟨after, performed, rfl⟩ := Option.map_eq_some_iff.mp step
  cases action with
  | insert =>
    simp only [perform] at performed
    split at performed <;> cases performed
    next resource _ found =>
      simp only [StillFits, found, Option.mem_some_iff, forall_eq', withinLimit, Bool.or_eq_true,
        decide_eq_true_eq]
      constructor
      · intro held_after
        simpa [Int.add_one_le_iff] using held_after resource
      · intro fits other
        have := held other
        grind [Function.update_apply]
  | delete =>
    cases performed
    refine iff_of_true (fun other => ?_) trivial
    have := held other
    grind [Function.update_apply]
  | _ =>
    have same : after.count = desk.count := by
      simp only [perform] at performed
      grind [Desk.put]
    exact iff_of_true (by simpa [Held, same] using held) trivial

/-- Refused requests all saw their limit reached, and the quotas always hold exactly when each row
is inserted while one more still fits. -/
theorem quotas_held_iff_still_fits {desk final : Desk} {actions : List Action}
    (held : Held limit desk) (idle : desk.requests = fun _ => none) (unrefused : desk.refused = [])
    (execution : run (next limit) desk actions = some final) :
    (∀ request ∈ final.refused, request.reached) ∧ (Always (next limit) (Held limit) desk actions ↔
      Guarded (next limit) (StillFits limit) desk actions) := by
  have sound : Sound limit desk := ⟨by simp [idle], by simp [unrefused]⟩
  exact ⟨(invariant_of_run Sound.next sound execution).refused,
    always_iff_guarded Sound.next (fun _ => held_next_iff) sound held execution⟩

/-- Two requests that both count no rows fill a limit of one twice. -/
theorem concurrent_creates_exceed_limit :
    ∃ final, run (next fun _ => 1) ⟨fun _ => 0, fun _ => none, []⟩
      [.start 0 .endpoints, .start 1 .endpoints, .count 0, .count 1, .check 0, .check 1, .insert 0,
        .insert 1] = some final ∧ final.count .endpoints = 2 :=
  ⟨_, rfl, rfl⟩

/-- Three requests in turn under a limit of one: one creates, one is refused, and one creates after
a deletion. -/
theorem quotas_held_iff_still_fits_in_turn :
    ∃ final, run (next fun _ => 1) ⟨fun _ => 0, fun _ => none, []⟩
      [.start 0 .heartbeats, .count 0, .check 0, .insert 0, .start 1 .heartbeats, .count 1,
        .check 1, .delete .heartbeats, .start 0 .heartbeats, .count 0, .check 0, .insert 0] =
          some final ∧ ∀ request ∈ final.refused, request.reached :=
  .imp (fun _ ran =>
    ⟨ran, (quotas_held_iff_still_fits (fun _ => .inr Int.one_nonneg) rfl rfl ran).1⟩)
    ⟨_, rfl⟩

end Maintenant.Quota
