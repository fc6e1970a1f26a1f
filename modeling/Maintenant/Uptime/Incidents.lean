import Maintenant.Containers.Service
import Maintenant.Uptime.ContainerDays

/-!
# Incidents of a container and its timeline

A transition counts as an incident by what it says of the state before it, the timeline goes by what
the transition before it left.  A change of state says nothing of the health.
-/

namespace Maintenant.Uptime

open Agent (nanosPerSecond)
open Containers List

/-- The instants of `[from, to)` at which the container goes from up to down. -/
def downEdges (transitions : List StateTransition) (from_ to_ : Int) : Finset Int :=
  (transitions.map instant).toFinset.filter fun at_ =>
    (from_ ≤ at_ ∧ at_ < to_) ∧ upAt transitions (at_ - 1) ∧ !upAt transitions at_

section Edges

variable {t : StateTransition} {transitions : List StateTransition} {from_ to_ at_ : Int}

/-- The timeline changes at transitions only. -/
theorem mem_downEdges : at_ ∈ downEdges transitions from_ to_ ↔
    (from_ ≤ at_ ∧ at_ < to_) ∧ upAt transitions (at_ - 1) ∧ !upAt transitions at_ := by
  rw [downEdges, Finset.mem_filter, mem_toFinset, and_iff_right_of_imp]
  rintro ⟨-, before, after⟩
  by_contra elsewhere
  have same : upAt transitions (at_ - 1) = upAt transitions at_ := by
    refine congrArg (fun seen => seen.getLast?.any isUp) (filter_congr fun t mem => ?_)
    have apart : instant t ≠ at_ := fun here => elsewhere (here ▸ mem_map_of_mem mem)
    rw [decide_eq_decide]
    omega
  simp [← same, before] at after

/-- The transitions are in order, and those of `[from, to)` are at different instants. -/
structure Distinct (transitions : List StateTransition) (from_ to_ : Int) : Prop where
  ordered : transitions.Pairwise fun one other => instant one ≤ instant other
  apart : (transitions.filter fun t => from_ ≤ instant t ∧ instant t < to_).Pairwise
    fun one other => instant one ≠ instant other

/-- At the instant of a transition the container is as that transition left it. -/
theorem Distinct.upAt_instant (distinct : Distinct transitions from_ to_) (mem : t ∈ transitions)
    (within : from_ ≤ instant t ∧ instant t < to_) : upAt transitions (instant t) = isUp t := by
  obtain ⟨front, back, rfl⟩ := append_of_mem mem
  have later : (back.filter fun next => instant next ≤ instant t) = [] := by
    refine filter_eq_nil_iff.mpr fun next behind => ?_
    have ordered := rel_of_pairwise_cons (pairwise_append.mp distinct.ordered).2.1 behind
    have apart := rel_of_pairwise_cons
      (pairwise_append.mp (pairwise_filter.mp distinct.apart)).2.1 behind
    simp only [decide_eq_true_eq] at apart ⊢
    omega
  rw [upAt, filter_append, filter_cons, if_pos (by simp), later,
    getLast?_concat]
  rfl

end Edges

private def webEvent (action : EventAction) (seconds : Int) (exitCode health : String) :
    ContainerEvent :=
  ⟨"", "web", seconds * nanosPerSecond, false, "", action, exitCode, false, health⟩

/-- The transitions that events of a container leave in the store. -/
private def webRows (events : List ContainerEvent) : List StateTransition :=
  let web : Container := ⟨(webEvent .start 0 "" "").container, .created, none, false, false, none⟩
  let seen : ContainerStore := ⟨(Keyed.empty _).insert web, .empty _, 0⟩
  transitionsOf web.id (events.foldl (flip ContainerStore.processEvent) seen).transitions.items

end Maintenant.Uptime
