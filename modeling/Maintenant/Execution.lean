import Mathlib.Data.List.Basic

/-!
# Finite executions of a partial transition function

An open system is given by `next : σ → α → Option σ`: the action it is offered carries whatever the
environment chooses, and `none` says that the action is not enabled.  Invariants are proved one
step at a time and packaged here once, both for all executions and for those whose every step
meets a guard on the state it leaves.
-/

/-! Histories grow at the end. -/

theorem List.mem_snoc {α : Type*} {item last : α} {items : List α} :
    item ∈ items ++ [last] ↔ item ∈ items ∨ item = last := by
  rw [mem_append, mem_singleton]

theorem List.pairwise_snoc {α : Type*} {rel : α → α → Prop} {items : List α} {last : α} :
    (items ++ [last]).Pairwise rel ↔ items.Pairwise rel ∧ ∀ item ∈ items, rel item last := by
  simp [pairwise_append]

namespace Execution

variable {σ α : Type*} (next : σ → α → Option σ)

/-- Perform a list of actions, failing at the first one that is not enabled. -/
def run : σ → List α → Option σ
  | state, [] => some state
  | state, action :: actions =>
    match next state action with
    | none => none
    | some after => run after actions

/-- Every step of the execution meets `guard` at the state it leaves. -/
def Guarded (guard : σ → α → Prop) : σ → List α → Prop
  | _, [] => True
  | state, action :: actions =>
    guard state action ∧
      match next state action with
      | none => True
      | some after => Guarded guard after actions

/-- Every state the execution visits, the first one included, satisfies `good`. -/
def Always (good : σ → Prop) : σ → List α → Prop
  | state, [] => good state
  | state, action :: actions =>
    good state ∧
      match next state action with
      | none => True
      | some after => Always good after actions

instance decidableGuarded (guard : σ → α → Prop) [∀ state action, Decidable (guard state action)] :
    ∀ state actions, Decidable (Guarded next guard state actions)
  | _, [] => .isTrue trivial
  | state, action :: actions =>
    match found : next state action with
    | none => decidable_of_iff (guard state action) (by simp [Guarded, found])
    | some after =>
      have := decidableGuarded guard after actions
      decidable_of_iff (guard state action ∧ Guarded next guard after actions)
        (by simp [Guarded, found])

instance decidableAlways (good : σ → Prop) [∀ state, Decidable (good state)] :
    ∀ state actions, Decidable (Always next good state actions)
  | state, [] => inferInstanceAs (Decidable (good state))
  | state, action :: actions =>
    match found : next state action with
    | none => decidable_of_iff (good state) (by simp [Always, found])
    | some after =>
      have := decidableAlways good after actions
      decidable_of_iff (good state ∧ Always next good after actions)
        (by simp [Always, found])

@[simp] theorem run_nil (state : σ) : run next state [] = some state := rfl

@[simp] theorem always_nil (good : σ → Prop) (state : σ) :
    Always next good state [] ↔ good state := .rfl

@[simp] theorem guarded_nil (guard : σ → α → Prop) (state : σ) : Guarded next guard state [] :=
  trivial

theorem run_cons (state : σ) (action : α) (actions : List α) :
    run next state (action :: actions) = (next state action).bind fun after =>
      run next after actions := by
  simp only [run]
  cases next state action <;> rfl

theorem run_cons_eq_some {state final : σ} {action : α} {actions : List α} :
    run next state (action :: actions) = some final ↔
      ∃ after, next state action = some after ∧ run next after actions = some final := by
  rw [run_cons, Option.bind_eq_some_iff]

variable {next} {good inv : σ → Prop} {guard : σ → α → Prop} {state final : σ} {actions : List α}

theorem Always.head (always : Always next good state actions) : good state := by
  cases actions with
  | nil => exact always
  | cons => exact always.1

theorem run_of_total (total : ∀ state action, ∃ after, next state action = some after)
    (state : σ) (actions : List α) : ∃ final, run next state actions = some final := by
  induction actions generalizing state with
  | nil => exact ⟨state, rfl⟩
  | cons action actions ih =>
    obtain ⟨after, step⟩ := total state action
    obtain ⟨final, rest⟩ := ih after
    exact ⟨final, (run_cons_eq_some next).mpr ⟨after, step, rest⟩⟩

theorem guarded_of_forall (met : ∀ state action, guard state action)
    (state : σ) (actions : List α) : Guarded next guard state actions := by
  induction actions generalizing state with
  | nil => trivial
  | cons action actions ih =>
    refine ⟨met state action, ?_⟩
    cases next state action with
    | none => trivial
    | some after => exact ih after

theorem invariant_of_guarded (kept : ∀ {before after : σ} {action : α}, inv before →
      guard before action → next before action = some after → inv after) {state final : σ}
    {actions : List α} (initial : inv state) (guarded : Guarded next guard state actions)
    (execution : run next state actions = some final) : inv final := by
  induction actions generalizing state with
  | nil =>
    cases execution
    exact initial
  | cons action actions ih =>
    obtain ⟨after, step, rest⟩ := (run_cons_eq_some next).mp execution
    obtain ⟨met, later⟩ := guarded
    rw [step] at later
    exact ih (kept initial met step) later rest

theorem invariant_of_run (kept : ∀ {before after : σ} {action : α}, inv before →
      next before action = some after → inv after) {state final : σ} {actions : List α}
    (initial : inv state) (execution : run next state actions = some final) : inv final :=
  invariant_of_guarded (fun holds (_ : True) step => kept holds step) initial
    (guarded_of_forall (fun _ _ => trivial) state actions) execution

theorem guarded_append {front back : List α} :
    Guarded next guard state (front ++ back) ↔ Guarded next guard state front ∧
        ∀ middle, run next state front = some middle → Guarded next guard middle back := by
  induction front generalizing state with
  | nil => simp
  | cons action actions ih =>
    rw [List.cons_append, Guarded, Guarded, run_cons]
    cases next state action with
    | none => simp
    | some =>
      simp only [ih]
      tauto

theorem always_of_guarded (inv : σ → Prop)
    (kept : ∀ {before after : σ} {action : α}, inv before → guard before action →
      next before action = some after → inv after)
    (sound : ∀ state, inv state → good state) (initial : inv state)
    (guarded : Guarded next guard state actions) : Always next good state actions := by
  induction actions generalizing state with
  | nil => exact sound state initial
  | cons action actions ih =>
    obtain ⟨met, later⟩ := guarded
    refine ⟨sound state initial, ?_⟩
    cases step : next state action with
    | none => trivial
    | some =>
      rw [step] at later
      exact ih (kept initial met step) later

theorem always_of_invariant (inv : σ → Prop)
    (kept : ∀ {before after : σ} {action : α}, inv before → next before action = some after →
      inv after)
    (sound : ∀ state, inv state → good state) (initial : inv state) (actions : List α) :
    Always next good state actions :=
  always_of_guarded inv (fun holds (_ : True) step => kept holds step) sound initial
    (guarded_of_forall (fun _ _ => trivial) state actions)

theorem last_of_guarded
    (kept : ∀ {before after : σ} {action : α}, inv before → guard before action →
      next before action = some after → inv after) {action : α} (initial : inv state)
    (execution : run next state (actions ++ [action]) = some final)
    (guarded : Guarded next guard state (actions ++ [action])) :
    ∃ before, inv before ∧ guard before action ∧ next before action = some final := by
  induction actions generalizing state with
  | nil =>
    obtain ⟨after, step, rest⟩ := (run_cons_eq_some next).mp execution
    cases rest
    exact ⟨state, initial, guarded.1, step⟩
  | cons first actions ih =>
    obtain ⟨after, step, rest⟩ := (run_cons_eq_some next).mp execution
    obtain ⟨met, later⟩ := guarded
    rw [step] at later
    exact ih (kept initial met step) rest later

theorem guarded_of_always
    (disabled : ∀ {state : σ} {action : α}, next state action = none → guard state action)
    (needed : ∀ {before after : σ} {action : α}, good before → next before action = some after →
      good after → guard before action)
    (always : Always next good state actions) : Guarded next guard state actions := by
  induction actions generalizing state with
  | nil => trivial
  | cons action actions ih =>
    obtain ⟨good_state, later⟩ := always
    simp only [Guarded]
    cases step : next state action with
    | none => exact ⟨disabled step, trivial⟩
    | some =>
      rw [step] at later
      exact ⟨needed good_state step later.head, ih later⟩

theorem always_and {left right : σ → Prop} :
    Always next (fun visited => left visited ∧ right visited) state actions ↔
      Always next left state actions ∧ Always next right state actions := by
  induction actions generalizing state with
  | nil => exact .rfl
  | cons action actions ih =>
    simp only [Always]
    cases next state action with
    | none => simp
    | some =>
      simp only [ih]
      tauto

/-- When the guard is exactly what one step needs to keep `good`, it is exactly what whole
executions need. -/
theorem always_iff_guarded
    (kept : ∀ {before after : σ} {action : α}, inv before → next before action = some after →
      inv after) (exact_step : ∀ {before after : σ} {action : α}, inv before → good before →
      next before action = some after → (good after ↔ guard before action))
    {state final : σ} {actions : List α} (inv_state : inv state) (good_state : good state)
    (execution : run next state actions = some final) :
    Always next good state actions ↔ Guarded next guard state actions := by
  induction actions generalizing state with
  | nil => simpa using good_state
  | cons action actions ih =>
    obtain ⟨after, step, rest⟩ := (run_cons_eq_some next).mp execution
    have head := exact_step inv_state good_state step
    simp only [Always, Guarded, step, good_state, true_and]
    constructor
    · intro always
      have good_after : good after := always.head
      exact ⟨head.mp good_after, (ih (kept inv_state step) good_after rest).mp always⟩
    · rintro ⟨met, later⟩
      have good_after := head.mpr met
      exact (ih (kept inv_state step) good_after rest).mpr later

end Execution
