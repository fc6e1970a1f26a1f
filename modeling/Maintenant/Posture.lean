import Maintenant.Alerting.Feed

/-!
# The posture alert

The scorer remembers the last infrastructure score and tells the engine when the score falls below
the threshold or is back.  A score of zero and no score at all look the same to it, so a score that
is back after either resolves nothing.
-/

namespace Maintenant.Posture

open Alerting Execution

/-- What the scorer remembers. -/
structure Scorer where
  threshold : Int
  /-- Zero until the first evaluation. -/
  lastInfraScore : Int

def colorLevel (score : Int) : String :=
  if 80 ≤ score then "green" else if 60 ≤ score then "yellow"
  else if 40 ≤ score then "orange" else "red"

/-- The average of the scored containers, rounded half up; `none` when there is none. -/
def avgScore (scores : List Nat) : Option Nat :=
  if scores = [] then none else some ((2 * scores.sum + scores.length) / (2 * scores.length))

/-- The event of the alert callback. -/
def postureEvent (json : List (String × String) → Option String)
    (threshold score previousScore : Int)
    (color : String) (isBreach : Bool) (now : Int) : Event where
  source := "security"
  alertType := "posture_threshold"
  severity := if !isBreach then "info" else if score < threshold - 20 then "critical" else "warning"
  isRecover := !isBreach
  message := "Infrastructure security score " ++ (if isBreach then "dropped" else "recovered") ++
    " to " ++ toString score ++ " (threshold: " ++ toString threshold ++ ")"
  entityType := "infrastructure"
  entityId := ""
  entityName := "infrastructure"
  agentId := localAgent
  details := json [("score", toString score), ("previous_score", toString previousScore),
    ("color", color)]
  timestamp := now

def postureKey : ActiveAlertKey := ⟨"security", "posture_threshold", "infrastructure", ""⟩

variable (deps : EngineDeps) (env : Event → Environment)
  (json : List (String × String) → Option String)

/-- `evaluateThreshold`: the scorer and the events it sends. -/
def Scorer.evaluateThreshold (scorer : Scorer) (score : Int) (color : String) (now : Int) :
    Scorer × List Event :=
  let previousScore := scorer.lastInfraScore
  let wasBelowThreshold := 0 < previousScore ∧ previousScore < scorer.threshold
  let isBelowThreshold := score < scorer.threshold
  ({ scorer with lastInfraScore := score },
    if scorer.threshold ≤ 0 then []
    else if isBelowThreshold ∧ ¬wasBelowThreshold then
      [postureEvent json scorer.threshold score previousScore color true now]
    else if ¬isBelowThreshold ∧ wasBelowThreshold then
      [postureEvent json scorer.threshold score previousScore color false now]
    else [])

/-- The scorer and the engine, and the score of the last evaluation of the process. -/
structure Desk where
  scorer : Scorer
  engine : Engine
  evaluated : Option Nat

/-- An evaluation or a restart. -/
inductive Action
  /-- `ScoreInfrastructure` over the scores of the containers that have one. -/
  | evaluate (scores : List Nat) (now : Int)
  | restart (threshold : Nat)

/-- Alerts are persistent; the scorer starts afresh. -/
def Desk.next (desk : Desk) : Action → Option Desk
  | .evaluate scores now =>
    match avgScore scores with
    | none => some desk
    | some score =>
      let after := desk.scorer.evaluateThreshold json score (colorLevel score) now
      some ⟨after.1, desk.engine.feed deps env after.2, some score⟩
  | .restart threshold =>
    if threshold = 0 then none
    else some ⟨⟨threshold, 0⟩, reloadActiveAlerts desk.engine.store, none⟩

def Desk.start (threshold : Nat) : Desk := ⟨⟨threshold, 0⟩, .empty, none⟩

/-- After an evaluation the alert is active exactly when the score is below the threshold. -/
def Desk.Follows (desk : Desk) : Prop :=
  ∀ score ∈ desk.evaluated, desk.engine.tracks postureKey = true ↔ score < desk.scorer.threshold

/-- A score that is back while the alert is active follows a positive score of the process. -/
def Desk.Noticed (desk : Desk) : Action → Prop
  | .evaluate scores _ => ∀ score ∈ avgScore scores, desk.scorer.threshold ≤ score →
      desk.engine.tracks postureKey = true → 0 < desk.scorer.lastInfraScore
  | .restart _ => True

instance (desk : Desk) : DecidablePred desk.Noticed
  | .evaluate scores _ => inferInstanceAs (Decidable (∀ score ∈ avgScore scores, _ → _ → _))
  | .restart _ => .isTrue trivial

/-- What the scorer remembers is the last evaluation. -/
structure Desk.Sound (desk : Desk) : Prop where
  threshold : 0 < desk.scorer.threshold
  memory : desk.scorer.lastInfraScore = (desk.evaluated.getD 0 : Nat)
  mirrors : desk.engine.Mirrors

variable {deps env json}

/-- One event at most is sent, and it decides the alert. -/
theorem tracks_evaluate (calm : AllCalm env) {desk : Desk} {score now : Int} {color : String}
    (positive : 0 < desk.scorer.threshold) :
    (desk.engine.feed deps env (desk.scorer.evaluateThreshold json score color now).2).tracks
      postureKey = true ↔ (score < desk.scorer.threshold ∧
          ¬(0 < desk.scorer.lastInfraScore ∧ desk.scorer.lastInfraScore < desk.scorer.threshold)) ∨
        (score < desk.scorer.threshold ↔
          0 < desk.scorer.lastInfraScore ∧ desk.scorer.lastInfraScore < desk.scorer.threshold) ∧
          desk.engine.tracks postureKey = true := by
  simp only [Engine.tracks_eq, Scorer.evaluateThreshold, if_neg (not_le.mpr positive)]
  split
  · rw [Engine.severityAt_feed_one calm (by rfl)]
    simp [Event.leaves, postureEvent, *]
  split
  · rw [Engine.severityAt_feed_one calm (by rfl)]
    simp [Event.leaves, postureEvent, *]
  · tauto

variable {action : Action}

theorem Desk.Sound.next (calm : AllCalm env) {desk after : Desk} (sound : desk.Sound)
    (step : desk.next deps env json action = some after) : after.Sound := by
  cases action with
  | evaluate =>
    rw [Desk.next] at step
    split at step
    · cases step
      exact sound
    · cases step
      exact ⟨sound.threshold, rfl, sound.mirrors.feed calm⟩
  | restart =>
    simp only [Desk.next] at step
    split at step
    · cases step
    · cases step
      exact ⟨by dsimp only; omega, rfl, sound.mirrors.reload⟩

theorem follows_iff_noticed (calm : AllCalm env) {desk after : Desk}
    (sound : desk.Sound) (follows : desk.Follows)
    (step : desk.next deps env json action = some after) : after.Follows ↔ desk.Noticed action := by
  cases action with
  | restart =>
    obtain ⟨-, ⟨⟩⟩ := Option.ite_none_left_eq_some.mp step
    exact ⟨fun _ => trivial, nofun⟩
  | evaluate scores =>
    rw [Desk.next] at step
    cases average : avgScore scores with
    | none =>
      rw [average] at step
      cases step
      exact ⟨fun _ => by simp [Desk.Noticed, average], fun _ => follows⟩
    | some score =>
      rw [average] at step
      cases step
      -- a positive memory is the score after which the alert was last seen to follow
      have before : 0 < desk.scorer.lastInfraScore → (desk.engine.tracks postureKey = true ↔
          desk.scorer.lastInfraScore < desk.scorer.threshold) := by
        intro positive
        rw [sound.memory] at positive ⊢
        cases found : desk.evaluated with
        | none => simp [found] at positive
        | some last => exact follows last found
      simp only [Desk.Follows, Desk.Noticed, Option.mem_some_iff, forall_eq',
        tracks_evaluate calm sound.threshold]
      change (_ ↔ score < desk.scorer.threshold) ↔ _
      by_cases below : score < desk.scorer.threshold <;>
        by_cases positive : 0 < desk.scorer.lastInfraScore <;>
        by_cases was : desk.scorer.lastInfraScore < desk.scorer.threshold <;>
        by_cases active : desk.engine.tracks postureKey = true <;>
        simp_all <;> omega

/-- The alert follows the score after each evaluation exactly when every score that is back while
the alert is active follows a positive one of the same process. -/
theorem posture_alert_follows_iff_noticed (deps : EngineDeps) (env : Event → Environment)
    (json : List (String × String) → Option String) (calm : AllCalm env) (threshold : Nat)
    (positive : 0 < threshold) {actions : List Action} {final : Desk}
    (execution : run (Desk.next deps env json) (.start threshold) actions = some final) :
    Always (Desk.next deps env json) Desk.Follows (.start threshold) actions ↔
      Guarded (Desk.next deps env json) Desk.Noticed (.start threshold) actions :=
  always_iff_guarded (Desk.Sound.next calm) (follows_iff_noticed calm)
    ⟨by simpa [Desk.start] using positive, rfl, Engine.empty_mirrors⟩ nofun execution

/-- A score that is back after a restart with a higher threshold, and one score below it, is
noticed. -/
theorem posture_alert_follows_iff_noticed_restarted :
    Always (Desk.next ⟨false, false⟩ (fun _ => calmEnvironment) fun _ => none) Desk.Follows
      (.start 50) [.evaluate [40, 20] 0, .restart 60, .evaluate [55] 1, .evaluate [70] 2] :=
  (posture_alert_follows_iff_noticed ⟨false, false⟩ _ _ allCalm_calmEnvironment 50 (by decide)
    rfl).mpr (by decide +kernel)

/-- The score is zero and then back: the alert stays. -/
theorem zero_score_forgotten :
    ∃ final, run (Desk.next ⟨false, false⟩ (fun _ => calmEnvironment) fun _ => none)
        (.start 50) [.evaluate [0] 0, .evaluate [80] 1] = some final ∧
      final.evaluated = some 80 ∧ final.engine.tracks postureKey = true :=
  ⟨_, rfl, rfl, by decide +kernel⟩

end Maintenant.Posture
