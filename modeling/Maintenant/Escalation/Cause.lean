import Maintenant.Escalation.Steps

/-!
# Pages and their causes

A cycle sends for the levels it executes and for deliveries it finds left behind.  The first path
looks at the alert, its acknowledgment, the maintenance windows and the channel.  The second asks
only whether the run and the alert are active and the channel exists.
-/

namespace Maintenant.Escalation

open Agent (nanosPerSecond)
open Alerting (Alert NotificationChannel)
open Program List

/-- `IsSuppressed` does not fail. -/
def SuppressorAnswers (input : Input) : {β : Type} → Call β → World → Prop
  | _, .isSuppressed .., _ => input.fails = false
  | _, _, _ => True

def AllFine (input : Input) {β : Type} (_request : Call β) (_world : World) : Prop := input = fine

namespace World

/-- The alert is active, not acknowledged and in no maintenance window. -/
def pageable (world : World) (a : Alert) : Bool :=
  a.status = .active && a.acknowledgedAt.isNone &&
    !world.suppressed a.source a.entityType a.entityId

/-- What is sent is for such an alert, on a channel that exists and is enabled. -/
def caused (world : World) (launch : Launch) : Bool :=
  (world.alerts.lookup launch.alert.id).any world.pageable &&
    (world.channels.lookup launch.channel.id).any NotificationChannel.enabled

/-- The delivery will be sent again: its run has not ended, the alert is active and the channel
exists. -/
def Recovered (world : World) (d : Delivery) (a : Alert) (ch : NotificationChannel) : Prop :=
  ∃ run, world.runs.lookup d.runId = some run ∧ run.status.terminal = false ∧
    world.alerts.lookup run.alertId = some a ∧ a.status = .active ∧
      ∃ channelId, d.channelId = some channelId ∧ world.channels.lookup channelId = some ch

/-- Deliveries left behind since before this time that will be sent again are for alerts that may be
paged and on enabled channels. -/
def OrphansCaused (before : Int) (world : World) : Prop :=
  ∀ d ∈ world.deliveries, orphaned before d → ∀ a ch, world.Recovered d a ch →
    world.pageable a ∧ ch.enabled

end World

variable {world now : World} {sent : List Launch → Prop} {a : Alert} {d : Delivery}
  {ch : NotificationChannel} {runId : Nat} {timeout levelIndex at_ : Int} {input : Input} {β : Type}
  {request : Call β}

theorem answers_of_fine
    (meets : AllFine input request now) : SuppressorAnswers input request now := by
  subst meets
  cases request <;> trivial

/-! ### What a cycle leaves alone -/

/-- Since `world`, alerts were only marked as escalated, channels and windows are the same, and what
was launched meets a condition. -/
structure Sends (world : World) (sent : List Launch → Prop) (now : World) : Prop where
  alerts :
    ∀ row ∈ now.alerts, ∃ old ∈ world.alerts, row = { old with escalatedAt := row.escalatedAt }
  channels : now.channels = world.channels
  suppressed : now.suppressed = world.suppressed
  launched : ∃ new, now.launched = world.launched ++ new ∧ sent new

theorem Sends.start (none_sent : sent []) : Sends world sent world where
  alerts row mem := ⟨row, mem, rfl⟩
  channels := rfl
  suppressed := rfl
  launched := ⟨[], (append_nil _).symm, none_sent⟩

theorem Sends.pageable (sends : Sends world sent now) {id : Alerting.AlertId}
    (found : now.alerts.lookup id = some a) (active : a.status = .active)
    (unacknowledged : a.acknowledgedAt = none)
    (unsuppressed : now.suppressed a.source a.entityType a.entityId = false) :
    (world.alerts.lookup a.id).any world.pageable := by
  obtain ⟨mem, rfl⟩ := Keyed.lookup_eq_some.mp found
  obtain ⟨old, old_mem, same⟩ := sends.alerts a mem
  rw [sends.suppressed] at unsuppressed
  have found : world.alerts.lookup a.id = some old :=
    Keyed.lookup_eq_some.mpr ⟨old_mem, by rw [same]⟩
  rw [same] at active unacknowledged unsuppressed
  rw [found]
  simp only at active unacknowledged unsuppressed
  simp [World.pageable, active, unacknowledged, unsuppressed]

/-- The call neither launches nor claims, and changes no channel, window or alert but for marking
it. -/
def Call.solo : {β : Type} → Call β → Bool
  | _, .launch _ => false
  | _, .claim _ => false
  | _, .changeAlerts _ => false
  | _, .changeChannels _ => false
  | _, .changeSuppression _ => false
  | _, _ => true

theorem Sends.exec (sends : Sends world sent now)
    (solo : request.solo) : Sends world sent (exec input request now).2 := by
  cases request with
  | setEscalatedAt =>
    refine writing_cases sends fun _ => { sends with alerts := ?_ }
    intro row mem
    obtain ⟨old, old_mem, rfl⟩ := mem_map.mp mem
    obtain ⟨first, first_mem, same⟩ := sends.alerts old old_mem
    refine ⟨first, first_mem, ?_⟩
    split
    · rw [same]
    · exact same
  | insertDelivery =>
    simp only [Escalation.exec]
    split
    · exact sends
    simp only [World.insertDelivery]
    split
    · exact sends
    · split
      · exact { sends with }
      · exact sends
  | insertRun | updateRunProgress | terminateRun | pauseRunForMaintenance
  | resumeRunFromMaintenance | updateDelivery | insertPolicy | updatePolicy | deletePolicyRow
  | stopPolicyRuns | bulkDeactivateAllPolicies | bulkRestorePoliciesFromDowngrade
  | bulkStopActiveRuns | purgeBatch => exact writing_cases sends fun _ => { sends with }
  | launch | claim | changeAlerts | changeChannels | changeSuppression => cases solo
  | executing | changeLicence => exact { sends with }
  | _ => exact sends

theorem Sends.launch (sends : Sends world sent now) {launch : Launch}
    (added : ∀ new, sent new → sent (new ++ [launch])) :
    Sends world sent (Escalation.exec input (.launch launch) now).2 := by
  obtain ⟨new, launched, holds⟩ := sends.launched
  refine { sends with launched := ⟨new ++ [launch], ?_, added new holds⟩ }
  rw [← append_assoc, ← launched]
  rfl

variable {α : Type}

theorem reading_fine (value : α) : reading fine.fails value = some value := rfl

theorem reading_eq_some {fails : Bool} {value answer : α}
    (read : reading fails value = some answer) : value = answer := by
  cases fails with
  | true => cases read
  | false => exact Option.some.inj read

/-! ### Levels -/

variable {run : Run}

section Levels

variable (closed : ∀ launch new, world.caused launch → sent new → sent (new ++ [launch]))
  (sends : Sends world sent now)

include closed sends

theorem ensures_dispatchToChannel (pageable : (world.alerts.lookup a.id).any world.pageable)
    {chId : String} : (dispatchToChannel runId levelIndex a at_ chId).Ensures exec SuppressorAnswers
      (fun _ => Sends world sent) now := by
  simp only [dispatchToChannel, bind_eq, perform_bind]
  refine ensures_call fun input _ => ?_
  split
  · rename_i ch found
    have here : world.channels.lookup chId = some ch := sends.channels ▸ reading_eq_some found
    refine ensures_call fun input _ => ?_
    have sends : Sends world sent (exec input (.insertDelivery runId levelIndex chId at_) now).2 :=
      sends.exec rfl
    split
    · split
      · rename_i enabled
        refine ensures_call fun input _ => ?_
        refine sends.launch fun new => closed _ new ?_
        obtain ⟨mem, rfl⟩ := Keyed.lookup_eq_some.mp here
        simp [World.caused, pageable, here, enabled]
      · exact fun input _ => sends.exec rfl
    · exact sends
  · exact sends

theorem ensures_dispatchSpecial (pageable : (world.alerts.lookup a.id).any world.pageable)
    {channelIds : List String} :
    (dispatchSpecial runId levelIndex channelIds a).Ensures exec SuppressorAnswers
      (fun _ => Sends world sent) now := by
  refine ensures_call fun input _ => ?_
  refine ensures_forEach_of_mem sends fun chId _ now sends => ?_
  exact ensures_dispatchToChannel closed sends pageable

theorem ensures_advanceRun (pageable : (world.alerts.lookup a.id).any world.pageable)
    {policy : Policy} : (advanceRun at_ run a policy).Ensures exec SuppressorAnswers
      (fun _ => Sends world sent) now := by
  have exhausts {now : World} (sends : Sends world sent now) :
      (terminate run.id .exhausted at_).Ensures exec SuppressorAnswers
        (fun _ => Sends world sent) now := fun input _ => sends.exec rfl
  simp only [advanceRun]
  split
  · split
    · exact exhausts sends
    split
    · exact exhausts sends
    · refine .bind (ensures_dispatchSpecial closed sends ?_) fun _ _ => exhausts
      exact pageable
  · refine ensures_call fun input _ => ?_
    have sends : Sends world sent (exec input
        (.executing run.id (run.lastExecutedLevelIndex + 1).toNat at_) now).2 := sends.exec rfl
    refine .bind (ensures_dispatchSpecial closed sends pageable) fun _ now sends => ?_
    refine ensures_call fun input _ => ?_
    have sends : Sends world sent (exec input (.setEscalatedAt a.id at_) now).2 := sends.exec rfl
    exact fun input _ => sends.exec rfl

theorem ensures_processRun :
    (processRun at_ run).Ensures exec SuppressorAnswers (fun _ => Sends world sent) now := by
  have ends (status : RunStatus) : (terminate run.id status at_).Ensures exec SuppressorAnswers
      (fun _ => Sends world sent) now := fun input _ => sends.exec rfl
  simp only [processRun, bind_eq, perform_bind]
  refine ensures_call fun input _ => ?_
  split
  · exact sends
  · exact ends _
  rename_i a found
  split
  · exact ends _
  rename_i active
  split
  · exact ends _
  rename_i unacknowledged
  refine ensures_call fun input answers => ?_
  split
  · exact fun input _ => sends.exec rfl
  rename_i unsuppressed
  split
  · exact fun input _ => sends.exec rfl
  split
  · exact ends _
  refine ensures_advanceRun closed sends ?_
  refine sends.pageable (reading_eq_some found) (not_not.mp active) ?_ ?_
  · simpa using unacknowledged
  · simpa [exec, show input.fails = false from answers] using unsuppressed

end Levels

/-! ### Deliveries left behind -/

/-- Since `world`, only deliveries were changed and what was launched meets a condition. -/
structure Recovers (world : World) (sent : List Launch → Prop) (now : World) : Prop where
  runs : now.runs = world.runs
  alerts : now.alerts = world.alerts
  channels : now.channels = world.channels
  suppressed : now.suppressed = world.suppressed
  launched : ∃ new, now.launched = world.launched ++ new ∧ sent new

theorem Recovers.start (none_sent : sent []) : Recovers world sent world where
  runs := rfl
  alerts := rfl
  channels := rfl
  suppressed := rfl
  launched := ⟨[], (append_nil _).symm, none_sent⟩

section

variable (recovers : Recovers world sent now)
include recovers

theorem Recovers.sends : Sends world sent now where
  alerts row mem := ⟨row, recovers.alerts ▸ mem, rfl⟩
  channels := recovers.channels
  suppressed := recovers.suppressed
  launched := recovers.launched

theorem Recovers.mono {weaker : List Launch → Prop}
    (holds : ∀ new, sent new → weaker new) : Recovers world weaker now := by
  obtain ⟨new, launched, sent⟩ := recovers.launched
  exact { recovers with launched := ⟨new, launched, holds new sent⟩ }

theorem Recovers.abandon {reason : String} :
    (abandonDelivery d reason).Ensures exec SuppressorAnswers (fun _ => Recovers world sent) now :=
  fun _ _ => writing_cases recovers fun _ => { recovers with }

theorem Recovers.launch {launch : Launch}
    {after : List Launch → Prop} (added : ∀ new, sent new → after (new ++ [launch])) :
    Recovers world after (exec input (.launch launch) now).2 := by
  obtain ⟨new, launched, holds⟩ := recovers.launched
  refine { recovers with launched := ⟨new ++ [launch], ?_, added new holds⟩ }
  rw [← append_assoc, ← launched]
  rfl

theorem ensures_recoverOrphan
    (added : ∀ a ch new, world.Recovered d a ch → sent new → sent (new ++ [⟨d, a, ch⟩])) :
    (recoverOrphan d).Ensures exec SuppressorAnswers (fun _ => Recovers world sent) now := by
  simp only [recoverOrphan, bind_eq, perform_bind]
  refine ensures_call fun input _ => ?_
  split
  · rename_i run found
    split
    · exact recovers.abandon
    rename_i running
    refine ensures_call fun input _ => ?_
    split
    · rename_i a alert
      split
      · exact recovers.abandon
      rename_i active
      split
      · exact recovers.abandon
      rename_i channelId channel
      refine ensures_call fun input _ => ?_
      split
      · rename_i ch exists_
        refine ensures_call fun input _ => ?_
        refine recovers.launch fun new =>
          added a ch new ⟨run, ?_, ?_, ?_, ?_, channelId, channel, ?_⟩
        · exact recovers.runs ▸ reading_eq_some found
        · simpa using running
        · exact recovers.alerts ▸ reading_eq_some alert
        · exact not_not.mp active
        · exact recovers.channels ▸ reading_eq_some exists_
      · exact recovers.abandon
    · exact recovers.abandon
  · exact recovers.abandon

end

theorem launches_recoverOrphan (recovered : world.Recovered d a ch)
    (recovers : Recovers world sent now) : (recoverOrphan d).Ensures exec AllFine
      (fun _ => Recovers world fun new => ⟨d, a, ch⟩ ∈ new) now := by
  obtain ⟨run, found, running, alert, active, channelId, channel, exists_⟩ := recovered
  simp only [recoverOrphan, bind_eq, perform_bind]
  refine ensures_call fun input meets => ?_
  subst meets
  simp only [exec, reading_fine, recovers.runs, found, running]
  refine ensures_call fun input meets => ?_
  subst meets
  simp only [exec, reading_fine, recovers.alerts, alert, active, channel]
  refine ensures_call fun input meets => ?_
  subst meets
  simp only [exec, recovers.channels, exists_]
  exact fun _ _ => recovers.launch fun new _ => mem_append_right _ mem_cons_self

theorem caused_iff_of_recovered (recovered : world.Recovered d a ch) :
    world.caused ⟨d, a, ch⟩ ↔ world.pageable a ∧ ch.enabled := by
  obtain ⟨run, -, -, alert, -, channelId, -, channel⟩ := recovered
  obtain ⟨-, rfl⟩ := Keyed.lookup_eq_some.mp channel
  have alert : world.alerts.lookup a.id = some a := by
    obtain ⟨-, same⟩ := Keyed.lookup_eq_some.mp alert
    rw [same, alert]
  simp [World.caused, alert, channel]

theorem mem_selectOrphanPendingDeliveries {before : Int} :
    d ∈ world.selectOrphanPendingDeliveries before ↔ d ∈ world.deliveries ∧
      World.orphaned before d :=
  (mem_insertionSort _).trans mem_filter

theorem ensures_recoverOrphans (orphans : world.OrphansCaused (at_ - timeout)) :
    (recoverOrphans timeout at_).Ensures exec SuppressorAnswers
      (fun _ => Recovers world fun new => ∀ launch ∈ new, world.caused launch) world := by
  have start : Recovers world (fun new => ∀ launch ∈ new, world.caused launch) world :=
    .start fun _ mem => absurd mem not_mem_nil
  simp only [recoverOrphans, bind_eq, perform_bind]
  refine ensures_call fun input _ => ?_
  split
  · exact start
  rename_i listed found
  refine ensures_forEach_of_mem start fun d mem now recovers => ?_
  refine ensures_recoverOrphan recovers fun a ch new recovered before => ?_
  rw [← reading_eq_some found, mem_selectOrphanPendingDeliveries] at mem
  have caused : world.caused ⟨d, a, ch⟩ :=
    (caused_iff_of_recovered recovered).mpr (orphans d mem.1 mem.2 a ch recovered)
  exact forall_mem_append.mpr ⟨before, forall_mem_singleton.mpr caused⟩

theorem launches_recoverOrphans (mem : d ∈ world.deliveries)
    (orphaned : World.orphaned (at_ - timeout) d) (recovered : world.Recovered d a ch) :
    (recoverOrphans timeout at_).Ensures exec AllFine
      (fun _ => Recovers world fun new => ⟨d, a, ch⟩ ∈ new) world := by
  -- It is still to come or was launched.
  let loop (items : List Delivery) : World → Prop :=
    Recovers world fun new => d ∈ items ∨ ⟨d, a, ch⟩ ∈ new
  refine ensures_call fun input meets => ?_
  subst meets
  have start : loop (world.selectOrphanPendingDeliveries (at_ - timeout)) world :=
    .start (Or.inl (mem_selectOrphanPendingDeliveries.mpr ⟨mem, orphaned⟩))
  have turns : (forEach recoverOrphan
      (world.selectOrphanPendingDeliveries (at_ - timeout))).Ensures exec AllFine
        (fun _ => loop []) world := by
    refine ensures_forEach start fun item items now recovers => ?_
    by_cases here : item = d
    · subst here
      exact (launches_recoverOrphan recovered recovers).mono (fun _ _ _ _ meets => meets)
        fun _ _ recovers => recovers.mono fun _ launched => Or.inr launched
    have waits : Recovers world (fun new => d ∈ items ∨ ⟨d, a, ch⟩ ∈ new) now := by
      refine recovers.mono fun new => Or.imp_left fun listed => ?_
      exact (mem_cons.mp listed).resolve_left (Ne.symm here)
    refine (ensures_recoverOrphan waits fun other channel new _ => ?_).mono ?_
      fun _ _ holds => holds
    · exact Or.imp_right (mem_append_left _)
    · intro input β request now meets
      exact answers_of_fine meets
  exact turns.mono (fun _ _ _ _ meets => meets)
    fun _ _ recovers => recovers.mono fun _ launched => launched.resolve_left not_mem_nil

/-! ### Whole cycles -/

theorem ensures_evaluateCycle {allowed : Input → ∀ {β : Type}, Call β → World → Prop}
    (answers : ∀ input {β : Type} (request : Call β) now, allowed input request now →
      SuppressorAnswers input request now)
    (closed : ∀ launch new, world.caused launch → sent new → sent (new ++ [launch]))
    (licensed : world.licensed) (recovered : (recoverOrphans timeout at_).Ensures exec allowed
      (fun _ => Recovers world sent) world) :
    (evaluateCycle timeout at_).Ensures exec allowed (fun _ => Sends world sent) world := by
  simp only [evaluateCycle, bind_eq, perform_bind]
  refine ensures_call fun input _ => ?_
  simp only [exec, licensed]
  refine recovered.bind fun _ now recovers => ?_
  have sends := recovers.sends
  refine ensures_call fun input _ => ?_
  split
  · exact sends
  · refine ensures_forEach_of_mem sends fun run _ now sends => ?_
    exact (ensures_processRun closed sends).mono answers fun _ _ sends => sends

/-- Everything a cycle sends, run alone, is for an alert that is active, not acknowledged and in no
window, on an enabled channel, exactly when this holds of every delivery left behind that can be
sent again. -/
theorem pages_caused_iff_orphans_caused (timeout at_ : Int) (world : World) :
    (evaluateCycle timeout at_).Ensures exec SuppressorAnswers
        (fun _ after => ∀ launch ∈ after.launched.drop world.launched.length, world.caused launch)
        world ↔ (world.licensed → world.OrphansCaused (at_ - timeout)) := by
  constructor
  · intro ensures licensed d mem orphaned a ch recovered
    have launched : (evaluateCycle timeout at_).Ensures exec AllFine
        (fun _ => Sends world fun new => ⟨d, a, ch⟩ ∈ new) world :=
      ensures_evaluateCycle (fun _ _ _ _ meets => answers_of_fine meets)
        (fun _ _ _ => mem_append_left _) licensed
        (launches_recoverOrphans mem orphaned recovered)
    have all_caused := ensures.run (fun _ => fine) fun _ _ _ _ => answers_of_fine rfl
    obtain ⟨new, extends_, sent⟩ := (launched.run (fun _ => fine) fun _ _ _ _ => rfl).launched
    rw [extends_, drop_left] at all_caused
    exact (caused_iff_of_recovered recovered).mp (all_caused _ sent)
  · intro orphans
    have caused : (evaluateCycle timeout at_).Ensures exec SuppressorAnswers
        (fun _ => Sends world fun new => ∀ launch ∈ new, world.caused launch) world := by
      cases licensed : world.licensed with
      | false =>
        refine ensures_call fun input _ => ?_
        simp only [exec, licensed]
        exact .start fun _ mem => absurd mem not_mem_nil
      | true =>
        refine ensures_evaluateCycle (fun _ _ _ _ meets => meets) ?_ licensed
          (ensures_recoverOrphans (orphans licensed))
        intro launch new caused before
        exact forall_mem_append.mpr ⟨before, forall_mem_singleton.mpr caused⟩
    refine caused.mono (fun _ _ _ _ meets => meets) fun _ after sends => ?_
    obtain ⟨new, extends_, sent⟩ := sends.launched
    rw [extends_, drop_left]
    exact sent

/-- A delivery of the first level was left pending by a crash.  Since then a maintenance window has
begun and the channel was disabled. -/
def leftBehind : World :=
  let policy : Policy := ⟨1, "on call", true, false, ⟨[], []⟩, [⟨60, ["ops"]⟩]⟩
  { World.empty with
    alerts := (Keyed.empty _).insert standingAlert
    channels := (Keyed.empty _).insert ⟨"ops", "webhook", "", false⟩
    runs := (Keyed.empty _).insert ⟨2, some 1, some policy, 0, .active, -1, 0, none, some 60⟩
    deliveries := (Keyed.empty _).insert ⟨3, 2, 0, some "ops", .pending, "", 60, none⟩
    suppressed := fun _ _ _ => true }

/-- The next cycle sends it all the same. -/
theorem orphan_paged_without_cause :
    ¬(evaluateCycle (orphanTimeout 0) (300 * nanosPerSecond)).Ensures exec SuppressorAnswers
      (fun _ after => ∀ launch ∈ after.launched.drop leftBehind.launched.length,
        leftBehind.caused launch) leftBehind := by
  intro ensures
  have all_caused := ensures.run (fun _ => fine) fun _ _ _ _ => answers_of_fine rfl
  revert all_caused
  decide

end Maintenant.Escalation
