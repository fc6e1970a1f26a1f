import Maintenant.Sessions.Registry

/-!
# Reports of lost agents

The alert hook is called outside of the registry's lock, and `remove` records the report only in a
second section.  What was reported last and what is recorded agree with the streams as long as no
section changes an agent while the report of its previous change is still to come.
-/

namespace Maintenant.Sessions

open Program Function Registry Keyed Execution

namespace Registry

/-- Nobody else is still to report a change of the agent. -/
def Settled (who : Nat) (agentId : String) (registry : Registry) : Prop :=
  ∀ entry ∈ registry.owing.items, entry.2 = agentId → entry.1 = who

instance (who : Nat) (agentId : String) : DecidablePred (Settled who agentId) := fun registry =>
  inferInstanceAs (Decidable (∀ entry ∈ registry.owing.items, entry.2 = agentId → entry.1 = who))

end Registry

/-- The agent that a section opens, removes or announces. -/
def Call.changed (hooked : Bool) (who : Nat) (registry : Registry) :
    {β : Type} → Call β → Option String
  | _, .openStream agentId .. => some agentId
  | _, .detach agentId only reason =>
    match (registry.detach hooked who agentId only reason).1 with
    | .mismatch => none
    | .absent => if terminal reason then some agentId else none
    | .removed _ => some agentId
  | _, .sweep agentId sweepStart settled =>
    let swept := (registry.sweep hooked who agentId sweepStart settled).1
    if swept.removed.isSome ∨ swept.announce then some agentId else none
  | _, _ => none

/-- A section that opens, removes or announces an agent finds its previous changes reported. -/
def ReportedFirst (hooked : Bool) (who : Nat) (_op : Op) (_input : Input) {β : Type}
    (request : Call β) (registry : Registry) : Prop :=
  ∀ agentId ∈ request.changed hooked who registry, registry.Settled who agentId

instance (hooked : Bool) (who : Nat) (op : Op) (input : Input) {β : Type} (request : Call β)
    (registry : Registry) : Decidable (ReportedFirst hooked who op input request registry) :=
  inferInstanceAs (Decidable (∀ agentId ∈ request.changed hooked who registry, _))

variable {hooked : Bool} {who : Nat} {op : Op} {input : Input} {agentId : String}
  {registry before after : Registry}

/-! ### What is owed -/

namespace Registry

/-- What was said and recorded agrees with what happened, but for reports still to come. -/
structure Accounted (hooked : Bool) (registry : Registry) : Prop where
  /-- Where no report is to come, record and hook know of losses. -/
  agrees : ∀ agentId, (∀ who, (who, agentId) ∉ registry.owing) →
    registry.offlineReported agentId = registry.lost agentId ∧
      registry.saysOffline agentId = registry.lost agentId
  absent : ∀ agentId, registry.lost agentId → registry.active agentId = none
  /-- One thread is to report the change of an agent. -/
  alone : ∀ who other agentId, (who, agentId) ∈ registry.owing → (other, agentId) ∈ registry.owing →
    who = other
  unhooked : hooked = false → (∀ agentId, registry.lost agentId = false) ∧
    ∀ entry, entry ∉ registry.owing

/-- The thread owes no report. -/
def Even (who : Nat) (registry : Registry) : Prop := ∀ agentId, (who, agentId) ∉ registry.owing

/-- The thread is to report what happened to this agent. -/
structure Owes (who : Nat) (agentId : String) (loss : Bool) (registry : Registry) : Prop where
  owed : (who, agentId) ∈ registry.owing
  lost : registry.lost agentId = loss

/-- The change is recorded, and its report is owed. -/
structure Recorded (who : Nat) (agentId : String) (loss : Bool) (registry : Registry) : Prop
    extends Owes who agentId loss registry where
  record : registry.offlineReported agentId = loss

end Registry

/-- What the other threads may do: they leave the agent alone whose change this one is to report. -/
structure Waits (who : Nat) (before after : Registry) : Prop where
  owing : ∀ agentId, (who, agentId) ∈ after.owing ↔ (who, agentId) ∈ before.owing
  lost : ∀ agentId, (who, agentId) ∈ before.owing → after.lost agentId = before.lost agentId
  record : ∀ agentId, (who, agentId) ∈ before.owing →
    after.offlineReported agentId = before.offlineReported agentId

theorem Waits.refl (who : Nat) (registry : Registry) : Waits who registry registry :=
  ⟨fun _ => .rfl, fun _ _ => rfl, fun _ _ => rfl⟩

theorem Waits.trans {middle : Registry} (first : Waits who before middle)
    (second : Waits who middle after) : Waits who before after where
  owing agentId := (second.owing agentId).trans (first.owing agentId)
  lost agentId owed := by
    rw [second.lost agentId ((first.owing agentId).mpr owed), first.lost agentId owed]
  record agentId owed := by
    rw [second.record agentId ((first.owing agentId).mpr owed), first.record agentId owed]

/-- The call concerns one agent only. -/
structure Concerns (who : Nat) (agentId : String) (before after : Registry) : Prop where
  lost : ∀ other, other ≠ agentId → after.lost other = before.lost other
  record : ∀ other, other ≠ agentId → after.offlineReported other = before.offlineReported other
  told : ∀ other, other ≠ agentId → after.saysOffline other = before.saysOffline other
  active : ∀ other, other ≠ agentId → after.active other = before.active other
  owing : ∀ other, other ≠ who → ∀ agentId, (other, agentId) ∈ after.owing ↔
    (other, agentId) ∈ before.owing

theorem Concerns.waits (concerns : Concerns who agentId before after)
    (settled : before.Settled who agentId) (other : Nat) (ne : other ≠ who) :
    Waits other before after := by
  have apart (agent : String) (owed : (other, agent) ∈ before.owing) : agent ≠ agentId := by
    intro same
    exact ne (settled (other, agent) owed same)
  exact ⟨concerns.owing other ne, fun agent owed => concerns.lost agent (apart agent owed),
    fun agent owed => concerns.record agent (apart agent owed)⟩

theorem Registry.Accounted.step (accounted : before.Accounted hooked)
    (concerns : Concerns who agentId before after) (settled : before.Settled who agentId)
    (owed : ∀ agent, (who, agent) ∈ before.owing → agent = agentId)
    (owes : ∀ agent, (who, agent) ∈ after.owing → agent = agentId)
    (agrees : (who, agentId) ∉ after.owing → after.offlineReported agentId = after.lost agentId ∧
        after.saysOffline agentId = after.lost agentId)
    (absent : after.lost agentId → after.active agentId = none)
    (unhooked : hooked = false → after.lost agentId = false ∧ ∀ entry, entry ∉ after.owing) :
    after.Accounted hooked where
  agrees agent nobody := by
    by_cases here : agent = agentId
    · subst here
      exact agrees (nobody who)
    rw [concerns.record agent here, concerns.told agent here, concerns.lost agent here]
    refine accounted.agrees agent fun other owing => ?_
    by_cases mine : other = who
    · subst mine
      exact here (owed agent owing)
    · exact nobody other ((concerns.owing other mine agent).mpr owing)
  absent agent lost := by
    by_cases here : agent = agentId
    · subst here
      exact absent lost
    · rw [concerns.active agent here]
      exact accounted.absent agent (concerns.lost agent here ▸ lost)
  alone first second agent first_owes second_owes := by
    have elsewhere (other : Nat) (theirs : other ≠ who) (owing : (other, agent) ∈ after.owing) :
        (other, agent) ∈ before.owing ∧ agent ≠ agentId := by
      have owing := (concerns.owing other theirs agent).mp owing
      exact ⟨owing, fun same => theirs (settled (other, agent) owing same)⟩
    by_cases mine : first = who
    · by_cases also : second = who
      · rw [mine, also]
      · subst mine
        exact absurd (owes agent first_owes) (elsewhere second also second_owes).2
    by_cases also : second = who
    · subst also
      exact absurd (owes agent second_owes) (elsewhere first mine first_owes).2
    · exact accounted.alone first second agent (elsewhere first mine first_owes).1
        (elsewhere second also second_owes).1
  unhooked silent := by
    refine ⟨fun agent => ?_, (unhooked silent).2⟩
    by_cases here : agent = agentId
    · subst here
      exact (unhooked silent).1
    · rw [concerns.lost agent here]
      exact (accounted.unhooked silent).1 agent

/-! ### Sections and callbacks -/

/-- The call changes no agent and reports nothing. -/
def Call.Quiet : {β : Type} → Call β → Prop
  | _, .openStream .. => False
  | _, .detach .. => False
  | _, .mark .. => False
  | _, .sweep .. => False
  | _, .alertHook .. => False
  | _, _ => True

/-- No agent was changed and nothing reported. -/
structure Calm (before after : Registry) : Prop where
  lost : after.lost = before.lost
  record : after.offlineReported = before.offlineReported
  told : after.hookCalls = before.hookCalls
  active : after.active = before.active
  owing : after.owing = before.owing

theorem Calm.refl : Calm registry registry := ⟨rfl, rfl, rfl, rfl, rfl⟩

variable {stream : Nat}

theorem calm_closeAll : Calm registry (registry.closeAll stream) := by
  simp only [closeAll]
  split
  · exact .refl
  · exact ⟨rfl, rfl, rfl, rfl, rfl⟩

theorem calm_replace : Calm registry (registry.replace agentId) := by
  simp only [replace]
  split
  next existing _ =>
    have closed : Calm (registry.cancel existing .replaced)
        ((registry.cancel existing .replaced).closeAll existing) := calm_closeAll
    exact { closed with }
  · exact .refl

variable {β : Type} {request : Call β}

theorem calm_of_quiet (quiet : request.Quiet) :
    Calm registry (exec hooked who input request registry).2 := by
  cases request with
  | closeAll => exact { calm_closeAll with }
  | register =>
    simp only [exec, register]
    split
    · exact .refl
    · split
      · exact .refl
      · exact ⟨rfl, rfl, rfl, rfl, rfl⟩
  | take _ _ last =>
    simp only [exec, take]
    split
    · cases last <;> exact ⟨rfl, rfl, rfl, rfl, rfl⟩
    · exact .refl
  | receive =>
    simp only [exec, receive]
    split
    · exact .refl
    · split
      · exact ⟨rfl, rfl, rfl, rfl, rfl⟩
      · exact .refl
  | lookup | enqueue => exact .refl
  | unregister | send | close => exact ⟨rfl, rfl, rfl, rfl, rfl⟩
  | openStream | detach | mark | sweep | alertHook => cases quiet

section Commands

open Program (uses_call uses_bind)

theorem quiet_release {request : Nat} : (release stream request).Uses Call.Quiet := by
  refine uses_call trivial fun pending => ?_
  cases pending with
  | true => exact uses_call trivial fun _ => trivial
  | false => trivial

theorem quiet_sendCommand {capability : String} :
    (sendCommand agentId capability).Uses Call.Quiet := by
  simp only [sendCommand, bind_eq, perform_bind]
  refine uses_call trivial fun found => ?_
  cases found with
  | none => trivial
  | some =>
    dsimp only
    split
    · trivial
    split
    · trivial
    refine uses_call trivial fun registered => ?_
    cases registered with
    | closed | full => trivial
    | registered =>
      refine uses_call trivial fun failed => ?_
      cases failed with
      | none => trivial
      | some => exact uses_bind quiet_release fun _ => trivial

theorem quiet_collect (request patience : Nat) (collected : List String) :
    (collect request patience collected).Uses Call.Quiet := by
  induction patience generalizing collected with
  | zero => trivial
  | succ patience ih =>
    refine uses_call trivial fun received => ?_
    cases received with
    | cancelled => trivial
    | closed =>
      split
      · trivial
      · trivial
    | value =>
      change Uses _ (if _ then _ else _)
      split
      · trivial
      · split
        · trivial
        · exact ih _

theorem quiet_fetchLogs {patience : Nat} : (fetchLogs agentId patience).Uses Call.Quiet := by
  refine uses_bind quiet_sendCommand fun sent => ?_
  cases sent with
  | error => trivial
  | ok =>
    refine uses_bind (quiet_collect _ patience []) fun _ => ?_
    exact uses_bind quiet_release fun _ => trivial

theorem quiet_deliverResult {result : Result} : (deliverResult agentId result).Uses Call.Quiet := by
  refine uses_call trivial fun found => ?_
  cases found with
  | none => trivial
  | some =>
    refine uses_call trivial fun waits => ?_
    cases waits with
    | false => trivial
    | true =>
      refine uses_call trivial fun _ => ?_
      split
      · exact uses_call trivial fun _ => trivial
      · trivial

end Commands

theorem Calm.told_eq (calm : Calm before after) :
    after.saysOffline agentId = before.saysOffline agentId := by
  rw [saysOffline, saysOffline, calm.told]

theorem Registry.Accounted.calm (accounted : before.Accounted hooked) (calm : Calm before after) :
    after.Accounted hooked where
  agrees agentId nobody := by
    rw [calm.record, calm.lost, calm.told_eq]
    exact accounted.agrees agentId (calm.owing ▸ nobody)
  absent agentId lost := by
    rw [calm.active]
    exact accounted.absent agentId (calm.lost ▸ lost)
  alone := calm.owing ▸ accounted.alone
  unhooked silent := by
    rw [calm.lost, calm.owing]
    exact accounted.unhooked silent

theorem Calm.waits (calm : Calm before after) : Waits who before after := by
  refine ⟨fun agentId => ?_, fun agentId _ => ?_, fun agentId _ => ?_⟩
  · rw [calm.owing]
  · rw [calm.lost]
  · rw [calm.record]

/-- The thread has changed the agent and is to report it. -/
structure Changes (who : Nat) (agentId : String) (loss : Bool) (before after : Registry) : Prop
    extends Concerns who agentId before after where
  mine : ∀ agent, (who, agent) ∈ after.owing ↔ agent = agentId
  happened : after.lost agentId = loss
  absent : loss → after.active agentId = none

variable {loss : Bool}

theorem Changes.owes (changes : Changes who agentId loss before after) :
    after.Owes who agentId loss :=
  ⟨(changes.mine agentId).mpr rfl, changes.happened⟩

theorem Registry.Accounted.change (accounted : before.Accounted true)
    (changes : Changes who agentId loss before after) (settled : before.Settled who agentId)
    (even : before.Even who) : after.Accounted true := by
  refine accounted.step changes.toConcerns settled (fun agent owed => absurd owed (even agent))
    (fun agent => (changes.mine agent).mp) ?_ ?_ nofun
  · exact fun not_mine => absurd changes.owes.owed not_mine
  · rw [changes.happened]
    exact changes.absent

/-- Without a hook nothing is to be reported. -/
structure Unreported (who : Nat) (agentId : String) (before after : Registry) : Prop
    extends Concerns who agentId before after where
  unowed : after.owing = before.owing
  unlost : after.lost agentId = before.lost agentId ∨ after.lost agentId = false
  unrecorded : after.offlineReported agentId = before.offlineReported agentId ∨
    after.offlineReported agentId = false
  untold : after.saysOffline agentId = before.saysOffline agentId

theorem Registry.Accounted.unreported (accounted : before.Accounted false)
    (unreported : Unreported who agentId before after) : after.Accounted false := by
  obtain ⟨none_lost, nobody⟩ := accounted.unhooked rfl
  have nothing : ∀ entry, entry ∉ after.owing := unreported.unowed ▸ nobody
  have lost : after.lost agentId = false :=
    unreported.unlost.elim (fun same => same.trans (none_lost agentId)) id
  obtain ⟨recorded, said⟩ := accounted.agrees agentId fun who => nobody _
  refine accounted.step unreported.toConcerns (fun entry mem _ => absurd mem (nobody entry))
    (fun agent owed => absurd owed (nobody _)) (fun agent owes => absurd owes (nothing _)) ?_ ?_ ?_
  · intro _
    rw [unreported.untold, said, lost, none_lost]
    rcases unreported.unrecorded with same | cleared
    · exact ⟨same.trans (recorded.trans (none_lost agentId)), rfl⟩
    · exact ⟨cleared, rfl⟩
  · rw [lost]
    nofun
  · exact fun _ => ⟨lost, nothing⟩

/-- The agent was changed by a thread that is to report it if there is a hook. -/
def Reports (hooked : Bool) (who : Nat) (agentId : String) (loss : Bool) (before after : Registry) :
    Prop :=
  match hooked with
  | true => Changes who agentId loss before after
  | false => Unreported who agentId before after

/-- The thread is to report what happened to the agent if there is a hook. -/
def Registry.Due (hooked : Bool) (who : Nat) (agentId : String) (loss : Bool)
    (registry : Registry) :
    Prop :=
  match hooked with
  | true => registry.Owes who agentId loss
  | false => registry.Even who

theorem Reports.concerns (reports : Reports hooked who agentId loss before after) :
    Concerns who agentId before after := by
  cases hooked with
  | true => exact Changes.toConcerns reports
  | false => exact Unreported.toConcerns reports

theorem Registry.Accounted.reports (accounted : before.Accounted hooked)
    (reports : Reports hooked who agentId loss before after) (settled : before.Settled who agentId)
    (even : before.Even who) : after.Accounted hooked ∧ after.Due hooked who agentId loss := by
  cases hooked with
  | true => exact ⟨accounted.change reports settled even, Changes.owes reports⟩
  | false =>
    have unowed : after.owing = before.owing := Unreported.unowed reports
    refine ⟨accounted.unreported reports, fun agent => ?_⟩
    rw [unowed]
    exact even agent

theorem changes_owe {changed : Registry}
    (lost : ∀ other, other ≠ agentId → changed.lost other = before.lost other)
    (record : ∀ other, other ≠ agentId →
      changed.offlineReported other = before.offlineReported other)
    (active : ∀ other, other ≠ agentId → changed.active other = before.active other)
    (told : changed.hookCalls = before.hookCalls) (owing : changed.owing = before.owing)
    (happened : changed.lost agentId = loss) (absent : loss → changed.active agentId = none) :
    Changes who agentId loss before (changed.owe who agentId) where
  lost := lost
  record := record
  active := active
  told other _ := congrArg (fun calls => Option.any _ (List.find? _ calls)) told
  owing other ne agent := by
    rw [← owing]
    simp [owe, ne]
  mine agent := by simp [owe]
  happened := happened
  absent := absent

variable {caps : List String} {connectedAt : Int} {sends : Bool}

theorem reports_openStream : Reports hooked who agentId false registry
      (registry.openStream hooked who agentId connectedAt caps sends).2 := by
  have calm : Calm registry (registry.replace agentId) := calm_replace
  have elsewhere {α : Type} {old new : String → α} {value : α} (same : new = old) (other : String)
      (apart : other ≠ agentId) : update new agentId value other = old other := by
    rw [update_of_ne apart, same]
  cases hooked with
  | true =>
    exact changes_owe (elsewhere calm.lost) (elsewhere calm.record) (elsewhere calm.active)
      calm.told calm.owing (update_self ..) nofun
  | false =>
    refine ⟨⟨elsewhere calm.lost, elsewhere calm.record, ?_, elsewhere calm.active, ?_⟩,
      calm.owing, .inr (update_self ..), .inr (update_self ..), ?_⟩
    · exact fun other _ => calm.told_eq
    · exact fun other _ agent => by rw [← calm.owing]; rfl
    · exact calm.told_eq

/-- The agent has no stream, and nothing else was changed. -/
structure Dropped (agentId : String) (before after : Registry) : Prop where
  lost : after.lost = before.lost
  record : after.offlineReported = before.offlineReported
  told : after.hookCalls = before.hookCalls
  owing : after.owing = before.owing
  active : ∀ other, other ≠ agentId → after.active other = before.active other
  absent : after.active agentId = none

theorem dropped_drop {cause : Cause} :
    Dropped agentId registry (registry.drop who agentId stream cause) :=
  ⟨rfl, rfl, rfl, rfl, fun _ apart => update_of_ne apart .., update_self ..⟩

theorem dropped_of_absent (absent : registry.active agentId = none) :
    Dropped agentId registry registry :=
  ⟨rfl, rfl, rfl, rfl, fun _ _ => rfl, absent⟩

section

variable (dropped : Dropped agentId before after)
include dropped

theorem Dropped.unreported : Unreported who agentId before after := by
  refine ⟨⟨fun other _ => ?_, fun other _ => ?_, fun other _ => ?_, dropped.active,
    fun other _ agent => ?_⟩, dropped.owing, .inl ?_, .inl ?_, ?_⟩
  · rw [dropped.lost]
  · rw [dropped.record]
  · rw [saysOffline, saysOffline, dropped.told]
  · rw [dropped.owing]
  · rw [dropped.lost]
  · rw [dropped.record]
  · rw [saysOffline, saysOffline, dropped.told]

/-- What `remove` leaves of an agent without a stream. -/
theorem Dropped.reports : Reports hooked who agentId loss before (if hooked then
        owe who agentId { after with lost := update after.lost agentId loss } else after) := by
  cases hooked with
  | true =>
    refine changes_owe (fun other apart => ?_) (fun other _ => ?_) dropped.active dropped.told
      dropped.owing (update_self ..) fun _ => dropped.absent
    · rw [← dropped.lost]
      exact update_of_ne apart ..
    · rw [← dropped.record]
  | false => exact dropped.unreported

theorem Dropped.changes : Changes who agentId true before (owe who agentId { after with
      offlineReported := update after.offlineReported agentId true
      lost := update after.lost agentId true }) := by
  refine changes_owe (fun other apart => ?_) (fun other apart => ?_) dropped.active dropped.told
    dropped.owing (update_self ..) fun _ => dropped.absent
  · rw [← dropped.lost]
    exact update_of_ne apart ..
  · rw [← dropped.record]
    exact update_of_ne apart ..

end

variable {sweepStart : Int}

section Sections

variable (accounted : registry.Accounted hooked) (even : registry.Even who)

include accounted even

theorem accounted_openStream (settled : registry.Settled who agentId) (connectedAt : Int)
    (caps : List String) (sends : Bool) :
    let after := (registry.openStream hooked who agentId connectedAt caps sends).2
    after.Accounted hooked ∧ (∀ other, other ≠ who → Waits other registry after) ∧
      after.Due hooked who agentId false ∧ after.offlineReported agentId = false := by
  have reports : Reports hooked who agentId false registry
      (registry.openStream hooked who agentId connectedAt caps sends).2 :=
    reports_openStream
  obtain ⟨kept, due⟩ := accounted.reports reports settled even
  refine ⟨kept, reports.concerns.waits settled, due, ?_⟩
  cases hooked <;> exact update_self ..

theorem accounted_idle : registry.Accounted hooked ∧
    (∀ other, other ≠ who → Waits other registry registry) ∧ registry.Even who :=
  ⟨accounted, fun other _ => .refl other registry, even⟩

theorem accounted_detach {only : Option Nat} (reason : String) (op : Op) (input : Input)
    (settled : ReportedFirst hooked who op input (.detach agentId only reason) registry) :
    let out := registry.detach hooked who agentId only reason
    out.2.Accounted hooked ∧ (∀ other, other ≠ who → Waits other registry out.2) ∧ match out.1 with
      | .mismatch => out.2.Even who | .absent =>
        if terminal reason then out.2.Due hooked who agentId (!terminal reason) else out.2.Even who
      | .removed _ => out.2.Due hooked who agentId (!terminal reason) := by
  have idle := accounted_idle accounted even
  -- What `remove` does to an agent it changes.
  have changed {after : Registry} (dropped : Dropped agentId registry after)
      (settled : registry.Settled who agentId) :
      let out := if hooked then owe who agentId
        { after with lost := update after.lost agentId (!terminal reason) } else after
      out.Accounted hooked ∧ (∀ other, other ≠ who → Waits other registry out) ∧
        out.Due hooked who agentId (!terminal reason) := by
    have reports : Reports hooked who agentId (!terminal reason) registry _ := dropped.reports
    obtain ⟨kept, due⟩ := accounted.reports reports settled even
    exact ⟨kept, reports.concerns.waits settled, due⟩
  simp only [ReportedFirst, Call.changed, detach] at settled ⊢
  split
  next absent =>
    simp only [absent] at settled
    cases final : terminal reason with
    | false => exact idle
    | true =>
      have removed := changed (dropped_of_absent absent) (settled agentId (if_pos final))
      rw [final] at removed
      exact removed
  next stream found =>
    simp only [found] at settled
    split
    · exact idle
    next wanted =>
      rw [if_neg wanted] at settled
      exact changed dropped_drop (settled agentId rfl)

theorem accounted_sweep {settles : Bool} (op : Op) (input : Input)
    (settled : ReportedFirst hooked who op input (.sweep agentId sweepStart settles) registry) :
    let out := registry.sweep hooked who agentId sweepStart settles
    out.2.Accounted hooked ∧ (∀ other, other ≠ who → Waits other registry out.2) ∧
      if out.1.announce then out.2.Recorded who agentId true else out.2.Even who := by
  have idle := accounted_idle accounted even
  have announced {after : Registry} (wired : hooked = true)
      (dropped : Dropped agentId registry after) (first : registry.Settled who agentId) :
      let out := owe who agentId { after with
        offlineReported := update after.offlineReported agentId true
        lost := update after.lost agentId true }
      out.Accounted hooked ∧ (∀ other, other ≠ who → Waits other registry out) ∧
        out.Recorded who agentId true := by
    subst wired
    have changes : Changes who agentId true registry _ := dropped.changes
    exact ⟨accounted.change changes first even, changes.waits first, changes.owes, update_self ..⟩
  simp only [ReportedFirst, Call.changed, Registry.sweep] at settled ⊢
  split
  next stream found =>
    simp only [found] at settled
    split
    · exact idle
    rename_i stale
    rw [if_neg stale] at settled
    have dropped : Dropped agentId registry (registry.drop who agentId stream .stale) :=
      dropped_drop
    cases hooked with
    | true => exact announced rfl dropped (settled agentId (if_pos (.inl rfl)))
    | false =>
      have unreported : Unreported who agentId registry _ := dropped.unreported
      exact ⟨accounted.unreported unreported,
        unreported.waits (settled agentId (if_pos (.inl rfl))), even⟩
  next absent =>
    simp only [absent] at settled
    cases announce : hooked && (settles && !registry.offlineReported agentId) with
    | false => exact idle
    | true =>
      have wired : hooked = true := (Bool.and_eq_true_iff.mp announce).1
      exact announced wired (dropped_of_absent absent) (settled agentId (if_pos (.inr announce)))

end Sections

theorem Registry.Accounted.settled_of_owes (accounted : registry.Accounted hooked)
    (owes : registry.Owes who agentId loss) : registry.Settled who agentId := by
  rintro ⟨other, agent⟩ mem rfl
  exact accounted.alone other who agent mem owes.owed

theorem Registry.Accounted.wired (accounted : registry.Accounted hooked)
    (owes : registry.Owes who agentId loss) : hooked = true := by
  cases hooked with
  | true => rfl
  | false => exact absurd owes.owed ((accounted.unhooked rfl).2 _)

theorem Registry.Owes.only (owes : registry.Owes who agentId loss) {agent : String}
    (owed : (who, agent) ∈ registry.owing) : agent = agentId :=
  congrArg Prod.snd (eq_of_key owed owes.owed rfl)

theorem accounted_mark (accounted : registry.Accounted true)
    (owes : registry.Owes who agentId loss) :
    let after := (exec true who input (.mark agentId loss) registry).2
    after.Accounted true ∧ (∀ other, other ≠ who → Waits other registry after) ∧
      after.Recorded who agentId loss := by
  intro after
  have settled := accounted.settled_of_owes owes
  have concerns : Concerns who agentId registry after :=
    ⟨fun _ _ => rfl, fun _ apart => update_of_ne apart .., fun _ _ => rfl, fun _ _ => rfl,
      fun _ _ _ => .rfl⟩
  refine ⟨?_, concerns.waits settled, ⟨owes.owed, owes.lost⟩, update_self ..⟩
  refine accounted.step concerns settled (fun _ => owes.only) (fun _ => owes.only) ?_
    (accounted.absent agentId) nofun
  exact fun unowed => absurd owes.owed unowed

variable {reason : String} {connected : Bool}

theorem accounted_alertHook (accounted : registry.Accounted true)
    (recorded : registry.Recorded who agentId (!connected && !terminal reason)) :
    let after := (exec true who input (.alertHook agentId reason connected) registry).2
    after.Accounted true ∧ (∀ other, other ≠ who → Waits other registry after) ∧
      after.Even who := by
  intro after
  have settled := accounted.settled_of_owes recorded.toOwes
  have even : after.Even who := by
    intro agent owed
    exact (mem_erase.mp owed).2 rfl
  have concerns : Concerns who agentId registry after := by
    refine ⟨fun _ _ => rfl, fun _ _ => rfl, fun other apart => ?_, fun _ _ => rfl,
      fun other ne agent => ?_⟩
    · simp [after, exec, saysOffline, apart.symm]
    · simp [after, exec, ne]
  refine ⟨?_, concerns.waits settled, even⟩
  refine accounted.step concerns settled (fun _ => recorded.only)
    (fun agent owed => absurd owed (even agent)) ?_ (accounted.absent agentId) nofun
  intro _
  refine ⟨recorded.record.trans recorded.lost.symm, ?_⟩
  simp [after, exec, saysOffline, recorded.lost]

/-! ### Threads -/

/-- Threads rely on being the only ones to change the agent whose change they are to report. -/
def reportContract (hooked : Bool) : Contract Call Input Registry Op where
  inv := Registry.Accounted hooked
  rely := Waits
  allowed := ReportedFirst hooked
  idle := Registry.Even
  refl := Waits.refl
  trans first second := first.trans second

section Threads

theorem stable_even : (reportContract hooked).Stable who (Registry.Even who) :=
  fun _ _ even later agent owed => even agent ((later.1.owing agent).mp owed)

theorem Registry.Owes.waits (owes : before.Owes who agentId loss) (waits : Waits who before after) :
    after.Owes who agentId loss :=
  ⟨(waits.owing agentId).mpr owes.owed, (waits.lost agentId owes.owed).trans owes.lost⟩

theorem stable_owes : (reportContract hooked).Stable who (Registry.Owes who agentId loss) :=
  fun _ _ owes later => owes.waits later.1

theorem stable_recorded : (reportContract hooked).Stable who (Registry.Recorded who agentId loss) :=
  fun _ _ recorded later => ⟨recorded.toOwes.waits later.1,
    (later.1.record agentId recorded.owed).trans recorded.record⟩

theorem stable_due : (reportContract hooked).Stable who (Registry.Due hooked who agentId loss) := by
  cases hooked with
  | true => exact stable_owes
  | false => exact stable_even

/-- A condition on what the thread owes and has recorded. -/
def Undisturbed (condition : Registry → Prop) : Prop :=
  ∀ before after, Calm before after → condition before → condition after

theorem undisturbed_even : Undisturbed (Registry.Even who) := by
  intro before after calm even agent
  rw [calm.owing]
  exact even agent

theorem undisturbed_due : Undisturbed (Registry.Due hooked who agentId loss) := by
  intro before after calm due
  cases hooked with
  | true => exact Registry.Owes.waits due calm.waits
  | false => exact undisturbed_even before after calm due

theorem undisturbed_recorded : Undisturbed (Registry.Recorded who agentId loss) := by
  intro before after calm recorded
  refine ⟨recorded.toOwes.waits calm.waits, ?_⟩
  rw [calm.record]
  exact recorded.record

variable {α : Type} {post : α → Registry → Prop}

theorem triple_calm {condition : Registry → Prop} {next : β → Text α} (quiet : request.Quiet)
    (stable : (reportContract hooked).Stable who condition) (undisturbed : Undisturbed condition)
    (rest : ∀ answer, (reportContract hooked).Triple (shop hooked) who op condition (next answer)
      post) :
    (reportContract hooked).Triple (shop hooked) who op condition (.call request next) post := by
  refine .call (fun _ => condition) stable ?_ rest
  intro registry input accounted holds _ _
  have same : Calm registry (exec hooked who input request registry).2 := calm_of_quiet quiet
  exact ⟨accounted.calm same, fun other _ => same.waits, undisturbed _ _ same holds⟩

theorem triple_alertHook (meant : loss = (!connected && !terminal reason)) {next : Unit → Text α}
    (rest : (reportContract hooked).Triple (shop hooked) who op (Registry.Even who)
    (next ()) post) :
    (reportContract hooked).Triple (shop hooked) who op (Registry.Recorded who agentId loss)
      (.call (.alertHook agentId reason connected) next) post := by
  subst meant
  refine .call (fun _ => Even who) stable_recorded ?_ fun _ => rest
  intro registry input accounted recorded _ _
  obtain rfl : hooked = true := accounted.wired recorded.toOwes
  exact accounted_alertHook accounted recorded

theorem triple_even {value : α} :
    (reportContract hooked).Triple (shop hooked) who op (Registry.Even who) (.done value)
      fun _ => Registry.Even who :=
  .done stable_even fun _ _ even => even

theorem triple_open : (reportContract hooked).Triple (shop hooked) who op (Registry.Even who)
      (open_ hooked agentId connectedAt caps sends) fun _ => Registry.Even who := by
  refine .call (fun _ registry => registry.Due hooked who agentId false ∧
    registry.offlineReported agentId = false) stable_even ?_ fun stream => ?_
  · intro registry input accounted even settled _
    exact accounted_openStream accounted even (settled agentId rfl) connectedAt caps sends
  cases hooked with
  | true =>
    refine .consequence (triple_alertHook rfl triple_even) ?_ fun _ _ _ even => even
    exact fun registry _ due => ⟨due.1, due.2⟩
  | false =>
    exact .consequence triple_even (fun _ _ due => due.1) fun _ _ _ even => even

theorem triple_report : (reportContract hooked).Triple (shop hooked) who op
      (Registry.Due hooked who agentId (!terminal reason)) (report hooked agentId reason)
      fun _ => Registry.Even who := by
  cases hooked with
  | true =>
    refine .call (fun _ => Recorded who agentId (!terminal reason)) stable_owes ?_
      fun _ => triple_alertHook (by rfl) triple_even
    intro registry input accounted owes _ _
    exact accounted_mark accounted owes
  | false => exact triple_even

theorem triple_remove {only : Option Nat} :
    (reportContract hooked).Triple (shop hooked) who op (Registry.Even who)
      (remove hooked agentId only reason) fun _ => Registry.Even who := by
  refine .call (fun out registry => match out with
    | .mismatch => registry.Even who
    | .absent =>
      if terminal reason then registry.Due hooked who agentId (!terminal reason)
      else registry.Even who
    | .removed _ => registry.Due hooked who agentId (!terminal reason)) stable_even ?_ fun out => ?_
  · intro registry input accounted even settled _
    exact accounted_detach accounted even reason op input settled
  cases out with
  | mismatch => exact triple_even
  | absent =>
    cases final : terminal reason with
    | false => exact triple_even
    | true =>
      have reported : (reportContract hooked).Triple (shop hooked) who op
          (Due hooked who agentId (!terminal reason)) (report hooked agentId reason)
          fun _ => Even who := triple_report
      rw [final] at reported
      exact reported
  | removed =>
    exact triple_calm trivial stable_due undisturbed_due fun _ => triple_report

theorem triple_sweepAgent {settled : Bool} :
    (reportContract hooked).Triple (shop hooked) who op (Registry.Even who)
      (sweepAgent sweepStart settled agentId) fun _ => Registry.Even who := by
  refine .call (fun swept registry =>
    if swept.announce then registry.Recorded who agentId true else registry.Even who) stable_even ?_
    fun swept => ?_
  · intro registry input accounted even settles _
    exact accounted_sweep accounted even op input settles
  obtain ⟨removed, announce⟩ := swept
  cases announce with
  | true =>
    cases removed with
    | none => exact triple_alertHook (by rfl) triple_even
    | some =>
      exact triple_calm trivial stable_recorded undisturbed_recorded fun _ =>
        triple_alertHook (by rfl) triple_even
  | false =>
    cases removed with
    | none => exact triple_even
    | some =>
      exact triple_calm trivial stable_even undisturbed_even fun _ => triple_even

theorem triple_quiet {program : Text α} (quiet : program.Uses Call.Quiet) :
    (reportContract hooked).Triple (shop hooked) who op (Registry.Even who) program
      fun _ => Registry.Even who := by
  refine .uses stable_even ?_ quiet
  intro γ request calm registry input accounted even _ _
  have same : Calm registry (exec hooked who input request registry).2 := calm_of_quiet calm
  exact ⟨accounted.calm same, fun other _ => same.waits, undisturbed_even _ _ same even⟩

theorem triple_code :
    (reportContract hooked).Triple (shop hooked) who op (Registry.Even who) (op.code hooked)
      fun _ => Registry.Even who := by
  cases op with
  | openSession =>
    exact .bind triple_open fun _ => triple_even
  | closeStream agentId tok =>
    cases tok with
    | none => exact triple_even
    | some => exact triple_remove
  | close => exact triple_remove
  | sweep =>
    exact .forEach_same stable_even fun agentId => triple_sweepAgent
  | sendCommand =>
    exact triple_quiet (uses_bind quiet_sendCommand fun _ => trivial)
  | receive => exact triple_quiet (uses_call trivial fun _ => trivial)
  | release => exact triple_quiet quiet_release
  | fetchLogs =>
    exact triple_quiet (uses_bind quiet_fetchLogs fun _ => trivial)
  | deliverResult => exact triple_quiet quiet_deliverResult

end Threads

theorem reportContract_verified : (reportContract hooked).Verified (shop hooked) where
  enter _ _ registry _ accounted _ := ⟨accounted, fun other _ => .refl other registry⟩
  code _ _ registry _ accounted even := triple_code registry accounted even
  mortal _ _ dies := absurd dies Bool.false_ne_true

theorem accounted_empty : empty.Accounted hooked where
  agrees _ _ := ⟨rfl, rfl⟩
  absent _ _ := rfl
  alone _ _ _ owes := absurd owes (not_mem_empty _)
  unhooked _ := ⟨fun _ => rfl, fun entry => not_mem_empty entry⟩

/-- The last call of the hook and the record of the outage tell that an agent is offline exactly
when it has no stream and its loss was to be reported. -/
def Registry.Reported (registry : Registry) : Prop :=
  ∀ agentId,
    (registry.saysOffline agentId ↔ registry.active agentId = none ∧ registry.lost agentId) ∧
    (registry.offlineReported agentId ↔ registry.active agentId = none ∧ registry.lost agentId)

/-- If no section opens, removes or announces an agent while the report of its previous change is to
come, then all reports are right whenever no operation is in progress. -/
theorem reports_agree_when_reported_first {hooked : Bool} {actions : List (Pool.Action Input Op)}
    (in_turn : Guarded (Pool.next (shop hooked)) (Pool.Meets (ReportedFirst hooked))
      (Pool.idle .empty) actions) : Always (Pool.next (shop hooked))
      (fun pool => pool.Quiescent → pool.shared.Reported) (Pool.idle .empty) actions := by
  have sound : (reportContract hooked).Sound (shop hooked) (Pool.idle .empty) := by
    refine .initial (accounted_empty) fun who now later agent owed => ?_
    exact not_mem_empty _ ((later.1.owing agent).mp owed)
  refine sound.always (reportContract_verified) ?_ in_turn
  intro pool sound quiescent agentId
  obtain ⟨recorded, told⟩ := sound.inv.agrees agentId fun who => sound.idle (quiescent who) agentId
  rw [recorded, told]
  have absent := sound.inv.absent agentId
  exact ⟨⟨fun lost => ⟨absent lost, lost⟩, And.right⟩, ⟨fun lost => ⟨absent lost, lost⟩, And.right⟩⟩

/-- The stream ends, and the loss of the agent is reported; then it is back. -/
def lossThenReturn : List (Pool.Action Input Op) :=
  [.start 0 (.openSession "agent" 0 [] true), .step 0 ⟨false, none⟩, .step 0 ⟨false, none⟩,
    .start 0 (.closeStream "agent" (some 0) "stream_ended"), .step 0 ⟨false, none⟩,
    .step 0 ⟨false, none⟩, .step 0 ⟨false, none⟩, .step 0 ⟨false, none⟩,
    .start 1 (.openSession "agent" 1 [] true), .step 1 ⟨false, none⟩, .step 1 ⟨false, none⟩]

theorem reports_agree_when_reported_first_return :
    Guarded (Pool.next (shop true)) (Pool.Meets (ReportedFirst true)) (Pool.idle .empty)
        lossThenReturn ∧ Always (Pool.next (shop true))
        (fun pool => pool.Quiescent → pool.shared.Reported) (Pool.idle .empty) lossThenReturn :=
  ⟨by decide, reports_agree_when_reported_first (by decide)⟩

/-- The agent is back before the loss of its last stream is recorded and reported. -/
def returnBeforeReport : List (Pool.Action Input Op) :=
  [.start 0 (.openSession "agent" 0 [] true), .step 0 ⟨false, none⟩, .step 0 ⟨false, none⟩,
    .start 0 (.closeStream "agent" (some 0) "stream_ended"), .step 0 ⟨false, none⟩,
    .start 1 (.openSession "agent" 1 [] true), .step 1 ⟨false, none⟩, .step 1 ⟨false, none⟩,
    .step 0 ⟨false, none⟩, .step 0 ⟨false, none⟩, .step 0 ⟨false, none⟩]

/-- It has a stream, and is left reported as lost. -/
theorem connected_agent_left_offline :
    ∃ pool, run (Pool.next (shop true)) (Pool.idle .empty) returnBeforeReport = some pool ∧
      pool.Quiescent ∧ pool.shared.active "agent" = some 1 ∧
        pool.shared.saysOffline "agent" ∧ pool.shared.offlineReported "agent" := by
  refine ⟨_, rfl, ?_, by decide, by decide, by decide⟩
  intro who
  match who with
  | 0 => rfl
  | 1 => rfl
  | who + 2 => rfl

end Maintenant.Sessions
