import Maintenant.Sessions.Housekeeping

/-!
# Waiters of commands

Whoever sends a command reads its results from a channel.  Deliveries look the channel up under the
lock of the stream and use it outside, while the end of the stream closes the channels of all
commands in flight.  Closing happens once; that nothing is sent afterwards holds as long as no
channel is closed while another delivery has it in hand.
-/

namespace Maintenant.Sessions

open Program Registry Keyed Function Execution List

def Call.closed (registry : Registry) : {β : Type} → Call β → List Nat
  | _, .openStream agentId .. =>
    match registry.active agentId with
    | some existing => (registry.streams existing).pending
    | none => []
  | _, .closeAll stream => (registry.streams stream).pending
  | _, .close request => [request]
  | _, _ => []

/-- A channel is closed only when no other delivery has it in hand. -/
def NoneInFlight (who : Nat) (_op : Op) (_input : Input) {β : Type} (request : Call β)
    (registry : Registry) : Prop :=
  ∀ closed ∈ request.closed registry, ∀ entry ∈ registry.holding.items, entry.2.1 = closed →
    entry.1 = who

instance (who : Nat) (op : Op) (input : Input) {β : Type} (request : Call β) (registry : Registry) :
    Decidable (NoneInFlight who op input request registry) :=
  inferInstanceAs (Decidable (∀ closed ∈ request.closed registry, _))

variable {hooked strict : Bool} {who request stream : Nat} {op : Op} {input : Input}
  {agentId : String} {registry before after : Registry}

/-- The condition on closing, where it is asked for. -/
def Orderly (strict : Bool) (who : Nat) (op : Op) (input : Input) {β : Type} (request : Call β)
    (registry : Registry) : Prop :=
  match strict with
  | true => NoneInFlight who op input request registry
  | false => True

namespace Registry

/-- The invariant; channels are safe if calls are orderly. -/
structure Kept (strict : Bool) (registry : Registry) : Prop where
  housekept : registry.Housekept
  safe : strict → ∀ request, registry.Safe request

end Registry

/-- Threads rely on keeping what they have in hand. -/
def waiterContract (strict : Bool) : Contract Call Input Registry Op where
  inv := Registry.Kept strict
  rely := Minds
  allowed := Orderly strict
  idle := Registry.AtRest
  refl := Minds.refl
  trans first second := first.trans second

/-! ### What threads have in hand stays -/

theorem stable_atRest : (waiterContract strict).Stable who (Registry.AtRest who) :=
  fun _ _ rest later =>
    ⟨fun stream closing => rest.closing stream ((later.1.closing stream).mp closing),
    fun entry held => rest.holding entry ((later.1.holding entry).mp held)⟩

theorem stable_releases : (waiterContract strict).Stable who (Registry.Releases who stream) :=
  fun _ _ releases later =>
    ⟨fun other closing => releases.closing other ((later.1.closing other).mp closing),
      fun entry held => releases.holding entry ((later.1.holding entry).mp held)⟩

variable {last : Bool}

theorem stable_delivers : (waiterContract strict).Stable who (Registry.Delivers who request last) :=
  fun _ _ delivers later =>
    ⟨fun stream closing => delivers.closing stream ((later.1.closing stream).mp closing),
      (later.1.holding _).mpr delivers.holding⟩

namespace Registry

/-- The thread has nothing in hand and knows of a stream. -/
structure Knows (who stream : Nat) (registry : Registry) : Prop extends AtRest who registry where
  known : stream < registry.nextStream

end Registry

theorem stable_knows : (waiterContract strict).Stable who (Registry.Knows who stream) :=
  fun before after knows later =>
    ⟨stable_atRest before after knows.toAtRest later, Nat.lt_of_lt_of_le knows.known later.1.opened⟩

/-! ### Calls -/

variable {result : Result} {reason : String} {caps : List String} {only : Option Nat}
  {connectedAt sweepStart : Int} {settled sends : Bool}

section Calls

variable {α β : Type} {call : Call β} {next : β → Text α} {condition : Registry → Prop}
  {post : α → Registry → Prop}

/-- What a thread does under the contract of waiters. -/
abbrev Proceeds (strict hooked : Bool) (who : Nat) (op : Op) {α : Type}
    (condition : Registry → Prop)
    (text : Text α) := (waiterContract strict).Triple (shop hooked) who op condition text

theorem triple_harmless (stable : (waiterContract strict).Stable who condition)
    (harmless : ∀ registry input, registry.Kept strict → condition registry →
      (exec hooked who input call registry).2.Kept strict ∧
        ∀ other, Minds other registry (exec hooked who input call registry).2)
    (rest : ∀ answer, Proceeds strict hooked who op condition (next answer) post) :
    Proceeds strict hooked who op condition (.call call next) post := by
  refine .call (fun _ => condition) stable ?_ rest
  intro registry input kept holds _ _
  obtain ⟨still, minds⟩ := harmless registry input kept holds
  exact ⟨still, fun other _ => minds other, stable _ _ holds ⟨minds who, still⟩⟩

theorem Registry.Kept.unmoved (kept : before.Kept strict) (unmoved : Unmoved before after) :
    after.Kept strict :=
  ⟨unmoved.housekept kept.housekept, fun orderly request =>
    unmoved.untouched.safe (kept.safe orderly request)⟩

theorem Unmoved.refl : Unmoved registry registry :=
  ⟨rfl, rfl, rfl, rfl, rfl, rfl, rfl, rfl⟩

theorem Registry.Kept.idle (kept : before.Kept strict) (atRest : before.AtRest who)
    (unmoved : Unmoved before after) : after.Kept strict ∧
      (∀ other, other ≠ who → Minds other before after) ∧ after.AtRest who :=
  ⟨kept.unmoved unmoved, fun other _ => unmoved.minds other,
    stable_atRest _ _ atRest ⟨unmoved.minds who, kept.unmoved unmoved⟩⟩

theorem triple_unmoved (stable : (waiterContract strict).Stable who condition)
    (unmoved : ∀ registry input, Unmoved registry (exec hooked who input call registry).2)
    (rest : ∀ answer, Proceeds strict hooked who op condition (next answer) post) :
    Proceeds strict hooked who op condition (.call call next) post := by
  refine triple_harmless stable (fun registry input kept _ => ?_) rest
  exact ⟨kept.unmoved (unmoved registry input), (unmoved registry input).minds⟩

theorem triple_done {value : α} : Proceeds strict hooked who op (Registry.AtRest who) (.done value)
      fun _ => Registry.AtRest who :=
  .done stable_atRest fun _ _ rest => rest

theorem unmoved_alertHook (reason : String) (connected : Bool) (registry : Registry)
    (input : Input) :
    Unmoved registry (exec hooked who input (.alertHook agentId reason connected) registry).2 :=
  ⟨rfl, rfl, rfl, rfl, rfl, rfl, rfl, rfl⟩

theorem unmoved_enqueue (registry : Registry) (input : Input) :
    Unmoved registry (exec hooked who input (.enqueue stream) registry).2 :=
  ⟨rfl, rfl, rfl, rfl, rfl, rfl, rfl, rfl⟩

theorem triple_closeAll {next : Unit → Text α}
    (rest : Proceeds strict hooked who op (Registry.AtRest who) (next ())
      post) : Proceeds strict hooked who op (Registry.Releases who stream)
      (.call (.closeAll stream) next) post := by
  refine .call (fun _ => AtRest who) stable_releases ?_ fun _ => rest
  intro registry input kept releases orderly _
  refine ⟨⟨housekept_closeAll kept.housekept releases, fun asked request => ?_⟩,
    fun _ => minds_closeAll, atRest_closeAll releases⟩
  subst asked
  refine untouched_exec_closeAll.safe (safe_closeAll
    (kept.housekept.streams stream) (kept.safe rfl request) fun pending holder last held => ?_)
  obtain rfl : holder = who := orderly request pending (holder, request, last) held rfl
  exact releases.holding _ held

theorem triple_openStream {next : Nat → Text α}
    (rest : ∀ stream, Proceeds strict hooked who op (Registry.AtRest who)
      (next stream) post) : Proceeds strict hooked who op (Registry.AtRest who)
      (.call (.openStream agentId connectedAt caps sends) next) post := by
  refine .call (fun _ => AtRest who) stable_atRest ?_ rest
  intro registry input kept atRest orderly _
  let after := (registry.openStream hooked who agentId connectedAt caps sends).2
  have opened : Opened agentId registry after := opened_openStream
  have minds (other : Nat) : Minds other registry after := by
    refine ⟨fun _ => ?_, fun _ => ?_, ?_⟩
    · rw [opened.closing]
    · rw [opened.holding]
    · rw [opened.nextStream]
      exact Nat.le_succ _
  have still : after.Kept strict := by
    refine ⟨opened.housekept kept.housekept, fun asked request => ?_⟩
    subst asked
    refine (opened.untouched kept.housekept).safe (safe_replace kept.housekept
      (kept.safe rfl request) fun existing found pending holder last held => ?_)
    have closed : request ∈ (Call.openStream agentId connectedAt caps sends).closed registry := by
      simp only [Call.closed, found]
      exact pending
    obtain rfl : holder = who := orderly request closed (holder, request, last) held rfl
    exact atRest.holding _ held
  exact ⟨still, fun other _ => minds other, stable_atRest _ _ atRest ⟨minds who, still⟩⟩

theorem kept_drop (kept : registry.Kept strict) (atRest : registry.AtRest who)
    (found : registry.active agentId = some stream) {cause : Cause}
    (unmoved : Unmoved (registry.drop who agentId stream cause) after) :
    after.Kept strict ∧ (∀ other, other ≠ who → Minds other registry after) ∧
      after.Releases who stream := by
  have dropped : (registry.drop who agentId stream cause).Kept strict := by
    refine ⟨housekept_drop kept.housekept atRest found, fun asked request => ?_⟩
    exact untouched_drop.safe (kept.safe asked request)
  have still := dropped.unmoved unmoved
  have releases : (registry.drop who agentId stream cause).Releases who stream :=
    releases_drop atRest
  refine ⟨still, fun other ne => ?_, ?_⟩
  · exact (minds_drop ne).trans (unmoved.minds other)
  · exact stable_releases _ _ releases ⟨unmoved.minds who, still⟩

theorem unmoved_report {report : Bool} {offlineReported lost : String → Bool} : Unmoved registry
      (if report then owe who agentId { registry with offlineReported, lost } else registry) := by
  split
  · exact ⟨rfl, rfl, rfl, rfl, rfl, rfl, rfl, rfl⟩
  · exact .refl

/-- The first section of `remove`. -/
theorem triple_detach {next : Detached → Text α}
    (kept_out : ∀ out, (∀ stream, out ≠ .removed stream) →
      Proceeds strict hooked who op (Registry.AtRest who) (next out) post)
    (removed : ∀ stream, Proceeds strict hooked who op
      (Registry.Releases who stream) (next (.removed stream)) post) :
    Proceeds strict hooked who op (Registry.AtRest who)
      (.call (.detach agentId only reason) next) post := by
  refine .call (fun out registry => match out with
    | .removed stream => registry.Releases who stream
    | _ => registry.AtRest who) stable_atRest ?_ fun out => ?_
  · intro registry input kept atRest _ _
    change let out := registry.detach hooked who agentId only reason
      out.2.Kept strict ∧ (∀ other, other ≠ who → Minds other registry out.2) ∧ match out.1 with
        | .removed stream => out.2.Releases who stream
        | _ => out.2.AtRest who
    simp only [detach]
    split
    · split
      · exact kept.idle atRest unmoved_report
      · exact kept.idle atRest (.refl)
    rename_i stream found
    split
    · exact kept.idle atRest (.refl)
    · exact kept_drop kept atRest found unmoved_report
  · cases out with
    | mismatch => exact kept_out .mismatch nofun
    | absent => exact kept_out .absent nofun
    | removed stream => exact removed stream

theorem triple_sweep {next : Swept → Text α}
    (spared : ∀ announce, Proceeds strict hooked who op (Registry.AtRest who)
      (next ⟨none, announce⟩) post) (removed : ∀ stream announce, Proceeds strict hooked who op
      (Registry.Releases who stream) (next ⟨some stream, announce⟩) post) :
    Proceeds strict hooked who op (Registry.AtRest who)
      (.call (.sweep agentId sweepStart settled) next) post := by
  refine .call (fun swept registry => match swept.removed with
    | some stream => registry.Releases who stream
    | none => registry.AtRest who) stable_atRest ?_ fun swept => ?_
  · intro registry input kept atRest _ _
    change let out := registry.sweep hooked who agentId sweepStart settled
      out.2.Kept strict ∧ (∀ other, other ≠ who → Minds other registry out.2) ∧
        match out.1.removed with
        | some stream => out.2.Releases who stream
        | none => out.2.AtRest who
    simp only [Registry.sweep]
    split
    · rename_i stream found
      split
      · exact kept.idle atRest (.refl)
      · exact kept_drop kept atRest found unmoved_report
    · exact kept.idle atRest unmoved_report
  · obtain ⟨found, announce⟩ := swept
    cases found with
    | none => exact spared announce
    | some stream => exact removed stream announce

theorem triple_lookup {next : Option Handle → Text α}
    (absent : Proceeds strict hooked who op (Registry.AtRest who) (next none)
      post) (found : ∀ handle : Handle, Proceeds strict hooked who op
      (Registry.Knows who handle.stream) (next (some handle)) post) :
    Proceeds strict hooked who op (Registry.AtRest who) (.call (.lookup agentId) next) post := by
  refine .call (fun out registry => out.elim (registry.AtRest who) fun handle =>
    registry.Knows who handle.stream) stable_atRest ?_ fun out => ?_
  · intro registry input kept atRest _ _
    refine ⟨kept, fun other _ => .refl other registry, ?_⟩
    simp only [shop, exec]
    cases active : registry.active agentId with
    | none => exact atRest
    | some stream => exact ⟨atRest, kept.housekept.known agentId stream active⟩
  · cases out with
    | none => exact absent
    | some handle => exact found handle

theorem kept_register (registry : Registry) (input : Input) (kept : registry.Kept strict)
    (knows : registry.Knows who stream) :
    ((exec hooked who input (.register stream) registry).2).Kept strict ∧
      ∀ other, Minds other registry (exec hooked who input (.register stream) registry).2 := by
  change ((registry.register stream).2).Kept strict ∧
    ∀ other, Minds other registry (registry.register stream).2
  rcases registers_of_register with same | registers
  · rw [same]
    exact ⟨kept, fun other => .refl other registry⟩
  · exact ⟨⟨registers.housekept kept.housekept knows.known, fun asked request =>
      registers.safe (kept.safe asked request)⟩, registers.minds⟩

theorem kept_unregister (kept : registry.Kept strict) :
    ((exec hooked who input (.unregister stream request) registry).2).Kept strict ∧
      ∀ other, Minds other registry
        (exec hooked who input (.unregister stream request) registry).2 := by
  refine ⟨⟨serves_unregister.housekept kept.housekept fun other =>
    tracked_unregister (kept.housekept.requests other), fun asked other => ?_⟩,
    fun other => ⟨fun _ => Iff.rfl, fun _ => Iff.rfl, Nat.le_refl _⟩⟩
  exact ⟨(kept.safe asked other).unmisused, (kept.safe asked other).held⟩

theorem kept_receive (kept : registry.Kept strict) :
    ((exec hooked who input (.receive request) registry).2).Kept strict ∧
      ∀ other, Minds other registry (exec hooked who input (.receive request) registry).2 := by
  obtain ⟨serves, closing, holding⟩ := Registry.serves_receive
  refine ⟨⟨serves.housekept kept.housekept fun other => ?_, fun asked other => ?_⟩, fun other => ?_⟩
  · exact untouched_receive.tracked (kept.housekept.requests other)
  · exact untouched_receive.safe (kept.safe asked other)
  refine ⟨fun stream => ?_, fun entry => ?_, Nat.le_of_eq serves.nextStream.symm⟩
  · change (other, stream) ∈ (registry.receive input.cancelled request).2.closing ↔ _
    rw [closing]
  · change (other, entry) ∈ (registry.receive input.cancelled request).2.holding ↔ _
    rw [holding]

/-- The section of `deliver`. -/
theorem triple_take {next : Bool → Text α}
    (absent : Proceeds strict hooked who op (Registry.AtRest who) (next false)
      post) (taken : Proceeds strict hooked who op
      (Registry.Delivers who request last) (next true) post) :
    Proceeds strict hooked who op (Registry.AtRest who)
      (.call (.take stream request last) next) post := by
  refine .call (fun out registry => out.rec (registry.AtRest who)
    (registry.Delivers who request last)) stable_atRest ?_ fun out => ?_
  · intro registry input kept atRest _ _
    simp only [shop, exec]
    rcases takes_of_take with same | ⟨after, same, takes⟩
    · rw [same]
      exact ⟨kept, fun other _ => .refl other registry, atRest⟩
    rw [same]
    refine ⟨⟨takes.housekept kept.housekept (takes.tracked atRest.holding kept.housekept),
      fun asked other => ?_⟩, fun _ => takes.minds, ?_, ?_⟩
    · exact takes.safe atRest.holding kept.housekept (kept.safe asked other)
    · rw [takes.closing]
      exact atRest.closing
    · exact (takes.held_iff atRest.holding).mpr (.inr ⟨rfl, rfl⟩)
  · cases out with
    | false => exact absent
    | true => exact taken

theorem kept_send (kept : registry.Kept strict)
    (delivers : registry.Delivers who result.requestId result.last) :
    ((exec hooked who input (.send result) registry).2).Kept strict :=
  ⟨serves_send.housekept kept.housekept fun other =>
      tracked_send delivers (kept.housekept.requests other),
    fun asked other => safe_send delivers (kept.safe asked other)⟩

theorem triple_send : Proceeds strict hooked who op
      (Registry.Delivers who result.requestId result.last) (.call (.send result) fun _ =>
        if result.last then perform (.close result.requestId) else pure ())
      fun _ => Registry.AtRest who := by
  refine .call (fun _ registry => if result.last then registry.Delivers who result.requestId true
    else registry.AtRest who) stable_delivers ?_ fun _ => ?_
  · intro registry input kept delivers _ _
    refine ⟨kept_send kept delivers, fun _ => minds_send, ?_⟩
    cases final : result.last with
    | true =>
      refine ⟨delivers.closing, ?_⟩
      change _ ∈ if result.last then registry.holding else registry.holding.erase who
      rw [if_pos final, ← final]
      exact delivers.holding
    | false =>
      refine ⟨delivers.closing, fun entry held => ?_⟩
      change _ ∈ (if result.last then registry.holding else registry.holding.erase who) at held
      rw [if_neg (by simp [final])] at held
      exact (mem_erase.mp held).2 rfl
  · cases final : result.last with
    | false => exact triple_done
    | true =>
      refine .call (fun _ => AtRest who) stable_delivers ?_ fun _ => triple_done
      intro registry input kept delivers orderly _
      refine ⟨⟨serves_close.housekept kept.housekept fun other =>
        tracked_close delivers (kept.housekept.requests other), fun asked other => ?_⟩,
        fun _ => minds_erase, delivers.closing, fun entry held => (mem_erase.mp held).2 rfl⟩
      subst asked
      have safe : ((exec hooked who input (.close result.requestId) registry).2).Safe other :=
        safe_close delivers (kept.safe rfl other)
          (orderly result.requestId (mem_singleton.mpr rfl))
      exact safe

end Calls

/-! ### Operations -/

variable {patience : Nat}

section Operations

variable {α : Type}

theorem calls_open : Proceeds strict hooked who op (Registry.AtRest who)
      (open_ hooked agentId connectedAt caps sends) fun _ => Registry.AtRest who := by
  refine triple_openStream fun stream => ?_
  cases hooked with
  | true => exact triple_unmoved stable_atRest (unmoved_alertHook "" true) fun _ => triple_done
  | false => exact triple_done

theorem calls_report : Proceeds strict hooked who op (Registry.AtRest who)
      (report hooked agentId reason) fun _ => Registry.AtRest who := by
  cases hooked with
  | true =>
    refine triple_unmoved stable_atRest (fun _ _ =>
      ⟨rfl, rfl, rfl, rfl, rfl, rfl, rfl, rfl⟩) fun _ => ?_
    exact triple_unmoved stable_atRest (unmoved_alertHook reason false) fun _ => triple_done
  | false => exact triple_done

theorem calls_remove : Proceeds strict hooked who op (Registry.AtRest who)
      (remove hooked agentId only reason) fun _ => Registry.AtRest who := by
  simp only [remove, bind_eq, perform_bind]
  refine triple_detach (fun out still => ?_) fun stream => ?_
  · cases out with
    | mismatch => exact triple_done
    | absent =>
      dsimp only
      split
      · exact calls_report
      · exact triple_done
    | removed stream => exact absurd rfl (still stream)
  · exact triple_closeAll calls_report

theorem calls_sweepAgent : Proceeds strict hooked who op (Registry.AtRest who)
      (sweepAgent sweepStart settled agentId) fun _ => Registry.AtRest who := by
  have announces (announce : Bool) : Proceeds strict hooked who op (AtRest who)
        (if announce then perform (.alertHook agentId "stale" false) else pure ())
        fun _ => AtRest who := by
    cases announce with
    | true =>
      exact triple_unmoved stable_atRest (unmoved_alertHook "stale" false) fun _ => triple_done
    | false => exact triple_done
  refine triple_sweep (fun announce => ?_) fun stream announce => ?_
  · exact announces announce
  · exact triple_closeAll (announces announce)

theorem calls_release : Proceeds strict hooked who op (Registry.AtRest who)
      (release stream request) fun _ => Registry.AtRest who := by
  refine triple_harmless stable_atRest (fun registry input kept _ => ?_) fun pending => ?_
  · exact kept_unregister kept
  · cases pending with
    | true => exact triple_unmoved stable_atRest (unmoved_enqueue) fun _ => triple_done
    | false => exact triple_done

theorem calls_sendCommand {capability : String} :
    Proceeds strict hooked who op (Registry.AtRest who)
      (sendCommand agentId capability) fun _ => Registry.AtRest who := by
  simp only [sendCommand, bind_eq, perform_bind]
  refine triple_lookup triple_done fun handle => ?_
  have stop (error : CommandError) : Proceeds strict hooked who op (Knows who handle.stream)
        (.done (Except.error error : Except CommandError (Nat × Nat))) fun _ => AtRest who :=
    .done stable_knows fun _ _ knows => knows.toAtRest
  dsimp only
  split
  · exact stop .notConnected
  split
  · exact stop .cannotServe
  refine triple_harmless stable_knows kept_register fun registered => ?_
  cases registered with
  | closed => exact stop .notConnected
  | full => exact stop .tooManyRequests
  | registered =>
    refine triple_unmoved stable_knows (unmoved_enqueue) fun failed => ?_
    refine .consequence ?_ (fun _ _ knows => Registry.Knows.toAtRest knows) fun _ _ _ rest => rest
    cases failed with
    | none => exact triple_done
    | some => exact .bind (calls_release) fun _ => triple_done

theorem calls_collect (collected : List String) :
    Proceeds strict hooked who op (Registry.AtRest who)
      (collect request patience collected) fun _ => Registry.AtRest who := by
  induction patience generalizing collected with
  | zero => exact triple_done
  | succ patience ih =>
    simp only [collect, bind_eq, perform_bind]
    refine triple_harmless stable_atRest (fun registry input kept _ => ?_) fun received => ?_
    · exact kept_receive kept
    cases received with
    | cancelled => exact triple_done
    | closed =>
      dsimp only
      split
      · exact triple_done
      · exact triple_done
    | value =>
      dsimp only
      split
      · exact triple_done
      · split
        · exact triple_done
        · exact ih _

theorem calls_fetchLogs : Proceeds strict hooked who op (Registry.AtRest who)
      (fetchLogs agentId patience) fun _ => Registry.AtRest who := by
  refine .bind calls_sendCommand fun sent => ?_
  cases sent with
  | error => exact triple_done
  | ok =>
    refine .bind (calls_collect []) fun answer => ?_
    exact .bind (calls_release) fun _ => triple_done

theorem calls_deliverResult : Proceeds strict hooked who op (Registry.AtRest who)
      (deliverResult agentId result) fun _ => Registry.AtRest who := by
  refine triple_lookup triple_done fun handle => ?_
  refine .consequence ?_ (fun _ _ knows => Registry.Knows.toAtRest knows) fun _ _ _ rest => rest
  exact triple_take triple_done triple_send

theorem calls_code : Proceeds strict hooked who op (Registry.AtRest who) (op.code hooked)
      fun _ => Registry.AtRest who := by
  cases op with
  | openSession =>
    exact .bind calls_open fun _ => triple_done
  | closeStream agentId tok =>
    cases tok with
    | none => exact triple_done
    | some => exact calls_remove
  | close => exact calls_remove
  | sweep =>
    exact .forEach_same stable_atRest fun agentId => calls_sweepAgent
  | sendCommand =>
    exact .bind calls_sendCommand fun _ => triple_done
  | receive =>
    refine triple_harmless stable_atRest (fun registry input kept _ => ?_) fun _ => triple_done
    exact kept_receive kept
  | release => exact calls_release
  | fetchLogs => exact .bind calls_fetchLogs fun _ => triple_done
  | deliverResult => exact calls_deliverResult

end Operations

theorem waiterContract_verified : (waiterContract strict).Verified (shop hooked) where
  enter _ _ registry _ kept _ := ⟨kept, fun other _ => .refl other registry⟩
  code _ _ registry _ kept rest := calls_code registry kept rest
  mortal _ _ dies := absurd dies Bool.false_ne_true

theorem kept_empty : empty.Kept strict where
  housekept := by
    refine ⟨nofun, fun request => ?_, fun stream => ?_⟩
    · refine ⟨Nat.zero_le 1, fun _ mem => absurd mem not_mem_nil, fun _ _ => rfl,
        fun _ _ pending => absurd pending not_mem_nil, fun _ held => ?_, fun _ _ held => ?_,
        fun _ found => ?_, fun _ => ⟨rfl, rfl, fun _ => not_mem_nil, fun _ _ => ?_⟩⟩
      · exact absurd held (not_mem_empty _)
      · exact absurd held (not_mem_empty _)
      · cases found
      · exact not_mem_empty _
    · exact ⟨fun _ _ => not_mem_nil, fun _ _ => not_mem_nil,
        fun opened => absurd opened (Nat.not_lt_zero _)⟩
  safe _ _ := ⟨rfl, fun _ _ _ => rfl⟩

theorem atRest_empty : empty.AtRest who :=
  ⟨fun _ => not_mem_empty _, fun _ => not_mem_empty _⟩

/-- Channels are closed once at most, nothing was sent on a closed one, and readers get results of
their own command. -/
def Registry.ChannelsSafe (registry : Registry) : Prop :=
  ∀ request, (registry.channels request).closes ≤ 1 ∧ (registry.channels request).misuses = 0 ∧
    ∀ cancelled result, (registry.receive cancelled request).1 = .value result →
      result.requestId = request

/-- Whoever waits has its channel closed or its command in flight on an active stream. -/
def Registry.Attended (registry : Registry) : Prop :=
  ∀ request stream, registry.waiting request = some stream →
    (registry.channels request).closed ∨
      registry.Pending request stream ∧ ∃ agentId, registry.active agentId = some stream

theorem Registry.Kept.channelsSafe (kept : registry.Kept true) : registry.ChannelsSafe := by
  intro request
  have tracked := kept.housekept.requests request
  refine ⟨tracked.once, (kept.safe rfl request).unmisused, fun cancelled result read => ?_⟩
  simp only [receive] at read
  split at read
  · cases read
  split at read
  · rename_i first rest found
    cases read
    exact tracked.own result (found ▸ mem_cons_self)
  · split at read
    · cases read
    · cases read

theorem Registry.Housekept.attended (kept : registry.Housekept)
    (rest : ∀ who, registry.AtRest who) : registry.Attended := by
  intro request stream waits
  rcases (kept.requests request).waits stream waits with closed | ⟨holder, held⟩ | pending
  · exact .inl (by simp [Channel.closed, closed])
  · exact absurd held ((rest holder).holding _)
  have tended := kept.streams stream
  have known : stream < registry.nextStream := by
    by_contra unopened
    exact tended.blank (Nat.le_of_not_lt unopened) request pending
  rcases tended.ended known with active | ⟨-, closed | ⟨closer, closing⟩⟩
  · exact .inr ⟨pending, active⟩
  · exact absurd pending (tended.emptied closed request)
  · exact absurd closing ((rest closer).closing stream)

theorem sound_idle (strict hooked : Bool) :
    (waiterContract strict).Sound (shop hooked) (Pool.idle .empty) :=
  .initial kept_empty fun _ now later => stable_atRest .empty now atRest_empty later

/-- If no channel is closed while another delivery has it in hand, channels are safe in every state,
and whoever waits is attended to whenever no operation is in progress. -/
theorem channels_safe_when_none_in_flight {hooked : Bool} {actions : List (Pool.Action Input Op)}
    (in_turn : Guarded (Pool.next (shop hooked)) (Pool.Meets NoneInFlight)
      (Pool.idle .empty) actions) : Always (Pool.next (shop hooked)) (fun pool =>
        pool.shared.ChannelsSafe ∧ (pool.Quiescent → pool.shared.Attended))
      (Pool.idle .empty) actions := by
  refine (sound_idle true hooked).always waiterContract_verified ?_ in_turn
  intro pool sound
  refine ⟨sound.inv.channelsSafe, fun quiescent => ?_⟩
  exact sound.inv.housekept.attended fun who => sound.idle (quiescent who)

def commandSent : List (Pool.Action Input Op) :=
  [.start 0 (.openSession "agent" 0 ["logs"] true), .step 0 ⟨false, none⟩,
    .start 0 (.sendCommand "agent" "logs"), .step 0 ⟨false, none⟩, .step 0 ⟨false, none⟩,
    .step 0 ⟨false, none⟩]

/-- Its result is delivered, and then the stream ends. -/
def deliveredThenEnded : List (Pool.Action Input Op) :=
  commandSent ++
    [.start 1 (.deliverResult "agent" ⟨0, true, "", "", ["line"]⟩), .step 1 ⟨false, none⟩,
      .step 1 ⟨false, none⟩, .step 1 ⟨false, none⟩, .step 1 ⟨false, none⟩,
      .start 0 (.closeStream "agent" (some 0) "stream_ended"), .step 0 ⟨false, none⟩,
      .step 0 ⟨false, none⟩]

theorem channels_safe_when_none_in_flight_delivered :
    Guarded (Pool.next (shop false)) (Pool.Meets NoneInFlight) (Pool.idle .empty)
        deliveredThenEnded ∧ Always (Pool.next (shop false)) (fun pool =>
          pool.shared.ChannelsSafe ∧ (pool.Quiescent → pool.shared.Attended))
        (Pool.idle .empty) deliveredThenEnded :=
  ⟨by decide, channels_safe_when_none_in_flight (by decide)⟩

/-- The stream ends while a delivery has the channel in hand. -/
def endedDuringDelivery : List (Pool.Action Input Op) :=
  commandSent ++
    [.start 1 (.deliverResult "agent" ⟨0, false, "", "", ["line"]⟩), .step 1 ⟨false, none⟩,
      .step 1 ⟨false, none⟩,
      .start 0 (.closeStream "agent" (some 0) "stream_ended"), .step 0 ⟨false, none⟩,
      .step 0 ⟨false, none⟩, .step 1 ⟨false, none⟩]

/-- The delivery sends on the channel that was closed. -/
theorem delivery_sends_on_closed :
    ∃ pool, run (Pool.next (shop false)) (Pool.idle .empty) endedDuringDelivery = some pool ∧
      (pool.shared.channels 0).misuses = 1 :=
  ⟨_, rfl, by decide⟩

/-- In every run channels are closed once at most, and whoever waits is attended to whenever no
operation is in progress. -/
theorem waiters_never_stranded (hooked : Bool) (actions : List (Pool.Action Input Op)) :
    Always (Pool.next (shop hooked)) (fun pool =>
      (∀ request, (pool.shared.channels request).closes ≤ 1) ∧
      (pool.Quiescent → pool.shared.Attended)) (Pool.idle .empty) actions := by
  refine (sound_idle false hooked).always waiterContract_verified ?_
    (guarded_of_forall (Pool.meets_of_forall fun _ _ _ _ _ _ => trivial) _ _)
  intro pool sound
  refine ⟨fun request => (sound.inv.housekept.requests request).once, fun quiescent => ?_⟩
  exact sound.inv.housekept.attended fun who => sound.idle (quiescent who)

end Maintenant.Sessions
