import Maintenant.Sessions.Registry

/-!
# Commands and streams

What holds of every command, of its channel and of every stream, whatever the threads do: a command
is in flight on one stream, one delivery closes its channel or the end of the stream does, and a
stream that is not active has had its context cancelled and its waiters released, or a thread is
about to release them.
-/

namespace Maintenant.Sessions

open Keyed Function Registry

variable {hooked : Bool} {who request stream : Nat} {input : Input} {agentId : String}
  {registry before after : Registry}

namespace Registry

/-- The command is in flight on the stream. -/
abbrev Pending (request stream : Nat) (registry : Registry) : Prop :=
  request ∈ (registry.streams stream).pending

/-- What holds of a command and its channel. -/
structure Tracked (request : Nat) (registry : Registry) : Prop where
  once : (registry.channels request).closes ≤ 1
  own : ∀ result ∈ (registry.channels request).buffer, result.requestId = request
  unclosed : ∀ stream, registry.Pending request stream → (registry.channels request).closes = 0
  alone : ∀ stream other, registry.Pending request stream → registry.Pending request other →
    stream = other
  /-- A delivery that will close it has taken it out of flight. -/
  finishing : ∀ who, (who, request, true) ∈ registry.holding →
    (registry.channels request).closes = 0 ∧ ∀ stream, ¬registry.Pending request stream
  finisher : ∀ who other, (who, request, true) ∈ registry.holding →
    (other, request, true) ∈ registry.holding → who = other
  /-- Whoever waits has seen the channel closed, or will, or the command is in flight. -/
  waits : ∀ stream, registry.waiting request = some stream →
    (registry.channels request).closes = 1 ∨ (∃ who, (who, request, true) ∈ registry.holding) ∨
      registry.Pending request stream
  new : registry.nextRequest ≤ request → (registry.channels request).closes = 0 ∧
    registry.waiting request = none ∧ (∀ stream, ¬registry.Pending request stream) ∧
      ∀ who last, (who, request, last) ∉ registry.holding

/-- What holds of a stream. -/
structure Tended (stream : Nat) (registry : Registry) : Prop where
  blank : registry.nextStream ≤ stream → ∀ request, ¬registry.Pending request stream
  /-- Nothing is in flight after its waiters were released. -/
  emptied : (registry.streams stream).closed → ∀ request, ¬registry.Pending request stream
  /-- Unless it is active, its context is cancelled and its waiters were released or will be. -/
  ended : stream < registry.nextStream → (∃ agentId, registry.active agentId = some stream) ∨
    (registry.streams stream).cancelled.isSome ∧
      ((registry.streams stream).closed ∨ ∃ who, (who, stream) ∈ registry.closing)

/-- The invariant of the registry. -/
structure Housekept (registry : Registry) : Prop where
  known : ∀ agentId stream, registry.active agentId = some stream → stream < registry.nextStream
  requests : ∀ request, registry.Tracked request
  streams : ∀ stream, registry.Tended stream

/-- Nothing was sent on the closed channel, and nobody is about to. -/
structure Safe (request : Nat) (registry : Registry) : Prop where
  unmisused : (registry.channels request).misuses = 0
  held : ∀ who last, (who, request, last) ∈ registry.holding →
    (registry.channels request).closes = 0

/-- The thread has nothing in hand. -/
structure AtRest (who : Nat) (registry : Registry) : Prop where
  closing : ∀ stream, (who, stream) ∉ registry.closing
  holding : ∀ entry, (who, entry) ∉ registry.holding

end Registry

/-! ### What a step does to one command and to one stream -/

/-- At most some results were read from the channel. -/
structure Drained (before after : Channel) : Prop where
  closes : after.closes = before.closes
  misuses : after.misuses = before.misuses
  buffer : ∀ result ∈ after.buffer, result ∈ before.buffer

theorem Drained.of_eq {before after : Channel} (same : after = before) : Drained before after := by
  subst same
  exact ⟨rfl, rfl, fun _ mem => mem⟩

/-- The step neither sends nor closes nor delivers for this command. -/
structure Untouched (request : Nat) (before after : Registry) : Prop where
  channel : Drained (before.channels request) (after.channels request)
  pending : ∀ stream, after.Pending request stream ↔ before.Pending request stream
  held : ∀ who last, (who, request, last) ∈ after.holding ↔ (who, request, last) ∈ before.holding
  waiting : after.waiting request = before.waiting request
  fresh : after.nextRequest ≤ request → before.nextRequest ≤ request

theorem Untouched.tracked (untouched : Untouched request before after)
    (tracked : before.Tracked request) : after.Tracked request := by
  obtain ⟨⟨closes, -, buffer⟩, pending, held, waiting, fresh⟩ := untouched
  constructor
  case once =>
    rw [closes]
    exact tracked.once
  case own => exact fun result mem => tracked.own result (buffer result mem)
  case unclosed =>
    simp only [closes, pending]
    exact tracked.unclosed
  case alone =>
    simp only [pending]
    exact tracked.alone
  case finishing =>
    simp only [closes, pending, held]
    exact tracked.finishing
  case finisher =>
    simp only [held]
    exact tracked.finisher
  case waits =>
    simp only [closes, pending, held, waiting]
    exact tracked.waits
  case new =>
    simp only [closes, pending, held, waiting]
    exact fun later => tracked.new (fresh later)

theorem Untouched.safe (untouched : Untouched request before after)
    (safe : before.Safe request) : after.Safe request := by
  refine ⟨?_, fun who last held => ?_⟩
  · rw [untouched.channel.misuses]
    exact safe.unmisused
  · rw [untouched.channel.closes]
    exact safe.held who last ((untouched.held who last).mp held)

/-- A command whose channel is closed is done with. -/
theorem Registry.Tracked.of_closed (closed : (after.channels request).closes = 1)
    (nowhere : ∀ stream, ¬after.Pending request stream)
    (nobody : ∀ who, (who, request, true) ∉ after.holding)
    (own : ∀ result ∈ (after.channels request).buffer, result.requestId = request)
    (known : ¬after.nextRequest ≤ request) : after.Tracked request where
  once := Nat.le_of_eq closed
  own := own
  unclosed stream pending := absurd pending (nowhere stream)
  alone stream _ pending := absurd pending (nowhere stream)
  finishing who held := absurd held (nobody who)
  finisher who _ held := absurd held (nobody who)
  waits _ _ := .inl closed
  new later := absurd later known

/-- The step neither opens nor ends this stream, and adds nothing to what is in flight. -/
structure Spared (stream : Nat) (before after : Registry) : Prop where
  pending : ∀ request, after.Pending request stream → before.Pending request stream
  closed : (after.streams stream).closed = (before.streams stream).closed
  cancelled : (before.streams stream).cancelled.isSome → (after.streams stream).cancelled.isSome
  active : ∀ agentId, before.active agentId = some stream → after.active agentId = some stream
  closing : ∀ who, (who, stream) ∈ before.closing → (who, stream) ∈ after.closing
  opened : after.nextStream ≤ stream ↔ before.nextStream ≤ stream

theorem Spared.tended (spared : Spared stream before after) (tended : before.Tended stream) :
    after.Tended stream where
  blank unopened request pending :=
    tended.blank (spared.opened.mp unopened) request (spared.pending request pending)
  emptied closed request pending :=
    tended.emptied (spared.closed ▸ closed) request (spared.pending request pending)
  ended opened := by
    have opened : stream < before.nextStream := by
      have := spared.opened
      omega
    rcases tended.ended opened with ⟨agentId, active⟩ | ⟨cancelled, released⟩
    · exact .inl ⟨agentId, spared.active agentId active⟩
    · refine .inr ⟨spared.cancelled cancelled, ?_⟩
      rw [spared.closed]
      exact released.imp_right fun ⟨who, closing⟩ => ⟨who, spared.closing who closing⟩

theorem spared_of_streams (streams : after.streams stream = before.streams stream)
    (active : after.active = before.active) (nextStream : after.nextStream = before.nextStream)
    (closing : after.closing = before.closing) : Spared stream before after := by
  refine ⟨fun request pending => ?_, ?_, ?_, ?_, ?_, ?_⟩
  · rw [Pending, streams] at pending
    exact pending
  · rw [streams]
  · rw [streams]
    exact fun cancelled => cancelled
  · rw [active]
    exact fun _ owns => owns
  · rw [closing]
    exact fun _ closes => closes
  · rw [nextStream]

/-! ### The sections -/

variable {cause : Cause}

namespace Registry

variable {id : Nat}

/-- What a change leaves of a stream stays as it is for all of them. -/
theorem modifyStream_keeps {α : Type} {field : Stream → α} {change : Stream → Stream}
    (keeps : ∀ old, field (change old) = field old := by intro _; rfl) :
    field ((registry.modifyStream id change).streams stream) = field (registry.streams stream) := by
  simp only [modifyStream, update_apply]
  split
  next here => rw [here, keeps]
  · rfl

theorem pending_update {streams : Nat → Stream} {value : Stream} :
    request ∈ (Function.update streams id value stream).pending ↔
      if stream = id then request ∈ value.pending else request ∈ (streams stream).pending := by
  rw [update_apply]
  split <;> rfl

theorem untouched_cancel (id : Nat) (cause : Cause) :
    Untouched request registry (registry.cancel id cause) := by
  refine ⟨.of_eq rfl, fun stream => ?_, fun _ _ => .rfl, rfl, fun later => later⟩
  exact iff_of_eq (congrArg (request ∈ ·) modifyStream_keeps)

theorem untouched_drop : Untouched request registry (registry.drop who agentId id cause) :=
  { registry.untouched_cancel id cause with }

theorem pending_closeAll (tended : registry.Tended id) :
    (registry.closeAll id).Pending request stream ↔ registry.Pending request stream ∧
      stream ≠ id := by
  simp only [closeAll]
  split
  · rename_i closed
    refine ⟨fun pending => ⟨pending, ?_⟩, And.left⟩
    rintro rfl
    exact tended.emptied closed request pending
  simp only [Pending, modifyStream, pending_update]
  split
  · rename_i here
    simp [here]
  · rename_i ne
    simp [ne]

theorem channels_closeAll (tended : registry.Tended id) : (registry.closeAll id).channels request =
      if request ∈ (registry.streams id).pending then (registry.channels request).close
      else registry.channels request := by
  simp only [closeAll]
  split
  next closed => rw [if_neg (tended.emptied closed request)]
  · rfl

/-- The step changes streams and channels only. -/
structure Frame (before after : Registry) : Prop where
  holding : after.holding = before.holding
  waiting : after.waiting = before.waiting
  nextRequest : after.nextRequest = before.nextRequest
  nextStream : after.nextStream = before.nextStream
  active : after.active = before.active
  closing : after.closing = before.closing

theorem closeAll_frame (id : Nat) : Frame registry (registry.closeAll id) := by
  simp only [closeAll]
  split
  · exact ⟨rfl, rfl, rfl, rfl, rfl, rfl⟩
  · exact ⟨rfl, rfl, rfl, rfl, rfl, rfl⟩

theorem untouched_closeAll (tended : registry.Tended id)
    (elsewhere : ¬registry.Pending request id) :
    Untouched request registry (registry.closeAll id) := by
  obtain ⟨holding, waiting, nextRequest, -⟩ := registry.closeAll_frame id
  refine ⟨.of_eq ?_, fun stream => ?_, fun _ _ => ?_, ?_, ?_⟩
  · rw [channels_closeAll tended, if_neg elsewhere]
  · rw [pending_closeAll tended, and_iff_left_iff_imp]
    rintro pending rfl
    exact elsewhere pending
  · rw [holding]
  · rw [waiting]
  · rw [nextRequest]
    exact fun later => later

theorem tracked_closeAll (tended : registry.Tended id) (tracked : registry.Tracked request) :
    (registry.closeAll id).Tracked request := by
  by_cases here : registry.Pending request id
  · have unclosed := tracked.unclosed id here
    have closed : ((registry.closeAll id).channels request).closes = 1 := by
      rw [channels_closeAll tended, if_pos here]
      simp [Channel.close, unclosed]
    have nowhere (stream : Nat) : ¬(registry.closeAll id).Pending request stream := by
      rw [pending_closeAll tended]
      rintro ⟨pending, ne⟩
      exact ne (tracked.alone stream id pending here)
    have nobody (who : Nat) : (who, request, true) ∉ (registry.closeAll id).holding := by
      rw [(registry.closeAll_frame id).holding]
      exact fun held => (tracked.finishing who held).2 id here
    refine .of_closed closed nowhere nobody ?_ ?_
    · rw [channels_closeAll tended, if_pos here]
      exact tracked.own
    · rw [(registry.closeAll_frame id).nextRequest]
      exact fun later => (tracked.new later).2.2.1 id here
  · exact (untouched_closeAll tended here).tracked tracked

theorem safe_closeAll (tended : registry.Tended id) (safe : registry.Safe request)
    (unheld : registry.Pending request id → ∀ who last, (who, request, last) ∉ registry.holding) :
    (registry.closeAll id).Safe request := by
  by_cases here : registry.Pending request id
  · refine ⟨?_, fun who last held => ?_⟩
    · rw [channels_closeAll tended, if_pos here]
      exact safe.unmisused
    · rw [(registry.closeAll_frame id).holding] at held
      exact absurd held (unheld here who last)
  · exact (untouched_closeAll tended here).safe safe

theorem streams_closeAll_of_ne (ne : stream ≠ id) :
    (registry.closeAll id).streams stream = registry.streams stream := by
  simp only [closeAll]
  split
  · rfl
  · exact update_of_ne ne ..

theorem closed_closeAll (id : Nat) : ((registry.closeAll id).streams id).closed = true := by
  simp only [closeAll]
  split
  · assumption
  · simp [modifyStream]

theorem cancelled_closeAll :
    ((registry.closeAll id).streams stream).cancelled = (registry.streams stream).cancelled := by
  simp only [closeAll]
  split
  · rfl
  simp only [modifyStream, update_apply]
  split
  next here => rw [here]
  · rfl

theorem unpending_closeAll (tended : registry.Tended id) (request : Nat) :
    ¬(registry.closeAll id).Pending request id := by
  rw [pending_closeAll tended]
  exact fun pending => pending.2 rfl

theorem spared_closeAll (ne : stream ≠ id) :
    Spared stream registry (registry.closeAll id) := by
  obtain ⟨-, -, -, nextStream, active, closing⟩ := registry.closeAll_frame id
  exact spared_of_streams (streams_closeAll_of_ne ne) active nextStream closing

theorem spared_cancel : Spared stream registry (registry.cancel id cause) := by
  refine ⟨fun request pending => ?_, ?_, ?_, fun _ active => active, fun _ closing => closing, .rfl⟩
  · exact ((untouched_cancel id cause).pending stream).mp pending
  · exact modifyStream_keeps
  simp only [cancel, modifyStream, update_apply]
  split
  next here => cases (registry.streams id).cancelled with
    | none | some => exact fun _ => rfl
  · exact fun cancelled => cancelled

theorem cancelled_cancel : ((registry.cancel id cause).streams id).cancelled.isSome := by
  simp [cancel, modifyStream]

/-! #### Replacing a stream -/

theorem replace_frame (agentId : String) : Frame registry (registry.replace agentId) := by
  simp only [replace]
  split
  next existing _ =>
    have closed := (registry.cancel existing .replaced).closeAll_frame existing
    exact { closed with }
  · exact ⟨rfl, rfl, rfl, rfl, rfl, rfl⟩

variable (kept : registry.Housekept)
include kept

theorem tracked_replace : (registry.replace agentId).Tracked request := by
  simp only [replace]
  split
  next existing _ =>
    refine tracked_closeAll (spared_cancel.tended (kept.streams existing)) ?_
    exact (untouched_cancel existing .replaced).tracked (kept.requests request)
  · exact kept.requests request

theorem safe_replace (safe : registry.Safe request)
    (unheld : ∀ existing, registry.active agentId = some existing →
      registry.Pending request existing → ∀ who last, (who, request, last) ∉ registry.holding) :
    (registry.replace agentId).Safe request := by
  simp only [replace]
  split
  · rename_i existing found
    refine safe_closeAll (spared_cancel.tended (kept.streams existing))
      ((untouched_cancel existing .replaced).safe safe) fun pending => ?_
    exact unheld existing found
      (((untouched_cancel existing .replaced).pending existing).mp pending)
  · exact safe

theorem tended_replace :
    (registry.replace agentId).Tended stream ∧ (registry.active agentId = some stream →
        ((registry.replace agentId).streams stream).cancelled.isSome ∧
          ((registry.replace agentId).streams stream).closed) := by
  simp only [replace]
  split
  · rename_i existing found
    have tended : (registry.cancel existing .replaced).Tended existing :=
      spared_cancel.tended (kept.streams existing)
    by_cases here : stream = existing
    · subst here
      have finished : (((registry.cancel stream .replaced).closeAll stream).streams
            stream).cancelled.isSome := by
        rw [cancelled_closeAll]
        exact cancelled_cancel
      have closed := (registry.cancel stream .replaced).closed_closeAll stream
      have nothing := unpending_closeAll tended
      exact ⟨⟨fun _ => nothing, fun _ => nothing, fun _ => Or.inr ⟨finished, Or.inl closed⟩⟩,
        fun _ => ⟨finished, closed⟩⟩
    · refine ⟨?_, fun active => absurd (Option.some.inj (found.symm.trans active)).symm here⟩
      have spared : Spared stream registry (registry.cancel existing .replaced) :=
        spared_cancel
      exact (spared_closeAll here).tended (spared.tended (kept.streams stream))
  · rename_i absent
    exact ⟨kept.streams stream, fun active => absurd (absent.symm.trans active) nofun⟩

end Registry

/-! ### Opening -/

/-- What `Open` makes of the registry. -/
structure Opened (agentId : String) (before after : Registry) : Prop where
  active : after.active = Function.update before.active agentId (some before.nextStream)
  /-- Other streams are as the replacement leaves them. -/
  streams : ∀ stream, stream ≠ before.nextStream →
    after.streams stream = (before.replace agentId).streams stream
  new : (after.streams before.nextStream).pending = []
  nextStream : after.nextStream = before.nextStream + 1
  channels : after.channels = (before.replace agentId).channels
  nextRequest : after.nextRequest = before.nextRequest
  closing : after.closing = before.closing
  holding : after.holding = before.holding
  waiting : after.waiting = before.waiting

theorem opened_openStream {connectedAt : Int} {caps : List String} {sends : Bool} :
    Opened agentId registry (registry.openStream hooked who agentId connectedAt caps sends).2 := by
  obtain ⟨holding, waiting, nextRequest, -, active, closing⟩ := registry.replace_frame agentId
  cases hooked with
  | true | false =>
    refine ⟨congrArg (Function.update · agentId _) active, fun stream ne => ?_, ?_, rfl, rfl,
      nextRequest, closing, holding, waiting⟩
    · exact update_of_ne ne ..
    · simp [openStream, owe]

theorem Opened.untouched (opened : Opened agentId before after) (kept : before.Housekept)
    : Untouched request (before.replace agentId) after := by
  obtain ⟨holding, waiting, nextRequest, nextStream, -⟩ := before.replace_frame agentId
  refine ⟨.of_eq (by rw [opened.channels]), fun stream => ?_, fun _ _ => ?_, ?_, ?_⟩
  · by_cases here : stream = before.nextStream
    · subst here
      have blank := (tended_replace kept).1.blank (Nat.le_of_eq nextStream)
      rw [Pending, opened.new]
      exact ⟨fun mem => absurd mem List.not_mem_nil, fun pending =>
        absurd pending (blank request)⟩
    · rw [Pending, opened.streams stream here]
  · rw [opened.holding, holding]
  · rw [opened.waiting, waiting]
  · rw [opened.nextRequest, nextRequest]
    exact fun later => later

theorem Opened.housekept (opened : Opened agentId before after) (kept : before.Housekept) :
    after.Housekept where
  known agent stream active := by
    rw [opened.nextStream]
    rw [opened.active, update_apply] at active
    split at active
    · cases active
      exact Nat.lt_succ_self _
    · exact Nat.lt_succ_of_lt (kept.known agent stream active)
  requests request :=
    (opened.untouched kept).tracked (tracked_replace kept)
  streams stream := by
    by_cases here : stream = before.nextStream
    · subst here
      have nothing (request : Nat) : ¬after.Pending request before.nextStream := by
        rw [Pending, opened.new]
        exact List.not_mem_nil
      refine ⟨fun _ => nothing, fun _ => nothing, fun _ => .inl ⟨agentId, ?_⟩⟩
      rw [opened.active, update_self]
    · obtain ⟨-, -, -, nextStream, active, closing⟩ := before.replace_frame agentId
      obtain ⟨tended, replaced⟩ := tended_replace kept
      refine ⟨fun unopened request => ?_, ?_, fun known => ?_⟩
      · rw [Pending, opened.streams stream here]
        refine tended.blank ?_ request
        rw [nextStream]
        rw [opened.nextStream] at unopened
        exact Nat.le_of_succ_le unopened
      · rw [opened.streams stream here]
        intro closed request
        rw [Pending, opened.streams stream here]
        exact tended.emptied closed request
      · rw [opened.streams stream here]
        rw [opened.nextStream] at known
        have known : stream < (before.replace agentId).nextStream := by
          omega
        rcases tended.ended known with ⟨agent, owns⟩ | ⟨cancelled, released⟩
        · rw [active] at owns
          by_cases same : agent = agentId
          · subst same
            obtain ⟨cancelled, closed⟩ := replaced owns
            exact .inr ⟨cancelled, .inl closed⟩
          · refine .inl ⟨agent, ?_⟩
            rw [opened.active, update_of_ne same]
            exact owns
        · refine .inr ⟨cancelled, ?_⟩
          rw [opened.closing, ← closing]
          exact released

/-! ### Steps that touch no command and end no stream -/

/-- Streams and commands are as before. -/
structure Unmoved (before after : Registry) : Prop where
  active : after.active = before.active
  streams : after.streams = before.streams
  nextStream : after.nextStream = before.nextStream
  channels : after.channels = before.channels
  nextRequest : after.nextRequest = before.nextRequest
  closing : after.closing = before.closing
  holding : after.holding = before.holding
  waiting : after.waiting = before.waiting

theorem Unmoved.untouched (unmoved : Unmoved before after) : Untouched request before after := by
  refine ⟨.of_eq ?_, fun stream => ?_, fun _ _ => ?_, ?_, ?_⟩
  · rw [unmoved.channels]
  · rw [Pending, unmoved.streams]
  · rw [unmoved.holding]
  · rw [unmoved.waiting]
  · rw [unmoved.nextRequest]
    exact fun later => later

theorem Unmoved.spared (unmoved : Unmoved before after) : Spared stream before after :=
  spared_of_streams (congrFun unmoved.streams stream) unmoved.active unmoved.nextStream
    unmoved.closing

theorem Unmoved.housekept (unmoved : Unmoved before after) (kept : before.Housekept) :
    after.Housekept where
  known := by
    rw [unmoved.active, unmoved.nextStream]
    exact kept.known
  requests request := unmoved.untouched.tracked (kept.requests request)
  streams stream := unmoved.spared.tended (kept.streams stream)

/-- What the other threads may do: they leave alone what the thread has in hand. -/
structure Minds (who : Nat) (before after : Registry) : Prop where
  closing : ∀ stream, (who, stream) ∈ after.closing ↔ (who, stream) ∈ before.closing
  holding : ∀ entry, (who, entry) ∈ after.holding ↔ (who, entry) ∈ before.holding
  opened : before.nextStream ≤ after.nextStream

theorem Minds.refl (who : Nat) (registry : Registry) : Minds who registry registry :=
  ⟨fun _ => .rfl, fun _ => .rfl, Nat.le_refl _⟩

theorem Minds.trans {middle : Registry} (first : Minds who before middle)
    (second : Minds who middle after) : Minds who before after where
  closing stream := (second.closing stream).trans (first.closing stream)
  holding entry := (second.holding entry).trans (first.holding entry)
  opened := Nat.le_trans first.opened second.opened

theorem Unmoved.minds (unmoved : Unmoved before after) (who : Nat) : Minds who before after := by
  refine ⟨fun _ => ?_, fun _ => ?_, ?_⟩
  · rw [unmoved.closing]
  · rw [unmoved.holding]
  · exact Nat.le_of_eq unmoved.nextStream.symm

/-! ### Ending a stream -/

theorem housekept_drop (kept : registry.Housekept) (rest : registry.AtRest who)
    (found : registry.active agentId = some stream) :
    (registry.drop who agentId stream cause).Housekept where
  known agent other active := by
    simp only [drop, update_apply] at active
    split at active
    · cases active
    · exact kept.known agent other active
  requests request := untouched_drop.tracked (kept.requests request)
  streams other := by
    have spared : Spared other registry (registry.cancel stream cause) :=
      spared_cancel
    have tended := kept.streams other
    refine ⟨fun unopened request pending => ?_, fun closed request pending => ?_, fun known => ?_⟩
    · exact tended.blank unopened request (spared.pending request pending)
    · exact tended.emptied (spared.closed.symm.trans closed) request
        (spared.pending request pending)
    by_cases here : other = stream
    · subst here
      refine Or.inr ⟨cancelled_cancel, Or.inr ⟨who, ?_⟩⟩
      exact mem_insert.mpr (Or.inr rfl)
    rcases tended.ended known with ⟨agent, owns⟩ | ⟨cancelled, released⟩
    · refine Or.inl ⟨agent, ?_⟩
      have apart : agent ≠ agentId := by
        rintro rfl
        exact here (Option.some.inj (owns.symm.trans found))
      exact (update_of_ne apart ..).trans owns
    · refine Or.inr ⟨spared.cancelled cancelled, ?_⟩
      rcases released with closed | ⟨closer, closing⟩
      · exact Or.inl (spared.closed.trans closed)
      · refine Or.inr ⟨closer, mem_insert.mpr (Or.inl ⟨closing, ?_⟩)⟩
        rintro rfl
        exact rest.closing other closing

theorem minds_drop {other : Nat} (ne : other ≠ who) :
    Minds other registry (registry.drop who agentId stream cause) := by
  refine ⟨fun entry => ?_, fun _ => .rfl, Nat.le_refl _⟩
  simp [drop, ne]

namespace Registry

/-- The thread is to release the waiters of this stream only. -/
structure Releases (who stream : Nat) (registry : Registry) : Prop where
  closing : ∀ other, (who, other) ∈ registry.closing → other = stream
  holding : ∀ entry, (who, entry) ∉ registry.holding

end Registry

theorem releases_drop (rest : registry.AtRest who) :
    (registry.drop who agentId stream cause).Releases who stream := by
  refine ⟨fun other closing => ?_, rest.holding⟩
  rcases mem_insert.mp closing with ⟨-, ne⟩ | same
  · exact absurd rfl ne
  · exact congrArg Prod.snd same

theorem untouched_exec_closeAll : Untouched request (registry.closeAll stream)
      (exec hooked who input (.closeAll stream) registry).2 :=
  ⟨.of_eq rfl, fun _ => Iff.rfl, fun _ _ => Iff.rfl, rfl, fun later => later⟩

theorem housekept_closeAll (kept : registry.Housekept) (releases : registry.Releases who stream) :
    ((exec hooked who input (.closeAll stream) registry).2).Housekept where
  known agentId other active := by
    obtain ⟨-, -, -, nextStream, actives, -⟩ := registry.closeAll_frame stream
    change (registry.closeAll stream).active agentId = some other at active
    change other < (registry.closeAll stream).nextStream
    rw [actives] at active
    rw [nextStream]
    exact kept.known agentId other active
  requests request :=
    (untouched_exec_closeAll).tracked
      (tracked_closeAll (kept.streams stream) (kept.requests request))
  streams other := by
    by_cases here : other = stream
    · subst here
      have nothing := unpending_closeAll (kept.streams other)
      refine ⟨fun _ => nothing, fun _ => nothing, fun known => ?_⟩
      obtain ⟨-, -, -, nextStream, active, -⟩ := registry.closeAll_frame other
      have known : other < registry.nextStream := nextStream ▸ known
      rcases (kept.streams other).ended known with ⟨agent, owns⟩ | ⟨cancelled, -⟩
      · refine Or.inl ⟨agent, ?_⟩
        change (registry.closeAll other).active agent = some other
        rw [active]
        exact owns
      refine Or.inr ⟨?_, Or.inl (registry.closed_closeAll other)⟩
      change ((registry.closeAll other).streams other).cancelled.isSome
      rw [cancelled_closeAll]
      exact cancelled
    · have spared : Spared other registry (registry.closeAll stream) := spared_closeAll here
      have same : Spared other registry (exec hooked who input (.closeAll stream) registry).2 := by
        refine { spared with closing := fun closer closing => ?_ }
        refine mem_erase.mpr ⟨closing, ?_⟩
        rintro rfl
        exact here (releases.closing other closing)
      exact same.tended (kept.streams other)

theorem atRest_closeAll (releases : registry.Releases who stream) :
    ((exec hooked who input (.closeAll stream) registry).2).AtRest who := by
  refine ⟨fun other closing => (mem_erase.mp closing).2 rfl, ?_⟩
  change ∀ entry, (who, entry) ∉ (registry.closeAll stream).holding
  rw [(registry.closeAll_frame stream).holding]
  exact releases.holding

variable {other : Nat}

theorem minds_closeAll (ne : other ≠ who) :
    Minds other registry (exec hooked who input (.closeAll stream) registry).2 := by
  obtain ⟨holding, -, -, nextStream, -⟩ := registry.closeAll_frame stream
  refine ⟨fun entry => ?_, fun entry => ?_, ?_⟩
  · simp [exec, ne]
  · change (other, entry) ∈ (registry.closeAll stream).holding ↔ _
    rw [holding]
  · exact Nat.le_of_eq nextStream.symm

/-! ### Commands -/

variable {id : Nat}

theorem spared_forget : Spared stream registry (registry.forget id request) := by
  refine ⟨fun other pending => ?_, ?_, ?_, fun _ owns => owns, fun _ closes => closes, .rfl⟩
  · simp only [Pending, forget, modifyStream, pending_update] at pending
    split at pending
    next here =>
      rw [here]
      exact List.mem_of_mem_filter pending
    · exact pending
  · exact modifyStream_keeps
  · exact fun cancelled => (congrArg Option.isSome modifyStream_keeps).trans cancelled

theorem pending_forget : (registry.forget id request).Pending other stream ↔
      registry.Pending other stream ∧ (stream = id → other ≠ request) := by
  simp only [Pending, forget, modifyStream, pending_update]
  split
  next here => simp [here]
  next ne => simp [ne]

/-- A command is registered on the stream. -/
structure Registers (stream : Nat) (before after : Registry) : Prop where
  unclosed : (before.streams stream).closed = false
  pending : ∀ request other, after.Pending request other ↔
    before.Pending request other ∨ request = before.nextRequest ∧ other = stream
  closed : ∀ other, (after.streams other).closed = (before.streams other).closed
  cancelled : ∀ other, (after.streams other).cancelled = (before.streams other).cancelled
  active : after.active = before.active
  nextStream : after.nextStream = before.nextStream
  channels : after.channels = before.channels
  nextRequest : after.nextRequest = before.nextRequest + 1
  closing : after.closing = before.closing
  holding : after.holding = before.holding
  waiting : after.waiting = Function.update before.waiting before.nextRequest (some stream)

theorem registers_of_register : (registry.register stream).2 = registry ∨
    Registers stream registry (registry.register stream).2 := by
  simp only [register]
  split
  · exact .inl rfl
  rename_i unclosed
  split
  · exact .inl rfl
  refine .inr ⟨by simpa using unclosed, fun request other => ?_, fun other => ?_,
    fun other => ?_, rfl, rfl, rfl, rfl, rfl, rfl, rfl⟩
  · simp only [Pending, modifyStream, pending_update]
    split
    next here => simp [here]
    next ne => simp [ne]
  · simp only [modifyStream, update_apply]
    split
    next here => rw [here]
    · rfl
  simp only [modifyStream, update_apply]
  split
  next here => rw [here]
  · rfl

section

variable (registers : Registers stream before after)
include registers

theorem Registers.untouched
    (other : request ≠ before.nextRequest) : Untouched request before after := by
  refine ⟨.of_eq (by rw [registers.channels]), fun id => ?_, fun _ _ => ?_, ?_, ?_⟩
  · rw [registers.pending]
    simp [other]
  · rw [registers.holding]
  · rw [registers.waiting, update_of_ne other]
  · rw [registers.nextRequest]
    exact Nat.le_of_succ_le

theorem Registers.tracked (kept : before.Housekept) (request : Nat) : after.Tracked request := by
  by_cases here : request = before.nextRequest
  · subst here
    have tracked := kept.requests before.nextRequest
    obtain ⟨unclosed, -, nowhere, nobody⟩ := tracked.new (Nat.le_refl _)
    have only (other : Nat) (pending : after.Pending before.nextRequest other) :
        other = stream := by
      rcases (registers.pending _ _).mp pending with old | new
      · exact absurd old (nowhere other)
      · exact new.2
    constructor
    case once =>
      rw [registers.channels]
      exact tracked.once
    case own =>
      rw [registers.channels]
      exact tracked.own
    case unclosed =>
      rw [registers.channels]
      exact fun _ _ => unclosed
    case alone =>
      intro first second first_pending second_pending
      rw [only first first_pending, only second second_pending]
    case finishing =>
      rw [registers.holding]
      exact fun who held => absurd held (nobody who true)
    case finisher =>
      rw [registers.holding]
      exact fun who _ held => absurd held (nobody who true)
    case waits =>
      rw [registers.waiting, update_self]
      intro other found
      exact Or.inr
        (Or.inr ((registers.pending _ _).mpr (Or.inr ⟨rfl, (Option.some.inj found).symm⟩)))
    case new =>
      rw [registers.nextRequest]
      exact fun later => absurd later (Nat.not_succ_le_self _)
  · exact (registers.untouched here).tracked (kept.requests request)

theorem Registers.housekept (kept : before.Housekept)
    (known : stream < before.nextStream) : after.Housekept := by
  refine ⟨?_, registers.tracked kept, fun other => ⟨fun unopened request pending => ?_,
    fun closed request pending => ?_, fun opened => ?_⟩⟩
  · rw [registers.active, registers.nextStream]
    exact kept.known
  · rw [registers.nextStream] at unopened
    rcases (registers.pending _ _).mp pending with old | ⟨-, rfl⟩
    · exact (kept.streams other).blank unopened request old
    · exact Nat.not_le_of_lt known unopened
  · rw [registers.closed] at closed
    rcases (registers.pending _ _).mp pending with old | ⟨-, rfl⟩
    · exact (kept.streams other).emptied closed request old
    · exact Bool.false_ne_true (registers.unclosed.symm.trans closed)
  · rw [registers.nextStream] at opened
    rw [registers.closed, registers.cancelled, registers.active, registers.closing]
    exact (kept.streams other).ended opened

theorem Registers.minds (who : Nat) : Minds who before after := by
  refine ⟨fun _ => ?_, fun _ => ?_, Nat.le_of_eq registers.nextStream.symm⟩
  · rw [registers.closing]
  · rw [registers.holding]

theorem Registers.safe (safe : before.Safe request) : after.Safe request := by
  refine ⟨?_, ?_⟩
  · rw [registers.channels]
    exact safe.unmisused
  · rw [registers.channels, registers.holding]
    exact safe.held

end

/-- Only deliveries, channels and what is in flight changed. -/
structure Serves (before after : Registry) : Prop where
  spared : ∀ stream, Spared stream before after
  active : after.active = before.active
  nextStream : after.nextStream = before.nextStream

theorem Serves.housekept (serves : Serves before after) (kept : before.Housekept)
    (requests : ∀ request, after.Tracked request) : after.Housekept := by
  refine ⟨?_, requests, fun stream => (serves.spared stream).tended (kept.streams stream)⟩
  rw [serves.active, serves.nextStream]
  exact kept.known

theorem serves_unregister :
    Serves registry (exec hooked who input (.unregister stream request) registry).2 := by
  refine ⟨fun id => ?_, rfl, rfl⟩
  have spared : Spared id registry (registry.forget stream request) := spared_forget
  exact { spared with }

theorem tracked_unregister (tracked : registry.Tracked other) :
    ((exec hooked who input (.unregister stream request) registry).2).Tracked other := by
  by_cases here : other = request
  · subst here
    have fewer (id : Nat) (pending : (registry.forget stream other).Pending other id) :
        registry.Pending other id := (pending_forget.mp pending).1
    constructor
    case once => exact tracked.once
    case own => exact tracked.own
    case unclosed => exact fun id pending => tracked.unclosed id (fewer id pending)
    case alone =>
      exact fun first second first_pending second_pending =>
        tracked.alone first second (fewer first first_pending) (fewer second second_pending)
    case finishing =>
      intro finisher held
      obtain ⟨unclosed, nowhere⟩ := tracked.finishing finisher held
      exact ⟨unclosed, fun id pending => nowhere id (fewer id pending)⟩
    case finisher => exact tracked.finisher
    case waits =>
      intro id found
      simp [exec] at found
    case new =>
      intro later
      obtain ⟨unclosed, -, nowhere, nobody⟩ := tracked.new later
      refine ⟨unclosed, ?_, fun id pending => nowhere id (fewer id pending), nobody⟩
      simp [exec]
  · have same : Untouched other registry
        (exec hooked who input (.unregister stream request) registry).2 := by
      refine ⟨.of_eq rfl, fun id => ?_, fun _ _ => .rfl, update_of_ne here .., fun later => later⟩
      change (registry.forget stream request).Pending other id ↔ _
      rw [pending_forget]
      simp [here]
    exact same.tracked tracked

/-! ### Deliveries -/

/-- A delivery has the channel of a command in hand, and has taken it out of flight if it will close
it. -/
structure Takes (who stream request : Nat) (last : Bool) (before after : Registry) : Prop
    extends Serves before after where
  found : before.Pending request stream
  pending : ∀ other id, after.Pending other id ↔
    before.Pending other id ∧ (last → id = stream → other ≠ request)
  holding : after.holding = before.holding.insert (who, request, last)
  channels : after.channels = before.channels
  nextRequest : after.nextRequest = before.nextRequest
  closing : after.closing = before.closing
  waiting : after.waiting = before.waiting

variable {last : Bool}

theorem takes_of_take : registry.take who stream request last = (false, registry) ∨
      ∃ after, registry.take who stream request last = (true, after) ∧
        Takes who stream request last registry after := by
  simp only [take]
  split
  next found =>
    refine .inr ⟨_, rfl, ?_⟩
    cases last with
    | true =>
      refine ⟨⟨fun id => ?_, rfl, rfl⟩, found, fun other id => ?_, rfl, rfl, rfl, rfl, rfl⟩
      · have spared : Spared id registry (registry.forget stream request) :=
          spared_forget
        exact { spared with }
      · change (registry.forget stream request).Pending other id ↔ _
        rw [pending_forget]
        simp
    | false =>
      refine ⟨⟨fun id => ?_, rfl, rfl⟩, found, fun other id => ?_, rfl, rfl, rfl, rfl, rfl⟩
      · exact spared_of_streams rfl rfl rfl rfl
      · simp [Pending]
  · exact .inl rfl

variable {entry : Nat × Bool} {holder : Nat}

section Take

variable (takes : Takes who stream request last before after)
  (unheld : ∀ entry, (who, entry) ∉ before.holding)

include takes

theorem Takes.held_iff (unheld : ∀ entry, (who, entry) ∉ before.holding) :
    (holder, entry) ∈ after.holding ↔
      (holder, entry) ∈ before.holding ∨ holder = who ∧ entry = (request, last) := by
  rw [takes.holding, mem_insert, Prod.mk.injEq]
  constructor
  · rintro (⟨held, -⟩ | new)
    · exact .inl held
    · exact .inr new
  rintro (held | new)
  · refine .inl ⟨held, ?_⟩
    rintro rfl
    exact unheld entry held
  · exact .inr new

include unheld

theorem Takes.untouched (ne : other ≠ request) : Untouched other before after := by
  refine ⟨.of_eq (by rw [takes.channels]), fun id => ?_, fun holder final => ?_, ?_, ?_⟩
  · rw [takes.pending]
    simp [ne]
  · rw [takes.held_iff unheld]
    simp [ne]
  · rw [takes.waiting]
  · rw [takes.nextRequest]
    exact fun later => later

theorem Takes.tracked (kept : before.Housekept) (other : Nat) : after.Tracked other := by
  by_cases here : other = request
  · subst here
    have tracked := kept.requests other
    have unclosed := tracked.unclosed stream takes.found
    have fewer (id : Nat) (pending : after.Pending other id) : before.Pending other id :=
      ((takes.pending other id).mp pending).1
    -- Nobody was about to close the channel of a command in flight.
    have mine (holder : Nat) (held : (holder, other, true) ∈ after.holding) :
        holder = who ∧ last = true := by
      rcases (takes.held_iff unheld).mp held with old | ⟨rfl, same⟩
      · exact absurd takes.found ((tracked.finishing holder old).2 stream)
      · exact ⟨rfl, (congrArg Prod.snd same).symm⟩
    constructor
    case once =>
      rw [takes.channels]
      exact tracked.once
    case own =>
      rw [takes.channels]
      exact tracked.own
    case unclosed =>
      rw [takes.channels]
      exact fun id pending => tracked.unclosed id (fewer id pending)
    case alone =>
      exact fun first second first_pending second_pending =>
        tracked.alone first second (fewer first first_pending) (fewer second second_pending)
    case finishing =>
      rw [takes.channels]
      intro holder held
      refine ⟨unclosed, fun id pending => ?_⟩
      obtain ⟨old, not_taken⟩ := (takes.pending other id).mp pending
      exact not_taken (mine holder held).2 (tracked.alone id stream old takes.found) rfl
    case finisher =>
      intro first second first_held second_held
      rw [(mine first first_held).1, (mine second second_held).1]
    case waits =>
      rw [takes.waiting]
      intro id found
      have flying : before.Pending other id := by
        rcases tracked.waits id found with closed | ⟨holder, held⟩ | pending
        · rw [unclosed] at closed
          cases closed
        · exact absurd takes.found ((tracked.finishing holder held).2 stream)
        · exact pending
      cases ends : last with
      | true => exact .inr (.inl ⟨who, (takes.held_iff unheld).mpr (.inr ⟨rfl, by rw [ends]⟩)⟩)
      | false => exact .inr (.inr ((takes.pending _ _).mpr ⟨flying, by simp [ends]⟩))
    case new =>
      rw [takes.nextRequest]
      exact fun later => absurd takes.found ((tracked.new later).2.2.1 stream)
  · exact (takes.untouched unheld here).tracked (kept.requests other)

theorem Takes.safe (kept : before.Housekept) (safe : before.Safe other) : after.Safe other := by
  by_cases here : other = request
  · subst here
    refine ⟨?_, fun _ _ _ => ?_⟩
    · rw [takes.channels]
      exact safe.unmisused
    · rw [takes.channels]
      exact (kept.requests other).unclosed stream takes.found
  · exact (takes.untouched unheld here).safe safe

end Take

theorem Takes.minds (takes : Takes who stream request last before after)
    (ne : other ≠ who) : Minds other before after := by
  refine ⟨fun _ => by rw [takes.closing], fun entry => ?_, Nat.le_of_eq takes.nextStream.symm⟩
  rw [takes.holding]
  simp [ne]

namespace Registry

/-- The thread has the channel of a command in hand. -/
structure Delivers (who request : Nat) (last : Bool) (registry : Registry) : Prop where
  closing : ∀ stream, (who, stream) ∉ registry.closing
  holding : (who, request, last) ∈ registry.holding

theorem Delivers.only (delivers : registry.Delivers who request last)
    (held : (who, entry) ∈ registry.holding) : entry = (request, last) :=
  congrArg Prod.snd (eq_of_key held delivers.holding rfl)

end Registry

theorem closes_offer (result : Result) (channel : Channel) :
    (channel.offer result).closes = channel.closes := by
  simp only [Channel.offer]
  split
  · rfl
  · split
    · rfl
    · rfl

variable {result : Result} {channel : Channel}

theorem mem_offer {other : Result} (mem : other ∈ (channel.offer result).buffer) :
    other ∈ channel.buffer ∨ other = result := by
  simp only [Channel.offer] at mem
  split at mem
  · exact .inl mem
  · split at mem
    · simpa using mem
    · exact .inl mem

theorem misuses_offer (unclosed : channel.closes = 0) :
    (channel.offer result).misuses = channel.misuses := by
  have still : channel.closed = false := by simp [Channel.closed, unclosed]
  rw [Channel.offer, if_neg (by simp [still])]
  split
  · rfl
  · rfl

section Send

variable (delivers : registry.Delivers who result.requestId result.last)

theorem serves_send : Serves registry (exec hooked who input (.send result) registry).2 :=
  ⟨fun _ => spared_of_streams rfl rfl rfl rfl, rfl, rfl⟩

include delivers

theorem held_send (holder : Nat) :
    (holder, other, true) ∈ ((exec hooked who input (.send result) registry).2).holding ↔
      (holder, other, true) ∈ registry.holding := by
  simp only [exec]
  split
  · rfl
  next more =>
    rw [mem_erase, and_iff_left_iff_imp]
    rintro held rfl
    exact more (congrArg Prod.snd (delivers.only held)).symm

omit delivers in
theorem held_of_send
    (held : (holder, entry) ∈ ((exec hooked who input (.send result) registry).2).holding) :
    (holder, entry) ∈ registry.holding := by
  simp only [exec] at held
  split at held
  · exact held
  · exact (mem_erase.mp held).1

theorem tracked_send (tracked : registry.Tracked other) :
    ((exec hooked who input (.send result) registry).2).Tracked other := by
  have closes : (((exec hooked who input (.send result) registry).2).channels other).closes =
      (registry.channels other).closes := by
    simp only [exec, update_apply]
    split
    · rename_i here
      rw [closes_offer, here]
    · rfl
  constructor
  case once =>
    rw [closes]
    exact tracked.once
  case own =>
    intro sent mem
    simp only [exec, update_apply] at mem
    split at mem
    · rename_i here
      rcases mem_offer mem with old | rfl
      · rw [here]
        exact (here ▸ tracked).own sent old
      · exact here.symm
    · exact tracked.own sent mem
  case unclosed =>
    rw [closes]
    exact tracked.unclosed
  case alone => exact tracked.alone
  case finishing =>
    simp only [closes, held_send delivers]
    exact tracked.finishing
  case finisher =>
    simp only [held_send delivers]
    exact tracked.finisher
  case waits =>
    simp only [closes, held_send delivers]
    exact tracked.waits
  case new =>
    rw [closes]
    intro later
    obtain ⟨unclosed, waiting, nowhere, nobody⟩ := tracked.new later
    exact ⟨unclosed, waiting, nowhere, fun holder final held =>
      nobody holder final (held_of_send held)⟩

theorem safe_send (safe : registry.Safe other) :
    ((exec hooked who input (.send result) registry).2).Safe other := by
  refine ⟨?_, fun holder final held => ?_⟩
  · simp only [exec, update_apply]
    split
    next here =>
      rw [misuses_offer ((here ▸ safe).held who result.last delivers.holding), ← here]
      exact safe.unmisused
    · exact safe.unmisused
  · have unclosed := safe.held holder final (held_of_send held)
    simp only [exec, update_apply]
    split
    next here =>
      rw [closes_offer, ← here]
      exact unclosed
    · exact unclosed

end Send

theorem minds_send (ne : other ≠ who) :
    Minds other registry (exec hooked who input (.send result) registry).2 := by
  refine ⟨fun _ => .rfl, fun entry => ?_, Nat.le_refl _⟩
  simp only [exec]
  split
  · rfl
  · simp [ne]

section Close

theorem serves_close : Serves registry (exec hooked who input (.close request) registry).2 :=
  ⟨fun _ => spared_of_streams rfl rfl rfl rfl, rfl, rfl⟩

variable (delivers : registry.Delivers who request true)

theorem untouched_close (delivers : registry.Delivers who request true)
    (ne : other ≠ request) :
    Untouched other registry (exec hooked who input (.close request) registry).2 := by
  refine ⟨.of_eq (update_of_ne ne ..), fun _ => .rfl, fun holder final => ?_, rfl,
    fun later => later⟩
  change (holder, other, final) ∈ registry.holding.erase who ↔ _
  rw [mem_erase, and_iff_left_iff_imp]
  rintro held rfl
  exact ne (congrArg Prod.fst (delivers.only held))

include delivers

theorem tracked_close (tracked : registry.Tracked other) :
    ((exec hooked who input (.close request) registry).2).Tracked other := by
  by_cases here : other = request
  · subst here
    obtain ⟨unclosed, nowhere⟩ := tracked.finishing who delivers.holding
    have closed :
        (((exec hooked who input (.close other) registry).2).channels other).closes = 1 := by
      simp [exec, Channel.close, unclosed]
    have nobody (holder : Nat) :
        (holder, other, true) ∉ ((exec hooked who input (.close other) registry).2).holding := by
      intro held
      obtain ⟨held, ne⟩ := mem_erase.mp held
      exact ne (tracked.finisher holder who held delivers.holding)
    refine .of_closed closed nowhere nobody ?_ ?_
    · simp only [exec, update_self]
      exact tracked.own
    · exact fun later => (tracked.new later).2.2.2 who true delivers.holding
  · exact (untouched_close delivers here).tracked tracked

theorem safe_close (safe : registry.Safe other)
    (alone : ∀ entry ∈ registry.holding.items, entry.2.1 = request → entry.1 = who) :
    ((exec hooked who input (.close request) registry).2).Safe other := by
  by_cases here : other = request
  · subst here
    refine ⟨?_, fun holder final held => ?_⟩
    · simp only [exec, update_self]
      exact safe.unmisused
    · obtain ⟨held, ne⟩ := mem_erase.mp held
      exact absurd (alone (holder, other, final) held rfl) ne
  · exact (untouched_close delivers here).safe safe

end Close

theorem minds_erase (ne : other ≠ who) :
    Minds other registry (exec hooked who input (.close request) registry).2 := by
  refine ⟨fun _ => .rfl, fun entry => ?_, Nat.le_refl _⟩
  simp [exec, ne]

variable {cancelled : Bool}

theorem untouched_receive : Untouched other registry (registry.receive cancelled request).2 := by
  have refl : Untouched other registry registry :=
    ⟨.of_eq rfl, fun _ => .rfl, fun _ _ => .rfl, rfl, fun later => later⟩
  simp only [receive]
  split
  · exact refl
  split
  next result rest found =>
    refine ⟨?_, fun _ => .rfl, fun _ _ => .rfl, rfl, fun later => later⟩
    simp only [update_apply]
    split
    next here =>
      subst here
      refine ⟨rfl, rfl, fun sent mem => ?_⟩
      rw [found]
      exact List.mem_cons_of_mem result mem
    · exact .of_eq rfl
  · exact refl

theorem Registry.serves_receive : Serves registry (registry.receive cancelled request).2 ∧
      (registry.receive cancelled request).2.closing = registry.closing ∧
      (registry.receive cancelled request).2.holding = registry.holding := by
  have refl : Serves registry registry := ⟨fun _ => spared_of_streams rfl rfl rfl rfl, rfl, rfl⟩
  simp only [receive]
  split
  · exact ⟨refl, rfl, rfl⟩
  · split
    · exact ⟨⟨fun _ => spared_of_streams rfl rfl rfl rfl, rfl, rfl⟩, rfl, rfl⟩
    · exact ⟨refl, rfl, rfl⟩

end Maintenant.Sessions
