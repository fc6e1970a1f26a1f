import Maintenant.Sessions.Reports
import Maintenant.Sessions.Waiters
import Mathlib.Data.List.Induction

/-!
# Who owns a session

Run one after the other, the operations keep a simple book: which stream each agent has, how many
streams there were and when each was opened.  The active stream of an agent is then the one of its
last `Open` that nothing has ended since.
-/

namespace Maintenant.Sessions

open Program Function List

/-- Who has which stream, how many were opened, and when. -/
structure Book where
  active : String → Option Nat
  opened : Nat
  connectedAt : Nat → Int

namespace Book

/-- The book of a registry. -/
def of (registry : Registry) : Book where
  active := registry.active
  opened := registry.nextStream
  connectedAt stream := (registry.streams stream).connectedAt

/-- The agent has no stream any longer. -/
def strike (agentId : String) (book : Book) : Book :=
  { book with active := update book.active agentId none }

/-- The sweep takes a stream that was open when it started. -/
def sweepAgent (sweepStart : Int) (book : Book) (agentId : String) : Book :=
  match book.active agentId with
  | some stream => if sweepStart < book.connectedAt stream then book else book.strike agentId
  | none => book

/-- What an operation does to the book. -/
def enter : Op → Book → Book
  | .openSession agentId connectedAt _ _, book =>
    ⟨update book.active agentId (some book.opened), book.opened + 1,
      update book.connectedAt book.opened connectedAt⟩
  | .closeStream agentId tok _, book =>
    if tok.isSome ∧ book.active agentId = tok then book.strike agentId else book
  | .close agentId _, book => book.strike agentId
  | .sweep sweepStart _ ids, book => ids.foldl (sweepAgent sweepStart) book
  | _, book => book

end Book

variable {hooked : Bool} {who : Nat} {input : Input} {agentId : String} {registry : Registry}

/-! ### Calls -/

theorem of_modifyStream {id : Nat} {change : Stream → Stream}
    (keeps : ∀ stream, (change stream).connectedAt = stream.connectedAt) :
    (fun stream => ((registry.modifyStream id change).streams stream).connectedAt) =
      fun stream => (registry.streams stream).connectedAt := by
  funext stream
  simp only [Registry.modifyStream, update_apply]
  split
  next here => rw [keeps, here]
  · rfl

variable {stream : Nat}

theorem of_closeAll : Book.of (registry.closeAll stream) = Book.of registry := by
  simp only [Registry.closeAll]
  split
  · rfl
  · simp only [Book.of, Book.mk.injEq]
    exact ⟨rfl, rfl, of_modifyStream fun _ => rfl⟩

theorem of_forget {request : Nat} :
    Book.of (registry.forget stream request) = Book.of registry := by
  simp only [Book.of, Book.mk.injEq]
  exact ⟨rfl, rfl, of_modifyStream fun _ => rfl⟩

theorem of_cancel {cause : Cause} : Book.of (registry.cancel stream cause) = Book.of registry := by
  simp only [Book.of, Book.mk.injEq]
  exact ⟨rfl, rfl, of_modifyStream fun _ => rfl⟩

theorem of_quiet {β : Type} {request : Call β} (quiet : request.Quiet) :
    Book.of (exec hooked who input request registry).2 = Book.of registry := by
  cases request with
  | closeAll => exact of_closeAll
  | register =>
    simp only [exec, Registry.register]
    split
    · rfl
    split
    · rfl
    · simp only [Book.of, Book.mk.injEq]
      exact ⟨rfl, rfl, of_modifyStream fun _ => rfl⟩
  | take stream request last =>
    simp only [exec, Registry.take]
    split
    · cases last with
      | true =>
        have forgotten : Book.of (registry.forget stream request) = Book.of registry :=
          of_forget
        exact forgotten
      | false => rfl
    · rfl
  | receive =>
    simp only [exec, Registry.receive]
    split
    · rfl
    · split
      · rfl
      · rfl
  | unregister stream request =>
    have forgotten : Book.of (registry.forget stream request) = Book.of registry :=
      of_forget
    exact forgotten
  | lookup | enqueue | send | close => rfl
  | openStream | detach | mark | sweep | alertHook => cases quiet

theorem of_closing :
    Book.of (exec hooked who input (.closeAll stream) registry).2 = Book.of registry :=
  of_closeAll

theorem of_replace : Book.of (registry.replace agentId) = Book.of registry := by
  simp only [Registry.replace]
  split
  · rw [of_closeAll, of_cancel]
  · rfl

variable {connectedAt : Int}

theorem of_openStream {caps : List String} {sends : Bool} :
    Book.of (registry.openStream hooked who agentId connectedAt caps sends).2 =
      (Book.of registry).enter (.openSession agentId connectedAt caps sends) := by
  have replaced : Book.of (registry.replace agentId) = Book.of registry := of_replace
  have active : (registry.replace agentId).active = registry.active := congrArg Book.active replaced
  have times (stream : Nat) : ((registry.replace agentId).streams stream).connectedAt =
      (registry.streams stream).connectedAt := congrFun (congrArg Book.connectedAt replaced) stream
  have opened : Book.of (registry.openStream hooked who agentId connectedAt caps sends).2 =
      ⟨update (registry.replace agentId).active agentId (some registry.nextStream),
        registry.nextStream + 1, fun stream =>
          (update (registry.replace agentId).streams registry.nextStream
            ⟨connectedAt, caps, sends, none, [], false⟩ stream).connectedAt⟩ := by
    cases hooked with
    | true | false => rfl
  rw [opened, active]
  simp only [Book.enter, Book.of, Book.mk.injEq, true_and]
  funext stream
  simp only [update_apply]
  split
  · rfl
  · exact times stream

theorem of_drop (stream : Nat) (cause : Cause) :
    Book.of (registry.drop who agentId stream cause) = (Book.of registry).strike agentId := by
  have cancelled : Book.of (registry.cancel stream cause) = Book.of registry := of_cancel
  exact congrArg (Book.strike agentId) cancelled

/-- What the first section of `remove` answers and does to the book. -/
theorem Registry.detach_cases (hooked : Bool) (who : Nat) (agentId : String)
    (only : Option Nat) (reason : String) :
    let out := registry.detach hooked who agentId only reason
    match registry.active agentId with
    | none => out.1 = .absent ∧ Book.of out.2 = Book.of registry
    | some stream =>
      if only.any fun wanted => wanted ≠ stream then out = (.mismatch, registry)
      else out.1 = .removed stream ∧ Book.of out.2 = (Book.of registry).strike agentId := by
  have reported (registry : Registry) : Book.of (if hooked then
      Registry.owe who agentId
        { registry with lost := update registry.lost agentId (!terminal reason) }
      else registry) = Book.of registry := by
    cases hooked with
    | true | false => rfl
  simp only [Registry.detach]
  cases registry.active agentId with
  | none =>
    refine ⟨rfl, ?_⟩
    by_cases final : terminal reason
    · rw [if_pos final]
      exact reported registry
    · rw [if_neg final]
  | some =>
    dsimp only
    split
    · rfl
    · refine ⟨rfl, ?_⟩
      rw [reported, of_drop]

variable {sweepStart : Int} {settled : Bool}

theorem of_sweep : Book.of (registry.sweep hooked who agentId sweepStart settled).2 =
      (Book.of registry).sweepAgent sweepStart agentId := by
  have reported (announce : Bool) (registry : Registry) : Book.of (if announce then
      Registry.owe who agentId { registry with
          offlineReported := update registry.offlineReported agentId true
          lost := update registry.lost agentId true }
      else registry) = Book.of registry := by
    cases announce with
    | true | false => rfl
  simp only [Registry.sweep]
  change _ = match registry.active agentId with
    | some stream => if sweepStart < (registry.streams stream).connectedAt then Book.of registry
        else (Book.of registry).strike agentId
    | none => Book.of registry
  cases registry.active agentId with
  | none => exact reported _ registry
  | some =>
    dsimp only
    split
    · rfl
    · rw [reported, of_drop]

/-! ### Operations -/

/-- A program run with nothing else running ends as `post` says. -/
abbrev Alone {α : Type} (hooked : Bool) (program : Text α) (post : Registry → Prop)
    (registry : Registry) : Prop :=
  program.Ensures (exec hooked 0) (fun _ _ _ _ => True) (fun _ => post) registry

theorem alone_quiet {α : Type} {program : Text α} (quiet : program.Uses Call.Quiet) :
    Alone hooked program (fun after => Book.of after = Book.of registry) registry :=
  quiet.ensures (fun _ quiet _ _ same => (of_quiet quiet).trans same) rfl

variable {reason : String}

theorem alone_report {book : Book} (same : Book.of registry = book) :
    Alone hooked (report hooked agentId reason) (fun after => Book.of after = book) registry := by
  cases hooked with
  | true => exact fun _ _ _ _ => same
  | false => exact same

theorem alone_remove {only : Option Nat} :
    Alone hooked (remove hooked agentId only reason) (fun after => Book.of after =
      match registry.active agentId with
      | none => Book.of registry
      | some stream => if only.any fun wanted => wanted ≠ stream then Book.of registry
          else (Book.of registry).strike agentId) registry := by
  refine ensures_call fun input _ => ?_
  have detached := registry.detach_cases hooked 0 agentId only reason
  simp only [exec, Program.bind]
  cases active : registry.active agentId with
  | none =>
    simp only [active] at detached ⊢
    obtain ⟨answer, same⟩ := detached
    rw [answer]
    dsimp only
    split
    · exact alone_report same
    · exact same
  | some =>
    simp only [active] at detached ⊢
    split at detached
    · rename_i other
      rw [detached, if_pos other]
      rfl
    rename_i wanted
    obtain ⟨answer, struck⟩ := detached
    rw [answer, if_neg wanted]
    exact ensures_call fun _ _ => alone_report (of_closing.trans struck)

theorem alone_sweepAgent : Alone hooked (sweepAgent sweepStart settled agentId)
      (fun after => Book.of after = (Book.of registry).sweepAgent sweepStart agentId) registry := by
  simp only [sweepAgent, bind_eq, perform_bind]
  refine ensures_call fun input _ => ?_
  have swept : Book.of (registry.sweep hooked 0 agentId sweepStart settled).2 =
      (Book.of registry).sweepAgent sweepStart agentId := of_sweep
  have announced {now : Registry} (announce : Bool)
      (same : Book.of now = (Book.of registry).sweepAgent sweepStart agentId) :
      Alone hooked
        (if announce then perform (.alertHook agentId "stale" false) else pure () : Text Unit)
        (fun after => Book.of after = (Book.of registry).sweepAgent sweepStart agentId) now := by
    cases announce with
    | true => exact fun _ _ => same
    | false => exact same
  cases removed : (registry.sweep hooked 0 agentId sweepStart settled).1.removed with
  | none =>
    simp only [exec, removed]
    exact announced _ swept
  | some =>
    simp only [exec, removed]
    exact ensures_call fun _ _ => announced _ (of_closing.trans swept)

theorem alone_code {op : Op} :
    Alone hooked (op.code hooked) (fun after => Book.of after = (Book.of registry).enter op)
      registry := by
  cases op with
  | openSession agentId connectedAt caps sends =>
    refine ensures_call fun input _ => ?_
    have opened : Book.of (registry.openStream hooked 0 agentId connectedAt caps sends).2 =
        (Book.of registry).enter (.openSession agentId connectedAt caps sends) :=
      of_openStream
    cases hooked with
    | true => exact fun _ _ => opened
    | false => exact opened
  | closeStream agentId tok =>
    cases tok with
    | none => rfl
    | some token =>
      refine alone_remove.mono (fun _ _ _ _ _ => trivial) ?_
      intro _ after same
      rw [same]
      have booked : (Book.of registry).active agentId = registry.active agentId := rfl
      simp only [Book.enter, booked]
      rcases Option.eq_none_or_eq_some (registry.active agentId) with absent | ⟨stream, found⟩
      · simp [absent]
      · by_cases here : token = stream
        · simp [found, here]
        · simp [found, here, Ne.symm here]
  | close agentId =>
    refine alone_remove.mono (fun _ _ _ _ _ => trivial) ?_
    intro _ after same
    rw [same]
    cases active : registry.active agentId with
    | none =>
      simp only [Book.enter, Book.strike]
      have already : (Book.of registry).active agentId = none := active
      rw [← already, update_eq_self]
    | some => rfl
  | sweep sweepStart settled ids =>
    -- Sweeping the agents that are left gives what sweeping all of them gave.
    let loop (left : List String) (now : Registry) : Prop :=
      left.foldl (Book.sweepAgent sweepStart) (Book.of now) =
        ids.foldl (Book.sweepAgent sweepStart) (Book.of registry)
    have turns : (forEach (sweepAgent sweepStart settled) ids).Ensures (exec hooked 0)
        (fun _ _ _ _ => True) (fun _ => loop []) registry := by
      refine ensures_forEach rfl ?_
      intro agentId left now reached
      refine alone_sweepAgent.mono (fun _ _ _ _ _ => trivial) ?_
      intro _ after same
      change left.foldl _ (Book.of after) = _
      rw [same]
      exact reached
    exact turns
  | sendCommand =>
    exact alone_quiet (uses_bind quiet_sendCommand fun _ => trivial)
  | receive => exact alone_quiet (uses_call trivial fun _ => trivial)
  | release => exact alone_quiet quiet_release
  | fetchLogs =>
    exact alone_quiet (uses_bind quiet_fetchLogs fun _ => trivial)
  | deliverResult => exact alone_quiet quiet_deliverResult

/-! ### Histories -/

/-- An operation and what the environment adds to its calls. -/
abbrev Step := Op × (Nat → Input)

/-- One operation with nothing else running. -/
def perform (hooked : Bool) (registry : Registry) (step : Step) : Registry :=
  ((step.1.code hooked).run (exec hooked 0) step.2 registry).2

/-- The registry after a history of operations. -/
def after (hooked : Bool) (history : List Step) : Registry := history.foldl (perform hooked) .empty

theorem of_perform (step : Step) :
    Book.of (perform hooked registry step) = (Book.of registry).enter step.1 :=
  alone_code.run step.2 fun _ _ _ _ => trivial

theorem after_concat (history : List Step) (step : Step) :
    after hooked (history ++ [step]) = perform hooked (after hooked history) step := by
  simp [after]

/-- How often `Open` was called. -/
def opens (history : List Step) : Nat :=
  history.countP fun step => match step.1 with
    | .openSession .. => true
    | _ => false

/-- The operation ends this stream of the agent, which was opened then. -/
def Op.Ends (agentId : String) (stream : Nat) (connectedAt : Int) : Op → Prop
  | .openSession other .. => other = agentId
  | .closeStream other tok _ => other = agentId ∧ tok = some stream
  | .close other _ => other = agentId
  | .sweep sweepStart _ ids => agentId ∈ ids ∧ connectedAt ≤ sweepStart
  | _ => False

/-- The stream is the one of the last `Open` for the agent, at this time, and nothing ended it. -/
def LastOpen (agentId : String) (stream : Nat) (connectedAt : Int) (history : List Step) : Prop :=
  ∃ earlier caps sends inputs later,
    history = earlier ++ (.openSession agentId connectedAt caps sends, inputs) :: later ∧
      stream = opens earlier ∧ ∀ step ∈ later, ¬step.1.Ends agentId stream connectedAt

theorem opens_concat (history : List Step) (step : Step) : opens (history ++ [step]) =
    match step.1 with
    | .openSession .. => opens history + 1
    | _ => opens history := by
  simp only [opens, countP_append, countP_singleton]
  cases step.1 with
  | openSession => rfl
  | _ => rfl

variable {history : List Step}

theorem lastOpen_concat {step : Step} : LastOpen agentId stream connectedAt (history ++ [step]) ↔
      (∃ caps sends, step.1 = .openSession agentId connectedAt caps sends ∧
        stream = opens history) ∨
        LastOpen agentId stream connectedAt history ∧ ¬step.1.Ends agentId stream connectedAt := by
  constructor
  · rintro ⟨earlier, caps, sends, inputs, later, parts, number, spared⟩
    rcases eq_nil_or_concat later with rfl | ⟨front, last, rfl⟩
    · obtain ⟨rfl, same⟩ := append_inj' parts rfl
      obtain rfl := singleton_inj.mp same
      exact Or.inl ⟨caps, sends, rfl, number⟩
    rw [concat_eq_append, ← cons_append, ← append_assoc] at parts
    obtain ⟨rfl, same⟩ := append_inj' parts rfl
    obtain rfl := singleton_inj.mp same
    refine Or.inr ⟨⟨earlier, caps, sends, inputs, front, rfl, number, fun other mem => ?_⟩, ?_⟩
    · exact spared other (by simp [mem])
    · exact spared step (by simp)
  · rintro (⟨caps, sends, opening, rfl⟩ |
      ⟨⟨earlier, caps, sends, inputs, later, rfl, number, spared⟩, survives⟩)
    · obtain ⟨op, inputs⟩ := step
      subst opening
      exact ⟨history, caps, sends, inputs, [], rfl, rfl, fun _ mem => absurd mem not_mem_nil⟩
    refine ⟨earlier, caps, sends, inputs, later ++ [step], by simp, number, fun other mem => ?_⟩
    rcases mem_snoc.mp mem with old | rfl
    · exact spared other old
    · exact survives

variable {ids : List String} {other : String}

namespace Book

variable {book : Book}

/-- Active streams were opened before. -/
def Known (book : Book) : Prop :=
  ∀ agentId stream, book.active agentId = some stream → stream < book.opened

/-- The agent has this stream, which was opened then. -/
def Has (agentId : String) (stream : Nat) (connectedAt : Int) (book : Book) : Prop :=
  book.active agentId = some stream ∧ book.connectedAt stream = connectedAt

theorem has_strike : (book.strike other).Has agentId stream connectedAt ↔
    book.Has agentId stream connectedAt ∧ other ≠ agentId := by
  by_cases here : agentId = other
  · subst here
    simp [Has, strike]
  · simp [Has, strike, update_of_ne here, Ne.symm here]

theorem has_sweepAgent (sweepStart : Int) :
    (book.sweepAgent sweepStart other).Has agentId stream connectedAt ↔
      book.Has agentId stream connectedAt ∧ (other = agentId → sweepStart < connectedAt) := by
  simp only [sweepAgent]
  split
  next current active =>
    split
    next newer =>
      refine ⟨fun has => ⟨has, ?_⟩, And.left⟩
      rintro rfl
      obtain rfl : stream = current := Option.some.inj (has.1.symm.trans active)
      exact has.2 ▸ newer
    next older =>
      rw [has_strike]
      refine and_congr_right fun has => ⟨fun apart same => absurd same apart, ?_⟩
      rintro later rfl
      obtain rfl : stream = current := Option.some.inj (has.1.symm.trans active)
      exact older (has.2 ▸ later rfl)
  next absent =>
    refine ⟨fun has => ⟨has, ?_⟩, And.left⟩
    rintro rfl
    exact absurd (absent.symm.trans has.1) nofun

theorem has_sweep (sweepStart : Int) :
    (ids.foldl (sweepAgent sweepStart) book).Has agentId stream connectedAt ↔
      book.Has agentId stream connectedAt ∧ (agentId ∈ ids → sweepStart < connectedAt) := by
  induction ids generalizing book with
  | nil => simp
  | cons other ids ih =>
    rw [foldl_cons, ih, has_sweepAgent, and_assoc]
    refine and_congr_right fun _ => ?_
    rw [mem_cons, or_imp]
    exact and_congr_left fun _ =>
      ⟨fun later same => later same.symm, fun later same => later same.symm⟩

theorem opened_sweep : (ids.foldl (sweepAgent sweepStart) book).opened = book.opened := by
  induction ids generalizing book with
  | nil => rfl
  | cons other ids ih =>
    rw [foldl_cons, ih]
    simp only [sweepAgent]
    split
    · split
      · rfl
      · rfl
    · rfl

theorem has_enter (known : book.Known) (op : Op) : (book.enter op).Has agentId stream connectedAt ↔
      (∃ caps sends, op = .openSession agentId connectedAt caps sends ∧ stream = book.opened) ∨
        book.Has agentId stream connectedAt ∧ ¬op.Ends agentId stream connectedAt := by
  cases op with
  | openSession other _ caps sends =>
    by_cases here : agentId = other
    · subst here
      simp only [enter, Has, update_self, Op.Ends, not_true, and_false, or_false,
        Option.some.injEq, Op.openSession.injEq]
      constructor
      · rintro ⟨rfl, same⟩
        rw [update_self] at same
        exact ⟨caps, sends, ⟨trivial, same, rfl, rfl⟩, rfl⟩
      · rintro ⟨_, _, ⟨-, rfl, -, -⟩, rfl⟩
        exact ⟨rfl, update_self ..⟩
    · simp only [enter, Has, update_of_ne here, Op.Ends, Op.openSession.injEq, Ne.symm here,
        false_and, exists_const, false_or, not_false_iff, and_true]
      refine and_congr_right fun active => ?_
      rw [update_of_ne (Nat.ne_of_lt (known agentId stream active))]
  | closeStream =>
    simp only [enter, reduceCtorEq, false_and, exists_const, false_or]
    split
    next ended =>
      rw [has_strike]
      refine and_congr_right fun has => not_congr ⟨fun same => ⟨same, ?_⟩, And.left⟩
      subst same
      exact ended.2.symm.trans has.1
    next kept =>
      refine ⟨fun has => ⟨has, ?_⟩, And.left⟩
      rintro ⟨rfl, rfl⟩
      exact kept ⟨rfl, has.1⟩
  | close =>
    simp only [enter, has_strike, Op.Ends]
    simp
  | sweep =>
    simp only [enter, has_sweep, Op.Ends]
    simp
  | _ => simp [enter, Op.Ends]

end Book

theorem orderly_after : (after hooked history).Kept false ∧
    ∀ who, (after hooked history).AtRest who := by
  induction history using reverseRecOn with
  | nil => exact ⟨kept_empty, fun _ => atRest_empty⟩
  | append_singleton history step ih =>
    obtain ⟨kept, rest⟩ := ih
    rw [after_concat]
    have keeps : (waiterContract false).Keeps (shop hooked) 0 step.1 (step.1.code hooked)
        (fun _ => Registry.AtRest 0) (after hooked history) := calls_code _ kept (rest 0)
    obtain ⟨still, mine, others⟩ := (keeps.ensures kept).run step.2 fun _ _ _ _ => ⟨trivial, rfl⟩
    refine ⟨still, fun who => ?_⟩
    by_cases here : who = 0
    · rw [here]
      exact mine
    · exact stable_atRest _ _ (rest who) ⟨others who here, still⟩

theorem opened_after : (Book.of (after hooked history)).opened = opens history := by
  induction history using reverseRecOn with
  | nil => rfl
  | append_singleton history step ih =>
    rw [after_concat, of_perform, opens_concat]
    obtain ⟨op, inputs⟩ := step
    cases op with
    | openSession => exact congrArg (· + 1) ih
    | closeStream =>
      simp only [Book.enter]
      split
      · exact ih
      · exact ih
    | sweep => exact Book.opened_sweep.trans ih
    | _ => exact ih

theorem has_after : (Book.of (after hooked history)).Has agentId stream connectedAt ↔
      LastOpen agentId stream connectedAt history := by
  induction history using reverseRecOn with
  | nil =>
    refine ⟨fun has => absurd has.1 nofun, ?_⟩
    rintro ⟨earlier, _, _, _, _, parts, -⟩
    simp at parts
  | append_singleton history step ih =>
    have known : (Book.of (after hooked history)).Known :=
      orderly_after.1.housekept.known
    rw [after_concat, of_perform, Book.has_enter known, lastOpen_concat, ih, opened_after]

/-- The active stream of an agent is the one of its last `Open` that no `CloseStream` with its
token, no `Close`, no sweep and no later `Open` has ended; every other stream was cancelled and its
waiters released; and a `CloseStream` with another token changes nothing. -/
theorem sessions_owned_by_last_open (hooked : Bool) (history : List Step) :
    (∀ agentId stream, (after hooked history).active agentId = some stream ↔
      ∃ connectedAt, LastOpen agentId stream connectedAt history) ∧
    (∀ stream < opens history, (∀ agentId, (after hooked history).active agentId ≠ some stream) →
      ((after hooked history).streams stream).cancelled.isSome ∧
      ((after hooked history).streams stream).closed ∧
      ((after hooked history).streams stream).pending = [] ∧
      ∀ request, (after hooked history).waiting request = some stream →
        ((after hooked history).channels request).closed) ∧
    (∀ agentId stream token reason inputs, (after hooked history).active agentId = some stream →
      token ≠ stream →
        after hooked (history ++ [(.closeStream agentId (some token) reason, inputs)]) =
        after hooked history) := by
  have orderly : (after hooked history).Kept false ∧ ∀ who, (after hooked history).AtRest who :=
    orderly_after
  obtain ⟨kept, rest⟩ := orderly
  refine ⟨fun agentId stream => ?_, fun stream opened unowned => ?_, ?_⟩
  · constructor
    · exact fun active => ⟨_, has_after.mp ⟨active, rfl⟩⟩
    · exact fun ⟨_, last⟩ => (has_after.mpr last).1
  · have tended := kept.housekept.streams stream
    have counted : (Book.of (after hooked history)).opened = opens history := opened_after
    have opened : stream < (after hooked history).nextStream := by
      rw [← counted] at opened
      exact opened
    obtain ⟨cancelled, closed⟩ : ((after hooked history).streams stream).cancelled.isSome ∧
        ((after hooked history).streams stream).closed := by
      rcases tended.ended opened with ⟨agentId, active⟩ | ⟨cancelled, closed | ⟨who, closing⟩⟩
      · exact absurd active (unowned agentId)
      · exact ⟨cancelled, closed⟩
      · exact absurd closing ((rest who).closing stream)
    refine ⟨cancelled, closed, ?_, fun request waits => ?_⟩
    · exact eq_nil_iff_forall_not_mem.mpr (tended.emptied closed)
    · rcases kept.housekept.attended rest request stream waits with released | ⟨pending, -⟩
      · exact released
      · exact absurd pending (tended.emptied closed request)
  · intro agentId stream token reason inputs active other
    have detached := (after hooked history).detach_cases hooked 0 agentId (some token) reason
    simp only [active] at detached
    rw [if_pos (by simpa using other)] at detached
    rw [after_concat]
    simp only [perform, Op.code, closeStream, remove, bind_eq, perform_bind,
      run_call, exec, detached]
    rfl

end Maintenant.Sessions
