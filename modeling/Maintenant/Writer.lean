import Maintenant.Execution
import Mathlib.Data.List.Induction
import Mathlib.Data.List.Nodup

/-!
# The writer of SQLite

Callers of `submit` offer their operation to a buffered channel and wait for its result; one loop
takes operations out, executes them and answers.  Contexts are cancelled and the loop stops at any
time, and a `select` takes any case that is ready.
-/

namespace Maintenant.Writer

open Function List Execution

/-- What executing an operation gives. -/
structure WriteResult where
  rowsAffected : Int
  err : Option String

/-- What `submit` returns. -/
inductive Outcome
  | result (res : WriteResult)
  /-- `errWriterStopped`. -/
  | stopped
  /-- `ctx.Err()`. -/
  | cancelled

/-- The point a call of `submit` has reached. -/
inductive Caller (op : Type)
  | absent
  /-- The first `select`. -/
  | offering (op : op)
  /-- The second. -/
  | waiting
  /-- The one within, once the writer was seen to be stopped. -/
  | checking
  | returned (outcome : Outcome)

/-- Where the loop of `Start` is. -/
inductive Loop (op : Type)
  | selecting
  | took (id : Nat) (op : op)
  | answering (id : Nat) (res : WriteResult)
  | stopped

/-- The writer and the calls of `submit`, which are numbered. -/
structure State (op db input : Type) where
  db : db
  /-- The channel, with the call each operation is of. -/
  ch : List (Nat × op)
  loop : Loop op
  ctxDone : Bool
  callers : Nat → Caller op
  cancelled : Nat → Bool
  done : Nat → Option WriteResult
  /-- History variable: what each call submitted. -/
  submitted : Nat → Option op
  /-- History variable: calls whose operation entered the channel, in order. -/
  entered : List Nat
  /-- History variable: calls whose operation was executed, with their results. -/
  executed : List (Nat × WriteResult)
  /-- History variable: the operations executed, with the calls they are of. -/
  performed : List (Nat × op × input)

/-- One step of a caller, of the loop or of a context. -/
inductive Action (op input : Type)
  | submit (id : Nat) (op : op)
  | cancel (id : Nat)
  /-- Cases of the first `select`. -/
  | offerStopped (id : Nat)
  | offerSend (id : Nat)
  | offerCancelled (id : Nat)
  /-- Cases of the second. -/
  | waitResult (id : Nat)
  | waitStopped (id : Nat)
  | waitCancelled (id : Nat)
  /-- The one within takes the result if there is one. -/
  | check (id : Nat)
  | shutdown
  /-- Cases of the loop's `select`. -/
  | stop
  | take
  | execute (input : input)
  | answer

def writerBufferSize : Nat := 256

variable {op db input : Type}

namespace State

/-- No call has been made. -/
def start (db₀ : db) : State op db input where
  db := db₀
  ch := []
  loop := .selecting
  ctxDone := false
  callers _ := .absent
  cancelled _ := false
  done _ := none
  submitted _ := none
  entered := []
  executed := []
  performed := []

/-- A call gets to a point. -/
def goto (state : State op db input) (id : Nat) (point : Caller op) : State op db input :=
  { state with callers := update state.callers id point }

/-- `none` where the step is not possible. -/
def next (execute : op → input → db → WriteResult × db) (state : State op db input) :
    Action op input → Option (State op db input)
  | .submit id op =>
    match state.callers id with
    | .absent =>
      some { state.goto id (.offering op) with submitted := update state.submitted id (some op) }
    | _ => none
  | .cancel id => some { state with cancelled := update state.cancelled id true }
  | .offerStopped id =>
    match state.callers id, state.loop with
    | .offering _, .stopped => some (state.goto id (.returned .stopped))
    | _, _ => none
  | .offerSend id =>
    match state.callers id with
    | .offering op =>
      if state.ch.length < writerBufferSize then
        some { state.goto id .waiting with
          ch := state.ch ++ [(id, op)]
          entered := state.entered ++ [id] }
      else none
    | _ => none
  | .offerCancelled id =>
    match state.callers id, state.cancelled id with
    | .offering _, true => some (state.goto id (.returned .cancelled))
    | _, _ => none
  | .waitResult id =>
    match state.callers id, state.done id with
    | .waiting, some res =>
      some { state.goto id (.returned (.result res)) with done := update state.done id none }
    | _, _ => none
  | .waitStopped id =>
    match state.callers id, state.loop with
    | .waiting, .stopped => some (state.goto id .checking)
    | _, _ => none
  | .waitCancelled id =>
    match state.callers id, state.cancelled id with
    | .waiting, true => some (state.goto id (.returned .cancelled))
    | _, _ => none
  | .check id =>
    match state.callers id, state.done id with
    | .checking, some res =>
      some { state.goto id (.returned (.result res)) with done := update state.done id none }
    | .checking, none => some (state.goto id (.returned .stopped))
    | _, _ => none
  | .shutdown => some { state with ctxDone := true }
  | .stop =>
    match state.loop, state.ctxDone with
    | .selecting, true => some { state with loop := .stopped }
    | _, _ => none
  | .take =>
    match state.loop, state.ch with
    | .selecting, (id, op) :: rest => some { state with loop := .took id op, ch := rest }
    | _, _ => none
  | .execute input =>
    match state.loop with
    | .took id op =>
      let ran := execute op input state.db
      some { state with
        db := ran.2
        loop := .answering id ran.1
        executed := state.executed ++ [(id, ran.1)]
        performed := state.performed ++ [(id, op, input)] }
    | _ => none
  | .answer =>
    match state.loop with
    | .answering id res =>
      some { state with loop := .selecting, done := update state.done id (some res) }
    | _ => none

end State

/-- The operation the loop has taken and not executed. -/
def Loop.held : Loop op → List Nat
  | .took id _ => [id]
  | _ => []

/-- The call has got past its first `select`, or never will send. -/
def Caller.offered : Caller op → Bool
  | .absent => false
  | .offering _ => false
  | _ => true

/-- What holds in every reachable state. -/
structure Sound (state : State op db input) : Prop where
  order : state.entered =
    state.executed.map Prod.fst ++ state.loop.held ++ state.ch.map Prod.fst
  nodup : state.entered.Nodup
  offered : ∀ id ∈ state.entered, (state.callers id).offered = true
  mail : ∀ id res, state.done id = some res → (id, res) ∈ state.executed
  told : ∀ id res, state.callers id = .returned (.result res) → (id, res) ∈ state.executed
  /-- A result is on its way to its caller, or the caller has returned. -/
  delivered : ∀ id res, (id, res) ∈ state.executed →
    state.loop = .answering id res ∨ state.done id = some res ∨
      ∃ outcome, state.callers id = .returned outcome
  answering : ∀ id res, state.loop = .answering id res → (id, res) ∈ state.executed
  checking : ∀ id, state.callers id = .checking → state.loop = .stopped
  refused : ∀ id, state.callers id = .returned .stopped →
    id ∉ state.entered ∨ state.loop = .stopped ∧ id ∉ state.executed.map Prod.fst

variable {execute : op → input → db → WriteResult × db} {state after : State op db input} {id : Nat}
  {point : Caller op} {action : Action op input} {write : op} {res : WriteResult}

/-! ### What a step does -/

/-- The steps, with what has to hold for them. -/
inductive Step (execute : op → input → db → WriteResult × db) (state : State op db input) :
    State op db input → Prop
  | context (cancelled : Nat → Bool) (ctxDone : Bool) :
    Step execute state { state with cancelled := cancelled, ctxDone := ctxDone }
  | submit {id : Nat} (write : op) (absent : state.callers id = .absent) :
    Step execute state
      { state.goto id (.offering write) with submitted := update state.submitted id (some write) }
  | offerStopped {id : Nat} {write : op} (offering : state.callers id = .offering write) :
    Step execute state (state.goto id (.returned .stopped))
  | offerSend {id : Nat} {write : op} (offering : state.callers id = .offering write) :
    Step execute state { state.goto id .waiting with
      ch := state.ch ++ [(id, write)]
      entered := state.entered ++ [id] }
  | giveUp {id : Nat} (pending : ∀ outcome, state.callers id ≠ .returned outcome)
    (begun : state.callers id ≠ .absent) :
    Step execute state (state.goto id (.returned .cancelled))
  | collect {id : Nat} {res : WriteResult} (past : (state.callers id).offered)
    (pending : ∀ outcome, state.callers id ≠ .returned outcome) (held : state.done id = some res) :
    Step execute state
      { state.goto id (.returned (.result res)) with done := update state.done id none }
  | waitStopped {id : Nat} (waiting : state.callers id = .waiting)
    (stopped : state.loop = .stopped) :
    Step execute state (state.goto id .checking)
  | checkNone {id : Nat} (checking : state.callers id = .checking) (empty : state.done id = none) :
    Step execute state (state.goto id (.returned .stopped))
  | stop (selecting : state.loop = .selecting) : Step execute state { state with loop := .stopped }
  | take {id : Nat} {write : op} {rest : List (Nat × op)} (selecting : state.loop = .selecting)
    (queued : state.ch = (id, write) :: rest) :
    Step execute state { state with loop := .took id write, ch := rest }
  | execute {id : Nat} {write : op} (given : input) (took : state.loop = .took id write) :
    Step execute state { state with
      db := (execute write given state.db).2
      loop := .answering id (execute write given state.db).1
      executed := state.executed ++ [(id, (execute write given state.db).1)]
      performed := state.performed ++ [(id, write, given)] }
  | answer {id : Nat} {res : WriteResult} (answering : state.loop = .answering id res) :
    Step execute state { state with loop := .selecting, done := update state.done id (some res) }

theorem Step.of_next (stepped : state.next execute action = some after) :
    Step execute state after := by
  cases action with
  | cancel id | shutdown =>
    cases stepped
    exact .context _ _
  | offerSend id =>
    simp only [State.next] at stepped
    split at stepped
    · obtain ⟨-, ⟨⟩⟩ := Option.ite_none_right_eq_some.mp stepped
      exact .offerSend ‹_›
    · cases stepped
  | check id =>
    simp only [State.next] at stepped
    split at stepped
    · cases stepped
      exact .collect (by simp [*, Caller.offered]) (by simp [*]) ‹_›
    · cases stepped
      exact .checkNone ‹_› ‹_›
    · cases stepped
  | submit | offerStopped | offerCancelled | waitCancelled | waitResult | waitStopped | stop
  | take | execute | answer =>
    simp only [State.next] at stepped
    split at stepped
    · cases stepped
      first
      | exact .submit _ ‹_›
      | exact .offerStopped ‹_›
      | exact .giveUp (by simp [*]) (by simp [*])
      | exact .collect (by simp [*, Caller.offered]) (by simp [*]) ‹_›
      | exact .waitStopped ‹_› ‹_›
      | exact .stop ‹_›
      | exact .take ‹_› ‹_›
      | exact .execute _ ‹_›
      | exact .answer ‹_›
    · cases stepped

/-! ### What every step keeps -/

section

variable (sound : Sound state)
include sound

theorem Sound.goto (pending : ∀ outcome, state.callers id ≠ .returned outcome)
    (offered : (state.callers id).offered = true → point.offered = true)
    (told : ∀ res, point = .returned (.result res) → (id, res) ∈ state.executed)
    (checking : point = .checking → state.loop = .stopped) (refused : point = .returned .stopped →
      id ∉ state.entered ∨ state.loop = .stopped ∧ id ∉ state.executed.map Prod.fst) :
    Sound (state.goto id point) := by
  have moved : ∀ other, (state.goto id point).callers other =
      if other = id then point else state.callers other := by
    intro other
    exact update_apply _ _ _ _
  refine ⟨sound.order, sound.nodup, ?_, sound.mail, ?_, ?_, sound.answering, ?_, ?_⟩
  · intro other mem
    have before := sound.offered other mem
    grind
  · intro other res here
    have before := sound.told other res
    change (other, res) ∈ state.executed
    grind
  · intro other res mem
    have before := sound.delivered other res mem
    change state.loop = _ ∨ state.done other = _ ∨ _
    grind
  · intro other here
    have before := sound.checking other
    change state.loop = _
    grind
  intro other here
  have before := sound.refused other
  change other ∉ state.entered ∨ state.loop = _ ∧ other ∉ state.executed.map Prod.fst
  grind

theorem Sound.collect (held : state.done id = some res)
    (pending : ∀ outcome, state.callers id ≠ .returned outcome) :
    Sound { state.goto id (.returned (.result res)) with
      done := update state.done id none } := by
  have moved : Sound (state.goto id (.returned (.result res))) := by
    refine sound.goto pending (fun _ => rfl) ?_ nofun nofun
    rintro _ ⟨⟩
    exact sound.mail id res held
  refine ⟨moved.order, moved.nodup, moved.offered, ?_, moved.told, ?_, moved.answering,
    moved.checking, moved.refused⟩
  · intro other found here
    have before := sound.mail other found
    change (other, found) ∈ state.executed
    grind [update_apply]
  intro other found mem
  have before := moved.delivered other found mem
  change state.loop = _ ∨ update state.done id none other = _ ∨
    ∃ outcome, update state.callers id _ other = _
  by_cases same : other = id
  · subst same
    exact .inr (.inr ⟨_, update_self _ _ _⟩)
  · rw [update_of_ne same]
    exact before

theorem Sound.nodup_executed : (state.executed.map Prod.fst).Nodup := by
  have nodup := sound.nodup
  rw [sound.order, append_assoc] at nodup
  exact (nodup_append.mp nodup).1

theorem Sound.running (running : state.loop ≠ .stopped) : (∀ id, state.callers id ≠ .checking) ∧
      ∀ id, state.callers id = .returned .stopped → id ∉ state.entered :=
  ⟨fun id here => running (sound.checking id here),
    fun id returned => (sound.refused id returned).resolve_right fun closed => running closed.1⟩

theorem Sound.unsent (offering : state.callers id = .offering write) : id ∉ state.entered := by
  intro mem
  have offered := sound.offered id mem
  rw [offering] at offered
  cases offered

theorem Sound.offerSend (offering : state.callers id = .offering write) :
    Sound { state.goto id .waiting with
      ch := state.ch ++ [(id, write)]
      entered := state.entered ++ [id] } := by
  have unsent := sound.unsent offering
  have moved : Sound (state.goto id .waiting) :=
    sound.goto (by simp [offering]) (fun _ => rfl) nofun nofun nofun
  refine ⟨?_, ?_, ?_, moved.mail, moved.told, moved.delivered, moved.answering, moved.checking, ?_⟩
  · rw [sound.order, map_append, append_assoc _ _ (_ ++ _), append_assoc, append_assoc]
    rfl
  · exact nodup_append.mpr ⟨sound.nodup, pairwise_singleton _ _, by grind⟩
  · intro other mem
    rcases mem_append.mp mem with old | new
    · exact moved.offered other old
    rw [mem_singleton.mp new]
    change (update state.callers id _ id).offered = true
    rw [update_self]
    rfl
  · intro other returned
    change update state.callers id .waiting other = _ at returned
    have different : other ≠ id := by
      rintro rfl
      rw [update_self] at returned
      cases returned
    rw [update_of_ne different] at returned
    refine (sound.refused other returned).imp_left fun absent mem => ?_
    rcases mem_append.mp mem with old | new
    · exact absent old
    · exact different (mem_singleton.mp new)

/-- The loop has answered everything it executed, so that a channel without a result is one of an
operation that was not executed. -/
theorem Sound.checkNone (checking : state.callers id = .checking) (empty : state.done id = none) :
    Sound (state.goto id (.returned .stopped)) := by
  have stopped := sound.checking id checking
  refine sound.goto (by simp [checking]) (fun _ => rfl) nofun nofun fun _ => Or.inr ⟨stopped, ?_⟩
  rw [mem_map]
  rintro ⟨⟨other, res⟩, mem, same⟩
  obtain rfl : other = id := same
  rcases sound.delivered other res mem with answering | mail | ⟨outcome, returned⟩
  · rw [stopped] at answering
    cases answering
  · rw [empty] at mail
    cases mail
  · rw [checking] at returned
    cases returned

theorem Sound.stop (selecting : state.loop = .selecting) :
    Sound { state with loop := .stopped } := by
  obtain ⟨-, unsent⟩ := sound.running (by simp [selecting])
  have order := sound.order
  have delivered := sound.delivered
  rw [selecting] at order delivered
  refine ⟨order, sound.nodup, sound.offered, sound.mail, sound.told, ?_, nofun, fun _ _ => rfl, ?_⟩
  · exact fun id res mem => Or.inr ((delivered id res mem).resolve_left nofun)
  · exact fun id returned => Or.inl (unsent id returned)

theorem Sound.take {rest : List (Nat × op)} (selecting : state.loop = .selecting)
    (queued : state.ch = (id, write) :: rest) :
    Sound { state with loop := .took id write, ch := rest } := by
  obtain ⟨unseen, unsent⟩ := sound.running (by simp [selecting])
  have order := sound.order
  have delivered := sound.delivered
  rw [selecting] at order delivered
  rw [queued] at order
  refine ⟨by simpa [Loop.held] using order, sound.nodup, sound.offered, sound.mail, sound.told, ?_,
    nofun, ?_, ?_⟩
  · exact fun id res mem => Or.inr ((delivered id res mem).resolve_left nofun)
  · exact fun id here => absurd here (unseen id)
  · exact fun id returned => Or.inl (unsent id returned)

theorem Sound.executes {db' : db} {performed : List (Nat × op × input)}
    (took : state.loop = .took id write) : Sound { state with
      db := db'
      loop := .answering id res
      executed := state.executed ++ [(id, res)]
      performed := performed } := by
  obtain ⟨unseen, unsent⟩ := sound.running (by simp [took])
  have order := sound.order
  have delivered := sound.delivered
  rw [took] at order delivered
  refine ⟨by simpa [Loop.held] using order, sound.nodup, sound.offered, ?_, ?_, ?_, ?_, ?_, ?_⟩
  · exact fun other res held => mem_append_left _ (sound.mail other res held)
  · exact fun other res told => mem_append_left _ (sound.told other res told)
  · intro other res mem
    rcases mem_append.mp mem with old | new
    · exact Or.inr ((delivered other res old).resolve_left nofun)
    · cases mem_singleton.mp new
      exact Or.inl rfl
  · rintro other res ⟨⟩
    exact mem_append_right _ (mem_singleton_self _)
  · exact fun other here => absurd here (unseen other)
  · exact fun other returned => Or.inl (unsent other returned)

theorem Sound.answer (answering : state.loop = .answering id res) :
    Sound { state with loop := .selecting, done := update state.done id (some res) } := by
  obtain ⟨unseen, unsent⟩ := sound.running (by simp [answering])
  have order := sound.order
  rw [answering] at order
  refine ⟨order, sound.nodup, sound.offered, ?_, sound.told, ?_, nofun, ?_, ?_⟩
  · intro other found held
    have before := sound.mail other found
    have ran := sound.answering id res answering
    grind [update_apply]
  · intro other found mem
    change _ ∨ update state.done id (some res) other = _ ∨ _
    by_cases same : other = id
    · subst same
      have once := inj_on_of_nodup_map sound.nodup_executed mem
        (sound.answering other res answering) rfl
      cases once
      exact Or.inr (Or.inl (update_self _ _ _))
    · rw [update_of_ne same]
      refine Or.inr ((sound.delivered other found mem).resolve_left ?_)
      rw [answering]
      rintro ⟨⟩
      exact same rfl
  · exact fun other here => absurd here (unseen other)
  · exact fun other returned => Or.inl (unsent other returned)

theorem Sound.step (step : Step execute state after) : Sound after := by
  cases step with
  | context =>
    exact ⟨sound.order, sound.nodup, sound.offered, sound.mail, sound.told, sound.delivered,
      sound.answering, sound.checking, sound.refused⟩
  | @submit id write absent =>
    have moved : Sound (state.goto id (.offering write)) := by
      refine sound.goto (by simp [absent]) ?_ nofun nofun nofun
      simp [absent, Caller.offered]
    exact ⟨moved.order, moved.nodup, moved.offered, moved.mail, moved.told, moved.delivered,
      moved.answering, moved.checking, moved.refused⟩
  | offerStopped offering =>
    exact sound.goto (by simp [offering]) (fun _ => rfl) nofun nofun fun _ =>
      Or.inl (sound.unsent offering)
  | offerSend offering => exact sound.offerSend offering
  | giveUp pending => exact sound.goto pending (fun _ => rfl) nofun nofun nofun
  | collect _ pending held => exact sound.collect held pending
  | waitStopped waiting stopped =>
    exact sound.goto (by simp [waiting]) (fun _ => rfl) nofun (fun _ => stopped) nofun
  | checkNone checking empty => exact sound.checkNone checking empty
  | stop selecting => exact sound.stop selecting
  | take selecting queued => exact sound.take selecting queued
  | execute _ took => exact sound.executes took
  | answer answering => exact sound.answer answering

end

theorem Sound.start (db₀ : db) : Sound (State.start db₀ : State op db input) :=
  ⟨rfl, nodup_nil, forall_mem_nil _, nofun, nofun, fun _ _ => nofun, nofun, nofun, nofun⟩

/-! ### What was executed -/

/-- Operations executed one after another: their results, and the database they leave. -/
def replay (execute : op → input → db → WriteResult × db) (db₀ : db)
    (performed : List (Nat × op × input)) : List (Nat × WriteResult) × db :=
  performed.foldl (fun before entry =>
    let ran := execute entry.2.1 entry.2.2 before.2
    (before.1 ++ [(entry.1, ran.1)], ran.2)) ([], db₀)

theorem replay_snoc {db₀ : db} {performed : List (Nat × op × input)} {given : input} :
    replay execute db₀ (performed ++ [(id, write, given)]) =
      let before := replay execute db₀ performed
      (before.1 ++ [(id, (execute write given before.2).1)], (execute write given before.2).2) := by
  rw [replay, foldl_append]
  rfl

/-- The result is that of the operation, executed after those before it. -/
def ResultOf (execute : op → input → db → WriteResult × db) (db₀ : db)
    (performed : List (Nat × op × input)) (id : Nat) (write : op) (res : WriteResult) : Prop :=
  ∃ before given rest, performed = before ++ (id, write, given) :: rest ∧
    res = (execute write given (replay execute db₀ before).2).1

theorem exists_resultOf {db₀ : db} {performed : List (Nat × op × input)}
    (mem : (id, res) ∈ (replay execute db₀ performed).1) :
    ∃ write, ResultOf execute db₀ performed id write res := by
  induction performed using reverseRecOn with
  | nil => cases mem
  | append_singleton performed entry ih =>
    obtain ⟨other, write, given⟩ := entry
    rw [replay_snoc] at mem
    rcases mem_append.mp mem with old | new
    · obtain ⟨write, before, given, rest, rfl, ran⟩ := ih old
      exact ⟨write, before, given, rest ++ _, append_assoc _ _ _, ran⟩
    · cases mem_singleton.mp new
      exact ⟨write, performed, given, [], rfl, rfl⟩

/-- What was executed is what was submitted, and the results and the database are those of executing
it in order. -/
structure Recorded (execute : op → input → db → WriteResult × db) (db₀ : db)
    (state : State op db input) : Prop where
  absent : ∀ id, state.callers id = .absent → state.submitted id = none
  offering : ∀ id write, state.callers id = .offering write → state.submitted id = some write
  queued : ∀ entry ∈ state.ch, state.submitted entry.1 = some entry.2
  took : ∀ id write, state.loop = .took id write → state.submitted id = some write
  performed : ∀ entry ∈ state.performed, state.submitted entry.1 = some entry.2.1
  ran : replay execute db₀ state.performed = (state.executed, state.db)

section

variable {db₀ : db} (recorded : Recorded execute db₀ state)
include recorded

theorem Recorded.goto (here : point ≠ .absent) (past : ∀ write, point ≠ .offering write) :
    Recorded execute db₀ (state.goto id point) := by
  refine ⟨fun other absent => ?_, fun other write offering => ?_, recorded.queued, recorded.took,
    recorded.performed, recorded.ran⟩
  · change update state.callers id point other = _ at absent
    by_cases same : other = id
    · rw [same, update_self] at absent
      exact absurd absent here
    · rw [update_of_ne same] at absent
      exact recorded.absent other absent
  · change update state.callers id point other = _ at offering
    by_cases same : other = id
    · rw [same, update_self] at offering
      exact absurd offering (past write)
    · rw [update_of_ne same] at offering
      exact recorded.offering other write offering

/-- A call that had not begun has nothing under way. -/
theorem Recorded.submit (write : op) (absent : state.callers id = .absent) : Recorded execute db₀
      { state.goto id (.offering write) with
        submitted := update state.submitted id (some write) } := by
  have kept {other : Nat} {known : op} (told : state.submitted other = some known) :
      update state.submitted id (some write) other = some known := by
    have different : other ≠ id := by
      rintro rfl
      rw [recorded.absent other absent] at told
      cases told
    rw [update_of_ne different, told]
  refine ⟨?_, ?_, fun entry mem => kept (recorded.queued entry mem),
    fun other known took => kept (recorded.took other known took),
    fun entry mem => kept (recorded.performed entry mem), recorded.ran⟩
  · intro other here
    change update state.callers id _ other = _ at here
    change update state.submitted id _ other = _
    grind [update_apply, recorded.absent other]
  · intro other known here
    change update state.callers id _ other = _ at here
    change update state.submitted id _ other = _
    grind [update_apply, recorded.offering other known]

theorem Recorded.step (step : Step execute state after) : Recorded execute db₀ after := by
  cases step with
  | context =>
    exact ⟨recorded.absent, recorded.offering, recorded.queued, recorded.took, recorded.performed,
      recorded.ran⟩
  | submit write absent => exact recorded.submit write absent
  | offerStopped | giveUp | waitStopped | checkNone => exact recorded.goto nofun nofun
  | @offerSend id write offering =>
    have moved : Recorded execute db₀ (state.goto id .waiting) := recorded.goto nofun nofun
    refine ⟨moved.absent, moved.offering, fun entry mem => ?_, moved.took, moved.performed,
      moved.ran⟩
    rcases mem_append.mp mem with old | new
    · exact recorded.queued entry old
    · cases mem_singleton.mp new
      exact recorded.offering id write offering
  | @collect id res =>
    have moved : Recorded execute db₀ (state.goto id (.returned (.result res))) :=
      recorded.goto nofun nofun
    exact ⟨moved.absent, moved.offering, moved.queued, moved.took, moved.performed, moved.ran⟩
  | stop | answer =>
    exact ⟨recorded.absent, recorded.offering, recorded.queued, nofun, recorded.performed,
      recorded.ran⟩
  | take _ queued =>
    have submitted := forall_mem_cons.mp (queued ▸ recorded.queued)
    refine ⟨recorded.absent, recorded.offering, submitted.2, ?_, recorded.performed, recorded.ran⟩
    rintro _ _ ⟨⟩
    exact submitted.1
  | execute given took =>
    refine ⟨recorded.absent, recorded.offering, recorded.queued, nofun, fun entry mem => ?_, ?_⟩
    · rcases mem_append.mp mem with old | new
      · exact recorded.performed entry old
      · cases mem_singleton.mp new
        exact recorded.took _ _ took
    · change replay execute db₀ (state.performed ++ _) = _
      rw [replay_snoc, recorded.ran]

end

theorem Recorded.start (db₀ : db) : Recorded execute db₀ (State.start db₀ : State op db input) :=
  ⟨fun _ _ => rfl, nofun, forall_mem_nil _, nofun, forall_mem_nil _, rfl⟩

theorem returned_step {outcome : Outcome} (returned : state.callers id = .returned outcome)
    (step : Step execute state after) : after.callers id = .returned outcome := by
  have elsewhere {other : Nat} {point : Caller op}
      (pending : ∀ result, state.callers other ≠ .returned result) :
      (state.goto other point).callers id = .returned outcome := by
    have different : id ≠ other := by
      rintro rfl
      exact pending outcome returned
    exact (update_of_ne different _ _).trans returned
  cases step with
  | context | stop | take | execute | answer => exact returned
  | submit _ here | offerStopped here | offerSend here | waitStopped here | checkNone here =>
    exact elsewhere (by simp [here])
  | giveUp pending | collect _ pending => exact elsewhere pending

/-- In every run and every continuation of it no operation is executed twice, operations are
executed in the order in which they entered the channel, a call that returned a result returned that
of its own operation, executed after those before it, and one that returned `errWriterStopped` has
an operation that is never executed. -/
theorem writer_guarantee {execute : op → input → db → WriteResult × db} {db₀ : db}
    {actions more : List (Action op input)} {state later : State op db input}
    (execution : run (State.next execute) (State.start db₀) actions = some state)
    (continuation : run (State.next execute) state more = some later) :
    (state.executed.map Prod.fst).Nodup ∧ state.executed.map Prod.fst <+: state.entered ∧
      (∀ id res, state.callers id = .returned (.result res) → (id, res) ∈ state.executed ∧
        ∃ write, state.submitted id = some write ∧
          ResultOf execute db₀ state.performed id write res) ∧
      ∀ id, state.callers id = .returned .stopped → id ∉ later.executed.map Prod.fst := by
  have sound := invariant_of_run (fun before stepped => before.step (.of_next stepped))
    (Sound.start db₀) execution
  have recorded := invariant_of_run (fun before stepped => before.step (.of_next stepped))
    (Recorded.start db₀) execution
  have later_sound := invariant_of_run (fun before stepped => before.step (.of_next stepped)) sound
    continuation
  refine ⟨sound.nodup_executed, ?_, fun id res told => ?_, fun id returned => ?_⟩
  · rw [sound.order, append_assoc]
    exact prefix_append _ _
  · have mem := sound.told id res told
    have replayed : (id, res) ∈ (replay execute db₀ state.performed).1 := by
      rw [recorded.ran]
      exact mem
    obtain ⟨write, before, given, rest, split, ran⟩ := exists_resultOf replayed
    have submitted := recorded.performed (id, write, given) (by simp [split])
    exact ⟨mem, write, submitted, before, given, rest, split, ran⟩
  · have still : later.callers id = .returned .stopped :=
      invariant_of_run (fun before stepped => returned_step before (.of_next stepped)) returned
        continuation
    rcases later_sound.refused id still with unsent | ⟨-, unexecuted⟩
    · rw [later_sound.order, append_assoc] at unsent
      exact fun mem => unsent (mem_append_left _ mem)
    · exact unexecuted

/-- Two operations each add to what is stored and answer with the sum; another is in the channel
when the loop stops. -/
private def shutDown : List (Action Int Unit) :=
  [.submit 0 5, .offerSend 0, .submit 1 7, .offerSend 1, .submit 2 9, .offerSend 2, .take,
    .execute (), .answer, .waitResult 0, .take, .execute (), .answer, .shutdown, .stop,
    .waitStopped 1, .check 1, .waitStopped 2, .check 2]

private def adding (amount : Int) (_ : Unit) (stored : Int) : WriteResult × Int :=
  (⟨stored + amount, none⟩, stored + amount)

theorem writer_guarantee_at_shutdown : ∃ state : State Int Int Unit,
    run (State.next adding) (State.start 0) shutDown = some state ∧
      state.callers 1 = .returned (.result ⟨12, none⟩) ∧ (∃ write, state.submitted 1 = some write ∧
        ResultOf adding 0 state.performed 1 write ⟨12, none⟩) ∧
      2 ∉ state.executed.map Prod.fst := by
  have runs : (run (State.next adding) (State.start 0) shutDown).isSome := rfl
  obtain ⟨state, execution⟩ := Option.isSome_iff_exists.mp runs
  obtain ⟨told, refused⟩ : state.callers 1 = .returned (.result ⟨12, none⟩) ∧
      state.callers 2 = .returned .stopped := by
    cases execution
    exact ⟨rfl, rfl⟩
  obtain ⟨-, -, results, never⟩ := writer_guarantee execution (run_nil _ state)
  exact ⟨state, execution, told, (results 1 _ told).2, never 2 refused⟩

/-- In every state of every run the result of an executed operation is being handed over, waits for
its caller, or the caller has returned. -/
theorem results_reach_callers (execute : op → input → db → WriteResult × db) (db₀ : db)
    (actions : List (Action op input)) : Always (State.next execute) (fun state =>
        ∀ id res, (id, res) ∈ state.executed → state.loop = .answering id res ∨
          state.done id = some res ∨ ∃ outcome, state.callers id = .returned outcome)
      (State.start db₀) actions :=
  always_of_invariant Sound (fun sound step => sound.step (.of_next step))
    (fun _ sound => sound.delivered) (.start db₀) actions

end Maintenant.Writer
