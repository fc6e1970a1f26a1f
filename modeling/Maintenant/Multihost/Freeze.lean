import Maintenant.Multihost.AckSafety

/-!
# Lifting a frozen watermark

A refusal freezes the watermark until the agent replays the refused row or an earlier one.  The
agent replays only what it still holds above its acknowledged mark, so the freeze can be lifted as
long as the refused row is such a row and stays one.  The tracker checks none of this: it also
freezes on a second copy of a row it has counted or acknowledged before.
-/

namespace Maintenant.Multihost

open Agent List Execution AckTracker

variable {mark : Nat}

namespace System

def rows (system : System) : List SpooledEvent :=
  system.agent.whole.store.elim [] SpoolStore.rows

/-- While the watermark of a live stream is frozen, a row that can lift it is held by the agent or
on its way. -/
def Liftable (system : System) : Prop :=
  ∀ session, system.session = some session → session.acks.refused ≠ 0 →
    (∃ row ∈ system.rows, row.seq ≤ session.acks.refused) ∨
      ∃ event ∈ system.agent.wire, event.seq ≠ 0 ∧ event.seq ≤ session.acks.refused

/-- The row is held and will be replayed: it is above every mark in use. -/
def replayable (system : System) (tracker : AckTracker) (seq : Nat) : Bool :=
  (system.rows.any fun row => row.seq = seq) && decide (tracker.highest < seq) &&
    decide (tracker.acked < seq) && decide (system.agent.spool.ackSeq < seq)

/-- The watermark freezes on a replayable row only, and the row it is frozen on is not dropped. -/
def freezesInTurn (system : System) : Action → Bool
  | .serve arrival =>
    match system.session, system.agent.wire with
    | some session, event :: _ =>
      !(arrival.refusal.isSome && session.acks.freezes event.seq) ||
        system.replayable session.acks event.seq
    | _, _ => true
  | .agent action =>
    match system.session with
    | some session =>
      (system.agent.drops action).all fun row => row.seq ≠ session.acks.refused
    | none => true
  | _ => true

/-- The refused row is one that the agent will send again. -/
structure Frozen (replay : Replay) (tracker : AckTracker) : Prop where
  row : ∃ row ∈ replay.rows, row.seq = tracker.refused
  highest : tracker.highest < tracker.refused
  acked : tracker.acked < tracker.refused
  /-- It is above what the agent knows as acknowledged. -/
  ackSeq : replay.ackSeq < tracker.refused

/-- What keeps a live stream from freezing for good. -/
structure Thawing (replay : Replay) (session : Session) : Prop where
  /-- Acknowledgements in flight are those of this stream. -/
  acks_le : ∀ seq ∈ ackSeqs session.outbox, seq ≤ session.acks.acked
  frozen : session.acks.refused ≠ 0 → Frozen replay session.acks

variable {codec : Codec} {tracker : AckTracker} {session : Session}

section Steps

variable {cause : Cause} {before after : Replay}

theorem row_kept {row : SpooledEvent} (formed : Replay.WellFormed codec before)
    (own : ¬ cause.server) (spared : row ∉ cause.drops) (above : before.ackSeq < row.seq)
    (mem : row ∈ before.rows) (step : Replay.Step codec cause before after) :
    row ∈ after.rows ∧ after.ackSeq = before.ackSeq := by
  cases step with
  | append => exact ⟨mem_append_left _ mem, rfl⟩
  | delete _ _ _ _ moved =>
    rcases moved row mem with still | ⟨-, dropped⟩
    · exact ⟨still, rfl⟩
    · exact absurd dropped spared
  | purge _ purging =>
    have passed := formed.purging purging
    refine ⟨mem_filter.mpr ⟨mem, ?_⟩, rfl⟩
    simp only [Bool.not_eq_eq_eq_not, Bool.not_true, decide_eq_false_iff_not]
    omega
  | ack _ _ server | attach server => exact absurd server own
  | _ => exact ⟨mem, rfl⟩

theorem Thawing.answers {last : Session} (thawing : Thawing before session)
    (answers : Session.Answers session.acks (ackSeqs session.outbox) last) :
    Thawing before last := by
  cases answers with
  | silent acks same =>
    refine ⟨?_, ?_⟩
    · rw [same, acks]
      exact thawing.acks_le
    · rw [acks]
      exact thawing.frozen
  | acknowledged _ _ pending acks more =>
    obtain ⟨rfl, new⟩ := pending_eq_some pending
    refine ⟨?_, ?_⟩
    · rw [more, acks]
      intro other mem
      rcases mem_append.mp mem with old | this
      · exact Nat.le_of_lt (Nat.lt_of_le_of_lt (thawing.acks_le other old) new)
      · exact Nat.le_of_eq (mem_singleton.mp this)
    · rw [acks]
      intro refused
      have frozen := thawing.frozen refused
      exact ⟨frozen.row, frozen.highest, frozen.highest, frozen.ackSeq⟩

theorem Thawing.accept (thawing : Thawing before session) (seq : Nat) :
    Thawing before { session with acks := session.acks.accept seq } := by
  refine ⟨?_, ?_⟩
  · rw [accept_acked]
    exact thawing.acks_le
  intro refused
  by_cases plain : seq = 0
  · subst plain
    exact { thawing.frozen refused with }
  rcases session.acks.accept_cases plain with ⟨-, -, lifted⟩ | ⟨-, -, -, lifted⟩ |
    ⟨frozen, -, highest, same⟩
  · exact absurd lifted refused
  · exact absurd lifted refused
  obtain ⟨row, below, acked, ackSeq⟩ := thawing.frozen frozen
  refine ⟨?_, ?_, ?_, ?_⟩
  · rw [same]
    exact row
  · rw [highest, same]
    exact below
  · rw [accept_acked, same]
    exact acked
  · rw [same]
    exact ackSeq

theorem Thawing.refuse (thawing : Thawing before session) {seq : Nat}
    (in_turn : session.acks.freezes seq → Frozen before { session.acks with refused := seq }) :
    Thawing before { session with acks := session.acks.refuse seq } := by
  by_cases plain : seq = 0
  · subst plain
    exact thawing
  rcases session.acks.refuse_cases plain with ⟨freezes, set⟩ | ⟨-, -, -, same⟩
  · rw [set]
    exact ⟨thawing.acks_le, fun _ => in_turn freezes⟩
  · rw [same]
    exact thawing

end Steps

variable {server : Server} {system after : System}

/-- Its freeze, if any, can be lifted. -/
def CanThaw (system : System) : Prop :=
  ∀ session, system.session = some session → Thawing system.agent.replay session

variable {seq : Nat}

theorem frozen_of_replayable (replayable : system.replayable tracker seq) :
    Frozen system.agent.replay { tracker with refused := seq } := by
  simp only [System.replayable, Bool.and_eq_true, any_eq_true, decide_eq_true_eq] at replayable
  obtain ⟨⟨⟨row, highest⟩, acked⟩, ackSeq⟩ := replayable
  exact ⟨row, highest, acked, ackSeq⟩

variable {agent : Machine}

theorem CanThaw.own_step (thaw : system.CanThaw) (sound : Sound codec system)
    {action : Agent.Action} (own : action.fromServer = false)
    (in_turn : system.freezesInTurn (.agent action))
    (step : system.agent.next codec action = some agent) :
    CanThaw { system with agent } := by
  have replays := Machine.next_replays sound.agent.readable step
  have not_server : ¬ (system.agent.cause action).server := by simp [Machine.cause, own]
  intro session still_live
  have live : system.session = some session := still_live
  have thawing := thaw session live
  refine ⟨thawing.acks_le, ?_⟩
  intro refused
  obtain ⟨⟨row, mem, this⟩, highest, acked, ackSeq⟩ := thawing.frozen refused
  have spared : row ∉ (system.agent.cause action).drops := by
    intro dropped
    simp only [freezesInTurn, live, all_eq_true, decide_eq_true_eq] at in_turn
    exact in_turn row dropped this
  have kept : Replay.WellFormed codec agent.replay ∧ row ∈ agent.replay.rows ∧
      agent.replay.ackSeq = system.agent.replay.ackSeq := by
    refine replays.preserves (fun replay => Replay.WellFormed codec replay ∧ row ∈ replay.rows ∧
      replay.ackSeq = system.agent.replay.ackSeq) ?_ ⟨sound.agent.formed, mem, rfl⟩
    rintro first last ⟨formed, here, same⟩ one
    have above : first.ackSeq < row.seq := by
      rw [same, this]
      exact ackSeq
    obtain ⟨still, unchanged⟩ := row_kept formed not_server spared above here one
    exact ⟨formed.step one, still, unchanged.trans same⟩
  obtain ⟨-, still, same⟩ := kept
  refine ⟨⟨row, still, this⟩, highest, acked, ?_⟩
  rw [same]
  exact ackSeq

variable {rest : List ServerMessage}

theorem CanThaw.receive_ack (thaw : system.CanThaw) (live : system.session = some session)
    (outbox : session.outbox = .ack seq :: rest)
    (step : system.agent.next codec (.acked seq) = some agent) :
    CanThaw { system with agent, session := some { session with outbox := rest } } := by
  have thawing := thaw session live
  have later : ∀ other ∈ ackSeqs rest, other ≤ session.acks.acked := by
    intro other mem
    apply thawing.acks_le
    rw [outbox]
    exact mem_cons_of_mem seq mem
  have below : seq ≤ session.acks.acked := by
    apply thawing.acks_le
    rw [outbox]
    exact mem_cons_self
  rintro last still
  cases still
  refine ⟨later, ?_⟩
  intro refused
  have frozen := thawing.frozen refused
  rcases Machine.acked_replay step with same | ⟨recv, raised⟩
  · rw [same]
    exact { frozen with }
  · rw [raised]
    exact ⟨frozen.row, frozen.highest, frozen.acked, Nat.lt_of_le_of_lt below frozen.acked⟩

theorem CanThaw.receive_error (thaw : system.CanThaw) {code text : String} {retryAfterMs : Nat}
    {now : Int} (live : system.session = some session)
    (outbox : session.outbox = .error code text retryAfterMs :: rest)
    (step : receive codec now (.error code text retryAfterMs) system.agent = some agent) :
    CanThaw { system with agent, session := some { session with outbox := rest } } := by
  have thawing := thaw session live
  have same : ackSeqs session.outbox = ackSeqs rest := by rw [outbox]; rfl
  have acks_le := thawing.acks_le
  rw [same] at acks_le
  obtain ⟨sendSeq, generation, moved⟩ := receive_error_replay step
  rintro last still
  cases still
  refine ⟨acks_le, ?_⟩
  intro refused
  rw [moved]
  exact { thawing.frozen refused with }

theorem CanThaw.serve (thaw : system.CanThaw) {arrival : Arrival}
    {event : AgentEvent} {rest : List AgentEvent} (live : system.session = some session)
    (wire : system.agent.wire = event :: rest) (in_turn : system.freezesInTurn (.serve arrival)) :
    CanThaw
      { agent := { system.agent with wire := rest }
        session := session.handleEvent server arrival event
        trace := system.trace.read server arrival event session.acks } := by
  have thawing := thaw session live
  have read : Thawing system.agent.replay
      { session with acks := readBy arrival event session.acks } := by
    rw [readBy]
    split
    next refused =>
      apply thawing.refuse
      intro freezes
      apply frozen_of_replayable
      simpa [freezesInTurn, live, wire, refused, freezes] using in_turn
    · exact thawing.accept event.seq
  rintro last answered
  have answers := read.answers (Session.handleEvent_answers answered)
  exact ⟨answers.acks_le, fun refused => { answers.frozen refused with }⟩

variable {action : Action}

theorem CanThaw.next (thaw : system.CanThaw) (sound : Sound codec system)
    (in_turn : system.freezesInTurn action) (step : system.next codec server action = some after) :
    after.CanThaw := by
  cases step_of_next step with
  | own own moved => exact thaw.own_step sound own in_turn moved
  | connect =>
    rintro session live
    cases live
    refine ⟨?_, fun refused => absurd rfl refused⟩
    intro seq mem
    cases mem
  | cut =>
    rintro session live
    cases live
  | ack live outbox moved => exact thaw.receive_ack live outbox moved
  | error live outbox moved => exact thaw.receive_error live outbox moved
  | serve live wire => exact thaw.serve live wire in_turn
  | tick live =>
    rintro last answered
    exact (thaw _ live).answers (Session.tick_answers answered)

theorem CanThaw.liftable (thaw : system.CanThaw) : system.Liftable := by
  intro session live refused
  obtain ⟨row, mem, this⟩ := ((thaw session live).frozen refused).row
  exact .inl ⟨row, mem, Nat.le_of_eq this⟩

/-- In every run that freezes on replayable rows only, the watermark never freezes for good. -/
theorem watermark_stays_liftable (codec : Codec) (server : Server) (cfg : SpoolConfig)
    (opened : Bool) (actions : List Action)
    (in_turn : Guarded (next codec server)
      (fun system action => system.freezesInTurn action) (init cfg opened) actions) :
    Always (next codec server) Liftable (init cfg opened) actions := by
  refine always_of_guarded (fun system => Sound codec system ∧ system.CanThaw) ?_ ?_ ?_
    in_turn
  · rintro before after action ⟨sound, thaw⟩ allowed step
    exact ⟨sound.next step, thaw.next sound allowed step⟩
  · rintro system ⟨-, thaw⟩
    exact thaw.liftable
  · refine ⟨Sound.init, ?_⟩
    rintro session live
    cases live

/-! ## Frozen for good -/

/-- Rows the drain has read and not yet sent. -/
def unsent : DrainPc → List SpooledEvent
  | .page _ _ rows => rows
  | .sending _ _ row _ rest => row :: rest
  | .advancing _ _ _ rest => rest
  | _ => []

theorem unsent_of_parked {pc : DrainPc} (parked : pc.parked) : unsent pc = [] := by
  cases pc <;> first | rfl | cases parked

/-- Nothing at or below `refused` can reach the server any more. -/
structure Past (replay : Replay) (refused : Nat) : Prop where
  given : refused ≤ replay.lastSeq
  rows : ∀ row ∈ replay.rows, refused < row.seq
  page : ∀ row ∈ unsent replay.drain, refused < row.seq
  wire : ∀ seq ∈ numbers replay.wire, refused < seq

variable {refused : Nat}

theorem Past.step {cause : Cause} {before last : Replay} (past : Past before refused)
    (own : ¬ cause.server) (step : Replay.Step codec cause before last) : Past last refused := by
  have page := past.page
  cases step with
  | unnumbered _ plain =>
    refine { past with wire := ?_ }
    rw [numbers_concat_zero plain]
    exact past.wire
  | append =>
    refine ⟨past.given.trans (Nat.le_add_right _ _), ?_, past.page, past.wire⟩
    intro row mem
    rcases mem_append.mp mem with old | new
    · exact past.rows row old
    · exact Nat.lt_of_le_of_lt past.given (numberFrom_seq_bounds new).1
  | delete rows _ kept =>
    exact { past with rows := fun row mem => past.rows row (kept.subset mem) }
  | purge =>
    exact { past with rows := fun row mem => past.rows row (mem_of_mem_filter mem) }
  | ack _ _ server | attach server => exact absurd server own
  | park _ parked =>
    exact { past with page := by simp [unsent_of_parked parked] }
  | start | capture => exact { past with page := by simp [unsent] }
  | read =>
    refine { past with page := ?_ }
    intro row mem
    exact past.rows row (mem_of_mem_filter (mem_of_mem_take mem))
  | skip _ row _ in_page =>
    rw [in_page] at page
    exact { past with page := fun other mem => page other (mem_cons_of_mem row mem) }
  | clear _ _ _ _ in_page =>
    rw [in_page] at page
    exact { past with page := page }
  | send _ attachedAt row event _ sending =>
    rw [sending] at page
    have above := page row mem_cons_self
    have numbered : (wireEvent attachedAt row event).seq ≠ 0 := by
      simp only [wireEvent]
      omega
    refine ⟨past.given, past.rows, fun other mem => page other (mem_cons_of_mem row mem),
      ?_⟩
    rw [numbers_concat numbered]
    intro seq mem
    rcases mem_snoc.mp mem with old | rfl
    · exact past.wire seq old
    · exact above
  | advance _ _ _ advancing =>
    rw [advancing] at page
    exact { past with page := page }
  | _ => exact { past with }

variable {event : AgentEvent}

theorem readBy_of_later {arrival : Arrival} (frozen : tracker.refused ≠ 0)
    (later : event.seq ≠ 0 → tracker.refused < event.seq) :
    (readBy arrival event tracker).highest = tracker.highest ∧
      (readBy arrival event tracker).refused = tracker.refused := by
  rw [readBy]
  by_cases plain : event.seq = 0
  · rw [plain]
    split <;> exact ⟨rfl, rfl⟩
  split
  · rw [refuse, if_neg plain, if_neg (by omega)]
    exact ⟨rfl, rfl⟩
  rcases tracker.accept_cases plain with ⟨unfrozen, -⟩ | ⟨-, below, -⟩ | ⟨-, -, same⟩
  · exact absurd unfrozen frozen
  · omega
  · exact same

/-- The live stream's watermark is frozen on `refused` and nothing can lift it. -/
def Stuck (system : System) (mark refused : Nat) : Prop :=
  refused ≠ 0 ∧ Past system.agent.replay refused ∧
    ∃ session, system.session = some session ∧ session.acks.highest = mark ∧
      session.acks.refused = refused

theorem answers_marks {owed : List Nat} (answers : Session.Answers tracker owed session) :
    session.acks.highest = tracker.highest ∧ session.acks.refused = tracker.refused := by
  cases answers with
  | silent acks | acknowledged _ _ _ acks =>
    rw [acks]
    exact ⟨rfl, rfl⟩

theorem Past.read {rest : List AgentEvent} (past : Past agent.replay refused)
    (wire : agent.wire = event :: rest) :
    Past { agent with wire := rest }.replay refused := by
  have on_wire := past.wire
  refine { past with wire := ?_ }
  intro seq mem
  apply on_wire
  change seq ∈ numbers agent.wire
  rw [wire]
  by_cases plain : event.seq = 0
  · rw [numbers_cons_zero plain]
    exact mem
  · rw [numbers_cons plain]
    exact mem_cons_of_mem _ mem

theorem Stuck.next (stuck : system.Stuck mark refused) (sound : Sound codec system)
    (step : system.next codec server action = some after) (live : after.session.isSome) :
    after.Stuck mark refused := by
  obtain ⟨numbered, past, session, here, highest, frozen⟩ := stuck
  cases step_of_next step with
  | @own action agent own moved =>
    have not_server : ¬ (system.agent.cause action).server := by simp [Machine.cause, own]
    have kept : Past agent.replay refused :=
      (Machine.next_replays sound.agent.readable moved).preserves
        (fun replay => Past replay refused) (fun before one => before.step not_server one) past
    exact ⟨numbered, kept, session, here, highest, frozen⟩
  | connect offline =>
    rw [here] at offline
    cases offline
  | cut => cases live
  | @ack _ current _ _ agent open_session outbox moved =>
    cases here.symm.trans open_session
    have kept : Past agent.replay refused := by
      rcases Machine.acked_replay moved with same | ⟨recv, raised⟩
      · rw [same]
        exact past
      · rw [raised]
        exact { past with }
    exact ⟨numbered, kept, _, rfl, highest, frozen⟩
  | @error _ current _ _ _ _ agent open_session outbox moved =>
    cases here.symm.trans open_session
    have kept : Past agent.replay refused := by
      obtain ⟨sendSeq, generation, same⟩ := receive_error_replay moved
      rw [same]
      exact { past with }
    exact ⟨numbered, kept, _, rfl, highest, frozen⟩
  | @serve arrival current event rest open_session wire =>
    cases here.symm.trans open_session
    obtain ⟨last, answered⟩ := Option.isSome_iff_exists.mp live
    have marks := answers_marks (Session.handleEvent_answers answered)
    have same : (readBy arrival event session.acks).highest = session.acks.highest ∧
        (readBy arrival event session.acks).refused = session.acks.refused := by
      apply readBy_of_later
      · rw [frozen]
        exact numbered
      intro plain
      rw [frozen]
      apply past.wire
      change event.seq ∈ numbers system.agent.wire
      rw [wire, numbers_cons plain]
      exact mem_cons_self
    exact ⟨numbered, past.read wire, last, answered, marks.1.trans (same.1.trans highest),
      marks.2.trans (same.2.trans frozen)⟩
  | tick open_session =>
    cases here.symm.trans open_session
    obtain ⟨last, answered⟩ := Option.isSome_iff_exists.mp live
    have marks := answers_marks (Session.tick_answers answered)
    exact ⟨numbered, past, last, answered, marks.1.trans highest, marks.2.trans frozen⟩

theorem Stuck.run {actions : List Action} {final : System}
    (stuck : system.Stuck mark refused) (sound : Sound codec system)
    (live : Always (System.next codec server) (fun visited => visited.session.isSome)
      system actions)
    (execution : run (System.next codec server) system actions = some final) :
    final.Stuck mark refused := by
  induction actions generalizing system with
  | nil =>
    cases execution
    exact stuck
  | cons action actions ih =>
    obtain ⟨after, step, rest⟩ := (run_cons_eq_some _).mp execution
    obtain ⟨-, later⟩ := live
    rw [step] at later
    have up : after.session.isSome := by
      cases actions with
      | nil => exact later
      | cons => exact later.1
    exact ih (stuck.next sound step up) (sound.next step) later rest

/-- The limiter refuses an event for one millisecond. -/
def refusedOnce : Arrival := { taken with refusal := some 1 }

/-- A full snapshot, which is never numbered. -/
def inventorySnapshot : AgentEvent := { containerEvent "s1" with body := .inventory "all" }

/-- A row is taken and sent again after a refused snapshot; this copy is refused, and the first
one's acknowledgement removes the row. -/
def refuseSecondCopy : List Action :=
  sendFirstRow ++ [.serve taken, .agent (.send inventorySnapshot 5 true), .serve refusedOnce,
    .deliver 6, .agent .drainAdvance, .agent (.drainCapture 2000000), .agent (.drainRead true),
    .agent (.drainRow true), .agent (.drainSend true), .serve refusedOnce, .tick 6 true,
    .deliver 7, .deliver 7, .agent (.purgeAcked true)]

/-- The watermark is frozen on a row that is neither held nor on its way, and it never moves again
on this stream. -/
theorem refused_copy_freezes_for_good :
    ∃ final, run (next oneEvent plainServer) (init roomyConfig true)
        refuseSecondCopy = some final ∧ ¬ final.Liftable ∧
      ∀ actions last, run (next oneEvent plainServer) final actions = some last →
        Always (next oneEvent plainServer) (fun visited => visited.session.isSome) final
          actions →
        last.session.map (fun session => session.acks.highest) = some 1 := by
  have reached : ((run (next oneEvent plainServer) (init roomyConfig true)
      refuseSecondCopy).map fun final =>
        (final.session.map fun session => (session.acks.highest, session.acks.refused),
          final.rows, final.agent.wire, unsent final.agent.drain,
          final.agent.replay.lastSeq)) = some (some (1, 1), [], [], [], 1) := by
    decide
  obtain ⟨final, execution, shown⟩ := Option.map_eq_some_iff.mp reached
  simp only [Prod.mk.injEq] at shown
  obtain ⟨frozen, no_rows, no_wire, no_page, given⟩ := shown
  obtain ⟨session, live, marks⟩ := Option.map_eq_some_iff.mp frozen
  obtain ⟨highest, refused⟩ := Prod.mk.inj marks
  have table : final.agent.replay.rows = [] := no_rows
  have page : unsent final.agent.replay.drain = [] := no_page
  have wire : final.agent.replay.wire = [] := no_wire
  have past : Past final.agent.replay 1 :=
    ⟨Nat.le_of_eq given.symm, by simp [table], by simp [page], by simp [wire, numbers]⟩
  have stuck : final.Stuck 1 1 := ⟨Nat.one_ne_zero, past, session, live, highest, refused⟩
  refine ⟨final, execution, ?_, ?_⟩
  · intro liftable
    have lifted := liftable session live (by omega)
    rw [no_rows, no_wire] at lifted
    simp at lifted
  · intro actions last continued up
    obtain ⟨-, -, late, still, same, -⟩ := stuck.run (Sound.of_run execution) up continued
    rw [still, Option.map_some, same]

/-- A row is refused at its first arrival, replayed and taken. -/
def refuseFirstCopy : List Action :=
  sendFirstRow ++ [.serve refusedOnce, .deliver 6, .agent .drainAdvance,
    .agent (.drainCapture 2000000), .agent (.drainRead true), .agent (.drainRow true),
    .agent (.drainSend true), .serve taken]

theorem watermark_stays_liftable_first_copy :
    Always (next oneEvent plainServer) Liftable (init roomyConfig true) refuseFirstCopy ∧
      (run (next oneEvent plainServer) (init roomyConfig true) refuseFirstCopy).isSome :=
  ⟨watermark_stays_liftable oneEvent plainServer roomyConfig true refuseFirstCopy (by decide),
    by decide⟩

end System

end Maintenant.Multihost
