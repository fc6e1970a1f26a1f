import Maintenant.Multihost.System

/-!
# What both ends of a stream agree on

The invariant behind acknowledgements.  A row the agent holds is counted by the server as soon as
it lies at or below any mark in use: the agent's acknowledged mark, an acknowledgement in flight,
the watermark of the tracker.  The agent's part changes by replay steps, the server's part by
reading the wire; each side's steps leave the other side's promises alone.
-/

namespace Maintenant.Multihost

open Agent List

namespace System

/-- What holds of the agent and the server's history, with or without a stream. -/
structure Linked (codec : Codec) (replay : Replay) (trace : Trace) : Prop where
  ackSeq_le : replay.ackSeq ≤ replay.lastSeq
  ackSeq : Watermark.Covered (held replay) (counted trace) replay.ackSeq
  acked : ∀ row ∈ replay.acked, row.seq ∈ trace.counted
  /-- Numbered events the server took come from rows. -/
  genuine : ∀ event ∈ trace.accepted, event.seq ≠ 0 → Genuine codec replay.stored event
  /-- Counted sequences are those of events the server took. -/
  counted : ∀ seq ∈ trace.counted, seq ≠ 0 ∧ ∃ event ∈ trace.accepted, event.seq = seq

/-- What holds while a stream is open. -/
structure Streaming (codec : Codec) (replay : Replay) (trace : Trace) (session : Session) :
    Prop where
  genuine : ∀ event ∈ replay.wire, event.seq ≠ 0 → Genuine codec replay.stored event
  /-- No event on the wire overtook a row that is not counted. -/
  paced : Watermark.Paced (held replay) (counted trace) trace.arrived (numbers replay.wire)
  last : (numbers replay.wire).getLastD trace.arrived = replay.lastSent
  arrived_le : trace.arrived ≤ replay.lastSeq
  highest_le : session.acks.highest ≤ replay.lastSeq
  refused_le : session.acks.refused ≤ replay.lastSeq
  safe : session.acks.Safe (held replay) (System.counted trace) trace.arrived
  acks : ∀ seq ∈ ackSeqs session.outbox, seq ≤ replay.lastSeq ∧
    Watermark.Covered (held replay) (System.counted trace) seq

/-! ## Steps of the agent -/

/-- Rows come with new sequences or go, and nothing is sent. -/
structure Renew (before after : Replay) : Prop where
  wire : after.wire = before.wire
  lastSent : after.lastSent = before.lastSent
  ackSeq : after.ackSeq = before.ackSeq
  stored : ∀ row ∈ before.stored, row ∈ after.stored
  lastSeq : before.lastSeq ≤ after.lastSeq
  rows : ∀ row ∈ after.rows, row ∈ before.rows ∨ before.lastSeq < row.seq
  acked : ∀ row ∈ after.acked, row ∈ before.acked ∨ row ∈ before.rows ∧ row.seq ≤ before.ackSeq

/-- A step of the agent of its own accord: it renews its rows, sends an unnumbered event or sends
the row in hand. -/
theorem renew_or_send {codec : Codec} {cause : Cause} {before after : Replay}
    (formed : Replay.WellFormed codec before) (own : ¬ cause.server)
    (step : Replay.Step codec cause before after) : Renew before after ∨
      (∃ event, event.seq = 0 ∧ after = { before with wire := before.wire ++ [event] }) ∨
      ∃ gen attachedAt row source rest, before.drain = .sending gen attachedAt row source rest ∧
          after.wire = before.wire ++ [wireEvent attachedAt row source] ∧
          after.lastSent = row.seq ∧ after.rows = before.rows ∧ after.stored = before.stored ∧
          after.lastSeq = before.lastSeq ∧ after.ackSeq = before.ackSeq ∧
          after.acked = before.acked := by
  have same : ∀ replay : Replay, replay.wire = before.wire → replay.lastSent = before.lastSent →
      replay.ackSeq = before.ackSeq → replay.stored = before.stored →
      replay.lastSeq = before.lastSeq → replay.rows = before.rows → replay.acked = before.acked →
      Renew before replay := by
    intro replay wire lastSent ackSeq stored lastSeq rows acked
    refine ⟨wire, lastSent, ackSeq, ?_, Nat.le_of_eq lastSeq.symm, ?_, ?_⟩
    · rw [stored]
      exact fun _ => id
    · rw [rows]
      exact fun _ => .inl
    · rw [acked]
      exact fun _ => .inl
  cases step with
  | unnumbered event plain => exact .inr (.inl ⟨event, plain, rfl⟩)
  | send gen attachedAt row source rest sending =>
    exact .inr (.inr ⟨gen, attachedAt, row, source, rest, sending, rfl, rfl, rfl, rfl, rfl,
      rfl, rfl⟩)
  | append =>
    left
    refine ⟨rfl, rfl, rfl, fun row mem => mem_append_left _ mem,
      Nat.le_add_right _ _, ?_, fun _ => .inl⟩
    intro row mem
    rcases mem_append.mp mem with old | new
    · exact .inl old
    · exact .inr (numberFrom_seq_bounds new).1
  | delete _ _ kept =>
    left
    exact ⟨rfl, rfl, rfl, fun _ => id, le_rfl, fun row mem => .inl (kept.subset mem), fun _ => .inl⟩
  | purge _ purging =>
    left
    refine ⟨rfl, rfl, rfl, fun _ => id, le_rfl, fun row mem => .inl (mem_of_mem_filter mem), ?_⟩
    intro row mem
    rcases mem_append.mp mem with old | new
    · exact .inl old
    · obtain ⟨here, passed⟩ := mem_filter.mp new
      exact .inr ⟨here, Nat.le_trans (of_decide_eq_true passed) (formed.purging purging)⟩
  | ack _ _ server | attach server => exact absurd server own
  | _ => exact .inl (same _ rfl rfl rfl rfl rfl rfl rfl)

variable {codec : Codec} {trace : Trace} {session : Session}

section AgentSteps

variable {cause : Cause} {before after : Replay}

theorem Renew.held (renew : Renew before after) :
    Watermark.Renewed before.lastSeq (held before) (held after) := by
  rintro seq ⟨row, mem, rfl⟩
  rcases renew.rows row mem with old | new
  · exact .inl ⟨row, old, rfl⟩
  · exact .inr new

theorem Linked.renew (linked : Linked codec before trace) (renew : Renew before after) :
    Linked codec after trace where
  ackSeq_le := by
    rw [renew.ackSeq]
    exact linked.ackSeq_le.trans renew.lastSeq
  ackSeq := by
    rw [renew.ackSeq]
    exact linked.ackSeq.mono renew.held (fun _ => id) linked.ackSeq_le
  acked := by
    intro row mem
    rcases renew.acked row mem with old | ⟨here, passed⟩
    · exact linked.acked row old
    · exact linked.ackSeq row.seq ⟨row, here, rfl⟩ passed
  genuine := fun event mem numbered => (linked.genuine event mem numbered).mono renew.stored
  counted := linked.counted

theorem Streaming.numbers_le (streaming : Streaming codec before trace session)
    (formed : Replay.WellFormed codec before) : ∀ seq ∈ numbers before.wire,
      seq ≤ before.lastSeq := by
  intro seq mem
  obtain ⟨numbered, event, on_wire, rfl⟩ := mem_numbers mem
  obtain ⟨row, committed, attachedAt, source, -, rfl⟩ := streaming.genuine event on_wire numbered
  exact (formed.bounded row committed).2

theorem Streaming.renew (streaming : Streaming codec before trace session)
    (formed : Replay.WellFormed codec before) (renew : Renew before after) :
    Streaming codec after trace session where
  genuine := by
    rw [renew.wire]
    exact fun event mem numbered => (streaming.genuine event mem numbered).mono renew.stored
  paced := by
    rw [renew.wire]
    exact streaming.paced.mono renew.held (fun _ => id) (streaming.numbers_le formed)
  last := by
    rw [renew.wire, renew.lastSent]
    exact streaming.last
  arrived_le := streaming.arrived_le.trans renew.lastSeq
  highest_le := streaming.highest_le.trans renew.lastSeq
  refused_le := streaming.refused_le.trans renew.lastSeq
  safe := streaming.safe.mono renew.held (fun _ => id) streaming.arrived_le streaming.highest_le
    streaming.refused_le
  acks := by
    intro seq mem
    obtain ⟨given, covered⟩ := streaming.acks seq mem
    exact ⟨given.trans renew.lastSeq, covered.mono renew.held (fun _ => id) given⟩

theorem Linked.step (linked : Linked codec before trace) (formed : Replay.WellFormed codec before)
    (own : ¬ cause.server) (step : Replay.Step codec cause before after) :
    Linked codec after trace := by
  rcases renew_or_send formed own step with renew | ⟨event, -, rfl⟩ | ⟨gen, attachedAt, row,
    source, rest, -, -, -, rows, stored, lastSeq, ackSeq, acked⟩
  · exact linked.renew renew
  · exact { linked with }
  have same : held after = held before := by rw [held, rows]; rfl
  exact
    { ackSeq_le := by
        rw [ackSeq, lastSeq]
        exact linked.ackSeq_le
      ackSeq := by
        rw [same, ackSeq]
        exact linked.ackSeq
      acked := by
        rw [acked]
        exact linked.acked
      genuine := by
        rw [stored]
        exact linked.genuine
      counted := linked.counted }

theorem Streaming.step (streaming : Streaming codec before trace session)
    (linked : Linked codec before trace) (formed : Replay.WellFormed codec before)
    (paced : Replay.Paced before) (own : ¬ cause.server)
    (step : Replay.Step codec cause before after) : Streaming codec after trace session := by
  rcases renew_or_send formed own step with renew | ⟨event, plain, rfl⟩ | ⟨gen, attachedAt, row,
    source, rest, sending, wire, lastSent, rows, stored, lastSeq, -, -⟩
  · exact streaming.renew formed renew
  · exact { streaming with
      genuine := by
        intro other mem numbered
        rcases mem_snoc.mp mem with old | rfl
        · exact streaming.genuine other old numbered
        · exact absurd plain numbered
      paced := by
        rw [numbers_concat_zero plain]
        exact streaming.paced
      last := by
        rw [numbers_concat_zero plain]
        exact streaming.last }
  · have in_page : row ∈ before.drain.rows := by
      rw [sending]
      exact mem_cons_self
    have committed := formed.page_stored row in_page
    have numbered : (wireEvent attachedAt row source).seq ≠ 0 := by
      have := (formed.bounded row committed).1
      simp only [wireEvent]
      omega
    have same : held after = held before := by rw [held, rows]; rfl
    have follows : Watermark.Follows (held before) (counted trace)
        ((numbers before.wire).getLastD trace.arrived) row.seq := by
      have point := paced.point
      rw [sending] at point
      rw [streaming.last]
      rintro seq ⟨other, other_mem, rfl⟩ below
      rcases point.1 other other_mem below with acked | sent
      · exact .inr (linked.ackSeq other.seq ⟨other, other_mem, rfl⟩ acked)
      · exact .inl sent
    exact
      { genuine := by
          intro event mem
          rw [wire] at mem
          rw [stored]
          rcases mem_snoc.mp mem with old | rfl
          · exact streaming.genuine event old
          · exact fun _ => ⟨row, committed, attachedAt, source, formed.read_event sending, rfl⟩
        paced := by
          rw [same, wire, numbers_concat numbered]
          exact streaming.paced.send follows
        last := by
          rw [wire, numbers_concat numbered, lastSent]
          simp [wireEvent]
        arrived_le := by
          rw [lastSeq]
          exact streaming.arrived_le
        highest_le := by
          rw [lastSeq]
          exact streaming.highest_le
        refused_le := by
          rw [lastSeq]
          exact streaming.refused_le
        safe := by
          rw [same]
          exact streaming.safe
        acks := by
          rw [same, lastSeq]
          exact streaming.acks }

end AgentSteps

/-! ## Steps of the server -/

section ServerSteps

variable {replay : Replay} {after : Session}
  {server : Server} {arrival : Arrival} {event : AgentEvent} {rest : List AgentEvent}
  {tracker : AckTracker}

theorem counted_read : counted trace ⊆ counted (trace.read server arrival event tracker) := by
  intro seq mem
  simp only [counted, Trace.read] at mem ⊢
  split
  · exact mem_append_left _ mem
  · exact mem

theorem mem_counted_read (taken : arrival.refusal.isNone) (counts : tracker.counts event.seq) :
    event.seq ∈ counted (trace.read server arrival event tracker) := by
  simp [counted, Trace.read, taken, counts]

def readBy (arrival : Arrival) (event : AgentEvent) (tracker : AckTracker) : AckTracker :=
  if arrival.refusal.isSome then tracker.refuse event.seq else tracker.accept event.seq

theorem Streaming.answers (streaming : Streaming codec replay trace session)
    (answers : Session.Answers session.acks (ackSeqs session.outbox) after) :
    Streaming codec replay trace after := by
  cases answers with
  | silent acks same =>
    exact { streaming with
      highest_le := by rw [acks]; exact streaming.highest_le
      refused_le := by rw [acks]; exact streaming.refused_le
      safe := by rw [acks]; exact streaming.safe
      acks := by rw [same]; exact streaming.acks }
  | acknowledged seq now pending acks more =>
    obtain ⟨rfl, -⟩ := AckTracker.pending_eq_some pending
    exact { streaming with
      highest_le := by rw [acks]; exact streaming.highest_le
      refused_le := by rw [acks]; exact streaming.refused_le
      safe := by rw [acks]; exact streaming.safe.sent
      acks := by
        rw [more]
        intro seq mem
        rcases mem_snoc.mp mem with old | rfl
        · exact streaming.acks seq old
        · exact ⟨streaming.highest_le, streaming.safe.highest⟩ }

theorem Linked.read (linked : Linked codec replay trace)
    (streaming : Streaming codec replay trace session) (wire : replay.wire = event :: rest) :
    Linked codec { replay with wire := rest } (trace.read server arrival event session.acks) where
  ackSeq_le := linked.ackSeq_le
  ackSeq := linked.ackSeq.mono Watermark.Renewed.refl counted_read (le_rfl)
  acked := fun row mem => counted_read (linked.acked row mem)
  genuine := by
    intro other mem
    simp only [Trace.read] at mem
    split at mem
    · rcases mem_snoc.mp mem with old | rfl
      · exact linked.genuine other old
      · exact streaming.genuine other (by rw [wire]; exact mem_cons_self)
    · exact linked.genuine other mem
  counted := by
    intro seq mem
    simp only [Trace.read] at mem ⊢
    split at mem
    next counts =>
      obtain ⟨taken, numbered⟩ := Bool.and_eq_true_iff.mp counts
      rw [if_pos taken]
      rcases mem_snoc.mp mem with old | rfl
      · obtain ⟨positive, other, other_mem, same⟩ := linked.counted seq old
        exact ⟨positive, other, mem_append_left _ other_mem, same⟩
      refine ⟨?_, event, mem_append_right _ (mem_singleton_self event), rfl⟩
      simp only [AckTracker.counts, Bool.and_eq_true, decide_eq_true_eq] at numbered
      exact numbered.1
    · obtain ⟨positive, other, other_mem, same⟩ := linked.counted seq mem
      refine ⟨positive, other, ?_, same⟩
      split
      · exact mem_append_left _ other_mem
      · exact other_mem

section

variable (streaming : Streaming codec replay trace session)
include streaming

theorem Streaming.read_plain (wire : replay.wire = event :: rest) (plain : event.seq = 0) :
    Streaming codec { replay with wire := rest } (trace.read server arrival event session.acks)
      { session with acks := readBy arrival event session.acks } := by
  have none_counted : session.acks.counts event.seq = false := by simp [AckTracker.counts, plain]
  have same : counted (trace.read server arrival event session.acks) = counted trace := by
    simp [counted, Trace.read, none_counted]
  have arrived : (trace.read server arrival event session.acks).arrived = trace.arrived := by
    simp [Trace.read, plain]
  have numbers_eq : numbers replay.wire = numbers rest := by rw [wire, numbers_cons_zero plain]
  have marks : (readBy arrival event session.acks).highest = session.acks.highest ∧
      (readBy arrival event session.acks).refused = session.acks.refused := by
    rw [readBy, plain]
    split <;> exact ⟨rfl, rfl⟩
  have paced := streaming.paced
  have last := streaming.last
  rw [numbers_eq] at paced last
  exact
    { genuine := fun other mem => streaming.genuine other
        (by rw [wire]; exact mem_cons_of_mem event mem)
      paced := by
        rw [same, arrived]
        exact paced
      last := by
        rw [arrived]
        exact last
      arrived_le := by
        rw [arrived]
        exact streaming.arrived_le
      highest_le := by
        rw [marks.1]
        exact streaming.highest_le
      refused_le := by
        rw [marks.2]
        exact streaming.refused_le
      safe := by
        rw [same, arrived]
        refine ⟨?_, ?_, ?_⟩
        · rw [marks.1]
          exact streaming.safe.highest
        · rw [marks.2]
          exact streaming.safe.unfrozen
        · rw [marks.2]
          exact streaming.safe.frozen
      acks := by
        rw [same]
        exact streaming.acks }

theorem Streaming.read_numbered
    (formed : Replay.WellFormed codec replay) (wire : replay.wire = event :: rest)
    (numbered : event.seq ≠ 0) :
    Streaming codec { replay with wire := rest } (trace.read server arrival event session.acks)
      { session with acks := readBy arrival event session.acks } := by
  have grown : counted trace ⊆ counted (trace.read server arrival event session.acks) :=
    counted_read
  have arrived : (trace.read server arrival event session.acks).arrived = event.seq := by
    simp [Trace.read, numbered]
  have numbers_eq : numbers replay.wire = event.seq :: numbers rest := by
    rw [wire, numbers_cons numbered]
  have paced := streaming.paced
  have last := streaming.last
  have given := streaming.numbers_le formed
  rw [numbers_eq] at paced last given
  have event_le := given event.seq mem_cons_self
  have highest_le := streaming.highest_le
  have refused_le := streaming.refused_le
  obtain ⟨follows, after⟩ := paced.arrive
  have marks : (readBy arrival event session.acks).highest ≤ replay.lastSeq ∧
      (readBy arrival event session.acks).refused ≤ replay.lastSeq := by
    rw [readBy]
    split
    · rcases session.acks.refuse_cases numbered with ⟨-, set⟩ | ⟨-, -, -, same⟩
      · rw [set]
        exact ⟨highest_le, event_le⟩
      · rw [same]
        exact ⟨highest_le, refused_le⟩
    · rcases session.acks.accept_cases numbered with ⟨-, raised, still⟩ | ⟨-, -, set, lifted⟩ |
        ⟨-, -, kept, still⟩ <;> omega
  have safe : (readBy arrival event session.acks).Safe (held replay)
      (counted (trace.read server arrival event session.acks)) event.seq := by
    rw [readBy] at marks ⊢
    cases refusal : arrival.refusal with
    | some =>
      rw [refusal] at marks
      exact (streaming.safe.refuse numbered follows).mono Watermark.Renewed.refl grown
        event_le marks.1 marks.2
    | none =>
      exact streaming.safe.accept numbered follows grown
        fun counts => mem_counted_read (by rw [refusal]; rfl) counts
  exact
    { genuine := fun other mem => streaming.genuine other
        (by rw [wire]; exact mem_cons_of_mem event mem)
      paced := by
        rw [arrived]
        exact after.mono Watermark.Renewed.refl grown
          fun seq mem => given seq (mem_cons_of_mem _ mem)
      last := by
        rw [arrived]
        rw [getLastD_cons] at last
        exact last
      arrived_le := by
        rw [arrived]
        exact event_le
      highest_le := marks.1
      refused_le := marks.2
      safe := by
        rw [arrived]
        exact safe
      acks := by
        intro seq mem
        obtain ⟨le, covered⟩ := streaming.acks seq mem
        exact ⟨le, covered.mono Watermark.Renewed.refl grown le⟩ }

theorem Streaming.read
    (formed : Replay.WellFormed codec replay) (wire : replay.wire = event :: rest) :
    Streaming codec { replay with wire := rest } (trace.read server arrival event session.acks)
      { session with acks := readBy arrival event session.acks } := by
  by_cases plain : event.seq = 0
  · exact streaming.read_plain wire plain
  · exact streaming.read_numbered formed wire plain

end

end ServerSteps

end System

end Maintenant.Multihost
