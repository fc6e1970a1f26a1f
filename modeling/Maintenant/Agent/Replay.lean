import Maintenant.Agent.Machine

/-!
# The replay cursor

An abstraction of the agent to what decides which row is sent when: the table, the send cursor with
its generation, the acknowledged mark and the page the drain works through.  Rows are appended,
deleted, acknowledged and rewound behind the drain's back at any moment.  Two facts are proved of
every step: a row is sent only when each stored row below it was acknowledged or sent before it on
the same stream, and rows reach their first delivery in the order of their sequence.
-/

namespace Maintenant.Agent

open List

namespace DrainPc

/-- Rows of the page in hand that the cursor has not passed. -/
def rows : DrainPc → List SpooledEvent
  | .page _ _ rows => rows
  | .sending _ _ row _ rest => row :: rest
  | .advancing _ _ row rest => row :: rest
  | _ => []

def gen : DrainPc → Option Nat
  | .reading _ gen _ => some gen
  | .page gen _ _ => some gen
  | .sending gen _ _ _ _ => some gen
  | .advancing gen _ _ _ => some gen
  | _ => none

/-- Between `Attach` and `Detach`. -/
def attached : DrainPc → Bool
  | .off => false
  | .attaching => false
  | _ => true

/-- The drain holds neither a cursor nor a page. -/
def parked : DrainPc → Bool
  | .off => true
  | .waiting => true
  | .flushing => true
  | .looping => true
  | .failed => true
  | _ => false

variable {pc : DrainPc}

theorem rows_of_parked (parked : pc.parked) : pc.rows = [] := by
  cases pc <;> first | rfl | cases parked

theorem gen_of_parked (parked : pc.parked) : pc.gen = none := by
  cases pc <;> first | rfl | cases parked

end DrainPc

/-- The table, the cursor and the stream. -/
structure Replay where
  rows : List SpooledEvent
  stored : List SpooledEvent
  lastSeq : Nat
  sendSeq : Nat
  ackSeq : Nat
  generation : Nat
  drain : DrainPc
  wire : List AgentEvent
  lastSent : Nat
  firsts : List SpooledEvent
  recv : RecvPc
  acked : List SpooledEvent
  /-- Rows a budget or the retention window removed. -/
  lost : List SpooledEvent

/-- What may make a step happen. -/
structure Cause where
  /-- The step is an answer or an opening of the stream. -/
  server : Prop
  /-- Rows the step removes for a budget or for their age. -/
  drops : List SpooledEvent

variable {rows : List SpooledEvent} {limit gen cursor : Nat}

namespace Replay

/-- One step of the drain or behind its back. -/
inductive Step (codec : Codec) (cause : Cause) : Replay → Replay → Prop
  | stay (before : Replay) : Step codec cause before before
  | unnumbered (before : Replay) (event : AgentEvent) (plain : event.seq = 0) :
      Step codec cause before { before with wire := before.wire ++ [event] }
  | append (before : Replay) (batch : List PendingEvent)
      (readable : ∀ event ∈ batch, (codec.unmarshal event.payload).isSome) :
      Step codec cause before { before with
        rows := before.rows ++ numberFrom before.lastSeq batch
        stored := before.stored ++ numberFrom before.lastSeq batch
        lastSeq := before.lastSeq + batch.length }
  | delete (before : Replay) (rows lost : List SpooledEvent) (kept : rows.Sublist before.rows)
      (grown : ∀ row ∈ before.lost, row ∈ lost)
      (moved : ∀ row ∈ before.rows, row ∈ rows ∨ row ∈ lost ∧ row ∈ cause.drops) :
      Step codec cause before { before with rows, lost }
  | purge (before : Replay) (seq : Nat) (purging : before.recv = .purging seq) :
      Step codec cause before { before with
        rows := before.rows.filter fun row => !decide (row.seq ≤ seq)
        acked := before.acked ++ before.rows.filter fun row => row.seq ≤ seq
        recv := .idle }
  | release (before : Replay) : Step codec cause before { before with recv := .idle }
  | rewind (before : Replay) :
      Step codec cause before { before with
        sendSeq := before.ackSeq
        generation := before.generation + 1 }
  | ack (before : Replay) (seq : Nat) (recv : RecvPc) (server : cause.server)
      (new : before.ackSeq < seq) (next : recv = .idle ∨ recv = .purging seq) :
      Step codec cause before { before with ackSeq := seq, recv }
  | park (before : Replay) (pc : DrainPc) (parked : pc.parked)
      (from_attached : pc = .off ∨ before.drain.attached) :
      Step codec cause before { before with drain := pc }
  | attach (before : Replay) (server : cause.server) (detached : before.drain = .off) :
      Step codec cause before { before with drain := .attaching, wire := [], lastSent := 0 }
  | start (before : Replay) (bound : before.drain = .attaching) :
      Step codec cause before { before with
        drain := .waiting
        sendSeq := before.ackSeq
        generation := before.generation + 1 }
  | capture (before : Replay) (attachedAt : Int) (looping : before.drain = .looping) :
      Step codec cause before { before with
        drain := .reading before.sendSeq before.generation attachedAt }
  | read (before : Replay) (cursor gen limit : Nat) (attachedAt : Int)
      (reading : before.drain = .reading cursor gen attachedAt) :
      Step codec cause before { before with
        drain := .page gen attachedAt
          ((before.rows.filter fun row => cursor < row.seq).take limit) }
  | skip (before : Replay) (attachedAt : Int) (row : SpooledEvent) (rest : List SpooledEvent)
      (page : before.drain = .page before.generation attachedAt (row :: rest))
      (unreadable : codec.unmarshal row.event.payload = none) :
      Step codec cause before { before with
        sendSeq := row.seq
        drain := .page before.generation attachedAt rest }
  | clear (before : Replay) (attachedAt : Int) (row : SpooledEvent) (event : AgentEvent)
      (rest : List SpooledEvent)
      (page : before.drain = .page before.generation attachedAt (row :: rest))
      (readable : codec.unmarshal row.event.payload = some event) :
      Step codec cause before { before with
        drain := .sending before.generation attachedAt row event rest }
  | send (before : Replay) (gen : Nat) (attachedAt : Int) (row : SpooledEvent)
      (event : AgentEvent) (rest : List SpooledEvent)
      (sending : before.drain = .sending gen attachedAt row event rest) :
      Step codec cause before { before with
        wire := before.wire ++ [wireEvent attachedAt row event]
        lastSent := row.seq
        firsts := if row ∈ before.firsts then before.firsts else before.firsts ++ [row]
        drain := .advancing gen attachedAt row rest }
  | advance (before : Replay) (attachedAt : Int) (row : SpooledEvent) (rest : List SpooledEvent)
      (advancing : before.drain = .advancing before.generation attachedAt row rest) :
      Step codec cause before { before with
        sendSeq := row.seq
        drain := .page before.generation attachedAt rest }

/-! ## Rows and pages -/

/-- What the table and the page in hand have in common with the rows ever committed. -/
structure WellFormed (codec : Codec) (replay : Replay) : Prop where
  sorted : replay.stored.Pairwise (·.seq < ·.seq)
  bounded : ∀ row ∈ replay.stored, 0 < row.seq ∧ row.seq ≤ replay.lastSeq
  readable : ∀ row ∈ replay.stored, (codec.unmarshal row.event.payload).isSome
  rows_stored : ∀ row ∈ replay.rows, row ∈ replay.stored
  rows_sorted : replay.rows.Pairwise (·.seq < ·.seq)
  page_stored : ∀ row ∈ replay.drain.rows, row ∈ replay.stored
  page_sorted : replay.drain.rows.Pairwise (·.seq < ·.seq)
  read_event : ∀ {gen attachedAt row event rest},
    replay.drain = .sending gen attachedAt row event rest →
      codec.unmarshal row.event.payload = some event
  /-- The page was read under this generation or an earlier one. -/
  gen_le : ∀ gen ∈ replay.drain.gen, gen ≤ replay.generation
  /-- The cursor is on a row or on an acknowledgement. -/
  cursor : replay.sendSeq ≤ replay.lastSeq ∨ replay.sendSeq ≤ replay.ackSeq
  purging : ∀ {seq}, replay.recv = .purging seq → seq ≤ replay.ackSeq
  acked_le : ∀ row ∈ replay.acked, row ∈ replay.stored ∧ row.seq ≤ replay.ackSeq
  /-- Every committed row is stored, was acknowledged or is lost. -/
  places : ∀ row ∈ replay.stored, row ∈ replay.rows ∨ row ∈ replay.acked ∨ row ∈ replay.lost

theorem mem_take_of_lt {low high : SpooledEvent}
    (sorted : rows.Pairwise (·.seq < ·.seq)) (high_mem : high ∈ rows.take limit)
    (low_mem : low ∈ rows) (below : low.seq < high.seq) : low ∈ rows.take limit := by
  rw [← take_append_drop limit rows] at low_mem sorted
  rcases mem_append.mp low_mem with early | late
  · exact early
  · have := (pairwise_append.mp sorted).2.2 high high_mem low late
    omega

variable {codec : Codec} {cause : Cause} {before after : Replay}

namespace WellFormed

theorem eq_of_seq (formed : WellFormed codec before) {left right : SpooledEvent}
    (left_mem : left ∈ before.stored) (right_mem : right ∈ before.stored)
    (same : left.seq = right.seq) : left = right := by
  have apart : (before.stored.map SpooledEvent.seq).Nodup := by
    rw [nodup_iff_pairwise_ne, pairwise_map]
    exact formed.sorted.imp fun below => Nat.ne_of_lt below
  exact inj_on_of_nodup_map apart left_mem right_mem same

section Actions

variable (formed : WellFormed codec before)

include formed

theorem append {batch : List PendingEvent}
    (readable : ∀ event ∈ batch, (codec.unmarshal event.payload).isSome) :
    WellFormed codec { before with
      rows := before.rows ++ numberFrom before.lastSeq batch
      stored := before.stored ++ numberFrom before.lastSeq batch
      lastSeq := before.lastSeq + batch.length } := by
  have above : ∀ old ∈ before.stored, ∀ new ∈ numberFrom before.lastSeq batch,
      old.seq < new.seq := by
    intro old old_mem new new_mem
    have := (formed.bounded old old_mem).2
    have := (numberFrom_seq_bounds new_mem).1
    omega
  exact { formed with
    sorted := pairwise_append.mpr ⟨formed.sorted, numberFrom_ascending _, above⟩
    bounded := by
      intro row mem
      rcases mem_append.mp mem with old | new
      · have := formed.bounded row old
        simp only
        omega
      · have := numberFrom_seq_bounds new
        simp only
        omega
    readable := by
      intro row mem
      rcases mem_append.mp mem with old | new
      · exact formed.readable row old
      · exact readable _ (event_mem_of_mem_numberFrom new)
    rows_stored := by
      intro row mem
      rcases mem_append.mp mem with old | new
      · exact mem_append_left _ (formed.rows_stored row old)
      · exact mem_append_right _ new
    rows_sorted := pairwise_append.mpr ⟨formed.rows_sorted, numberFrom_ascending _,
      fun old old_mem => above old (formed.rows_stored old old_mem)⟩
    page_stored := fun row mem => mem_append_left _ (formed.page_stored row mem)
    cursor := by
      have := formed.cursor
      simp only
      omega
    acked_le := by
      intro row mem
      obtain ⟨committed, passed⟩ := formed.acked_le row mem
      exact ⟨mem_append_left _ committed, passed⟩
    places := by
      intro row mem
      rcases mem_append.mp mem with old | new
      · rcases formed.places row old with held | elsewhere
        · exact Or.inl (mem_append_left _ held)
        · exact Or.inr elsewhere
      · exact Or.inl (mem_append_right _ new) }

theorem delete {lost : List SpooledEvent} (kept : rows.Sublist before.rows)
    (grown : ∀ row ∈ before.lost, row ∈ lost)
    (moved : ∀ row ∈ before.rows, row ∈ rows ∨ row ∈ lost) :
    WellFormed codec { before with rows, lost } :=
  { formed with
    rows_stored := fun row mem => formed.rows_stored row (kept.subset mem)
    rows_sorted := formed.rows_sorted.sublist kept
    places := by
      intro row mem
      rcases formed.places row mem with held | acked | gone
      · exact (moved row held).imp_right Or.inr
      · exact Or.inr (Or.inl acked)
      · exact Or.inr (Or.inr (grown row gone)) }

theorem purge {seq : Nat} (purging : before.recv = .purging seq) : WellFormed codec { before with
      rows := before.rows.filter fun row => !decide (row.seq ≤ seq)
      acked := before.acked ++ before.rows.filter fun row => row.seq ≤ seq
      recv := .idle } :=
  { formed with
    rows_stored := fun row mem => formed.rows_stored row (mem_of_mem_filter mem)
    rows_sorted := formed.rows_sorted.filter _
    purging := by simp
    acked_le := by
      intro row mem
      rcases mem_append.mp mem with old | new
      · exact formed.acked_le row old
      · obtain ⟨held, passed⟩ := mem_filter.mp new
        refine ⟨formed.rows_stored row held, ?_⟩
        exact Nat.le_trans (of_decide_eq_true passed) (formed.purging purging)
    places := by
      intro row mem
      rcases formed.places row mem with held | acked | gone
      · by_cases passed : row.seq ≤ seq
        · refine Or.inr (Or.inl (mem_append_right _ ?_))
          exact mem_filter.mpr ⟨held, decide_eq_true passed⟩
        · refine Or.inl (mem_filter.mpr ⟨held, ?_⟩)
          simpa using passed
      · exact Or.inr (Or.inl (mem_append_left _ acked))
      · exact Or.inr (Or.inr gone) }

theorem ack {seq : Nat} {recv : RecvPc} (new : before.ackSeq < seq)
    (next : recv = .idle ∨ recv = .purging seq) :
    WellFormed codec { before with ackSeq := seq, recv } :=
  { formed with
    cursor := by
      have := formed.cursor
      simp only
      omega
    purging := by
      intro other purging
      rcases next with rfl | rfl
      · cases purging
      · cases purging
        exact Nat.le_refl _
    acked_le := by
      intro row mem
      obtain ⟨committed, passed⟩ := formed.acked_le row mem
      exact ⟨committed, Nat.le_trans passed (Nat.le_of_lt new)⟩ }

theorem rewind : WellFormed codec { before with
      sendSeq := before.ackSeq
      generation := before.generation + 1 } :=
  { formed with
    gen_le := fun gen mem => Nat.le_succ_of_le (formed.gen_le gen mem)
    cursor := Or.inr (Nat.le_refl _) }

/-- The drain goes on to a point that holds no page. -/
theorem turn (pc : DrainPc) (empty : pc.rows = [])
    (gen_le : ∀ gen ∈ pc.gen, gen ≤ before.generation) :
    WellFormed codec { before with drain := pc } :=
  { formed with
    page_stored := by simp [empty]
    page_sorted := by simp [empty]
    read_event := by
      intro gen attachedAt row event rest sending
      subst sending
      cases empty
    gen_le }

theorem read {attachedAt : Int} (reading : before.drain = .reading cursor gen attachedAt) :
    WellFormed codec { before with
      drain := .page gen attachedAt
        ((before.rows.filter fun row => cursor < row.seq).take limit) } := by
  have earlier := formed.gen_le gen
  rw [reading] at earlier
  exact { formed with
    page_stored := by
      intro row mem
      exact formed.rows_stored row (mem_of_mem_filter (mem_of_mem_take mem))
    page_sorted := (formed.rows_sorted.filter _).sublist (take_sublist _ _)
    read_event := by simp
    gen_le := by simpa [DrainPc.gen] using earlier }

/-- A committed row can be read back, so the drain skips none. -/
theorem not_unreadable {attachedAt : Int} {row : SpooledEvent} {rest : List SpooledEvent}
    (page : before.drain = .page gen attachedAt (row :: rest)) :
    codec.unmarshal row.event.payload ≠ none := by
  have read := formed.readable row (formed.page_stored row (by rw [page]; exact mem_cons_self))
  exact Option.isSome_iff_ne_none.mp read

theorem clear {attachedAt : Int} {row : SpooledEvent} {event : AgentEvent}
    {rest : List SpooledEvent}
    (page : before.drain = .page before.generation attachedAt (row :: rest))
    (readable : codec.unmarshal row.event.payload = some event) : WellFormed codec { before with
      drain := .sending before.generation attachedAt row event rest } := by
  have stored := formed.page_stored
  have sorted := formed.page_sorted
  rw [page] at stored sorted
  exact { formed with
    page_stored := stored
    page_sorted := sorted
    read_event := by
      intro gen instant other found left sending
      cases sending
      exact readable
    gen_le := by simp [DrainPc.gen] }

theorem send {attachedAt : Int} {row : SpooledEvent} {event : AgentEvent}
    {rest : List SpooledEvent} (sending : before.drain = .sending gen attachedAt row event rest) :
    WellFormed codec { before with drain := .advancing gen attachedAt row rest } := by
  have stored := formed.page_stored
  have sorted := formed.page_sorted
  have earlier := formed.gen_le gen
  rw [sending] at stored sorted earlier
  exact { formed with
    page_stored := stored
    page_sorted := sorted
    read_event := by simp
    gen_le := by simpa [DrainPc.gen] using earlier }

theorem advance {attachedAt : Int} {row : SpooledEvent} {rest : List SpooledEvent}
    (advancing : before.drain = .advancing before.generation attachedAt row rest) :
    WellFormed codec { before with
      sendSeq := row.seq
      drain := .page before.generation attachedAt rest } := by
  have stored := formed.page_stored
  have sorted := formed.page_sorted
  rw [advancing] at stored sorted
  exact { formed with
    page_stored := fun other mem => stored other (mem_cons_of_mem row mem)
    page_sorted := (pairwise_cons.mp sorted).2
    read_event := by simp
    gen_le := by simp [DrainPc.gen]
    cursor := Or.inl (formed.bounded row (stored row mem_cons_self)).2 }

end Actions

theorem step (formed : WellFormed codec before) (step : Step codec cause before after) :
    WellFormed codec after := by
  cases step with
  | stay => exact formed
  | unnumbered => exact { formed with }
  | append _ readable => exact formed.append readable
  | delete _ _ kept grown moved =>
    exact formed.delete kept grown fun row mem => (moved row mem).imp_right And.left
  | purge _ purging => exact formed.purge purging
  | release => exact { formed with purging := by simp }
  | rewind => exact formed.rewind
  | ack _ _ _ new next => exact formed.ack new next
  | park _ parked =>
    exact formed.turn _ (DrainPc.rows_of_parked parked) (by simp [DrainPc.gen_of_parked parked])
  | attach => exact { formed.turn .attaching rfl (by simp [DrainPc.gen]) with }
  | start => exact (formed.turn .waiting rfl (by simp [DrainPc.gen])).rewind
  | capture => exact formed.turn _ rfl (by simp [DrainPc.gen])
  | read _ _ _ _ reading => exact formed.read reading
  | skip _ _ _ page unreadable => exact absurd unreadable (formed.not_unreadable page)
  | clear _ _ _ _ page readable => exact formed.clear page readable
  | send _ _ _ _ _ sending => exact { formed.send sending with }
  | advance _ _ _ advancing => exact formed.advance advancing

end WellFormed

/-! ## Pacing on one stream -/

/-- No stored row lies between the row in hand and those after it on the page. -/
def Gapless (replay : Replay) (row : SpooledEvent) (rest : List SpooledEvent) : Prop :=
  ∀ later ∈ rest, ∀ other ∈ replay.rows, other.seq < later.seq →
    other.seq ≤ row.seq ∨ other ∈ rest

/-- The cursor is below the row in hand, or a rewind has put it back on an acknowledgement. -/
def Behind (replay : Replay) (gen : Nat) (row : SpooledEvent) : Prop :=
  (replay.generation = gen → replay.sendSeq < row.seq) ∧
    (replay.generation ≠ gen → ∀ other ∈ replay.rows, other.seq ≤ replay.sendSeq →
      other.seq ≤ replay.ackSeq)

/-- What the drain knows about the stored rows at the point it has reached. -/
def PacedAt (replay : Replay) : DrainPc → Prop
  | .reading cursor gen _ => replay.generation = gen → replay.sendSeq = cursor
  | .page gen _ rows => replay.generation = gen → ∀ row ∈ rows, replay.sendSeq < row.seq ∧
      ∀ other ∈ replay.rows, other.seq < row.seq → other.seq ≤ replay.sendSeq ∨ other ∈ rows
  | .sending gen _ row _ rest =>
    (∀ other ∈ replay.rows, other.seq < row.seq →
      other.seq ≤ replay.ackSeq ∨ other.seq ≤ replay.lastSent) ∧
    replay.Gapless row rest ∧ replay.Behind gen row
  | .advancing gen _ row rest =>
    replay.lastSent = row.seq ∧ replay.Gapless row rest ∧ replay.Behind gen row
  | _ => True

/-- Stored rows the cursor has passed are acknowledged or were sent on this stream. -/
structure Paced (replay : Replay) : Prop where
  cursor : replay.drain.attached → ∀ row ∈ replay.rows, row.seq ≤ replay.sendSeq →
    row.seq ≤ replay.ackSeq ∨ row.seq ≤ replay.lastSent
  point : replay.PacedAt replay.drain

/-- Changes behind the drain's back: rows come with new sequences or go, the acknowledged mark
moves up. -/
structure Aside (before after : Replay) : Prop where
  drain : after.drain = before.drain
  sendSeq : after.sendSeq = before.sendSeq
  generation : after.generation = before.generation
  lastSent : after.lastSent = before.lastSent
  firsts : after.firsts = before.firsts
  ackSeq : before.ackSeq ≤ after.ackSeq
  rows : ∀ row ∈ after.rows, row ∈ before.rows ∨ before.lastSeq < row.seq

section Steps

variable {row : SpooledEvent}

variable (formed : WellFormed codec before)

include formed

theorem Aside.row_of_lt (aside : Aside before after)
    {bound : SpooledEvent} (mem : row ∈ after.rows) (committed : bound ∈ before.stored)
    (below : row.seq < bound.seq) : row ∈ before.rows := by
  rcases aside.rows row mem with old | new
  · exact old
  · have := (formed.bounded bound committed).2
    omega

theorem Aside.row_of_cursor (aside : Aside before after)
    (mem : row ∈ after.rows) (passed : row.seq ≤ before.sendSeq) :
    row ∈ before.rows ∨ row.seq ≤ before.ackSeq := by
  rcases aside.rows row mem with old | new
  · exact Or.inl old
  · have := formed.cursor
    right
    omega

theorem Paced.aside (paced : Paced before) (aside : Aside before after) : Paced after := by
  have gapless : ∀ {row rest}, (∀ other ∈ rest, other ∈ before.stored) →
      before.Gapless row rest → after.Gapless row rest := by
    intro row rest committed gap later later_mem other other_mem below
    have old := aside.row_of_lt formed other_mem (committed later later_mem) below
    exact gap later later_mem other old below
  have behind : ∀ {gen row}, before.Behind gen row → after.Behind gen row := by
    rintro gen row ⟨same_gen, rewound⟩
    refine ⟨by rw [aside.generation, aside.sendSeq]; exact same_gen, ?_⟩
    rw [aside.generation, aside.sendSeq]
    intro moved other other_mem passed
    have grown := aside.ackSeq
    rcases aside.row_of_cursor formed other_mem passed with old | acked
    · have := rewound moved other old passed
      omega
    · omega
  refine ⟨?_, ?_⟩
  · rw [aside.drain, aside.sendSeq, aside.lastSent]
    intro attached row mem passed
    have grown := aside.ackSeq
    rcases aside.row_of_cursor formed mem passed with old | acked
    · have := paced.cursor attached row old passed
      omega
    · omega
  · have point := paced.point
    have committed := formed.page_stored
    rw [aside.drain]
    generalize before.drain = pc at point committed ⊢
    cases pc with
    | reading =>
      simp only [PacedAt, aside.generation, aside.sendSeq]
      exact point
    | page =>
      simp only [PacedAt, aside.generation, aside.sendSeq]
      intro same row row_mem
      obtain ⟨above, gap⟩ := point same row row_mem
      refine ⟨above, ?_⟩
      intro other other_mem below
      exact gap other (aside.row_of_lt formed other_mem (committed row row_mem) below) below
    | sending _ _ row =>
      obtain ⟨ready, gap, back⟩ := point
      refine ⟨?_, gapless (fun other mem => committed other (mem_cons_of_mem row mem))
        gap, behind back⟩
      intro other other_mem below
      have old := aside.row_of_lt formed other_mem (committed row mem_cons_self) below
      have grown := aside.ackSeq
      have := ready other old below
      rw [aside.lastSent]
      omega
    | advancing _ _ row =>
      obtain ⟨last, gap, back⟩ := point
      exact ⟨by rw [aside.lastSent]; exact last,
        gapless (fun other mem => committed other (mem_cons_of_mem row mem)) gap,
        behind back⟩
    | _ => trivial

theorem Paced.rewind (paced : Paced before) :
    Paced { before with sendSeq := before.ackSeq, generation := before.generation + 1 } := by
  refine ⟨fun _ row _ passed => Or.inl passed, ?_⟩
  have point := paced.point
  have earlier := formed.gen_le
  have stale : ∀ {gen}, gen ≤ before.generation → ¬ before.generation + 1 = gen := by
    omega
  cases pc : before.drain with
  | reading _ gen | page gen =>
    rw [pc] at earlier
    intro same
    exact absurd same (stale (earlier gen rfl))
  | sending gen | advancing gen =>
    rw [pc] at point earlier
    obtain ⟨ready, gap, -⟩ := point
    exact ⟨ready, gap, fun same => absurd same (stale (earlier gen rfl)),
      fun _ other _ passed => passed⟩
  | _ => trivial

omit formed

theorem pacedAt_of_parked {replay : Replay} {pc : DrainPc} (parked : pc.parked) :
    replay.PacedAt pc := by
  cases pc <;> trivial

theorem page_gap {other : SpooledEvent} (sorted : rows.Pairwise (·.seq < ·.seq))
    (row_mem : row ∈ (rows.filter fun entry => cursor < entry.seq).take limit)
    (other_mem : other ∈ rows) (below : other.seq < row.seq) :
    other.seq ≤ cursor ∨ other ∈ (rows.filter fun entry => cursor < entry.seq).take limit := by
  by_cases passed : other.seq ≤ cursor
  · exact .inl passed
  · right
    refine mem_take_of_lt (sorted.filter _) row_mem (mem_filter.mpr ⟨other_mem, ?_⟩) below
    simpa using passed

section Actions

variable {attachedAt : Int} {event : AgentEvent} {rest : List SpooledEvent}

theorem Paced.read (paced : Paced before) (formed : WellFormed codec before)
    (reading : before.drain = .reading cursor gen attachedAt) : Paced { before with
      drain := .page gen attachedAt
        ((before.rows.filter fun row => cursor < row.seq).take limit) } := by
  have point := paced.point
  rw [reading] at point
  refine ⟨fun _ => paced.cursor (by rw [reading]; rfl), ?_⟩
  intro same row row_mem
  have at_cursor : before.sendSeq = cursor := point same
  have above := (mem_filter.mp (mem_of_mem_take row_mem)).2
  refine ⟨?_, ?_⟩
  · simp only [decide_eq_true_eq] at above
    simp only
    omega
  · intro other other_mem below
    rw [at_cursor]
    exact page_gap formed.rows_sorted row_mem other_mem below

theorem Paced.clear (paced : Paced before) (formed : WellFormed codec before)
    (page : before.drain = .page before.generation attachedAt (row :: rest)) :
    Paced { before with drain := .sending before.generation attachedAt row event rest } := by
  have point := paced.point
  have attached : before.drain.attached := by rw [page]; rfl
  have sorted := formed.page_sorted
  rw [page] at point sorted
  have here := point rfl
  have after_row := (pairwise_cons.mp sorted).1
  obtain ⟨above, gap⟩ := here row mem_cons_self
  refine ⟨fun _ => paced.cursor attached, ?_, ?_, fun _ => above, fun moved => absurd rfl moved⟩
  · intro other other_mem below
    rcases gap other other_mem below with passed | in_page
    · exact paced.cursor attached other other_mem passed
    rcases mem_cons.mp in_page with rfl | later
    · omega
    · have := after_row other later
      omega
  · intro later later_mem other other_mem below
    obtain ⟨-, gap_later⟩ := here later (mem_cons_of_mem row later_mem)
    rcases gap_later other other_mem below with passed | in_page
    · left
      omega
    · rcases mem_cons.mp in_page with rfl | rest_mem
      · exact Or.inl (Nat.le_refl _)
      · exact Or.inr rest_mem

theorem Paced.send (paced : Paced before)
    (sending : before.drain = .sending gen attachedAt row event rest) : Paced { before with
      lastSent := row.seq
      drain := .advancing gen attachedAt row rest } := by
  have point := paced.point
  rw [sending] at point
  obtain ⟨-, gap, same_gen, rewound⟩ := point
  refine ⟨?_, rfl, gap, same_gen, rewound⟩
  intro _ other other_mem passed
  simp only at passed ⊢
  by_cases same : before.generation = gen
  · right
    omega
  · exact Or.inl (rewound same other other_mem passed)

theorem Paced.advance (paced : Paced before) (formed : WellFormed codec before)
    (advancing : before.drain = .advancing before.generation attachedAt row rest) :
    Paced { before with
      sendSeq := row.seq
      drain := .page before.generation attachedAt rest } := by
  have point := paced.point
  have sorted := formed.page_sorted
  rw [advancing] at point sorted
  obtain ⟨last, gap, -⟩ := point
  refine ⟨?_, ?_⟩
  · intro _ other _ passed
    right
    simp only at passed ⊢
    omega
  · intro _ later later_mem
    exact ⟨(pairwise_cons.mp sorted).1 later later_mem, gap later later_mem⟩

end Actions

theorem Paced.step (paced : Paced before) (formed : WellFormed codec before)
    (step : Step codec cause before after) : Paced after := by
  cases step with
  | stay => exact paced
  | unnumbered | release =>
    exact paced.aside formed ⟨rfl, rfl, rfl, rfl, rfl, Nat.le_refl _, fun _ => Or.inl⟩
  | append =>
    refine paced.aside formed ⟨rfl, rfl, rfl, rfl, rfl, Nat.le_refl _, ?_⟩
    intro row mem
    rcases mem_append.mp mem with old | new
    · exact Or.inl old
    · exact Or.inr (numberFrom_seq_bounds new).1
  | delete _ _ kept =>
    exact paced.aside formed ⟨rfl, rfl, rfl, rfl, rfl, Nat.le_refl _,
      fun row mem => Or.inl (kept.subset mem)⟩
  | purge =>
    exact paced.aside formed ⟨rfl, rfl, rfl, rfl, rfl, Nat.le_refl _,
      fun row mem => Or.inl (mem_of_mem_filter mem)⟩
  | rewind => exact paced.rewind formed
  | ack _ _ _ new =>
    exact paced.aside formed ⟨rfl, rfl, rfl, rfl, rfl, Nat.le_of_lt new, fun _ => Or.inl⟩
  | park _ parked from_attached =>
    refine ⟨?_, pacedAt_of_parked parked⟩
    intro attached
    rcases from_attached with rfl | was
    · cases attached
    · exact paced.cursor was
  | attach =>
    refine ⟨?_, trivial⟩
    intro attached
    cases attached
  | start => exact ⟨fun _ row _ passed => Or.inl passed, trivial⟩
  | capture _ looping =>
    exact ⟨fun _ => paced.cursor (by rw [looping]; rfl), fun _ => rfl⟩
  | read _ _ _ _ reading => exact paced.read formed reading
  | skip _ _ _ page unreadable => exact absurd unreadable (formed.not_unreadable page)
  | clear _ _ _ _ page => exact paced.clear formed page
  | send _ _ _ _ _ sending => exact { paced.send sending with }
  | advance _ _ _ advancing => exact paced.advance formed advancing

end Steps

/-! ## First deliveries -/

/-- A stored row that was overtaken without being delivered is below every place the drain can
return to. -/
structure Passed (replay : Replay) (row : SpooledEvent) : Prop where
  acked : row.seq ≤ replay.ackSeq
  cursor : row.seq ≤ replay.sendSeq
  reading : ∀ {cursor gen attachedAt}, replay.drain = .reading cursor gen attachedAt →
    row.seq ≤ cursor
  page : ∀ later ∈ replay.drain.rows, row.seq < later.seq

/-- First deliveries are in the order of sequences. -/
structure InOrder (replay : Replay) : Prop where
  order : replay.firsts.Pairwise (·.seq < ·.seq)
  firsts_stored : ∀ row ∈ replay.firsts, row ∈ replay.stored
  /-- Rows in hand were delivered before or lie above all that were. -/
  ahead : ∀ row ∈ replay.drain.rows, row ∈ replay.firsts ∨
    ∀ first ∈ replay.firsts, first.seq < row.seq
  behind : ∀ row ∈ replay.rows, row ∉ replay.firsts →
    (∃ first ∈ replay.firsts, row.seq < first.seq) → replay.Passed row
  /-- The cursor passes an undelivered row only on an acknowledgement. -/
  cursor : ∀ row ∈ replay.rows, row ∉ replay.firsts → row.seq ≤ replay.sendSeq →
    row.seq ≤ replay.ackSeq
  reading : ∀ {cursor gen attachedAt}, replay.drain = .reading cursor gen attachedAt →
    (cursor ≤ replay.lastSeq ∨ cursor ≤ replay.ackSeq ∧ cursor ≤ replay.sendSeq) ∧
      ∀ row ∈ replay.rows, row ∉ replay.firsts → row.seq ≤ cursor →
        row.seq ≤ replay.ackSeq ∧ row.seq ≤ replay.sendSeq
  /-- Undelivered rows below the page are passed, those below a row of it are on it. -/
  gap : ∀ later ∈ replay.drain.rows, ∀ row ∈ replay.rows, row ∉ replay.firsts →
    row.seq < later.seq →
      row.seq ≤ replay.ackSeq ∧ row.seq ≤ replay.sendSeq ∨ row ∈ replay.drain.rows
  /-- A row that is about to be passed was delivered. -/
  delivered : ∀ {gen attachedAt row rest}, replay.drain = .advancing gen attachedAt row rest →
    row ∈ replay.firsts

namespace InOrder

variable (inOrder : InOrder before)

include inOrder

theorem aside (formed : WellFormed codec before)
    (aside : Aside before after) (lastSeq : before.lastSeq ≤ after.lastSeq)
    (stored : ∀ row ∈ before.stored, row ∈ after.stored) : InOrder after := by
  have grown := aside.ackSeq
  have old_of_lt : ∀ {row bound}, row ∈ after.rows → bound ∈ before.stored →
      row.seq < bound.seq → row ∈ before.rows := aside.row_of_lt formed
  exact
    { order := by
        rw [aside.firsts]
        exact inOrder.order
      firsts_stored := by
        rw [aside.firsts]
        exact fun row mem => stored row (inOrder.firsts_stored row mem)
      ahead := by
        rw [aside.drain, aside.firsts]
        exact inOrder.ahead
      behind := by
        rw [aside.firsts]
        rintro row mem new ⟨first, first_mem, below⟩
        have old := old_of_lt mem (inOrder.firsts_stored first first_mem) below
        have passed := inOrder.behind row old new ⟨first, first_mem, below⟩
        refine ⟨Nat.le_trans passed.acked grown, ?_, ?_, ?_⟩
        · rw [aside.sendSeq]
          exact passed.cursor
        · rw [aside.drain]
          exact passed.reading
        · rw [aside.drain]
          exact passed.page
      cursor := by
        rw [aside.firsts, aside.sendSeq]
        intro row mem new passed
        rcases aside.row_of_cursor formed mem passed with old | acked
        · have := inOrder.cursor row old new passed
          omega
        · omega
      reading := by
        rw [aside.drain, aside.firsts, aside.sendSeq]
        intro cursor gen attachedAt reading
        obtain ⟨bound, passed⟩ := inOrder.reading reading
        refine ⟨by omega, ?_⟩
        intro row mem new below
        rcases aside.rows row mem with old | fresh
        · have := passed row old new below
          omega
        · omega
      gap := by
        rw [aside.drain, aside.firsts, aside.sendSeq]
        intro later later_mem row mem new below
        have old := old_of_lt mem (formed.page_stored later later_mem) below
        rcases inOrder.gap later later_mem row old new below with passed | in_page
        · left
          omega
        · exact .inr in_page
      delivered := by
        rw [aside.drain, aside.firsts]
        exact inOrder.delivered }

theorem rewind :
    InOrder { before with sendSeq := before.ackSeq, generation := before.generation + 1 } :=
  { inOrder with
    behind := by
      intro row mem new overtaken
      have passed := inOrder.behind row mem new overtaken
      exact { passed with cursor := passed.acked }
    cursor := fun _ _ _ passed => passed
    reading := by
      intro cursor gen attachedAt reading
      obtain ⟨bound, passed⟩ := inOrder.reading reading
      refine ⟨by simp only; omega, ?_⟩
      intro row mem new below
      have := passed row mem new below
      exact ⟨this.1, this.1⟩
    gap := by
      intro later later_mem row mem new below
      rcases inOrder.gap later later_mem row mem new below with passed | in_page
      · exact .inl ⟨passed.1, passed.1⟩
      · exact .inr in_page }

theorem of_no_page (pc : DrainPc) (none_in_hand : pc.rows = [])
    (not_reading : ∀ cursor gen attachedAt, pc ≠ .reading cursor gen attachedAt) :
    InOrder { before with drain := pc } :=
  { inOrder with
    ahead := by simp [none_in_hand]
    behind := by
      intro row mem new overtaken
      have passed := inOrder.behind row mem new overtaken
      exact
        { acked := passed.acked
          cursor := passed.cursor
          reading := fun reading => absurd reading (not_reading _ _ _)
          page := by simp [none_in_hand] }
    reading := fun reading => absurd reading (not_reading _ _ _)
    gap := by simp [none_in_hand]
    delivered := by
      intro gen attachedAt row rest advancing
      simp only at advancing
      rw [advancing] at none_in_hand
      cases none_in_hand }

variable {attachedAt : Int} (formed : WellFormed codec before)

include formed

theorem read
    (limit : Nat) (reading : before.drain = .reading cursor gen attachedAt) : InOrder { before with
      drain := .page gen attachedAt
        ((before.rows.filter fun row => cursor < row.seq).take limit) } := by
  obtain ⟨-, below_cursor⟩ := inOrder.reading reading
  have in_table : ∀ row ∈ (before.rows.filter fun row => cursor < row.seq).take limit,
      row ∈ before.rows ∧ cursor < row.seq := by
    intro row mem
    have filtered := mem_filter.mp (mem_of_mem_take mem)
    simpa using filtered
  exact { inOrder with
    ahead := by
      intro row mem
      obtain ⟨held, above⟩ := in_table row mem
      by_cases known : row ∈ before.firsts
      · exact .inl known
      right
      intro first first_mem
      by_contra not_below
      have apart : first.seq ≠ row.seq := by
        intro same
        have equal := formed.eq_of_seq (inOrder.firsts_stored first first_mem)
          (formed.rows_stored row held) same
        exact known (equal ▸ first_mem)
      have passed := inOrder.behind row held known ⟨first, first_mem, by omega⟩
      have := passed.reading reading
      omega
    behind := by
      intro row mem new overtaken
      have passed := inOrder.behind row mem new overtaken
      refine ⟨passed.acked, passed.cursor, by simp, ?_⟩
      intro later later_mem
      have := (in_table later later_mem).2
      have := passed.reading reading
      omega
    reading := by simp
    gap := by
      intro later later_mem row mem new below
      rcases page_gap formed.rows_sorted later_mem mem below with passed | in_page
      · exact .inl (below_cursor row mem new passed)
      · exact .inr in_page
    delivered := by simp }

variable {row : SpooledEvent} {rest : List SpooledEvent}

theorem send {event : AgentEvent}
    (sending : before.drain = .sending gen attachedAt row event rest) : InOrder { before with
      wire := before.wire ++ [wireEvent attachedAt row event]
      lastSent := row.seq
      firsts := if row ∈ before.firsts then before.firsts else before.firsts ++ [row]
      drain := .advancing gen attachedAt row rest } := by
  have ahead := inOrder.ahead
  have gap := inOrder.gap
  have behind := inOrder.behind
  have committed := formed.page_stored
  have sorted := formed.page_sorted
  rw [sending] at ahead gap committed sorted
  have after_row := (pairwise_cons.mp sorted).1
  have least : ∀ later ∈ row :: rest, row.seq ≤ later.seq := by
    intro later mem
    rcases mem_cons.mp mem with rfl | in_rest
    · exact le_rfl
    · exact Nat.le_of_lt (after_row later in_rest)
  have passed_before : ∀ other ∈ before.rows, other ∉ before.firsts →
      (∃ first ∈ before.firsts, other.seq < first.seq) →
      other.seq ≤ before.ackSeq ∧ other.seq ≤ before.sendSeq ∧
        ∀ later ∈ row :: rest, other.seq < later.seq := by
    intro other mem new overtaken
    have passed := behind other mem new overtaken
    have page := passed.page
    rw [sending] at page
    exact ⟨passed.acked, passed.cursor, page⟩
  by_cases known : row ∈ before.firsts
  · rw [if_pos known]
    exact
      { order := inOrder.order
        firsts_stored := inOrder.firsts_stored
        ahead := ahead
        behind := by
          intro other mem new overtaken
          obtain ⟨acked, cursor, page⟩ := passed_before other mem new overtaken
          exact ⟨acked, cursor, by simp, page⟩
        cursor := inOrder.cursor
        reading := by simp
        gap := gap
        delivered := by
          intro gen' attachedAt' row' rest' advancing
          cases advancing
          exact known }
  · rw [if_neg known]
    have top : ∀ first ∈ before.firsts, first.seq < row.seq :=
      (ahead row mem_cons_self).resolve_left known
    exact
      { order := pairwise_snoc.mpr ⟨inOrder.order, top⟩
        firsts_stored := by
          intro first first_mem
          rcases mem_snoc.mp first_mem with old | rfl
          · exact inOrder.firsts_stored first old
          · exact committed first mem_cons_self
        ahead := by
          intro later later_mem
          rcases mem_cons.mp later_mem with rfl | in_rest
          · exact .inl (by simp)
          rcases ahead later later_mem with old | above
          · exact .inl (mem_append_left _ old)
          right
          intro first first_mem
          rcases mem_snoc.mp first_mem with old | rfl
          · exact above first old
          · exact after_row later in_rest
        behind := by
          rintro other mem new ⟨first, first_mem, below⟩
          have unknown : other ∉ before.firsts := fun old => new (mem_append_left _ old)
          rcases mem_snoc.mp first_mem with old | rfl
          · obtain ⟨acked, cursor, page⟩ := passed_before other mem unknown ⟨first, old, below⟩
            exact ⟨acked, cursor, by simp, page⟩
          rcases gap first mem_cons_self other mem unknown below with
            passed | in_page
          · refine ⟨passed.1, passed.2, by simp, ?_⟩
            intro later later_mem
            exact Nat.lt_of_lt_of_le below (least later later_mem)
          · have := least other in_page
            omega
        cursor := by
          intro other mem new passed
          exact inOrder.cursor other mem (fun old => new (mem_append_left _ old)) passed
        reading := by simp
        gap := by
          intro later later_mem other mem new below
          exact gap later later_mem other mem (fun old => new (mem_append_left _ old)) below
        delivered := by
          intro gen' attachedAt' row' rest' advancing
          cases advancing
          simp }

theorem advance (paced : Paced before)
    (advancing : before.drain = .advancing before.generation attachedAt row rest) :
    InOrder { before with
      sendSeq := row.seq
      drain := .page before.generation attachedAt rest } := by
  have known := inOrder.delivered advancing
  have ahead := inOrder.ahead
  have gap := inOrder.gap
  have committed := formed.page_stored
  have sorted := formed.page_sorted
  have point := paced.point
  rw [advancing] at ahead gap committed sorted point
  have after_row := (pairwise_cons.mp sorted).1
  obtain ⟨-, -, same_gen, -⟩ := point
  exact { inOrder with
    ahead := fun later mem => ahead later (mem_cons_of_mem row mem)
    behind := by
      intro other mem new overtaken
      have passed := inOrder.behind other mem new overtaken
      have page := passed.page
      rw [advancing] at page
      exact ⟨passed.acked, Nat.le_of_lt (page row mem_cons_self), by simp,
        fun later later_mem => page later (mem_cons_of_mem row later_mem)⟩
    cursor := by
      intro other mem new passed
      have apart : other.seq ≠ row.seq := by
        intro same
        have equal := formed.eq_of_seq (formed.rows_stored other mem)
          (committed row mem_cons_self) same
        exact new (equal ▸ known)
      simp only at passed
      rcases gap row mem_cons_self other mem new (by omega) with acked | in_page
      · exact acked.1
      rcases mem_cons.mp in_page with rfl | later
      · exact absurd rfl apart
      · have := after_row other later
        omega
    reading := by simp
    gap := by
      intro later later_mem other mem new below
      rcases gap later (mem_cons_of_mem row later_mem) other mem new below with
        passed | in_page
      · left
        simp only
        omega
      · rcases mem_cons.mp in_page with rfl | in_rest
        · exact absurd known new
        · exact Or.inr in_rest
    delivered := by simp }

theorem step (paced : Paced before) (step : Step codec cause before after) : InOrder after := by
  cases step with
  | stay => exact inOrder
  | unnumbered | release =>
    exact inOrder.aside formed ⟨rfl, rfl, rfl, rfl, rfl, Nat.le_refl _, fun _ => Or.inl⟩
      (Nat.le_refl _) fun _ => id
  | append =>
    refine inOrder.aside formed ⟨rfl, rfl, rfl, rfl, rfl, Nat.le_refl _, ?_⟩
      (Nat.le_add_right _ _) fun row mem => mem_append_left _ mem
    intro row mem
    rcases mem_append.mp mem with old | new
    · exact Or.inl old
    · exact Or.inr (numberFrom_seq_bounds new).1
  | delete _ _ kept =>
    exact inOrder.aside formed ⟨rfl, rfl, rfl, rfl, rfl, Nat.le_refl _,
      fun row mem => Or.inl (kept.subset mem)⟩ (Nat.le_refl _) fun _ => id
  | purge =>
    exact inOrder.aside formed ⟨rfl, rfl, rfl, rfl, rfl, Nat.le_refl _,
      fun row mem => Or.inl (mem_of_mem_filter mem)⟩ (Nat.le_refl _) fun _ => id
  | rewind => exact inOrder.rewind
  | ack _ _ _ new =>
    exact inOrder.aside formed ⟨rfl, rfl, rfl, rfl, rfl, Nat.le_of_lt new, fun _ => Or.inl⟩
      (Nat.le_refl _) fun _ => id
  | park pc parked =>
    apply inOrder.of_no_page pc (DrainPc.rows_of_parked parked)
    intro cursor gen attachedAt reading
    rw [reading] at parked
    cases parked
  | attach =>
    have left := inOrder.of_no_page .attaching rfl (by simp)
    exact { left with
      behind := fun row mem new overtaken =>
        { left.behind row mem new overtaken with } }
  | start =>
    have left := inOrder.rewind.of_no_page .waiting rfl (by simp)
    exact { left with
      behind := fun row mem new overtaken =>
        { left.behind row mem new overtaken with } }
  | capture =>
    exact { inOrder with
      ahead := by simp [DrainPc.rows]
      behind := by
        intro row mem new overtaken
        have passed := inOrder.behind row mem new overtaken
        refine ⟨passed.acked, passed.cursor, ?_, by simp [DrainPc.rows]⟩
        intro cursor gen instant reading
        cases reading
        exact passed.cursor
      reading := by
        intro cursor gen instant reading
        cases reading
        refine ⟨?_, ?_⟩
        · have := formed.cursor
          simp only
          omega
        · intro row mem new passed
          exact ⟨inOrder.cursor row mem new passed, passed⟩
      gap := by simp [DrainPc.rows]
      delivered := by simp }
  | read _ _ limit _ reading => exact inOrder.read formed limit reading
  | skip _ _ _ page unreadable => exact absurd unreadable (formed.not_unreadable page)
  | clear _ _ _ _ page =>
    have ahead := inOrder.ahead
    have gap := inOrder.gap
    rw [page] at ahead gap
    exact { inOrder with
      ahead := ahead
      behind := by
        intro other mem new overtaken
        have passed := inOrder.behind other mem new overtaken
        have in_page := passed.page
        rw [page] at in_page
        exact ⟨passed.acked, passed.cursor, by simp, in_page⟩
      reading := by simp
      gap := gap
      delivered := by simp }
  | send _ _ _ _ _ sending => exact inOrder.send formed sending
  | advance _ _ _ advancing => exact inOrder.advance formed paced advancing

end InOrder

end Replay

end Maintenant.Agent
