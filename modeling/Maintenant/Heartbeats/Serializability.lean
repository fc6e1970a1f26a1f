import Maintenant.Heartbeats.Alone
import Maintenant.Ledger
import Mathlib.Data.List.Permutation

/-!
# Concurrent heartbeat operations

Operations read a row, compute its new state columns and write them back.  Beside the tables we keep
what each thread has read and, for each heartbeat, a ledger: an operation takes effect on a
heartbeat when it writes the row, or when it reads that it has nothing to write there.  If the
columns that an operation uses are still those it read when it writes, then the status, the alert
state, the last ping, the failure counter and the next deadline are those of the operations run one
after the other in the order of the heartbeat's journal.
-/

namespace Maintenant.Heartbeats

open Agent (unix)
open HeartbeatStore Program Contract.Triple Ledger List Option Execution

/-- The columns that operations read and write. -/
structure Observed where
  status : HeartbeatStatus
  alertState : AlertState
  lastPingAt : Option Int
  consecutiveFailures : Nat
  nextDeadlineAt : Option Int
  deriving DecidableEq

def HeartbeatState.observe (state : HeartbeatState) : Observed where
  status := state.status
  alertState := state.alertState
  lastPingAt := state.lastPingAt
  consecutiveFailures := state.consecutiveFailures
  nextDeadlineAt := state.nextDeadlineAt

/-- The columns that only an edit changes. -/
def Heartbeat.card (h : Heartbeat) : HeartbeatId × String × Int × Int :=
  (h.id, h.pingToken, h.intervalSeconds, h.graceSeconds)

namespace HeartbeatStore

def observed (id : HeartbeatId) (store : HeartbeatStore) : Option Observed :=
  (store.getHeartbeatByID id).map fun h => h.observe

/-- The columns that only edits change, of all rows. -/
def cards (store : HeartbeatStore) : List (HeartbeatId × String × Int × Int) :=
  store.heartbeats.items.map Heartbeat.card

end HeartbeatStore

def replay (initial : HeartbeatStore) (ops : List Op) : HeartbeatStore :=
  ops.foldl (fun store op => op.perform store) initial

/-! ### The tables, watched -/

/-- The operation writes a row that it has read. -/
def Op.writes (h : Heartbeat) : Op → Bool
  | .pause _ _ => h.status ≠ .paused
  | .resume _ _ => h.status = .paused
  | _ => true

/-- The operation is refused before it reads anything. -/
def Op.refused : Op → Bool
  | .exitCodePing _ _ exitCode _ _ => !validExitCode exitCode
  | _ => false

/-- What the operation used of the row it read still holds of the row as it is now. -/
def Op.Fresh (read now : Heartbeat) : Op → Prop
  | .startPing _ _ =>
    now.alertState = read.alertState ∧ now.lastPingAt = read.lastPingAt ∧
      now.consecutiveFailures = read.consecutiveFailures
  | .exitCodePing _ _ exitCode _ _ =>
    exitCode = 0 ∨ now.consecutiveFailures = read.consecutiveFailures
  | .deadlinePass at_ =>
    now.overdue at_ ∧ now.lastPingAt = read.lastPingAt ∧
      now.nextDeadlineAt = read.nextDeadlineAt ∧
      now.consecutiveFailures = read.consecutiveFailures
  | .pause _ _ => now.status ≠ .paused
  | .resume _ _ => now.status = .paused
  | _ => True

instance (read now : Heartbeat) : DecidablePred (Op.Fresh read now)
  | .startPing .. | .deadlinePass _ => inferInstanceAs (Decidable (_ ∧ _))
  | .exitCodePing .. => inferInstanceAs (Decidable (_ ∨ _))
  | .pause .. => inferInstanceAs (Decidable (_ ≠ _))
  | .resume .. => inferInstanceAs (Decidable (_ = _))
  | .ping .. | .edit .. | .create .. | .delete _ => .isTrue trivial

/-- The heartbeat whose state columns the call writes. -/
def Call.target : {β : Type} → Call β → Option HeartbeatId
  | _, .updateHeartbeatState id _ => some id
  | _, .pauseHeartbeat id _ => some id
  | _, .resumeHeartbeat id _ _ => some id
  | _, _ => none

/-- The tables, what each thread has read and a ledger for each heartbeat. -/
structure Watched where
  store : HeartbeatStore
  /-- The rows that the operation of a thread has read. -/
  reads : Nat → List Heartbeat
  ledgers : HeartbeatId → Ledger Op

namespace Watched

def start (store : HeartbeatStore) : Watched where
  store := store
  reads _ := []
  ledgers _ := .empty

/-- An operation has read its rows; on the heartbeats that it will not write it takes effect now. -/
def seen (who : Nat) (op : Op) (rows : List Heartbeat) (state : Watched) : Watched :=
  { state with
    reads := Function.update state.reads who rows
    ledgers := fun id =>
      if id ∈ (rows.filter fun h => op.writes h).map Heartbeat.id then state.ledgers id
      else (state.ledgers id).commit who }

def written (who : Nat) (id : HeartbeatId) (state : Watched) : Watched :=
  { state with ledgers := Function.update state.ledgers id ((state.ledgers id).commit who) }

/-- What is kept of a call. -/
def note (who : Nat) (op : Op) : {β : Type} → Call β → Watched → Watched
  | _, .getHeartbeatByPingToken token, state =>
    state.seen who op (state.store.getHeartbeatByPingToken token).toList
  | _, .getHeartbeatByID id, state => state.seen who op (state.store.getHeartbeatByID id).toList
  | _, .listOverdueHeartbeats now, state =>
    state.seen who op (state.store.listOverdueHeartbeats now)
  | _, .updateHeartbeatState id _, state => state.written who id
  | _, .pauseHeartbeat id _, state => state.written who id
  | _, .resumeHeartbeat id _ _, state => state.written who id
  | _, _, state => state

def exec (who : Nat) (op : Op) {β : Type} (call : Call β) (state : Watched) : β × Watched :=
  let answered := Heartbeats.exec false call state.store
  (answered.1, { state.note who op call with store := answered.2 })

def enter (who : Nat) (op : Op) (state : Watched) : Watched :=
  { state with
    ledgers := fun id =>
      if op.refused then ((state.ledgers id).start who op).commit who
      else (state.ledgers id).start who op }

/-- At a write the columns that the operation uses are those it read. -/
def WritesFresh (who : Nat) (op : Op) (_ : Unit) {β : Type} (call : Call β) (state : Watched) :
    Prop :=
  ∀ id ∈ call.target, ∀ read ∈ state.reads who, read.id = id →
    ∀ h ∈ state.store.getHeartbeatByID id, op.Fresh read h

instance (who : Nat) (op : Op) (input : Unit) {β : Type} (call : Call β) (state : Watched) :
    Decidable (WritesFresh who op input call state) := by
  unfold WritesFresh
  infer_instance

/-- Any number of threads perform pings of all kinds, deadline passes, pauses and resumes. -/
def shop : Workshop Call Unit Watched Op where
  exec who op _ _ call state := exec who op call state
  enabled _ _ _ _ := true
  enter := enter
  code := Op.code
  may _ op := op.monitors
  mortal _ := false

end Watched

/-! ### Effects on the compared columns -/

variable {store other : HeartbeatStore} {id : HeartbeatId} {h read : Heartbeat} {op : Op}

theorem deadline_congr {left right : Heartbeat} (same : left.card = right.card) (now : Int) :
    left.deadline now = right.deadline now := by
  simp only [Heartbeat.card, Prod.mk.injEq] at same
  rw [Heartbeat.deadline, Heartbeat.deadline, same.2.2.1, same.2.2.2]

theorem effect_congr {left right : Heartbeat} (same : left.observe = right.observe)
    (card : left.card = right.card) : (op.effect left).observe = (op.effect right).observe := by
  have deadline := deadline_congr card
  simp only [HeartbeatState.observe, Observed.mk.injEq] at same
  obtain ⟨status, alert, last, failures, next⟩ := same
  cases op with
  | ping =>
    simp [Op.effect, Heartbeat.pinged, HeartbeatState.observe, Heartbeat.recovering, *]
  | startPing =>
    simp [Op.effect, Heartbeat.startPinged, HeartbeatState.observe, *]
  | exitCodePing _ _ exitCode =>
    by_cases valid : validExitCode exitCode
    · simp [Op.effect, Heartbeat.exitPinged, HeartbeatState.observe, *]
    · simp [Op.effect, HeartbeatState.observe, *]
  | deadlinePass now =>
    have overdue : left.overdue now = right.overdue now := by
      simp [Heartbeat.overdue, status, next]
    rw [Op.effect, Op.effect, overdue]
    split
    · simp [Heartbeat.missed, HeartbeatState.observe, *]
    · simp [HeartbeatState.observe, *]
  | pause | resume =>
    rw [Op.effect, Op.effect, status]
    split
    · simp [HeartbeatState.observe, *]
    · simp [HeartbeatState.observe, *]
  | _ => simp [Op.effect, HeartbeatState.observe, *]

/-- The operation writes with `UpdateHeartbeatState`. -/
def Op.updates : Op → Bool
  | .ping .. | .startPing .. | .exitCodePing .. | .deadlinePass _ => true
  | _ => false

theorem pinged_alertState (now : Int) : (h.pinged now).alertState = .normal := by
  rw [Heartbeat.pinged]
  split
  · rfl
  next calm =>
    refine AlertState.eq_normal ?_
    intro alerting
    exact calm (decide_eq_true (.inr alerting))

theorem exitPinged_alertState (now : Int) : (h.exitPinged now 0).alertState = .normal := by
  simp only [Heartbeat.exitPinged, if_true]
  split
  · rfl
  next calm => exact AlertState.eq_normal calm

theorem effect_of_fresh (updates : op.updates) (accepted : op.refused = false)
    (fresh : op.Fresh read h)
    (card : read.card = h.card) (overdue : ∀ now, op = .deadlinePass now → read.overdue now) :
    (op.effect read).observe = (op.effect h).observe := by
  have deadline := deadline_congr card
  cases op with
  | ping =>
    simp only [Op.effect, HeartbeatState.observe, pinged_alertState]
    simp [Heartbeat.pinged, deadline]
  | startPing =>
    obtain ⟨alert, last, failures⟩ := fresh
    simp [Op.effect, Heartbeat.startPinged, HeartbeatState.observe, *]
  | exitCodePing _ _ exitCode =>
    have valid : validExitCode exitCode := by simpa [Op.refused] using accepted
    by_cases success : exitCode = 0
    · subst success
      simp only [Op.effect, valid, if_true, HeartbeatState.observe, exitPinged_alertState]
      simp [Heartbeat.exitPinged, deadline]
    · have failures := fresh.resolve_left success
      simp [Op.effect, valid, Heartbeat.exitPinged, success, HeartbeatState.observe, deadline,
        failures]
  | deadlinePass =>
    obtain ⟨still, last, next, failures⟩ := fresh
    simp [Op.effect, Heartbeat.missed, HeartbeatState.observe, *]
  | _ => cases updates

/-! ### Rows with the same cards -/

theorem card_getHeartbeatByID : (store.getHeartbeatByID id).map Heartbeat.card =
      store.cards.find? fun card => card.1 = id := by
  rw [cards, find?_map]
  rfl

theorem card_getHeartbeatByPingToken (token : String) :
    (store.getHeartbeatByPingToken token).map Heartbeat.card =
      store.cards.find? fun card => card.2.1 = token := by
  rw [cards, find?_map]
  rfl

theorem addresses_congr (same : store.cards = other.cards) :
    op.addresses store id = op.addresses other id := by
  have any_card : ∀ found : Option Heartbeat,
      (found.any fun h => h.id = id) = (found.map Heartbeat.card).any fun card => card.1 = id := by
    intro found
    cases found with
    | none | some => rfl
  cases op with
  | deadlinePass => rfl
  | ping | startPing | exitCodePing =>
    simp only [Op.addresses, Op.finds, any_card, card_getHeartbeatByPingToken, same]
  | create => rfl
  | _ => simp only [Op.addresses, Op.finds, any_card, card_getHeartbeatByID, same]

@[simp] theorem card_row : (op.row store h).card = h.card := by
  rw [Op.row]
  split
  · rfl
  · rfl

theorem cards_perform (monitors : op.monitors) : (op.perform store).cards = store.cards := by
  rw [cards, items_perform monitors, List.map_map]
  exact map_congr_left fun _ _ => card_row

theorem observed_perform (monitors : op.monitors) (cards : other.cards = store.cards)
    (same : store.observed id = other.observed id) : (op.perform other).observed id =
      (store.getHeartbeatByID id).map fun h => (op.row store h).observe := by
  have same_card : (store.getHeartbeatByID id).map Heartbeat.card =
      (other.getHeartbeatByID id).map Heartbeat.card := by
    rw [card_getHeartbeatByID, card_getHeartbeatByID, cards]
  rw [observed, getHeartbeatByID_perform monitors]
  rw [observed, observed] at same
  cases here : store.getHeartbeatByID id with
  | none =>
    rw [here] at same
    rw [map_eq_none_iff.mp same.symm]
    rfl
  | some h =>
    rw [here] at same same_card
    cases there : other.getHeartbeatByID id with
    | none =>
      rw [there] at same
      cases same
    | some row =>
      rw [there] at same same_card
      simp only [map_some, some.injEq] at same same_card ⊢
      rw [Op.row, Op.row, addresses_congr cards,
        show row.id = h.id from congrArg Prod.fst same_card.symm]
      split
      · exact effect_congr same.symm same_card.symm
      · exact same.symm

/-! ### The contract of the threads -/

/-- The rows that the operation reads. -/
def Op.rows (store : HeartbeatStore) : Op → List Heartbeat
  | .deadlinePass now => store.listOverdueHeartbeats now
  | op => (op.finds store).toList

theorem mem_of_mem_rows (mem : h ∈ op.rows store) : h ∈ store.heartbeats := by
  cases op with
  | deadlinePass => exact (mem_filter.mp mem).1
  | _ =>
    simp only [Op.rows, mem_toList] at mem
    exact mem_of_finds mem

theorem mem_rows_of_addresses (targeted : op.targeted) (mem : h ∈ store.heartbeats)
    (addressed : op.addresses store h.id) : h ∈ op.rows store := by
  obtain ⟨found, finds, same⟩ : ∃ found, op.finds store = some found ∧ found.id = h.id := by
    cases op with
    | deadlinePass => cases targeted
    | _ => simpa [Op.addresses, Option.any_eq_true] using addressed
  obtain rfl := Keyed.eq_of_key (mem_of_finds finds) mem same
  cases op with
  | deadlinePass => cases targeted
  | _ => simp [Op.rows, finds]

theorem row_of_unwritten (mem : h ∈ store.heartbeats)
    (unwritten : h.id ∉ ((op.rows store).filter fun h => op.writes h).map Heartbeat.id) :
    op.row store h = h := by
  have unread : h ∈ op.rows store → op.writes h = false := by
    intro read
    by_contra written
    exact unwritten (mem_map_of_mem (mem_filter.mpr ⟨read, by simpa using written⟩))
  rw [Op.row]
  split
  swap
  · rfl
  rename_i addressed
  have same : op.effect h = h.toHeartbeatState := by
    by_cases targeted : op.targeted
    · have left := unread (mem_rows_of_addresses targeted mem addressed)
      cases op with
      | pause =>
        have paused : h.status = .paused := by simpa [Op.writes] using left
        simp [Op.effect, paused]
      | resume =>
        have running : h.status ≠ .paused := by simpa [Op.writes] using left
        simp [Op.effect, running]
      | edit | delete | create => rfl
      | _ => cases left
    · cases op with
      | deadlinePass now =>
        have timely : h.overdue now = false := by
          by_contra overdue
          have left := unread (mem_filter.mpr ⟨mem, by simpa using overdue⟩)
          cases left
        simp [Op.effect, timely]
      | create => rfl
      | _ => exact absurd rfl targeted
  rw [same]
  rfl

/-- The compared columns of every heartbeat are those that its journal gives. -/
structure Mirrors (initial : HeartbeatStore) (state : Watched) : Prop where
  cards : state.store.cards = initial.cards
  balanced : ∀ id, (state.ledgers id).Balanced
  replayed : ∀ id, state.store.observed id = (replay initial (state.ledgers id).journal).observed id
  replayedCards : ∀ id, (replay initial (state.ledgers id).journal).cards = initial.cards
  known : ∀ who, ∀ read ∈ state.reads who, read.card ∈ initial.cards

/-- What operations rely on and owe each other. -/
def agreement (initial : HeartbeatStore) : Contract Call Unit Watched Op where
  inv := Mirrors initial
  rely who before after :=
    after.reads who = before.reads who ∧
      ∀ id, (after.ledgers id).owed who = (before.ledgers id).owed who
  allowed := Watched.WritesFresh
  idle who state := ∀ id, (state.ledgers id).owed who = none
  refl _ _ := ⟨rfl, fun _ => rfl⟩
  trans := by
    rintro who first middle last ⟨reads, owed⟩ ⟨later_reads, later_owed⟩
    exact ⟨later_reads.trans reads, fun id => (later_owed id).trans (owed id)⟩

variable {initial : HeartbeatStore} {state : Watched} {who : Nat} {α β : Type}

theorem replay_concat (ops : List Op) :
    replay initial (ops ++ [op]) = op.perform (replay initial ops) := by
  rw [replay, foldl_append]
  rfl

theorem Mirrors.committed (mirrors : Mirrors initial state) (monitors : op.monitors)
    (owes : (state.ledgers id).owed who = some op) :
    (replay initial ((state.ledgers id).commit who).journal).cards = initial.cards ∧
      (replay initial ((state.ledgers id).commit who).journal).observed id =
        (state.store.getHeartbeatByID id).map fun h => (op.row state.store h).observe := by
  rw [journal_commit owes, replay_concat]
  have cards := mirrors.replayedCards id
  exact ⟨(cards_perform monitors).trans cards,
    observed_perform monitors (cards.trans mirrors.cards.symm) (mirrors.replayed id)⟩

/-- The operation has begun on every heartbeat. -/
def Begun (who : Nat) (op : Op) (state : Watched) : Prop :=
  ∀ id, (state.ledgers id).owed who = some op

/-- The operation has read these rows and has those left to write. -/
def Owes (who : Nat) (op : Op) (rows left : List Heartbeat) (state : Watched) : Prop :=
  state.reads who = rows ∧
    ∀ id, (state.ledgers id).owed who = if id ∈ left.map Heartbeat.id then some op else none

theorem begun_stable : (agreement initial).Stable who (Begun who op) := by
  rintro before after begun ⟨⟨-, owed⟩, -⟩ id
  rw [owed, begun id]

theorem owes_stable {rows left : List Heartbeat} :
    (agreement initial).Stable who (Owes who op rows left) := by
  rintro before after ⟨reads, owes⟩ ⟨⟨same, owed⟩, -⟩
  exact ⟨same.trans reads, fun id => (owed id).trans (owes id)⟩

theorem Mirrors.seen (mirrors : Mirrors initial state) (monitors : op.monitors)
    (begun : Begun who op state) : Mirrors initial (state.seen who op (op.rows state.store)) ∧
      Owes who op (op.rows state.store) ((op.rows state.store).filter fun h => op.writes h)
        (state.seen who op (op.rows state.store)) := by
  have ledger : ∀ id, (state.seen who op (op.rows state.store)).ledgers id =
      if id ∈ ((op.rows state.store).filter fun h => op.writes h).map Heartbeat.id then
        state.ledgers id
      else (state.ledgers id).commit who := fun _ => rfl
  refine ⟨⟨mirrors.cards, ?_, ?_, ?_, ?_⟩, ?_, ?_⟩
  · intro id
    rw [ledger]
    split
    · exact mirrors.balanced id
    · exact (mirrors.balanced id).commit
  · intro id
    rw [ledger]
    split
    · exact mirrors.replayed id
    rename_i unwritten
    rw [(mirrors.committed monitors (begun id)).2]
    change (state.store.getHeartbeatByID id).map _ = _
    cases found : state.store.getHeartbeatByID id with
    | none => rfl
    | some =>
      obtain ⟨mem, rfl⟩ := Keyed.lookup_eq_some.mp found
      simp only [map_some]
      rw [row_of_unwritten mem unwritten]
  · intro id
    rw [ledger]
    split
    · exact mirrors.replayedCards id
    · exact (mirrors.committed monitors (begun id)).1
  · intro reader read mem
    by_cases here : reader = who
    · subst here
      have in_rows : read ∈ op.rows state.store := by simpa [Watched.seen] using mem
      rw [← mirrors.cards]
      exact mem_map_of_mem (mem_of_mem_rows in_rows)
    · refine mirrors.known reader read ?_
      simpa [Watched.seen, here] using mem
  · simp [Watched.seen]
  · intro id
    rw [ledger]
    split
    · exact begun id
    · exact owed_commit_self

variable {after : HeartbeatStore} {change : Heartbeat → Heartbeat} {target : HeartbeatId}
  {keeps : ∀ h, (change h).id = h.id}

theorem getHeartbeatByID_modify
    (rows : after.heartbeats = (store.modify target change keeps).heartbeats) :
    after.getHeartbeatByID id =
      (store.getHeartbeatByID id).map fun h => if h.id = target then change h else h := by
  rw [getHeartbeatByID, rows]
  exact Keyed.lookup_update keeps id

theorem cards_modify (rows : after.heartbeats = (store.modify target change keeps).heartbeats)
    (card : ∀ h, (change h).card = h.card) : after.cards = store.cards := by
  rw [cards, rows]
  refine (List.map_map ..).trans ?_
  refine map_congr_left ?_
  intro h _
  simp only [Function.comp_apply]
  split
  · exact card h
  · rfl

theorem Mirrors.getHeartbeatByID_of_read (mirrors : Mirrors initial state)
    (read_mem : read ∈ state.reads who) :
    ∃ h, state.store.getHeartbeatByID read.id = some h ∧ read.card = h.card := by
  have here : read.card ∈ state.store.cards := mirrors.cards ▸ mirrors.known who read read_mem
  obtain ⟨row, mem, same⟩ := mem_map.mp here
  exact ⟨row, Keyed.lookup_eq_some.mpr ⟨mem, congrArg Prod.fst same⟩, same.symm⟩

/-- Writing a row that was read keeps the mirror, if the row becomes what the operation would make
of it now. -/
theorem Mirrors.written (mirrors : Mirrors initial state) (monitors : op.monitors)
    (owes : (state.ledgers read.id).owed who = some op) (addressed : op.addresses initial read.id)
    (rows : after.heartbeats = (state.store.modify read.id change keeps).heartbeats)
    (card : ∀ h, (change h).card = h.card)
    (effect : ∀ h, state.store.getHeartbeatByID read.id = some h →
      (change h).observe = (op.effect h).observe) :
    Mirrors initial { state.written who read.id with store := after } := by
  have ledger : ∀ id, ({ state.written who read.id with store := after } : Watched).ledgers id =
      if id = read.id then (state.ledgers read.id).commit who else state.ledgers id := by
    intro id
    simp only [Watched.written, Function.update_apply]
  have still : op.addresses state.store read.id := by
    rwa [addresses_congr mirrors.cards]
  refine ⟨(cards_modify rows card).trans mirrors.cards, ?_, ?_, ?_, mirrors.known⟩
  · intro id
    rw [ledger]
    split
    · exact (mirrors.balanced read.id).commit
    · exact mirrors.balanced id
  · intro id
    rw [ledger, observed, getHeartbeatByID_modify rows]
    split
    · rename_i here
      subst here
      rw [(mirrors.committed monitors owes).2]
      cases found : state.store.getHeartbeatByID read.id with
      | none => rfl
      | some h =>
        have same_id : h.id = read.id := (Keyed.lookup_eq_some.mp found).2
        simp only [map_some, same_id, if_true]
        rw [effect h found, Op.row, same_id, if_pos still]
        rfl
    · rename_i elsewhere
      rw [← mirrors.replayed id, observed]
      cases found : state.store.getHeartbeatByID id with
      | none => rfl
      | some h =>
        have same_id : h.id = id := (Keyed.lookup_eq_some.mp found).2
        simp [same_id, elsewhere]
  · intro id
    rw [ledger]
    split
    · exact (mirrors.committed monitors owes).1
    · exact mirrors.replayedCards id

/-! ### Calls -/

section Calls

open Watched (shop)

variable {rows left : List Heartbeat} {call : Call β} {next : β → Text α}
  {post : α → Watched → Prop}

theorem relies_written {other : Nat} (different : other ≠ who) :
    (agreement initial).rely other state { state.written who id with store := after } := by
  refine ⟨rfl, fun target => ?_⟩
  simp only [Watched.written, Function.update_apply]
  split
  next here => rw [here, owed_commit_of_ne different]
  · rfl

theorem relies_seen {other : Nat} (different : other ≠ who) :
    (agreement initial).rely other state (state.seen who op rows) := by
  refine ⟨?_, fun target => ?_⟩
  · simp [Watched.seen, different]
  simp only [Watched.seen]
  split
  · rfl
  · exact owed_commit_of_ne different

/-- What a thread does under the agreement. -/
abbrev Fulfils (initial : HeartbeatStore) (who : Nat) (op : Op) {α : Type} (pre : Watched → Prop)
    (program : Text α) := (agreement initial).Triple shop who op pre program

theorem triple_owes :
    Fulfils initial who op (Owes who op rows left) (.done ()) fun _ => Owes who op rows left :=
  done owes_stable fun _ _ holds => holds

theorem triple_aside (noted : ∀ state : Watched, state.note who op call = state)
    (aside : ∀ store, (Heartbeats.exec false call store).2.heartbeats = store.heartbeats)
    (rest : ∀ answer, Fulfils initial who op (Owes who op rows left) (next answer) post) :
    Fulfils initial who op (Owes who op rows left) (.call call next) post := by
  refine Contract.Triple.call (fun _ => Owes who op rows left) owes_stable ?_ rest
  intro now _ mirrors owes _ _
  have after : (shop.exec who op () call now).2 =
      { now with store := (exec false call now.store).2 } := by
    change (Watched.exec who op call now).2 = _
    rw [Watched.exec, noted]
  have cards : (exec false call now.store).2.cards = now.store.cards := by
    rw [cards, aside, cards]
  have observed : ∀ id, (exec false call now.store).2.observed id = now.store.observed id := by
    intro id
    rw [observed, getHeartbeatByID, aside]
    rfl
  rw [after]
  refine ⟨⟨cards.trans mirrors.cards, mirrors.balanced, ?_, mirrors.replayedCards, mirrors.known⟩,
    fun _ _ => ⟨rfl, fun _ => rfl⟩, owes⟩
  intro id
  rw [← mirrors.replayed id]
  exact observed id

theorem triple_read (monitors : op.monitors) (answer : HeartbeatStore → β)
    (execs : ∀ state, shop.exec who op () call state =
      (answer state.store, state.seen who op (op.rows state.store)))
    (rest : ∀ state, Mirrors initial state → Fulfils initial who op
      (Owes who op (op.rows state.store) ((op.rows state.store).filter fun h => op.writes h))
      (next (answer state.store)) post) :
    Fulfils initial who op (Begun who op) (.call call next) post := by
  refine Contract.Triple.call
    (fun reply after => ∃ before, Mirrors initial before ∧ reply = answer before.store ∧
      Owes who op (op.rows before.store) ((op.rows before.store).filter fun h => op.writes h) after)
    begun_stable ?_ ?_
  · intro now _ mirrors begun _ _
    obtain ⟨kept, owes⟩ := mirrors.seen monitors begun
    rw [execs]
    exact ⟨kept, fun _ different => relies_seen different, now, mirrors, rfl, owes⟩
  · rintro reply after inv ⟨before, mirrors, rfl, owes⟩
    exact rest before mirrors after inv owes

theorem triple_write (monitors : op.monitors) {call : Call Bool} {next : Bool → Text α}
    (read_mem : read ∈ rows) (target : call.target = some read.id)
    (addressed : op.addresses initial read.id) (apart : read.id ∉ left.map Heartbeat.id)
    (change : Heartbeat → Heartbeat) (keeps : ∀ h, (change h).id = h.id)
    (card : ∀ h, (change h).card = h.card)
    (execs : ∀ state : Watched, state.store.known read.id → ∃ after,
      shop.exec who op () call state = (true, { state.written who read.id with store := after }) ∧
        after.heartbeats = (state.store.modify read.id change keeps).heartbeats)
    (effect : ∀ h, op.Fresh read h → read.card = h.card →
      (change h).observe = (op.effect h).observe)
    (rest : Fulfils initial who op (Owes who op rows left) (next true) post) :
    Fulfils initial who op (Owes who op rows (read :: left)) (.call call next) post := by
  refine Contract.Triple.call
    (fun reply after => reply = true ∧ Owes who op rows left after) owes_stable ?_ ?_
  · rintro now ⟨⟩ mirrors ⟨reads, owes⟩ fresh _
    have reading : read ∈ now.reads who := reads ▸ read_mem
    have owed_here : (now.ledgers read.id).owed who = some op := by
      rw [owes, if_pos]
      exact mem_cons_self
    obtain ⟨h, found, same_card⟩ := mirrors.getHeartbeatByID_of_read reading
    have known : now.store.known read.id := by
      rw [HeartbeatStore.known, found]
      rfl
    obtain ⟨after, executed, written⟩ := execs now known
    rw [executed]
    refine ⟨?_, fun _ different => relies_written different, rfl, reads, ?_⟩
    · refine mirrors.written monitors owed_here addressed written card ?_
      intro row row_found
      cases found.symm.trans row_found
      exact effect h (fresh read.id target read reading rfl h found) same_card
    intro id
    simp only [Watched.written, Function.update_apply]
    by_cases here : id = read.id
    · subst here
      rw [if_pos rfl, owed_commit_self, if_neg apart]
    · rw [if_neg here, owes]
      simp [here]
  · rintro reply after inv ⟨rfl, owes⟩
    exact rest after inv owes

variable {now : Int}

theorem triple_endExecution {durationMs exitCode : Option Int}
    {outcome : ExecutionOutcome} {payload : Option Payload} :
    Fulfils initial who op (Owes who op rows left)
      (endExecution id now durationMs exitCode outcome payload)
      (fun _ => Owes who op rows left) := by
  refine triple_aside (fun _ => rfl) (fun _ => rfl) ?_
  intro answer
  match answer with
  | some (some current) =>
    refine triple_aside (fun _ => rfl) (fun _ => rfl) ?_
    exact fun _ => triple_owes
  | some none => exact triple_owes
  | none => exact triple_owes

variable (monitors : op.monitors) (updates : op.updates)
  (accepted : op.refused = false) (read_mem : read ∈ rows)
  (addressed : op.addresses initial read.id) (apart : read.id ∉ left.map Heartbeat.id)
  (overdue : ∀ now, op = .deadlinePass now → read.overdue now)
include monitors updates accepted read_mem addressed apart overdue

theorem triple_update {next : Bool → Text α}
    (rest : Fulfils initial who op (Owes who op rows left) (next true) post) :
    Fulfils initial who op (Owes who op rows (read :: left))
      (.call (.updateHeartbeatState read.id (op.effect read)) next) post := by
  refine triple_write monitors read_mem rfl addressed apart (Heartbeat.set (op.effect read))
    (fun _ => rfl) (fun _ => rfl) ?_ ?_ rest
  · intro state _
    exact ⟨_, rfl, rfl⟩
  · intro h fresh card
    exact effect_of_fresh updates accepted fresh card overdue

theorem triple_conclude {notice : Option Notice} :
    Fulfils initial who op (Owes who op rows (read :: left))
      (conclude read now (op.effect read) notice) (fun _ => Owes who op rows left) := by
  simp only [conclude, bind_eq, perform_bind]
  refine triple_update monitors updates accepted read_mem addressed apart overdue ?_
  have resumed : Fulfils initial who op (Owes who op rows left) (endPause read now)
      (fun _ => Owes who op rows left) := by
    rw [endPause]
    split
    · refine triple_aside (fun _ => rfl) (fun _ => rfl) ?_
      exact fun _ => triple_owes
    · exact triple_owes
  refine bind resumed fun _ => ?_
  cases notice with
  | none => exact triple_owes
  | some =>
    refine triple_aside (fun _ => rfl) (fun _ => rfl) ?_
    exact fun _ => triple_owes

end Calls

/-! ### Operations -/

section Operations

open Watched (shop)

variable {canStorePayload : Bool} {token : String} {payload : Option Payload} {now : Int}

/-- The operation of the thread has taken effect everywhere. -/
def Settled (who : Nat) (state : Watched) : Prop := ∀ id, (state.ledgers id).owed who = none

/-- A thread that performs the operation settles it. -/
abbrev Serves (initial : HeartbeatStore) (who : Nat) (op : Op) :=
  Fulfils initial who op (Begun who op) op.code fun _ => Settled who

variable {rows : List Heartbeat}

theorem triple_settled :
    Fulfils initial who op (Owes who op rows []) (.done ()) fun _ => Settled who :=
  done owes_stable fun _ _ owes id => owes.2 id

theorem addresses_of_mem_rows (cards : store.cards = initial.cards) (mem : h ∈ op.rows store) :
    op.addresses initial h.id := by
  rw [← addresses_congr cards]
  cases op with
  | deadlinePass => rfl
  | create => cases mem
  | _ =>
    simp only [Op.rows, mem_toList] at mem
    simp [Op.addresses, mem]

theorem triple_lookup {next : Option (Option Heartbeat) → Text Unit} (monitors : op.monitors)
    (targeted : op.targeted) {call : Call (Option (Option Heartbeat))}
    (execs : ∀ state, shop.exec who op () call state =
      (some (op.finds state.store), state.seen who op (op.rows state.store)))
    (missing : Fulfils initial who op (Owes who op [] []) (next (some none)) fun _ => Settled who)
    (unwritten : ∀ read, op.writes read = false → Fulfils initial who op
      (Owes who op [read] []) (next (some (some read))) fun _ => Settled who)
    (found : ∀ store read, op.finds store = some read → op.addresses initial read.id →
      op.writes read → Fulfils initial who op (Owes who op [read] [read])
        (next (some (some read))) fun _ => Settled who) :
    Fulfils initial who op (Begun who op) (.call call next) fun _ => Settled who := by
  have rows : ∀ store, op.rows store = (op.finds store).toList := by
    intro store
    cases op with
    | deadlinePass => cases targeted
    | _ => rfl
  refine triple_read monitors (fun store => some (op.finds store)) execs ?_
  intro state mirrors
  have addressed : ∀ h ∈ op.rows state.store, op.addresses initial h.id :=
    fun h mem => addresses_of_mem_rows mirrors.cards mem
  rw [rows] at addressed ⊢
  cases finds : op.finds state.store with
  | none => exact missing
  | some read =>
    simp only [toList_some, filter_cons]
    cases writes : op.writes read with
    | false => exact unwritten read writes
    | true =>
      refine found state.store read finds (addressed read ?_) writes
      simp [finds]

theorem heartbeats_writing {fails : Bool} (same : after.heartbeats = store.heartbeats) :
    (writing fails store after).2.heartbeats = store.heartbeats :=
  writing_cases (motive := fun now : HeartbeatStore => now.heartbeats = store.heartbeats) rfl
    fun _ => same

theorem triple_finish (monitors : op.monitors) (updates : op.updates)
    (accepted : op.refused = false) (targeted : op.targeted)
    (addressed : op.addresses initial read.id) {notice : Option Notice} :
    Fulfils initial who op (Owes who op [read] [read])
      (conclude read now (op.effect read) notice) fun _ => Settled who := by
  have overdue : ∀ now, op = .deadlinePass now → read.overdue now := by
    rintro now rfl
    cases targeted
  refine (triple_conclude monitors updates accepted (mem_singleton_self read) addressed
    not_mem_nil overdue).consequence (fun _ _ holds => holds) ?_
  exact fun _ _ _ owes id => owes.2 id

theorem triple_ping : Serves initial who (.ping canStorePayload token payload now) := by
  simp only [Serves, Op.code, processPing]
  refine triple_lookup rfl rfl (fun _ => rfl) triple_settled (by rintro _ ⟨⟩) ?_
  intro _ h _ addressed _
  refine triple_aside (fun _ => rfl) (fun _ => heartbeats_writing rfl) fun _ => ?_
  split
  · refine triple_endExecution.bind fun _ => ?_
    exact triple_finish rfl rfl rfl rfl addressed
  · refine triple_aside (fun _ => rfl) (fun _ => heartbeats_writing rfl) fun _ => ?_
    exact triple_finish rfl rfl rfl rfl addressed

theorem triple_startPing : Serves initial who (.startPing token now) := by
  simp only [Serves, Op.code, processStartPing, bind_eq, perform_bind]
  refine triple_lookup rfl rfl (fun _ => rfl) triple_settled (by rintro _ ⟨⟩) ?_
  intro _ h _ addressed _
  refine triple_aside (fun _ => rfl) (fun _ => heartbeats_writing rfl) fun _ => ?_
  refine triple_endExecution.bind fun _ => ?_
  refine triple_aside (fun _ => rfl) (fun _ => heartbeats_writing rfl) fun _ => ?_
  exact triple_finish rfl rfl rfl rfl addressed

theorem triple_exitCodePing {exitCode : Int} (valid : validExitCode exitCode) :
    Serves initial who (.exitCodePing canStorePayload token exitCode payload now) := by
  simp only [Serves, Op.code, processExitCodePing, valid]
  refine triple_lookup rfl rfl (fun _ => rfl) triple_settled (by rintro _ ⟨⟩) ?_
  intro _ h _ addressed _
  let op := Op.exitCodePing canStorePayload token exitCode payload now
  have accepted : op.refused = false := by simp [op, Op.refused, valid]
  have computed : h.exitPinged now exitCode = op.effect h := by simp [op, Op.effect, valid]
  have finish : ∀ notice, Fulfils initial who op (Owes who op [h] [h])
      (conclude h now (h.exitPinged now exitCode) notice) fun _ => Settled who := by
    intro notice
    rw [computed]
    exact triple_finish rfl rfl accepted rfl addressed
  refine triple_aside (fun _ => rfl) (fun _ => heartbeats_writing rfl) fun _ => ?_
  refine triple_aside (fun _ => rfl) (fun _ => rfl) fun current => ?_
  rcases current with _ | _ | current
  · exact triple_aside (fun _ => rfl) (fun _ => heartbeats_writing rfl) fun _ => finish _
  · exact triple_aside (fun _ => rfl) (fun _ => heartbeats_writing rfl) fun _ => finish _
  · exact triple_aside (fun _ => rfl) (fun _ => rfl) fun _ => finish _

theorem triple_missDeadline {left : List Heartbeat} (read_mem : read ∈ rows)
    (overdue : read.overdue now) (apart : read.id ∉ left.map Heartbeat.id) :
    Fulfils initial who (.deadlinePass now)
      (Owes who (.deadlinePass now) rows (read :: left)) (missDeadline now read)
      fun _ => Owes who (.deadlinePass now) rows left := by
  have computed : read.missed = (Op.deadlinePass now).effect read := by
    simp [Op.effect, overdue]
  have told : ∀ message, Fulfils initial who (.deadlinePass now)
      (Owes who (.deadlinePass now) rows left)
      (perform (.alertCallback read.id (.deadlineMissed message)))
      fun _ => Owes who (.deadlinePass now) rows left := by
    intro message
    refine triple_aside (fun _ => rfl) (fun _ => rfl) ?_
    exact fun _ => triple_owes
  simp only [missDeadline, bind_eq, perform_bind, computed]
  refine triple_update rfl rfl rfl read_mem rfl apart ?_ ?_
  · rintro _ ⟨⟩
    exact overdue
  dsimp only
  split
  · exact triple_endExecution.bind fun _ => told _
  · exact told _

theorem triple_deadlinePass : Serves initial who (.deadlinePass now) := by
  refine triple_read rfl (fun store => some (store.listOverdueHeartbeats now)) (fun _ => rfl) ?_
  intro state mirrors
  have all_written : ((state.store.listOverdueHeartbeats now).filter fun h =>
      (Op.deadlinePass now).writes h) = state.store.listOverdueHeartbeats now :=
    filter_eq_self.mpr fun _ _ => rfl
  have distinct : (state.store.listOverdueHeartbeats now).Pairwise fun left right =>
      left.id ≠ right.id :=
    state.store.heartbeats.distinct.filter _
  change Fulfils initial who _ (Owes who _ (state.store.listOverdueHeartbeats now)
    ((state.store.listOverdueHeartbeats now).filter _)) _ _
  rw [all_written]
  generalize overdue_rows : state.store.listOverdueHeartbeats now = rows at distinct ⊢
  have overdue : ∀ read ∈ rows, read.overdue now := by
    intro read mem
    exact (mem_filter.mp (overdue_rows ▸ mem)).2
  -- the items that are left are among the rows read and have distinct ids
  let loop (left : List Heartbeat) (state : Watched) : Prop :=
    ((∀ read ∈ left, read ∈ rows) ∧ left.Pairwise fun first second => first.id ≠ second.id) ∧
      Owes who (.deadlinePass now) rows left state
  have looped : Fulfils initial who (.deadlinePass now) (loop rows)
      (forEach (missDeadline now) rows) fun _ => loop [] := by
    refine forEach ?_ ?_
    · rintro before after ⟨facts, owes⟩ later
      exact ⟨facts, owes_stable before after owes later⟩
    rintro read left state inv ⟨⟨among, distinct⟩, owes⟩
    obtain ⟨apart, distinct⟩ := pairwise_cons.mp distinct
    obtain ⟨read_mem, among⟩ := forall_mem_cons.mp among
    have read_apart : read.id ∉ left.map Heartbeat.id := by
      rintro mem
      obtain ⟨other, other_mem, same⟩ := mem_map.mp mem
      exact apart other other_mem same.symm
    refine (triple_missDeadline read_mem (overdue read read_mem) read_apart state inv owes).mono ?_
    exact fun _ _ _ owes => ⟨⟨among, distinct⟩, owes⟩
  refine looped.consequence ?_ ?_
  · exact fun _ _ owes => ⟨⟨fun _ mem => mem, distinct⟩, owes⟩
  · exact fun _ _ _ settled id => settled.2.2 id

theorem triple_pause : Serves initial who (.pause id now) := by
  simp only [Serves, Op.code, pauseHeartbeat, bind_eq, perform_bind]
  refine triple_lookup rfl rfl (fun _ => rfl) triple_settled ?_ ?_
  · intro h unwritten
    have paused : ¬h.status ≠ .paused := of_decide_eq_false unwritten
    simp only [if_neg paused]
    exact triple_settled
  intro _ h found addressed written
  obtain rfl : h.id = id := (Keyed.lookup_eq_some.mp found).2
  have running : h.status ≠ .paused := of_decide_eq_true written
  simp only [if_pos running]
  refine triple_write rfl (mem_singleton_self h) rfl addressed not_mem_nil
    (fun h => { h with status := .paused, alertState := .normal, nextDeadlineAt := none })
    (fun _ => rfl) (fun _ => rfl) ?_ ?_ triple_settled
  · intro state known
    refine ⟨state.store.pauseHeartbeat h.id now, ?_, rfl⟩
    change Watched.exec who (.pause h.id now) (.pauseHeartbeat h.id now) state = _
    simp [Watched.exec, Heartbeats.exec, writing, known, Watched.note]
  · intro row fresh card
    simp only [Op.Fresh] at fresh
    simp [Op.effect, fresh]

theorem triple_resume : Serves initial who (.resume id now) := by
  simp only [Serves, Op.code, resumeHeartbeat, bind_eq, perform_bind]
  refine triple_lookup rfl rfl (fun _ => rfl) triple_settled ?_ ?_
  · intro h unwritten
    have running : ¬h.status = .paused := of_decide_eq_false unwritten
    simp only [if_neg running]
    exact triple_settled
  intro _ h found addressed written
  obtain rfl : h.id = id := (Keyed.lookup_eq_some.mp found).2
  have paused : h.status = .paused := of_decide_eq_true written
  simp only [if_pos paused]
  refine triple_write rfl (mem_singleton_self h) rfl addressed not_mem_nil
    (fun row => { row with status := .up, nextDeadlineAt := some (unix (h.deadline now)) })
    (fun _ => rfl) (fun _ => rfl) ?_ ?_ triple_settled
  · intro state _
    exact ⟨_, rfl, rfl⟩
  · intro row fresh card
    simp only [Op.Fresh] at fresh
    simp [Op.effect, fresh, deadline_congr card]

end Operations

/-! ### Runs -/

open Watched (shop)

theorem enter_ledgers : (state.enter who op).ledgers id =
      if op.refused then ((state.ledgers id).start who op).commit who
      else (state.ledgers id).start who op := rfl

theorem effect_of_refused (refused : op.refused) : op.perform store = store := by
  cases op with
  | exitCodePing =>
    exact perform_invalid (by simpa [Op.refused] using refused)
  | _ => cases refused

theorem Mirrors.enter (mirrors : Mirrors initial state) (idle : Settled who state) (op : Op) :
    Mirrors initial (state.enter who op) := by
  have journal : ∀ id, replay initial ((state.enter who op).ledgers id).journal =
      replay initial (state.ledgers id).journal := by
    intro id
    rw [enter_ledgers]
    split
    next refused =>
      rw [journal_commit owed_start_self, replay_concat, effect_of_refused refused]
      rfl
    · rfl
  refine ⟨mirrors.cards, ?_, ?_, ?_, mirrors.known⟩
  · intro id
    rw [enter_ledgers]
    split
    · exact ((mirrors.balanced id).start (idle id)).commit
    · exact (mirrors.balanced id).start (idle id)
  · intro id
    rw [journal]
    exact mirrors.replayed id
  · intro id
    rw [journal]
    exact mirrors.replayedCards id

theorem agreement_verified : (agreement initial).Verified shop where
  enter := by
    intro who op state _ mirrors idle
    refine ⟨mirrors.enter idle op, fun other different => ⟨rfl, fun id => ?_⟩⟩
    change ((state.enter who op).ledgers id).owed other = _
    rw [enter_ledgers]
    split
    · rw [owed_commit_of_ne different, owed_start_of_ne different]
    · exact owed_start_of_ne different
  code := by
    intro who op state may mirrors idle
    have entered := mirrors.enter idle op
    by_cases refused : op.refused
    · have settled : Settled who (state.enter who op) := by
        intro id
        rw [enter_ledgers, if_pos refused]
        exact owed_commit_self
      have code : shop.code op = .done () := by
        cases op with
        | exitCodePing _ _ exitCode =>
          have invalid : validExitCode exitCode = false := by simpa [Op.refused] using refused
          simp [shop, Op.code, processExitCodePing, invalid]
        | _ => cases refused
      rw [code]
      intro later passed id
      exact (passed.1.2 id).trans (settled id)
    · have begun : Begun who op (state.enter who op) := by
        intro id
        rw [enter_ledgers, if_neg refused]
        exact owed_start_self
      cases op with
      | ping => exact triple_ping _ entered begun
      | startPing => exact triple_startPing _ entered begun
      | exitCodePing _ _ exitCode =>
        have valid : validExitCode exitCode := by simpa [Op.refused] using refused
        exact triple_exitCodePing valid _ entered begun
      | deadlinePass => exact triple_deadlinePass _ entered begun
      | pause => exact triple_pause _ entered begun
      | resume => exact triple_resume _ entered begun
      | edit | create | delete => cases may
  mortal := nofun

theorem begun_note {call : Call β} :
    ((state.note who op call).ledgers id).begun = (state.ledgers id).begun := by
  have seen : ∀ rows, ((state.seen who op rows).ledgers id).begun = (state.ledgers id).begun := by
    intro rows
    simp only [Watched.seen]
    split
    · rfl
    · exact begun_commit
  have written : ∀ target, ((state.written who target).ledgers id).begun =
      (state.ledgers id).begun := by
    intro target
    simp only [Watched.written, Function.update_apply]
    split
    next here => rw [here, begun_commit]
    · rfl
  cases call with
  | getHeartbeatByPingToken | getHeartbeatByID | listOverdueHeartbeats => exact seen _
  | updateHeartbeatState | pauseHeartbeat | resumeHeartbeat => exact written _
  | _ => rfl

theorem begun_of_run {actions : List (Pool.Action Unit Op)} {pool after : Pool Call Watched Op}
    (execution : run (Pool.next shop) pool actions = some after) (id : HeartbeatId) :
    (after.shared.ledgers id).begun =
      (pool.shared.ledgers id).begun ++ Pool.operations actions := by
  refine Pool.record_of_run (fun state : Watched => (state.ledgers id).begun) ?_ ?_ execution
  · intro who op state
    change ((state.enter who op).ledgers id).begun = _
    rw [enter_ledgers]
    split
    · rw [begun_commit]
      rfl
    · rfl
  · intro who op _ β call state
    exact begun_note

/-- If all writes are of columns that have not changed since they were read, then when no operation
is in progress the columns of each heartbeat are those that some sequential order of the operations
gives. -/
theorem operations_serializable {initial : HeartbeatStore} {actions : List (Pool.Action Unit Op)}
    {pool : Pool Call Watched Op}
    (execution : run (Pool.next shop) (Pool.idle (.start initial)) actions = some pool)
    (fresh : Guarded (Pool.next shop) (Pool.Meets Watched.WritesFresh)
      (Pool.idle (.start initial)) actions) (quiescent : pool.Quiescent) (id : HeartbeatId) :
    ∃ order : List Op, order.Perm (Pool.operations actions) ∧
      pool.shared.store.observed id = (replay initial order).observed id := by
  have start : Mirrors initial (.start initial) :=
    ⟨rfl, fun _ => balanced_empty, fun _ => rfl, fun _ => rfl,
      fun _ _ mem => absurd mem not_mem_nil⟩
  have sound := Contract.Sound.run agreement_verified
    (Contract.Sound.initial start fun _ _ later id => later.1.2 id) fresh execution
  have settled : ∀ who, (pool.shared.ledgers id).owed who = none :=
    fun who => sound.idle (quiescent who) id
  have begun := begun_of_run execution id
  refine ⟨(pool.shared.ledgers id).journal, ?_, sound.inv.replayed id⟩
  have perm := (sound.inv.balanced id).journal_perm settled
  rw [begun] at perm
  exact perm

/-- A heartbeat that was last pinged at the epoch. -/
def pingedOnce : HeartbeatStore :=
  replay .empty [.create "token" "backup" 3600 300, .ping false "token" none 0]

/-- A deadline pass finds the heartbeat overdue and writes while a ping is under way. -/
def pingAfterPass : List (Pool.Action Unit Op) :=
  [.start 0 (.deadlinePass 4000000000000), .step 0 (),
    .start 1 (.ping false "token" none 4001000000000), .step 1 (), .step 0 (), .step 0 (),
    .step 1 (), .step 1 (), .step 1 ()]

theorem operations_serializable_ping_last :
    ∃ pool, run (Pool.next shop) (Pool.idle (.start pingedOnce)) pingAfterPass = some pool ∧
      ∃ order : List Op, order.Perm (Pool.operations pingAfterPass) ∧
        pool.shared.store.observed 0 = (replay pingedOnce order).observed 0 := by
  refine ⟨_, rfl, operations_serializable rfl (by decide) ?_ 0⟩
  intro who
  match who with
  | 0 => rfl
  | 1 => rfl
  | who + 2 => rfl

/-- A deadline pass finds the heartbeat overdue, a ping comes and goes, and then the pass writes. -/
def pingDuringPass : List (Pool.Action Unit Op) :=
  [.start 0 (.deadlinePass 4000000000000), .step 0 (),
    .start 1 (.ping false "token" none 4001000000000), .step 1 (), .step 1 (), .step 1 (),
    .step 1 (), .step 0 (), .step 0 ()]

/-- The heartbeat is left down with its old last ping, which neither order of the two gives. -/
theorem late_pass_overwrites_ping : ∃ pool,
      run (Pool.next shop) (Pool.idle (.start pingedOnce)) pingDuringPass = some pool ∧
        pool.Quiescent ∧ ∀ order : List Op, order.Perm (Pool.operations pingDuringPass) →
          pool.shared.store.observed 0 ≠ (replay pingedOnce order).observed 0 := by
  refine ⟨_, rfl, ?_, ?_⟩
  · intro who
    match who with
    | 0 => rfl
    | 1 => rfl
    | who + 2 => rfl
  · intro order perm
    rcases perm_pair.mp perm with rfl | rfl
    · decide
    · decide

end Maintenant.Heartbeats
