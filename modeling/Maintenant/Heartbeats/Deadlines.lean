import Maintenant.Heartbeats.Bookkeeping

/-!
# Deadlines

Pings of every kind and resumes re-arm a heartbeat: its deadline becomes their time plus interval
and grace.  An edit moves the deadline with its window.  Operations run one after the other
therefore keep a closed form: a heartbeat that is up or started is due one window, as it is now,
after the operation that re-armed it last, and a deadline pass takes it down once that has passed.
-/

namespace Maintenant.Heartbeats

open Agent (unix unix_add_seconds)
open HeartbeatStore Option Keyed

variable {store : HeartbeatStore} {id : HeartbeatId} {h row : Heartbeat} {armed : Option Int}

/-- When the operation re-arms a heartbeat that it addresses, in whole seconds. -/
def Op.rearms (h : Heartbeat) : Op → Option Int
  | .ping _ _ _ now | .startPing _ now => some (unix now)
  | .exitCodePing _ _ exitCode _ now => if validExitCode exitCode then some (unix now) else none
  | .resume _ now => if h.status = .paused then some (unix now) else none
  | _ => none

/-- The tables, and when each heartbeat was re-armed last. -/
structure Watch where
  store : HeartbeatStore
  /-- When the heartbeat was re-armed last, if ever. -/
  armed : HeartbeatId → Option Int

namespace Watch

def initial : Watch := ⟨.empty, fun _ => none⟩

/-- Run an operation and note which heartbeats it re-arms. -/
def perform (watch : Watch) (op : Op) : Watch where
  store := op.perform watch.store
  armed id :=
    ((watch.store.getHeartbeatByID id).bind fun h =>
      if op.addresses watch.store id then op.rearms h else none).or (watch.armed id)

/-- Operations one after the other, from an empty database. -/
def after (ops : List Op) : Watch := ops.foldl perform initial

end Watch

/-! ### One row -/

/-- The window of a heartbeat: how long it may be silent. -/
def Heartbeat.window (h : Heartbeat) : Int := h.intervalSeconds + h.graceSeconds

/-- The deadline of a row is the one its last arming gives it. -/
structure Timed (armed : Option Int) (h : Heartbeat) : Prop where
  /-- A heartbeat that is watched is due one window after it was armed. -/
  due : h.status = .up ∨ h.status = .started →
    ∃ at_ ∈ armed, h.nextDeadlineAt = some (at_ + h.window)
  /-- A heartbeat that was never pinged was never armed. -/
  unarmed : h.status = .new → armed = none

variable {now : Int}

theorem unix_deadline : unix (h.deadline now) = unix now + h.window :=
  unix_add_seconds now _

theorem Timed.of_armed (watched : row.status ≠ .new)
    (deadline : row.nextDeadlineAt = some (unix now + row.window)) :
    Timed (some (unix now)) row where
  due _ := ⟨unix now, rfl, deadline⟩
  unarmed new := absurd new watched

theorem Timed.of_unwatched (unwatched : row.status = .down ∨ row.status = .paused) :
    Timed armed row where
  due watched := by
    rcases unwatched with down | paused
    · simp [down] at watched
    · simp [paused] at watched
  unarmed new := by simp [new] at unwatched

variable {op : Op}

theorem Timed.effect (timed : Timed armed h) :
    Timed ((op.rearms h).or armed) (h.set (op.effect h)) := by
  cases op with
  | ping _ _ _ now | startPing _ now =>
    exact .of_armed (by rintro ⟨⟩) (congrArg some unix_deadline)
  | exitCodePing _ _ exitCode =>
    by_cases valid : validExitCode exitCode
    · simp only [Op.rearms, Op.effect, valid]
      exact .of_armed (by rintro ⟨⟩) (congrArg some unix_deadline)
    · simp only [Op.rearms, Op.effect, valid]
      exact timed
  | deadlinePass =>
    simp only [Op.effect]
    split
    · exact .of_unwatched (.inl rfl)
    · exact timed
  | pause =>
    simp only [Op.effect]
    split
    · exact timed
    · exact .of_unwatched (.inr rfl)
  | resume =>
    by_cases paused : h.status = .paused
    · simp only [Op.rearms, Op.effect, paused]
      exact .of_armed (by rintro ⟨⟩) (congrArg some unix_deadline)
    · simp only [Op.rearms, Op.effect, paused]
      exact timed
  | edit | create | delete => exact timed

theorem Timed.edit (timed : Timed armed h) {input : UpdateHeartbeatInput} :
    Timed armed (h.edit input) where
  due watched := by
    obtain ⟨at_, arming, deadline⟩ := timed.due watched
    refine ⟨at_, arming, ?_⟩
    have watched : h.status = .up ∨ h.status = .started := watched
    simp only [Heartbeat.edit, Heartbeat.window, watched, deadline, map_some]
    split
    · congr 1
      omega
    next unchanged =>
      obtain ⟨interval, grace⟩ : input.intervalSeconds = none ∧ input.graceSeconds = none := by
        simpa using unchanged
      simp [interval, grace]
  unarmed new := timed.unarmed new

/-! ### All rows -/

theorem nextId_le_exec {β : Type} {call : Call β} {fails : Bool} :
    store.nextId ≤ (exec fails call store).2.nextId := by
  have written : ∀ (refused : Bool) (after : HeartbeatStore), store.nextId ≤ after.nextId →
      store.nextId ≤ (Program.writing refused store after).2.nextId :=
    fun _ _ later => Program.writing_cases
      (motive := fun now : HeartbeatStore => store.nextId ≤ now.nextId) le_rfl fun _ => later
  cases call with
  | createHeartbeat | insertExecution => exact written _ _ (Nat.le_succ _)
  | getHeartbeatByPingToken | getHeartbeatByID | listOverdueHeartbeats | getCurrentExecution
  | alertCallback => exact Nat.le_refl _
  | _ => exact written _ _ (Nat.le_refl _)

theorem nextId_le_perform : store.nextId ≤ (op.perform store).nextId := by
  let given (after : HeartbeatStore) : Prop := store.nextId ≤ after.nextId
  have calls : op.code.Uses fun _ => True := Program.uses_of_forall fun _ => trivial
  have ensured : op.code.Ensures exec (fun _ _ _ _ => True) (fun _ => given) store := by
    refine calls.ensures ?_ (Nat.le_refl _)
    intro γ call _ fails before kept
    exact Nat.le_trans kept nextId_le_exec
  exact ensured.run _ fun _ _ _ _ => trivial

theorem row_of_not_monitors (other : op.monitors = false) : op.row store h = h := by
  rw [Op.row]
  split
  · cases op with
    | edit | create | delete => rfl
    | _ => cases other
  · rfl

theorem exists_of_mem_perform (mem : row ∈ (op.perform store).heartbeats) :
    (∃ h ∈ store.heartbeats, row = op.row store h) ∨
      (∃ h ∈ store.heartbeats, ∃ input, op = .edit h.id input ∧ row = h.edit input) ∨
      (row.status = .new ∧ row.id = store.nextId) := by
  cases monitors : op.monitors with
  | true =>
    rw [Keyed.mem_def, items_perform monitors] at mem
    obtain ⟨h, old, rfl⟩ := List.mem_map.mp mem
    exact Or.inl ⟨h, old, rfl⟩
  | false =>
    have kept : row ∈ store.heartbeats → ∃ h ∈ store.heartbeats, row = op.row store h :=
      fun old => ⟨row, old, (row_of_not_monitors monitors).symm⟩
    cases op with
    | edit id input =>
      cases found : store.getHeartbeatByID id with
      | none =>
        have missing : (Op.edit id input).finds store = none := found
        rw [perform_of_not_found rfl missing] at mem
        exact Or.inl (kept mem)
      | some =>
        rw [perform_edit found] at mem
        split at mem
        · rcases (mem_update (by exact fun _ => rfl)).mp mem with
            ⟨old, -⟩ | ⟨old, old_mem, same, rfl⟩
          · exact Or.inl (kept old)
          · exact Or.inr (Or.inl ⟨old, old_mem, input, by rw [same], rfl⟩)
        · exact Or.inl (kept mem)
    | create =>
      rw [perform_create] at mem
      split at mem
      · rcases mem_insert.mp mem with ⟨old, -⟩ | rfl
        · exact Or.inl (kept old)
        · exact Or.inr (Or.inr ⟨rfl, rfl⟩)
      · exact Or.inl (kept mem)
    | delete id =>
      cases found : store.getHeartbeatByID id with
      | none =>
        have missing : (Op.delete id).finds store = none := found
        rw [perform_of_not_found rfl missing] at mem
        exact Or.inl (kept mem)
      | some =>
        rw [perform_delete found] at mem
        exact Or.inl (kept (mem_erase.mp mem).1)
    | _ => cases monitors

namespace Watch

variable {watch : Watch}

/-- Every row has the deadline its last arming gives it. -/
structure Punctual (watch : Watch) : Prop where
  sane : watch.store.Sane
  timed : ∀ h ∈ watch.store.heartbeats, Timed (watch.armed h.id) h
  given : ∀ id, watch.armed id ≠ none → id < watch.store.nextId

theorem armed_perform (mem : h ∈ watch.store.heartbeats) : (watch.perform op).armed h.id =
      (if op.addresses watch.store h.id then op.rearms h else none).or (watch.armed h.id) := by
  have found : watch.store.getHeartbeatByID h.id = some h :=
    lookup_eq_some.mpr ⟨mem, rfl⟩
  simp only [perform, found, bind_some]

theorem armed_perform_of_unknown (unknown : ∀ h ∈ watch.store.heartbeats, h.id ≠ id) :
    (watch.perform op).armed id = watch.armed id := by
  have missing : watch.store.getHeartbeatByID id = none := lookup_eq_none.mpr unknown
  simp only [perform, missing, bind_none, none_or]

theorem Punctual.timed_row (punctual : watch.Punctual) (op : Op)
    (mem : h ∈ watch.store.heartbeats) :
    Timed ((watch.perform op).armed h.id) (op.row watch.store h) := by
  have timed := punctual.timed h mem
  rw [armed_perform mem, Op.row]
  split
  · exact timed.effect
  · exact timed

theorem Punctual.perform (punctual : watch.Punctual) : (watch.perform op).Punctual where
  sane := punctual.sane.perform
  timed := by
    intro row mem
    rcases exists_of_mem_perform mem with
      ⟨h, old, rfl⟩ | ⟨h, old, input, rfl, rfl⟩ | ⟨new, fresh⟩
    · rw [Op.row_id]
      exact punctual.timed_row op old
    · have timed := punctual.timed_row (.edit h.id input) old
      rw [row_of_not_monitors rfl] at timed
      exact timed.edit
    have unknown : ∀ h ∈ watch.store.heartbeats, h.id ≠ row.id := by
      intro h old
      rw [fresh]
      exact Nat.ne_of_lt (punctual.sane.given h old)
    have unarmed : watch.armed row.id = none := by
      by_contra armed
      exact Nat.ne_of_lt (punctual.given row.id armed) fresh
    rw [armed_perform_of_unknown unknown, unarmed]
    exact ⟨fun watched => by simp [new] at watched, fun _ => rfl⟩
  given := by
    intro id armed
    refine Nat.lt_of_lt_of_le ?_ nextId_le_perform
    cases found : watch.store.getHeartbeatByID id with
    | none =>
      rw [armed_perform_of_unknown (lookup_eq_none.mp found)] at armed
      exact punctual.given id armed
    | some h =>
      obtain ⟨mem, rfl⟩ := lookup_eq_some.mp found
      exact punctual.sane.given h mem

theorem Punctual.initial : Watch.initial.Punctual where
  sane := ⟨fun _ mem => absurd mem List.not_mem_nil,
    fun _ mem => absurd mem List.not_mem_nil, fun _ => Nat.zero_le 1⟩
  timed _ mem := absurd mem List.not_mem_nil
  given _ armed := absurd rfl armed

theorem punctual_after {ops : List Op} : (after ops).Punctual := by
  suffices all : ∀ watch : Watch, watch.Punctual → (ops.foldl perform watch).Punctual from
    all initial .initial
  induction ops with
  | nil => exact fun _ punctual => punctual
  | cons op ops ih => exact fun _ punctual => ih _ punctual.perform

end Watch

/-! ### The deadline pass -/

/-- A deadline pass at this time takes the heartbeat down, which was not down before. -/
def DeclaredDown (store : HeartbeatStore) (now : Int) (h : Heartbeat) : Prop :=
  h.status ≠ .down ∧
    ∃ row ∈ ((Op.deadlinePass now).perform store).getHeartbeatByID h.id, row.status = .down

theorem getHeartbeatByID_deadlinePass (mem : h ∈ store.heartbeats) :
    ((Op.deadlinePass now).perform store).getHeartbeatByID h.id =
      some ((Op.deadlinePass now).row store h) := by
  refine lookup_eq_some.mpr ⟨?_, Op.row_id⟩
  rw [Keyed.mem_def, items_deadlinePass]
  exact List.mem_map_of_mem mem

theorem declaredDown_iff_overdue (mem : h ∈ store.heartbeats) :
    DeclaredDown store now h ↔ h.overdue now := by
  rw [DeclaredDown, getHeartbeatByID_deadlinePass mem]
  simp only [Op.row, Op.effect, mem_some_iff, exists_eq_left']
  by_cases overdue : h.overdue now
  · simp only [overdue, iff_true]
    refine ⟨?_, rfl⟩
    simp only [Heartbeat.overdue] at overdue
    intro down
    simp [down] at overdue
  · rw [if_neg overdue]
    exact ⟨fun down => absurd down.2 down.1, fun late => absurd late overdue⟩

theorem Timed.overdue_iff (timed : Timed armed h) (now : Int) : h.overdue now ↔
      h.status ≠ .down ∧ h.status ≠ .paused ∧ ∃ at_ ∈ armed, at_ + h.window < unix now := by
  simp only [Heartbeat.overdue]
  cases status : h.status with
  | new => simp [timed.unarmed status]
  | down | paused => simp
  | up | started =>
    obtain ⟨at_, arming, deadline⟩ := timed.due (by simp [status])
    simp [mem_def.mp arming, deadline]

/-- A heartbeat that is up or started is due one window after the operation that re-armed it last,
and a deadline pass takes one down exactly when that has passed and it is not paused. -/
theorem due_one_window_after_arming (ops : List Op) (h : Heartbeat)
    (mem : h ∈ (Watch.after ops).store.heartbeats) : (h.status = .up ∨ h.status = .started →
      ∃ at_ ∈ (Watch.after ops).armed h.id,
        h.nextDeadlineAt = some (at_ + h.intervalSeconds + h.graceSeconds)) ∧
    ∀ now, DeclaredDown (Watch.after ops).store now h ↔ h.status ≠ .down ∧ h.status ≠ .paused ∧
        ∃ at_ ∈ (Watch.after ops).armed h.id,
          at_ + h.intervalSeconds + h.graceSeconds < unix now := by
  have timed := Watch.punctual_after.timed h mem
  constructor
  · intro watched
    obtain ⟨at_, arming, deadline⟩ := timed.due watched
    exact ⟨at_, arming, by rw [deadline, Heartbeat.window, Int.add_assoc]⟩
  · intro now
    rw [declaredDown_iff_overdue mem, timed.overdue_iff]
    simp only [Heartbeat.window, Int.add_assoc]

/-- A job that is pinged, edited and pinged for the start of a run is due one new window after the
start. -/
theorem due_one_window_after_start :
    let ops : List Op := [.create "token" "backup" 3600 300, .ping false "token" none 0,
      .edit 0 ⟨none, some 60, some 10⟩, .startPing "token" 5000000000]
    ∃ h ∈ (Watch.after ops).store.heartbeats, (h.status = .up ∨ h.status = .started) ∧
      (∃ at_ ∈ (Watch.after ops).armed h.id,
        h.nextDeadlineAt = some (at_ + h.intervalSeconds + h.graceSeconds)) ∧
      DeclaredDown (Watch.after ops).store 76000000000 h := by
  intro ops
  have found : ∃ h, (Watch.after ops).store.getHeartbeatByID 0 = some h ∧ h.id = 0 ∧
      h.status = .started ∧ h.intervalSeconds = 60 ∧ h.graceSeconds = 10 ∧
      (Watch.after ops).armed 0 = some 5 := ⟨_, rfl, by decide⟩
  obtain ⟨h, found, id, started, interval, grace, armed⟩ := found
  have mem := (lookup_eq_some.mp found).1
  obtain ⟨due, declared⟩ := due_one_window_after_arming ops h mem
  refine ⟨h, mem, .inr started, due (.inr started), (declared _).mpr ?_⟩
  rw [started, id, interval, grace]
  exact ⟨nofun, nofun, 5, rfl, by decide⟩

end Maintenant.Heartbeats
