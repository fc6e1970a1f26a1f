import Maintenant.Alerting.Machine

/-!
# The life of an alert id

Seen from one id, the concurrent engine moves through phases: the id is minted with its row, the
alert is tracked in the map, taken out of it to be resolved, and its row is resolved.  As long as a
severity raise finds its entry still in the map when it writes it back, every action moves phases
forward only.
-/

namespace Maintenant.Alerting

open Function AlertStore FieldWrite

/-- Where in its life an alert id is. -/
inductive Phase
  | unborn
  /-- In a row that is not resolved, and not in the map yet. -/
  | stored
  | tracked
  /-- Taken out of the map by a thread that is to resolve its row. -/
  | taken
  | resolved
  deriving DecidableEq

/-- Its place in the order of the phases. -/
def Phase.rank : Phase → Nat
  | .unborn => 0
  | .stored => 1
  | .tracked => 2
  | .taken => 3
  | .resolved => 4

/-- The alert is out of the map for good. -/
def Phase.Leaving (phase : Phase) : Prop := Phase.taken.rank ≤ phase.rank

/-- No id goes back to an earlier phase. -/
def Advances (before after : AlertId → Phase) : Prop := ∀ id, (before id).rank ≤ (after id).rank

variable {phase : Phase}

theorem Phase.eq_resolved_of_rank (last : Phase.resolved.rank ≤ phase.rank) :
    phase = .resolved := by
  cases phase with
  | resolved => rfl
  | _ => exact absurd last (by decide)

theorem Phase.Leaving.ne_tracked (leaving : phase.Leaving) : phase ≠ .tracked := by
  rintro rfl
  exact absurd leaving (by unfold Leaving; decide)

theorem Phase.Leaving.ne_stored (leaving : phase.Leaving) : phase ≠ .stored := by
  rintro rfl
  exact absurd leaving (by unfold Leaving; decide)

theorem Advances.refl {phase : AlertId → Phase} : Advances phase phase := fun _ => le_rfl

variable {id : AlertId} {later : Phase}

theorem Advances.update {phase : AlertId → Phase}
    (forward : (phase id).rank ≤ later.rank) : Advances phase (update phase id later) := by
  intro other
  by_cases same : other = id
  · rw [same, update_self]
    exact forward
  · rw [update_of_ne same]

theorem Advances.leaving {before after : AlertId → Phase} (advances : Advances before after)
    (leaving : (before id).Leaving) : (after id).Leaving :=
  leaving.trans (advances id)

theorem Advances.resolved {before after : AlertId → Phase} (advances : Advances before after)
    (done : before id = .resolved) : after id = .resolved := by
  apply Phase.eq_resolved_of_rank
  rw [← done]
  exact advances id

/-! ### Rows -/

/-- What the phases say of the table. -/
structure Stands (store : AlertStore) (phase : AlertId → Phase) : Prop where
  unborn : ∀ id, store.nextId ≤ id → phase id = .unborn
  rows : ∀ row ∈ store.rows, row.status = .resolved ↔ phase row.id = .resolved

/-- The table has the row of the alert. -/
def HasRow (store : AlertStore) (alert : Alert) : Prop :=
  ∃ row ∈ store.rows, row.id = alert.id ∧ row.key = alert.key

/-- Rows are changed, never deleted or moved to another key. -/
def KeepsRows (before after : AlertStore) : Prop :=
  ∀ row ∈ before.rows, ∃ kept ∈ after.rows, kept.id = row.id ∧ kept.key = row.key

variable {alert : Alert}

theorem HasRow.keep {before after : AlertStore} (keeps : KeepsRows before after)
    (backed : HasRow before alert) : HasRow after alert := by
  obtain ⟨row, mem, same_id, same_key⟩ := backed
  obtain ⟨kept, kept_mem, kept_id, kept_key⟩ := keeps row mem
  exact ⟨kept, kept_mem, kept_id.trans same_id, kept_key.trans same_key⟩

variable {store : AlertStore}

theorem HasRow.key_eq {left right : Alert} (left_row : HasRow store left)
    (right_row : HasRow store right) (same : left.id = right.id) : left.key = right.key := by
  obtain ⟨row, mem, row_id, row_key⟩ := left_row
  obtain ⟨other, other_mem, other_id, other_key⟩ := right_row
  have equal : row = other :=
    Keyed.eq_of_key mem other_mem (row_id.trans (same.trans other_id.symm))
  rw [← row_key, ← other_key, equal]

theorem keepsRows_insertAlert (store : AlertStore) (now : Int) (alert : Alert) :
    KeepsRows store (store.insertAlert now alert) :=
  fun row mem => ⟨row, mem_insertAlert.mpr (.inl mem), rfl, rfl⟩

variable {change : Alert → Alert}

theorem keepsRows_modify (keeps : ∀ row, (change row).id = row.id)
    (whole : ∀ row : Alert, row.stored = row → (change row).stored = change row)
    (same_key : ∀ row, (change row).key = row.key) :
    KeepsRows store (store.modify id change keeps whole) := by
  intro row mem
  by_cases this : row.id = id
  · exact ⟨change row, (mem_modify keeps whole).mpr (.inr ⟨row, mem, this, rfl⟩),
      keeps row, same_key row⟩
  · exact ⟨row, (mem_modify keeps whole).mpr (.inl ⟨mem, this⟩), rfl, rfl⟩

theorem setAcknowledged_same {by_ : String} {at_ : Int} {row : Alert} :
    (setAcknowledged by_ at_ row).key = row.key ∧ (setAcknowledged by_ at_ row).id = row.id ∧
        (setAcknowledged by_ at_ row).status = row.status := by
  unfold setAcknowledged
  split <;> exact ⟨rfl, rfl, rfl⟩

variable {born : Phase}

namespace Stands

variable {phase : AlertId → Phase}

theorem insertAlert (stands : Stands store phase) {now : Int}
    (fits : alert.status = .resolved ↔ born = .resolved) :
    Stands (store.insertAlert now alert) (update phase store.nextId born) where
  unborn id above := by
    have above_old : store.nextId < id := above
    rw [update_of_ne above_old.ne']
    exact stands.unborn id above_old.le
  rows row mem := by
    rcases mem_insertAlert.mp mem with old | rfl
    · rw [update_of_ne (store.fresh row old).ne]
      exact stands.rows row old
    · have minted : (store.newRow now alert).id = store.nextId := rfl
      rw [minted, update_self]
      exact fits

theorem updateAlertStatus (stands : Stands store phase) (leaving : (phase id).Leaving)
    {at_ : Option Int} {by_ : Option AlertId} :
    Stands (store.updateAlertStatus id .resolved at_ by_) (update phase id .resolved) where
  unborn other above := by
    have apart : other ≠ id := by
      rintro rfl
      rw [stands.unborn other above] at leaving
      exact absurd leaving (by unfold Phase.Leaving; decide)
    rw [update_of_ne apart]
    exact stands.unborn other above
  rows row mem := by
    rcases mem_updateAlertStatus.mp mem with ⟨old, apart⟩ | ⟨old, -, this, rfl⟩
    · rw [update_of_ne apart]
      exact stands.rows row old
    · refine iff_of_true rfl ?_
      have same : (setStatus .resolved at_ by_ old).id = id := this
      rw [same, update_self]

theorem modify (stands : Stands store phase) (keeps : ∀ row, (change row).id = row.id)
    (whole : ∀ row : Alert, row.stored = row → (change row).stored = change row)
    (same_status : ∀ row, (change row).status = row.status) :
    Stands (store.modify id change keeps whole) phase where
  unborn := stands.unborn
  rows row mem := by
    rcases (mem_modify keeps whole).mp mem with ⟨old, -⟩ | ⟨old, old_mem, -, rfl⟩
    · exact stands.rows row old
    · rw [same_status, keeps]
      exact stands.rows old old_mem

end Stands

/-! ### Threads -/

/-- The map holds alerts that are tracked and have their row. -/
def Tracked (active : Keyed Alert.key) (store : AlertStore) (phase : AlertId → Phase) : Prop :=
  ∀ alert ∈ active, phase alert.id = .tracked ∧ HasRow store alert

/-- Phases fit the alerts taken by `ResolveByEntity` calls. -/
def Taken (removals : List Removal) (phase : AlertId → Phase) : Prop :=
  ∀ removal ∈ removals, ∀ alert ∈ removal.remaining, (phase alert.id).Leaving

/-- Phases fit the point the loop has reached.  Nothing is known of an alert that is being
raised. -/
def LoopPc.Fits (store : AlertStore) (phase : AlertId → Phase) : LoopPc → Prop
  | .track _ alert => phase alert.id = .stored ∧ HasRow store alert
  | .insertRecovery _ original _ => (phase original.id).Leaving
  | .resolveOriginal _ original _ _ => (phase original.id).Leaving
  | _ => True

/-- What the phases say of the map, the table and the threads. -/
structure Machine.Lives (machine : Machine) (phase : AlertId → Phase) : Prop where
  stands : Stands machine.store phase
  tracked : Tracked machine.active machine.store phase
  loop : machine.loop.Fits machine.store phase
  taken : Taken machine.removals phase
  ever : ∀ id ∈ machine.everResolved, phase id = .resolved

variable {write : FieldWrite} {target : Alert}

section Changes

variable {active : Keyed Alert.key} {after : AlertStore} {before phase : AlertId → Phase}
  {removals : List Removal} {loop : LoopPc}

theorem Tracked.keep (tracked : Tracked active store before) (keeps : KeepsRows store after)
    (same : ∀ id, before id = .tracked → phase id = .tracked) : Tracked active after phase :=
  fun alert mem => ⟨same _ (tracked alert mem).1, (tracked alert mem).2.keep keeps⟩

theorem Tracked.touch (tracked : Tracked active store phase) :
    Tracked (active.map (write.seen target) (write.key_seen target)) store phase := by
  intro alert mem
  obtain ⟨old, old_mem, rfl⟩ := (Keyed.mem_map _).mp mem
  obtain ⟨here, row, row_mem, same_id, same_key⟩ := tracked old old_mem
  rw [id_seen]
  refine ⟨here, row, row_mem, ?_, ?_⟩
  · rw [id_seen, same_id]
  · rw [key_seen, same_key]

theorem Taken.advance (taken : Taken removals before) (advances : Advances before phase) :
    Taken removals phase :=
  fun removal mem alert remains => advances.leaving (taken removal mem alert remains)

theorem Taken.touch (taken : Taken removals phase) (write : FieldWrite) (target : Alert) :
    Taken (removals.map fun removal =>
      { removal with remaining := removal.remaining.map (write.seen target) }) phase := by
  intro removal mem alert remains
  obtain ⟨old, old_mem, rfl⟩ := List.mem_map.mp mem
  obtain ⟨held, held_mem, rfl⟩ := List.mem_map.mp remains
  rw [id_seen]
  exact taken old old_mem held held_mem

theorem LoopPc.Fits.keep (fits : loop.Fits store before) (keeps : KeepsRows store after)
    (advances : Advances before phase) (same : ∀ id, before id = .stored → phase id = .stored) :
    loop.Fits after phase := by
  cases loop with
  | track => exact ⟨same _ fits.1, fits.2.keep keeps⟩
  | insertRecovery | resolveOriginal => exact advances.leaving fits
  | _ => trivial

theorem LoopPc.Fits.touch (fits : loop.Fits store phase) :
    (loop.seen write target).Fits store phase := by
  cases loop with
  | track =>
    obtain ⟨here, row, row_mem, same_id, same_key⟩ := fits
    refine ⟨?_, row, row_mem, ?_, ?_⟩
    · rw [id_seen, here]
    · rw [id_seen, same_id]
    · rw [key_seen, same_key]
  | insertRecovery _ original | resolveOriginal _ original =>
    have same := write.id_seen
    simp only [LoopPc.Fits, LoopPc.seen, same]
    exact fits
  | _ => trivial

theorem update_keeps {kept : Phase} (free : phase id ≠ kept) (other : AlertId)
    (here : phase other = kept) : update phase id later other = kept := by
  have apart : other ≠ id := by
    rintro rfl
    exact free here
  rw [update_of_ne apart, here]

end Changes

namespace Machine.Lives

variable {machine : Machine} {phase : AlertId → Phase} {outputs : List Output}

section

variable (lives : machine.Lives phase)
include lives

theorem touch : (machine.touch write target).Lives phase where
  stands := lives.stands
  tracked := lives.tracked.touch
  loop := lives.loop.touch
  taken := lives.taken.touch write target
  ever := lives.ever

theorem with_loop {loop : LoopPc}
    (fits : loop.Fits machine.store phase) : Lives { machine with loop } phase :=
  { lives with loop := fits }

theorem with_outputs : Lives { machine with outputs } phase :=
  { lives with }

theorem with_removals {removals : List Removal}
    (taken : Taken removals phase) : Lives { machine with removals } phase :=
  { lives with taken }

theorem finish : (machine.finish outputs).Lives phase :=
  { lives with loop := trivial }

theorem insertAlert (now : Int) (fits : alert.status = .resolved ↔ born = .resolved) :
    Advances phase (update phase machine.store.nextId born) ∧
      Lives { machine with store := machine.store.insertAlert now alert }
        (update phase machine.store.nextId born) := by
  have fresh : phase machine.store.nextId = .unborn := lives.stands.unborn _ le_rfl
  have advances : Advances phase (update phase machine.store.nextId born) := by
    refine Advances.update ?_
    rw [fresh]
    exact Nat.zero_le _
  have keeps := keepsRows_insertAlert machine.store now alert
  refine ⟨advances, lives.stands.insertAlert fits, ?_, ?_, lives.taken.advance advances, ?_⟩
  · exact lives.tracked.keep keeps (update_keeps (by rw [fresh]; decide))
  · exact lives.loop.keep keeps advances (update_keeps (by rw [fresh]; decide))
  · exact fun id known => advances.resolved (lives.ever id known)

end

theorem updateAlertStatus (lives : machine.Lives phase) (leaving : (phase id).Leaving)
    (at_ : Option Int) (by_ : Option AlertId) : Advances phase (update phase id .resolved) ∧
      Lives { machine with store := machine.store.updateAlertStatus id .resolved at_ by_ }
        (update phase id .resolved) := by
  have advances : Advances phase (update phase id .resolved) := by
    refine Advances.update ?_
    cases phase id <;> decide
  have keeps : KeepsRows machine.store (machine.store.updateAlertStatus id .resolved at_ by_) :=
    keepsRows_modify _ _ fun _ => rfl
  refine ⟨advances, lives.stands.updateAlertStatus leaving, ?_, ?_,
    lives.taken.advance advances, ?_⟩
  · exact lives.tracked.keep keeps (update_keeps leaving.ne_tracked)
  · exact lives.loop.keep keeps advances (update_keeps leaving.ne_stored)
  · exact fun other known => advances.resolved (lives.ever other known)

theorem modify (lives : machine.Lives phase) (keeps : ∀ row, (change row).id = row.id)
    (whole : ∀ row : Alert, row.stored = row → (change row).stored = change row)
    (same_key : ∀ row, (change row).key = row.key)
    (same_status : ∀ row, (change row).status = row.status) :
    Lives { machine with store := machine.store.modify id change keeps whole } phase where
  stands := lives.stands.modify keeps whole same_status
  tracked := lives.tracked.keep (keepsRows_modify keeps whole same_key) fun _ here => here
  loop := lives.loop.keep (keepsRows_modify keeps whole same_key) Advances.refl
    fun _ here => here
  taken := lives.taken
  ever := lives.ever

end Machine.Lives

end Maintenant.Alerting
