import Maintenant.Keyed
import Mathlib.Data.List.Perm.Basic

/-!
# Ledgers

Which operations on one object have begun, which of them are yet to take effect, and the order in
which the others have.  When none is left the journal is a rearrangement of all that began.
-/

/-- Operations that were begun and the order in which they took effect. -/
structure Ledger (ω : Type*) where
  begun : List ω
  /-- Operations that are yet to take effect, each with who performs it. -/
  pending : Keyed (Prod.fst : Nat × ω → Nat)
  /-- The others, in the order in which they took effect. -/
  journal : List ω

namespace Ledger

open Keyed

variable {ω : Type*} {ledger : Ledger ω} {who other : Nat} {op : ω}

def empty : Ledger ω := ⟨[], .empty Prod.fst, []⟩

def start (ledger : Ledger ω) (who : Nat) (op : ω) : Ledger ω :=
  { ledger with begun := ledger.begun ++ [op], pending := ledger.pending.insert (who, op) }

/-- The operation that someone performs takes effect. -/
def commit (ledger : Ledger ω) (who : Nat) : Ledger ω :=
  match ledger.pending.lookup who with
  | some (_, op) =>
    { ledger with pending := ledger.pending.erase who, journal := ledger.journal ++ [op] }
  | none => ledger

/-- The operation that someone has yet to bring into effect. -/
def owed (ledger : Ledger ω) (who : Nat) : Option ω := (ledger.pending.lookup who).map Prod.snd

/-- Whatever began is pending or in the journal. -/
def Balanced (ledger : Ledger ω) : Prop :=
  (ledger.journal ++ ledger.pending.items.map Prod.snd).Perm ledger.begun

@[simp] theorem owed_empty : (empty : Ledger ω).owed who = none := rfl

@[simp] theorem owed_start_self : (ledger.start who op).owed who = some op := by
  rw [owed, start, lookup_insert_self]
  rfl

theorem owed_start_of_ne (different : other ≠ who) :
    (ledger.start who op).owed other = ledger.owed other := by
  rw [owed, start, lookup_insert_of_ne different, owed]

theorem lookup_of_owed (owes : ledger.owed who = some op) :
    ledger.pending.lookup who = some (who, op) := by
  obtain ⟨⟨performer, operation⟩, found, rfl⟩ := Option.map_eq_some_iff.mp owes
  obtain ⟨-, rfl⟩ := lookup_eq_some.mp found
  exact found

theorem commit_of_owed (owes : ledger.owed who = some op) : ledger.commit who =
      { ledger with pending := ledger.pending.erase who, journal := ledger.journal ++ [op] } := by
  rw [commit, lookup_of_owed owes]

theorem commit_of_not_owed (owes : ledger.owed who = none) : ledger.commit who = ledger := by
  rw [commit, Option.map_eq_none_iff.mp owes]

@[simp] theorem begun_commit : (ledger.commit who).begun = ledger.begun := by
  rw [commit]
  split
  · rfl
  · rfl

theorem journal_commit (owes : ledger.owed who = some op) :
    (ledger.commit who).journal = ledger.journal ++ [op] := by
  rw [commit_of_owed owes]

@[simp] theorem owed_commit_self : (ledger.commit who).owed who = none := by
  cases owes : ledger.owed who with
  | none => rw [commit_of_not_owed owes, owes]
  | some => rw [commit_of_owed owes, owed, lookup_erase_self, Option.map_none]

theorem owed_commit_of_ne (different : other ≠ who) :
    (ledger.commit who).owed other = ledger.owed other := by
  cases owes : ledger.owed who with
  | none => rw [commit_of_not_owed owes]
  | some => rw [commit_of_owed owes, owed, lookup_erase_of_ne different, owed]

theorem balanced_empty : (empty : Ledger ω).Balanced := List.Perm.refl []

namespace Balanced

variable (balanced : ledger.Balanced)
include balanced

theorem start (absent : ledger.owed who = none) : (ledger.start who op).Balanced := by
  have all_others :
      (ledger.pending.items.filter fun old => old.1 ≠ who) = ledger.pending.items := by
    rw [List.filter_eq_self]
    intro old mem
    exact decide_eq_true (lookup_eq_none.mp (Option.map_eq_none_iff.mp absent) old mem)
  simp only [Balanced, Ledger.start, Keyed.insert, all_others, List.map_append, ← List.append_assoc]
  exact List.Perm.append_right [op] balanced

theorem commit : (ledger.commit who).Balanced := by
  cases owes : ledger.owed who with
  | none => rwa [commit_of_not_owed owes]
  | some =>
    obtain ⟨mem, -⟩ := lookup_eq_some.mp (lookup_of_owed owes)
    have parts := (perm_cons_erase mem).map Prod.snd
    rw [commit_of_owed owes]
    simp only [Balanced, List.append_assoc]
    exact (parts.symm.append_left ledger.journal).trans balanced

theorem journal_perm (settled : ∀ who, ledger.owed who = none) :
    ledger.journal.Perm ledger.begun := by
  have nothing : ledger.pending.items = [] := by
    rw [List.eq_nil_iff_forall_not_mem]
    intro item mem
    exact lookup_eq_none.mp (Option.map_eq_none_iff.mp (settled item.1)) item mem rfl
  simpa [Balanced, nothing] using balanced

end Balanced

end Ledger
