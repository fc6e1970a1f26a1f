import Maintenant.Execution
import Mathlib.Data.List.Nodup

/-!
# Tables of items with distinct keys

A finite map whose key is read off the stored item: a table with a primary key, or a map that is
only ever indexed by fields of its own entries.  Items keep the order in which they were added.
-/

variable {α κ : Type*}

/-- Items of different keys, in the order of their insertion. -/
structure Keyed (key : α → κ) where
  items : List α
  distinct : items.Pairwise fun left right => key left ≠ key right

namespace Keyed

variable {key : α → κ}

instance : Membership α (Keyed key) where
  mem table item := item ∈ table.items

def empty (key : α → κ) : Keyed key := ⟨[], List.Pairwise.nil⟩

def filter (table : Keyed key) (test : α → Bool) : Keyed key :=
  ⟨table.items.filter test, table.distinct.filter test⟩

/-- Change items without changing their keys. -/
def map (table : Keyed key) (change : α → α) (keeps : ∀ item, key (change item) = key item) :
    Keyed key where
  items := table.items.map change
  distinct := by
    rw [List.pairwise_map]
    refine table.distinct.imp ?_
    intro left right apart
    rw [keeps, keeps]
    exact apart

variable {table : Keyed key} {item : α}

theorem mem_def : item ∈ table ↔ item ∈ table.items := .rfl

@[simp] theorem not_mem_empty (item : α) : item ∉ empty key := List.not_mem_nil

@[simp] theorem mem_filter {test : α → Bool} :
    item ∈ table.filter test ↔ item ∈ table ∧ test item :=
  List.mem_filter

variable {change : α → α} (keeps : ∀ item, key (change item) = key item)

@[simp] theorem mem_map : item ∈ table.map change keeps ↔ ∃ old ∈ table, change old = item :=
  List.mem_map

theorem map_eq_self (fixes : ∀ item ∈ table, change item = item) :
    table.map change keeps = table := by
  have same : table.items.map change = table.items := by
    rw [List.map_congr_left (g := id) fixes, List.map_id]
  obtain ⟨items, distinct⟩ := table
  simp only [map, mk.injEq]
  exact same

theorem eq_of_key {left right : α} (left_mem : left ∈ table) (right_mem : right ∈ table)
    (same : key left = key right) : left = right :=
  List.inj_on_of_nodup_map (List.pairwise_map.mpr table.distinct) left_mem right_mem same

theorem nodup (table : Keyed key) : table.items.Nodup :=
  table.distinct.imp fun differs same => differs (congrArg key same)

section Lookup

variable [DecidableEq κ]

def lookup (table : Keyed key) (wanted : κ) : Option α :=
  table.items.find? fun item => key item = wanted

/-- Add an item in place of any with the same key. -/
def insert (table : Keyed key) (item : α) : Keyed key where
  items := (table.items.filter fun old => key old ≠ key item) ++ [item]
  distinct := by
    refine List.pairwise_snoc.mpr ⟨table.distinct.filter _, fun old mem => ?_⟩
    exact of_decide_eq_true (List.mem_filter.mp mem).2

def erase (table : Keyed key) (wanted : κ) : Keyed key := table.filter fun item => key item ≠ wanted

def update (table : Keyed key) (wanted : κ) (change : α → α)
    (keeps : ∀ item, key (change item) = key item) : Keyed key :=
  table.map (fun item => if key item = wanted then change item else item) (by
    intro item
    split
    · exact keeps item
    · rfl)

theorem items_update (table : Keyed key) (wanted : κ) (change : α → α)
    (keeps : ∀ item, key (change item) = key item) : (table.update wanted change keeps).items =
      table.items.map fun item => if key item = wanted then change item else item := rfl

variable {wanted : κ}

theorem lookup_eq_some : table.lookup wanted = some item ↔ item ∈ table ∧ key item = wanted := by
  constructor
  · intro found
    exact ⟨List.mem_of_find?_eq_some found,
      of_decide_eq_true (List.find?_some (p := fun item => key item = wanted) found)⟩
  rintro ⟨mem, rfl⟩
  obtain ⟨other, found⟩ : ∃ other, table.lookup (key item) = some other := by
    rw [← Option.isSome_iff_exists, lookup, List.find?_isSome]
    exact ⟨item, mem, decide_eq_true rfl⟩
  have other_mem : other ∈ table := List.mem_of_find?_eq_some found
  have same : key other = key item :=
    of_decide_eq_true (List.find?_some (p := fun old => key old = key item) found)
  rw [found, eq_of_key other_mem mem same]

theorem lookup_eq_none : table.lookup wanted = none ↔ ∀ item ∈ table, key item ≠ wanted := by
  rw [lookup, List.find?_eq_none]
  simp only [decide_eq_true_eq]
  exact .rfl

variable {new : α}

@[simp] theorem mem_insert :
    item ∈ table.insert new ↔ item ∈ table ∧ key item ≠ key new ∨ item = new := by
  simp [mem_def, insert]

@[simp] theorem mem_erase : item ∈ table.erase wanted ↔ item ∈ table ∧ key item ≠ wanted := by
  simp [erase]

theorem erase_eq_self (absent : ∀ item ∈ table, key item ≠ wanted) :
    table.erase wanted = table := by
  obtain ⟨items, distinct⟩ := table
  simp only [erase, filter, mk.injEq]
  rw [List.filter_eq_self]
  intro item mem
  exact decide_eq_true (absent item mem)

theorem perm_cons_erase (mem : item ∈ table) :
    table.items.Perm (item :: (table.erase (key item)).items) := by
  obtain ⟨front, back, parts⟩ := List.append_of_mem (mem_def.mp mem)
  have distinct := table.distinct
  rw [parts, List.pairwise_append, List.pairwise_cons] at distinct
  obtain ⟨-, ⟨after, -⟩, before⟩ := distinct
  have front_kept : (front.filter fun old => key old ≠ key item) = front := by
    rw [List.filter_eq_self]
    intro old old_mem
    exact decide_eq_true (before old old_mem item List.mem_cons_self)
  have back_kept : (back.filter fun old => key old ≠ key item) = back := by
    rw [List.filter_eq_self]
    intro old old_mem
    exact decide_eq_true (after old old_mem).symm
  have rest : (table.erase (key item)).items = front ++ back := by
    simp only [erase, filter, parts, List.filter_append, List.filter_cons, front_kept, back_kept]
    simp
  rw [parts, rest]
  exact List.perm_middle

@[simp] theorem mem_update : item ∈ table.update wanted change keeps ↔
      item ∈ table ∧ key item ≠ wanted ∨ ∃ old ∈ table, key old = wanted ∧ change old = item := by
  rw [update, mem_map]
  constructor
  · rintro ⟨old, mem, changed⟩
    split at changed
    next this => exact .inr ⟨old, mem, this, changed⟩
    next other =>
      subst changed
      exact .inl ⟨mem, other⟩
  · rintro (⟨mem, other⟩ | ⟨old, mem, this, changed⟩)
    · exact ⟨item, mem, if_neg other⟩
    · exact ⟨old, mem, (if_pos this).trans changed⟩

theorem insert_map (fixes : ∀ item, key item ≠ key new → change item = item) :
    (table.map change keeps).insert new = table.insert new := by
  have same_test : (fun old => decide (key old ≠ key new)) ∘ change =
      fun old => decide (key old ≠ key new) := by
    funext old
    simp only [Function.comp_apply, keeps]
  have fixed : ∀ old ∈ table.items.filter fun old => decide (key old ≠ key new),
      change old = id old := by
    intro old mem
    exact fixes old (of_decide_eq_true (List.mem_filter.mp mem).2)
  simp only [insert, map, List.filter_map, same_test, List.map_congr_left fixed, List.map_id]

variable {read : α → α} (reads : ∀ item, key (read item) = key item)

theorem map_update {reread : α → α} (rekeeps : ∀ item, key (reread item) = key item)
    (commutes : ∀ item, read (change item) = reread (read item)) :
    (table.update wanted change keeps).map read reads =
      (table.map read reads).update wanted reread rekeeps := by
  have pointwise : ∀ item, read (if key item = wanted then change item else item) =
      if key (read item) = wanted then reread (read item) else read item := by
    intro item
    rw [reads]
    split
    · exact commutes item
    · rfl
  simp only [map, update, List.map_map, mk.injEq]
  exact List.map_congr_left fun item _ => pointwise item

theorem map_insert (item : α) :
    (table.insert item).map read reads = (table.map read reads).insert (read item) := by
  have same_test : (fun old => decide (key old ≠ key (read item))) ∘ read =
      fun old => decide (key old ≠ key item) := by
    funext old
    simp only [Function.comp_apply, reads]
  simp only [map, insert, List.map_append, List.map_cons, List.map_nil, List.filter_map, same_test]

theorem map_foldl_insert (items : List α) (table : Keyed key) :
    (items.foldl insert table).map read reads =
      (items.map read).foldl insert (table.map read reads) := by
  induction items generalizing table with
  | nil => rfl
  | cons item items ih => rw [List.foldl_cons, ih, map_insert, List.map_cons, List.foldl_cons]

theorem update_eq_self (fixes : ∀ item ∈ table, key item = wanted → change item = item) :
    table.update wanted change keeps = table := by
  refine map_eq_self _ ?_
  intro item mem
  split
  next here => exact fixes item mem here
  · rfl

theorem insert_update (here : key new = wanted) :
    (table.update wanted change keeps).insert new = table.insert new := by
  refine insert_map _ ?_
  intro item other
  rw [here] at other
  exact if_neg other

variable {items : List α}

theorem mem_of_mem_foldl_insert (mem : item ∈ items.foldl insert table) :
    item ∈ table ∨ item ∈ items := by
  induction items generalizing table with
  | nil => exact .inl mem
  | cons new items ih =>
    rcases ih mem with inserted | later
    · rcases mem_insert.mp inserted with ⟨old, -⟩ | rfl
      · exact .inl old
      · exact .inr List.mem_cons_self
    · exact .inr (List.mem_cons_of_mem new later)

theorem mem_foldl_insert_of_mem (mem : item ∈ table)
    (same : ∀ new ∈ items, key new = key item → new = item) : item ∈ items.foldl insert table := by
  induction items generalizing table with
  | nil => exact mem
  | cons new items ih =>
    obtain ⟨new_same, same⟩ := List.forall_mem_cons.mp same
    refine ih (mem_insert.mpr ?_) same
    by_cases here : key item = key new
    · exact .inr (new_same here.symm).symm
    · exact .inl ⟨mem, here⟩

theorem mem_foldl_insert (mem : item ∈ items)
    (same : ∀ new ∈ items, key new = key item → new = item) : item ∈ items.foldl insert table := by
  induction items generalizing table with
  | nil => exact absurd mem List.not_mem_nil
  | cons new items ih =>
    have rest := (List.forall_mem_cons.mp same).2
    rcases List.mem_cons.mp mem with rfl | later
    · rw [List.foldl_cons]
      exact mem_foldl_insert_of_mem (mem_insert.mpr (.inr rfl)) rest
    · exact ih later rest

theorem lookup_map (wanted : κ) :
    (table.map change keeps).lookup wanted = (table.lookup wanted).map change := by
  have same_test : (fun item => decide (key item = wanted)) ∘ change =
      fun item => decide (key item = wanted) := by
    funext item
    simp only [Function.comp_apply, keeps]
  rw [lookup, map, List.find?_map, same_test, lookup]

variable {changed : κ}

theorem lookup_update (wanted : κ) : (table.update changed change keeps).lookup wanted =
      (table.lookup wanted).map fun item => if key item = changed then change item else item := by
  rw [update, lookup_map]

theorem lookup_update_eq (wanted : κ) : (table.update changed change keeps).lookup wanted =
      if wanted = changed then (table.lookup wanted).map change else table.lookup wanted := by
  rw [lookup_update]
  cases found : table.lookup wanted with
  | none => simp
  | some item =>
    have here : key item = wanted := (lookup_eq_some.mp found).2
    rw [Option.map_some, here]
    split
    · rfl
    · rfl

theorem lookup_insert_self (table : Keyed key) (item : α) :
    (table.insert item).lookup (key item) = some item := by
  rw [lookup_eq_some]
  simp

theorem lookup_insert_of_ne (other : wanted ≠ key item) :
    (table.insert item).lookup wanted = table.lookup wanted := by
  apply Option.ext
  intro found
  rw [lookup_eq_some, lookup_eq_some, mem_insert]
  constructor
  · rintro ⟨⟨mem, -⟩ | rfl, this⟩
    · exact ⟨mem, this⟩
    · exact absurd this.symm other
  · rintro ⟨mem, rfl⟩
    exact ⟨.inl ⟨mem, other⟩, rfl⟩

theorem lookup_foldl_insert_of_ne (others : ∀ item ∈ items, wanted ≠ key item) :
    (items.foldl insert table).lookup wanted = table.lookup wanted := by
  induction items generalizing table with
  | nil => rfl
  | cons item items ih =>
    obtain ⟨other, rest⟩ := List.forall_mem_cons.mp others
    rw [List.foldl_cons, ih rest, lookup_insert_of_ne other]

theorem insert_items_of_fresh (fresh : table.lookup (key item) = none) :
    (table.insert item).items = table.items ++ [item] := by
  have kept : (table.items.filter fun old => key old ≠ key item) = table.items := by
    rw [List.filter_eq_self]
    intro old mem
    exact decide_eq_true (lookup_eq_none.mp fresh old mem)
  exact congrArg (· ++ [item]) kept

/-- Put an item in the place of the one with its key, or at the end. -/
def upsert (table : Keyed key) (item : α) : Keyed key :=
  if (table.lookup (key item)).isSome then
    table.map (fun old => if key old = key item then item else old) (by
      intro old
      split
      · rename_i same
        exact same.symm
      · rfl)
  else table.insert item

theorem upsert_items_of_fresh (fresh : table.lookup (key item) = none) :
    (table.upsert item).items = table.items ++ [item] := by
  rw [upsert, fresh]
  exact insert_items_of_fresh fresh

@[simp] theorem mem_upsert :
    item ∈ table.upsert new ↔ item ∈ table ∧ key item ≠ key new ∨ item = new := by
  rw [upsert]
  split
  next there =>
    obtain ⟨old, old_mem, old_key⟩ : ∃ old ∈ table, key old = key new := by
      obtain ⟨old, found⟩ := Option.isSome_iff_exists.mp there
      exact ⟨old, lookup_eq_some.mp found⟩
    rw [mem_map]
    constructor
    · rintro ⟨other, mem, rfl⟩
      split
      · exact .inr rfl
      next differs => exact .inl ⟨mem, differs⟩
    · rintro (⟨mem, differs⟩ | rfl)
      · exact ⟨item, mem, if_neg differs⟩
      · exact ⟨old, old_mem, if_pos old_key⟩
  · exact mem_insert

theorem lookup_upsert (table : Keyed key) (item : α) (wanted : κ) :
    (table.upsert item).lookup wanted =
      if wanted = key item then some item else table.lookup wanted := by
  apply Option.ext
  intro found
  rw [lookup_eq_some, mem_upsert]
  split
  next here =>
    constructor
    · rintro ⟨⟨-, differs⟩ | rfl, there⟩
      · exact absurd (there.trans here) differs
      · rfl
    · rintro ⟨⟩
      exact ⟨.inr rfl, here.symm⟩
  next ne =>
    rw [lookup_eq_some]
    constructor
    · rintro ⟨⟨mem, -⟩ | rfl, there⟩
      · exact ⟨mem, there⟩
      · exact absurd there.symm ne
    · rintro ⟨mem, rfl⟩
      exact ⟨.inl ⟨mem, ne⟩, rfl⟩

theorem upsert_eq_self (mem : item ∈ table) : table.upsert item = table := by
  have found : (table.lookup (key item)).isSome := by
    rw [lookup_eq_some.mpr ⟨mem, rfl⟩]
    rfl
  rw [upsert, if_pos found]
  refine map_eq_self _ ?_
  intro old old_mem
  split
  next same => exact eq_of_key mem old_mem same.symm
  · rfl

theorem lookup_filter (table : Keyed key) (test : α → Bool) (wanted : κ) :
    (table.filter test).lookup wanted = (table.lookup wanted).filter test := by
  apply Option.ext
  intro item
  rw [lookup_eq_some, mem_filter, Option.filter_eq_some_iff, lookup_eq_some, and_right_comm]

theorem lookup_erase_self (table : Keyed key) (wanted : κ) :
    (table.erase wanted).lookup wanted = none := by
  rw [lookup_eq_none]
  intro item mem
  exact (mem_erase.mp mem).2

theorem lookup_erase_of_ne {erased : κ} (other : wanted ≠ erased) :
    (table.erase erased).lookup wanted = table.lookup wanted := by
  apply Option.ext
  intro found
  rw [lookup_eq_some, lookup_eq_some, mem_erase]
  constructor
  · rintro ⟨⟨mem, -⟩, this⟩
    exact ⟨mem, this⟩
  · rintro ⟨mem, rfl⟩
    exact ⟨⟨mem, other⟩, rfl⟩

end Lookup

end Keyed
