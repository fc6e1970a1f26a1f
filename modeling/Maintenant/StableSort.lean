import Mathlib.Data.List.Sort

/-!
# Stable sorting by a key

Items of equal keys keep their order.  A sorted list is determined by its items of each key, in
their order, so a stable sort is too: two lists sort to the same list if they have the same items
of each key in the same order.
-/

namespace StableSort

open List

variable {α κ : Type} [LinearOrder κ] {key : α → κ} {items others : List α}

/-- Sort by a key, items of equal keys staying in order. -/
def sortOn (key : α → κ) (items : List α) : List α :=
  items.insertionSort fun left right => key left ≤ key right

def SortedOn (key : α → κ) (items : List α) : Prop :=
  items.Pairwise fun left right => key left ≤ key right

def ofKey (key : α → κ) (wanted : κ) (items : List α) : List α :=
  items.filter fun item => key item = wanted

theorem mem_sortOn {item : α} : item ∈ sortOn key items ↔ item ∈ items :=
  mem_insertionSort _

theorem sortOn_sorted : SortedOn key (sortOn key items) := by
  exact pairwise_insertionSort _ items

theorem ofKey_sorted (wanted : κ) : SortedOn key (ofKey key wanted items) := by
  refine List.Pairwise.imp_of_mem ?_ (pairwise_of_forall fun _ _ => trivial)
  intro left right left_mem right_mem _
  have same : ∀ {item}, item ∈ ofKey key wanted items → key item = wanted :=
    fun mem => by simpa [ofKey] using (mem_filter.mp mem).2
  rw [same left_mem, same right_mem]

theorem ofKey_sortOn (wanted : κ) :
    ofKey key wanted (sortOn key items) = ofKey key wanted items := by
  have kept : (ofKey key wanted items).Sublist (sortOn key items) :=
    sublist_insertionSort (ofKey_sorted wanted) filter_sublist
  have among : (ofKey key wanted items).Sublist (ofKey key wanted (sortOn key items)) := by
    have filtered := kept.filter fun item => key item = wanted
    simpa only [ofKey, filter_filter, Bool.and_self] using filtered
  refine (among.eq_of_length ?_).symm
  exact ((perm_insertionSort _ items).filter _).length_eq.symm

theorem ofKey_append (wanted : κ) :
    ofKey key wanted (items ++ others) = ofKey key wanted items ++ ofKey key wanted others :=
  filter_append items others

theorem mem_ofKey {item : α} {wanted : κ} :
    item ∈ ofKey key wanted items ↔ item ∈ items ∧ key item = wanted := by
  simp [ofKey]

theorem eq_of_ofKey (sorted : SortedOn key items) (others_sorted : SortedOn key others)
    (same : ∀ wanted, ofKey key wanted items = ofKey key wanted others) : items = others := by
  induction items generalizing others with
  | nil =>
    cases others with
    | nil => rfl
    | cons other => simpa [ofKey] using same (key other)
  | cons item items ih =>
    cases others with
    | nil => simpa [ofKey] using same (key item)
    | cons other others =>
      obtain ⟨below, tail_sorted⟩ := pairwise_cons.mp sorted
      obtain ⟨others_below, rest_sorted⟩ := pairwise_cons.mp others_sorted
      -- each head is an item of the other list, so neither key is smaller
      have first : key item ≤ key other := by
        have found : other ∈ ofKey key (key other) (item :: items) := by
          rw [same]
          simp [mem_ofKey]
        rcases mem_cons.mp (mem_ofKey.mp found).1 with rfl | mem
        · exact le_refl _
        · exact below other mem
      have second : key other ≤ key item := by
        have found : item ∈ ofKey key (key item) (other :: others) := by
          rw [← same]
          simp [mem_ofKey]
        rcases mem_cons.mp (mem_ofKey.mp found).1 with rfl | mem
        · exact le_refl _
        · exact others_below item mem
      have level := le_antisymm first second
      obtain rfl : item = other := by
        have heads := same (key item)
        simp only [ofKey, level, filter_cons] at heads
        exact (cons.inj heads).1
      refine congrArg (item :: ·) (ih tail_sorted rest_sorted ?_)
      intro wanted
      have tails := same wanted
      by_cases here : key item = wanted
      · simpa [ofKey, here] using tails
      · simpa [ofKey, here] using tails

theorem sortOn_eq (sorted : SortedOn key others)
    (same : ∀ wanted, ofKey key wanted items = ofKey key wanted others) :
    sortOn key items = others := by
  refine eq_of_ofKey (sortOn_sorted) sorted ?_
  intro wanted
  rw [ofKey_sortOn, same]

theorem ofKey_filter (wanted : κ) (test : κ → Bool) :
    ofKey key wanted (items.filter fun item => test (key item)) =
      if test wanted then ofKey key wanted items else [] := by
  rw [ofKey, filter_filter]
  split
  next passes =>
    refine filter_congr ?_
    intro item _
    by_cases here : key item = wanted
    · simp [here, passes]
    · simp [here]
  next fails =>
    rw [filter_eq_nil_iff]
    intro item _
    by_cases here : key item = wanted
    · simp [here, fails]
    · simp [here]

theorem sortOn_split (bound : κ) : sortOn key items =
      sortOn key (items.filter fun item => key item < bound) ++
        sortOn key (items.filter fun item => bound ≤ key item) := by
  refine sortOn_eq ?_ ?_
  · refine pairwise_append.mpr ⟨sortOn_sorted, sortOn_sorted, ?_⟩
    intro left left_mem right right_mem
    have low : key left < bound := by
      simpa using (mem_filter.mp (mem_sortOn.mp left_mem)).2
    have high : bound ≤ key right := by
      simpa using (mem_filter.mp (mem_sortOn.mp right_mem)).2
    exact le_trans (le_of_lt low) high
  · intro wanted
    rw [ofKey_append, ofKey_sortOn, ofKey_sortOn, ofKey_filter wanted fun k => k < bound,
      ofKey_filter wanted fun k => bound ≤ k]
    by_cases low : wanted < bound
    · simp [low]
    · simp [not_lt.mp low]

/-- The items with a key from one on up to another. -/
def between (key : α → κ) (first last : κ) (items : List α) : List α :=
  sortOn key (items.filter fun item => first ≤ key item ∧ key item < last)

theorem mem_between {first last : κ} {item : α} :
    item ∈ between key first last items ↔ item ∈ items ∧ first ≤ key item ∧ key item < last := by
  rw [between, mem_sortOn, mem_filter, decide_eq_true_eq]

theorem between_append {first middle last : κ} (le : first ≤ middle)
    (ge : middle ≤ last) : between key first last items =
      between key first middle items ++ between key middle last items := by
  rw [between, sortOn_split middle, filter_filter, filter_filter]
  congr 2
  · refine filter_congr ?_
    intro item _
    rw [← Bool.decide_and, decide_eq_decide]
    exact ⟨fun here => ⟨here.2.1, here.1⟩, fun here => ⟨here.2, here.1, here.2.trans_le ge⟩⟩
  · refine filter_congr ?_
    intro item _
    rw [← Bool.decide_and, decide_eq_decide]
    exact ⟨fun here => ⟨here.1, here.2.2⟩, fun here => ⟨here.1, le.trans here.1, here.2⟩⟩

end StableSort
