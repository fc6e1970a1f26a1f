import Maintenant.Uptime.ContainerDays

/-!
# Uptime of a container over a window

The uptime of the window that ends now is worked out from the transitions inside of it.  The state
the window begins in is not looked for, and time before the first transition is time not up.
-/

namespace Maintenant.Uptime

open Agent (unix nanosPerSecond)
open Containers List
open StableSort

/-- `GetTransitionsInWindow`, over the transitions of the container. -/
def getTransitionsInWindow (rows : List StateTransition) (from_ to_ : Int) : List StateTransition :=
  inWindow rows (unix from_) (unix to_ + 1)

/-- A cached percentage. -/
structure CacheEntry where
  value : Float
  expiresAt : Int

/-- `uptimeCacheTTL`. -/
def uptimeCacheTTL : Int := 60 * nanosPerSecond

/-- `calculateWindow`, with the entry the cache has for the container. -/
def calculateWindow (rows : List StateTransition) (cached : Option CacheEntry) (window : Int)
    (windowName : String) (now : Int) : Float × Option CacheEntry :=
  match cached.filter fun entry => windowName = "24h" ∧ now < entry.expiresAt with
  | some entry => (entry.value, cached)
  | none =>
    let from_ := now - window
    let pct := computeUptime (getTransitionsInWindow rows from_ now) from_ now
    (pct, if windowName = "24h" then some ⟨pct, now + uptimeCacheTTL⟩ else cached)

/-- The windows of `Calculate`. -/
def windows : List (String × Int) :=
  [("24h", 86400 * nanosPerSecond), ("7d", 7 * 86400 * nanosPerSecond),
    ("30d", 30 * 86400 * nanosPerSecond), ("90d", 90 * 86400 * nanosPerSecond)]

/-! ### The timeline -/

/-- The transitions are in the order of their timestamps. -/
abbrev Ordered (transitions : List StateTransition) : Prop :=
  transitions.Pairwise fun one other => instant one ≤ instant other

variable {t : StateTransition} {rest : List StateTransition} {from_ to_ at_ : Int}

theorem lt_of_lt_nextChange (ordered : Ordered rest) (before : at_ < nextChange rest to_) :
    ∀ next ∈ rest, at_ < instant next := by
  cases rest with
  | nil => exact forall_mem_nil _
  | cons first rest =>
    have early : at_ < instant first := before.trans_le (min_le_left _ _)
    exact forall_mem_cons.mpr ⟨early, fun next mem =>
      early.trans_le (rel_of_pairwise_cons ordered mem)⟩

theorem upAt_eq_false (later : ∀ next ∈ rest, at_ < instant next) : upAt rest at_ = false := by
  have none_yet : (rest.filter fun next => instant next ≤ at_) = [] := by
    simpa using later
  rw [upAt, none_yet]
  rfl

/-- Up to the next transition the first one decides, from there on the others do. -/
theorem upAt_cons (ordered : Ordered (t :: rest)) (inside : at_ < to_) :
    upAt (t :: rest) at_ ↔
      isUp t ∧ instant t ≤ at_ ∧ at_ < nextChange rest to_ ∨ upAt rest at_ := by
  by_cases before : at_ < nextChange rest to_
  · have alone : (rest.filter fun next => instant next ≤ at_) = [] := by
      simpa using lt_of_lt_nextChange (pairwise_cons.mp ordered).2 before
    rw [upAt, upAt, filter_cons, alone]
    split <;> simp_all
  · cases rest with
    | nil => exact absurd inside before
    | cons next rest =>
      have reached : instant next ≤ at_ := by
        simp only [nextChange] at before
        omega
      have carried : upAt (t :: next :: rest) at_ = upAt (next :: rest) at_ := by
        rw [upAt, upAt, filter_cons, filter_cons_of_pos (by simpa using reached)]
        split
        · rw [getLast?_cons_cons]
        · rfl
      simp [carried, before]

/-- The stretches spent up make out the instants at which the container is up. -/
theorem sum_upSpans (ordered : Ordered rest) : (upSpans from_ to_ rest).sum =
    ((Finset.Ico from_ to_).filter fun at_ => upAt rest at_).card := by
  induction rest with
  | nil => simp [upSpans, upAt]
  | cons t rest ih =>
    have later : Ordered rest := (pairwise_cons.mp ordered).2
    have first : ((Finset.Ico from_ to_).filter fun at_ =>
        isUp t ∧ instant t ≤ at_ ∧ at_ < nextChange rest to_).card =
          if isUp t then max 0 (nextChange rest to_ - max (instant t) from_) else 0 := by
      cases isUp t with
      | true =>
        simp only [true_and, if_true]
        rw [← overlap_eq_card, overlap, min_eq_left (nextChange_le rest to_)]
      | false => simp
    have apart : ((Finset.Ico from_ to_).filter fun at_ => upAt (t :: rest) at_).card =
        ((Finset.Ico from_ to_).filter fun at_ =>
          isUp t ∧ instant t ≤ at_ ∧ at_ < nextChange rest to_).card +
        ((Finset.Ico from_ to_).filter fun at_ => upAt rest at_).card := by
      rw [← Finset.card_union_of_disjoint, ← Finset.filter_or]
      · refine congrArg Finset.card (Finset.filter_congr fun at_ mem => ?_)
        exact upAt_cons ordered (Finset.mem_Ico.mp mem).2
      · refine Finset.disjoint_filter.mpr fun at_ _ here => ?_
        rw [upAt_eq_false (lt_of_lt_nextChange later here.2.2)]
        exact Bool.false_ne_true
    rw [apart, Nat.cast_add, first, ← ih later, upSpans]
    split_ifs <;> simp_all <;> omega

/-! ### The value of a window -/

/-- All transitions of the container until an instant. -/
def history (rows : List StateTransition) (now : Int) : List StateTransition :=
  sortOn StateTransition.timestamp (rows.filter fun t => t.timestamp < unix now + 1)

/-- The container is observed from its first transition on. -/
def observedFrom (seen : List StateTransition) (from_ to_ : Int) : Int :=
  seen.head?.elim to_ fun first => max from_ (instant first)

/-- The percentage of the observed time of a window that the container was up. -/
def truePercent (seen : List StateTransition) (from_ to_ : Int) : Float :=
  let observed := to_ - observedFrom seen from_ to_
  if 0 < seconds observed then cutPercent (upSpans from_ to_ seen) observed else 0

/-- What came before the first transition of the window makes no difference. -/
def Unaffected (seed : Option StateTransition) (inside : List StateTransition) (from_ to_ : Int) :
    Prop :=
  match seed, inside with
  | some seed, [] => isUp seed
  | some seed, first :: _ => isUp seed = false ∨ instant first ≤ from_
  | none, inside => (∀ at_, from_ ≤ at_ → at_ < to_ → upAt inside at_ = false) ∨
      ∀ first ∈ inside.head?, instant first ≤ from_

open Float.Model in
/-- Zero stays zero when a positive number divides it. -/
theorem zero_div_of_pos {y : Float} (positive : 0 < y) : 0 / y = 0 := by
  have less : UnpackedFloat.compare (.zero .positive) y.toModel.unpack = some .lt :=
    eq_of_beq (of_decide_eq_true positive)
  change Float.ofModel (pack (UnpackedFloat.div .binary64 (.zero .positive) y.toModel.unpack)) = 0
  revert less
  cases y.toModel.unpack with
  | notANumber | zero =>
    intro less
    cases less
  | infinity sign | finite sign =>
    intro less
    cases sign with
    | positive => rfl
    | negative => cases less

theorem cutPercent_nil {total : Int} (positive : 0 < seconds total) : cutPercent [] total = 0 := by
  rw [cutPercent, foldl_nil, zero_div_of_pos positive]
  decide +kernel

theorem cutPercent_whole : ∀ entry ∈ windows,
    0 < entry.2 ∧ 0 < seconds entry.2 ∧ cutPercent [entry.2] entry.2 = 100 := by
  decide +kernel

variable {rows : List StateTransition} {now : Int}

theorem history_ordered : Ordered (history rows now) := by
  refine Pairwise.imp ?_ sortOn_sorted
  intro one other le
  simp only [instant, nanosPerSecond]
  omega

/-- The history up to a window is that before it, which ends with the seed, and that inside. -/
theorem history_split (rows : List StateTransition) (opens : from_ ≤ now) : ∃ early,
    history rows now = early ++ getTransitionsInWindow rows from_ now ∧
      early.getLast? = seedOf rows (unix from_) ∧ ∀ t ∈ early, instant t ≤ from_ := by
  have within : unix from_ ≤ unix now + 1 := by
    simp only [unix, nanosPerSecond]
    omega
  refine ⟨_, before_append within, rfl, fun t mem => ?_⟩
  have before : t ∈ rows ∧ t.timestamp < unix from_ := by simpa using mem_sortOn.mp mem
  simp only [unix, instant, nanosPerSecond] at before ⊢
  omega

theorem calculateWindow_miss {cached : Option CacheEntry} {windowName : String} (window : Int)
    (fresh : ∀ entry ∈ cached, windowName = "24h" → entry.expiresAt ≤ now) :
    (calculateWindow rows cached window windowName now).1 =
      computeUptime (getTransitionsInWindow rows (now - window) now) (now - window) now := by
  have expired :
      cached.filter (fun entry => windowName = "24h" ∧ now < entry.expiresAt) = none := by
    refine Option.filter_eq_none_iff.mpr fun entry mem => ?_
    simpa using fresh entry mem
  rw [calculateWindow, expired]

theorem upSpans_eq_nil {inside : List StateTransition} (ordered : Ordered inside)
    (down : ∀ at_, from_ ≤ at_ → at_ < to_ → upAt inside at_ = false) :
    upSpans from_ to_ inside = [] := by
  induction inside with
  | nil => rfl
  | cons t rest ih =>
    have decides {at_ : Int} (after : from_ ≤ at_) (before : at_ < to_) :=
      (upAt_cons (t := t) ordered before).not.mp (Bool.not_eq_true _ ▸ down at_ after before)
    rw [upSpans, if_neg]
    · refine ih (pairwise_cons.mp ordered).2 fun at_ after before => ?_
      exact Bool.eq_false_iff.mpr fun up => decides after before (.inr up)
    · rintro ⟨lasts, up⟩
      have begins : max (instant t) from_ < nextChange rest to_ := by omega
      exact decides (le_max_right _ _) (begins.trans_le (nextChange_le _ _))
        (.inl ⟨up, le_max_left _ _, begins⟩)

section Seed

variable {seed : Option StateTransition} {inside : List StateTransition}
  (observed : seed.toList ++ inside ≠ []) (early : ∀ t ∈ seed, instant t ≤ from_)
include observed early

theorem computeUptime_of_unaffected {windowName : String}
    (offered : (windowName, to_ - from_) ∈ windows)
    (ordered : Ordered inside) (same : Unaffected seed inside from_ to_) :
    computeUptime inside from_ to_ = truePercent (seed.toList ++ inside) from_ to_ := by
  obtain ⟨length, positive, whole⟩ := cutPercent_whole _ offered
  rw [computeUptime, if_neg (not_le.mpr (sub_pos.mp length))]
  cases seed with
  | none =>
    cases inside with
    | nil => exact absurd rfl observed
    | cons first inside =>
      change _ = truePercent (first :: inside) from_ to_
      rw [if_neg (cons_ne_nil _ _), truePercent]
      rcases same with down | begins
      · rw [upSpans_eq_nil ordered down, cutPercent_nil positive, eq_comm, ite_eq_right_iff]
        exact cutPercent_nil
      · have start : max from_ (instant first) = from_ := max_eq_left (begins first rfl)
        rw [observedFrom, head?_cons, Option.elim_some, start, if_pos positive]
  | some seed =>
    have start : max from_ (instant seed) = from_ := max_eq_left (early seed rfl)
    change _ = truePercent (seed :: inside) from_ to_
    rw [truePercent, observedFrom, head?_cons, Option.elim_some, start, if_pos positive]
    cases inside with
    | nil =>
      rw [if_pos rfl, upSpans, nextChange, max_comm, start, if_pos ⟨length, same⟩]
      exact whole.symm
    | cons first inside =>
      rw [if_neg (cons_ne_nil _ _)]
      rcases same with down | begins
      · rw [upSpans.eq_2 _ _ seed, if_neg (by simp [down])]
      · rw [upSpans_cons_of_le (t := seed)]
        exact (min_le_left _ _).trans (begins.trans (le_max_right _ _))

end Seed

/-- The history before a window matters through its last transition only. -/
theorem history_seen (rows : List StateTransition) (opens : from_ ≤ now) :
    let seen := (seedOf rows (unix from_)).toList ++ getTransitionsInWindow rows from_ now
    upSpans from_ now (history rows now) = upSpans from_ now seen ∧
      observedFrom (history rows now) from_ now = observedFrom seen from_ now ∧
      seen <:+ history rows now ∧ (history rows now ≠ [] → seen ≠ []) := by
  obtain ⟨early, split, last, past⟩ := history_split rows opens
  rw [split, ← last]
  rcases eq_nil_or_concat' early with rfl | ⟨front, seed, rfl⟩
  · exact ⟨rfl, rfl, suffix_rfl, id⟩
  · rw [getLast?_concat, append_assoc]
    refine ⟨upSpans_append_early (fun t mem => past t (mem_append_left _ mem))
      (past seed (by simp)), ?_, suffix_append front _, by simp⟩
    cases front with
    | nil => rfl
    | cons first =>
      change max from_ (instant first) = max from_ (instant seed)
      rw [max_eq_left (past first (by simp)), max_eq_left (past seed (by simp))]

private def webRow (state : ContainerState) (second : Int) : StateTransition :=
  ⟨.fresh 0, ⟨"", "web"⟩, .created, state, none, none, none, second⟩

end Maintenant.Uptime
