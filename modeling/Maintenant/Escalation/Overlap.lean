import Maintenant.Escalation.Runner

/-!
# Which policies overlap

The probe for a policy about to be saved lists the policies that may page the same channel for the
same alert.  It compares filters as sets; the runner matches them against alerts.
-/

namespace Maintenant.Escalation

open Alerting (Alert)

def setsIntersect (a b : List String) : Bool :=
  a.isEmpty || b.isEmpty || a.any fun av => b.contains av

def scopeSetsIntersect (a b : List Scope) : Bool :=
  a.isEmpty || b.isEmpty ||
    a.any fun av => b.any fun bv => av.kind = bv.kind && av.refId = bv.refId

def filtersIntersect (a b : Filters) : Bool :=
  setsIntersect a.severities b.severities && scopeSetsIntersect a.scopes b.scopes

/-- The channels of all levels, in their order. -/
def Policy.channels (p : Policy) : List String := p.levels.flatMap Level.channelIds

/-- Channels of both, each at its first place in the second policy. -/
def sharedChannels (a b : Policy) : List String :=
  b.channels.foldl (fun shared id =>
    if id ∈ a.channels ∧ id ∉ shared then shared ++ [id] else shared) []

def filterIntersectionDescription (a b : Filters) : String :=
  let severities :=
    if a.severities.length > 0 && b.severities.length > 0 then "severities" else "all severities"
  let scopes := if a.scopes.length > 0 || b.scopes.length > 0 then ["scopes"] else []
  " + ".intercalate (severities :: scopes)

/-- Another policy that pages for the same alert. -/
structure OverlapWarning where
  policyId : Nat
  policyName : String
  sharedChannels : List String
  filterIntersection : String
  deriving DecidableEq

/-- `id` is that of the candidate, none before it is saved. -/
def detectOverlap (id : Option Nat) (candidate : Policy) (existing : List Policy) :
    List OverlapWarning :=
  existing.filterMap fun p =>
    if id = some p.id then none
    else if !filtersIntersect candidate.filters p.filters then none
    else
      match sharedChannels candidate p with
      | [] => none
      | first :: others => some
        { policyId := p.id
          policyName := p.name
          sharedChannels := first :: others
          filterIntersection := filterIntersectionDescription candidate.filters p.filters }

/-- An empty set is the universe, so two sets meet when one is empty or they have a common value. -/
theorem exists_common_iff {α : Type} [Nonempty α] (a b : List α) :
    (∃ v, (a = [] ∨ v ∈ a) ∧ (b = [] ∨ v ∈ b)) ↔ a = [] ∨ b = [] ∨ ∃ v ∈ a, v ∈ b := by
  cases a with
  | nil =>
    cases b with
    | nil => simp
    | cons first => exact iff_of_true ⟨first, by simp⟩ (.inl rfl)
  | cons first =>
    cases b with
    | nil => exact iff_of_true ⟨first, by simp⟩ (.inr (.inl rfl))
    | cons => simp

theorem setsIntersect_iff (a b : List String) :
    setsIntersect a b ↔ ∃ v, (a = [] ∨ v ∈ a) ∧ (b = [] ∨ v ∈ b) := by
  rw [exists_common_iff]
  simp [setsIntersect, or_assoc]

theorem scopeSetsIntersect_iff (a b : List Scope) :
    scopeSetsIntersect a b ↔ ∃ v, (a = [] ∨ v ∈ a) ∧ (b = [] ∨ v ∈ b) := by
  have : Nonempty Scope := ⟨⟨"", ""⟩⟩
  have same (v w : Scope) : v.kind = w.kind ∧ v.refId = w.refId ↔ w = v := by
    cases v
    cases w
    simp [eq_comm]
  rw [exists_common_iff]
  simp [scopeSetsIntersect, or_assoc, same]

theorem matchPolicyFilters_iff (alert : Alert) (p : Policy) : matchPolicyFilters alert p ↔
      (p.filters.severities = [] ∨ alert.severity ∈ p.filters.severities) ∧
        (p.filters.scopes = [] ∨ ⟨alert.entityType, alert.entityId⟩ ∈ p.filters.scopes) := by
  have same (scope : Scope) : scope.kind = alert.entityType ∧ scope.refId = alert.entityId ↔
      scope = ⟨alert.entityType, alert.entityId⟩ := by
    cases scope
    simp
  simp [matchPolicyFilters, same]

/-- The comparison of filters says whether some alert can start both policies. -/
theorem filtersIntersect_iff {a b : Policy} : filtersIntersect a.filters b.filters ↔
      ∃ alert, matchPolicyFilters alert a ∧ matchPolicyFilters alert b := by
  simp only [filtersIntersect, Bool.and_eq_true, setsIntersect_iff, scopeSetsIntersect_iff,
    matchPolicyFilters_iff]
  constructor
  · rintro ⟨⟨severity, severity_a, severity_b⟩, ⟨kind, refId⟩, scope_a, scope_b⟩
    exact ⟨⟨0, "", "", severity, .active, "", kind, refId, "", "", "", none, 0, none, none, "",
      none, none⟩, ⟨severity_a, scope_a⟩, severity_b, scope_b⟩
  · rintro ⟨alert, ⟨severity_a, scope_a⟩, severity_b, scope_b⟩
    exact ⟨⟨_, severity_a, severity_b⟩, _, scope_a, scope_b⟩

theorem sharedChannels_spec (a b : Policy) : (sharedChannels a b).Nodup ∧
    ∀ id, id ∈ sharedChannels a b ↔ id ∈ a.channels ∧ id ∈ b.channels := by
  rw [sharedChannels]
  induction b.channels using List.reverseRecOn with
  | nil => simp
  | append_singleton =>
    rw [List.foldl_concat]
    split
    · grind [List.nodup_append]
    · grind

/-- Another policy that some alert can start beside the candidate, with a channel of both. -/
def Overlaps (id : Option Nat) (candidate p : Policy) : Prop :=
  id ≠ some p.id ∧ (∃ alert, matchPolicyFilters alert candidate ∧ matchPolicyFilters alert p) ∧
    ∃ channel ∈ candidate.channels, channel ∈ p.channels

theorem overlaps_iff {id : Option Nat} {candidate p : Policy} : Overlaps id candidate p ↔
    id ≠ some p.id ∧ filtersIntersect candidate.filters p.filters ∧
      sharedChannels candidate p ≠ [] := by
  rw [Overlaps, filtersIntersect_iff]
  simp [List.eq_nil_iff_forall_not_mem, (sharedChannels_spec candidate p).2]

open Classical in
/-- Two filters intersect exactly when an alert matches both. The probe reports exactly the other
policies that share an alert and a channel with the candidate, each once and in order, with the
shared channels. -/
theorem overlap_exact (a b : Policy) : (filtersIntersect a.filters b.filters ↔
      ∃ alert, matchPolicyFilters alert a ∧ matchPolicyFilters alert b) ∧
    ∀ id existing, List.Forall₂ (fun warning p =>
      warning.policyId = p.id ∧ warning.policyName = p.name ∧ warning.sharedChannels.Nodup ∧
        ∀ channel, channel ∈ warning.sharedChannels ↔ channel ∈ a.channels ∧ channel ∈ p.channels)
      (detectOverlap id a existing) (existing.filter (Overlaps id a)) := by
  refine ⟨filtersIntersect_iff, fun id existing => ?_⟩
  induction existing with
  | nil => exact .nil
  | cons p existing ih =>
    have spec := sharedChannels_spec a p
    simp only [detectOverlap, List.filterMap_cons, List.filter_cons, overlaps_iff] at ih ⊢
    by_cases own : id = some p.id
    · simpa [own] using ih
    by_cases met : filtersIntersect a.filters p.filters
    · cases shared : sharedChannels a p with
      | nil => simpa [own, met] using ih
      | cons =>
        rw [shared] at spec
        rw [if_neg own, if_neg (by simp [met]), if_pos (by simp [own, met])]
        exact .cons ⟨rfl, rfl, spec⟩ ih
    · simpa [own, met] using ih

/-- A policy that is switched off is reported too. -/
theorem inactive_policy_reported : detectOverlap none
    ⟨0, "new", true, false, ⟨[], []⟩, [⟨0, ["mail"]⟩]⟩
    [⟨1, "old", false, false, ⟨[], []⟩, [⟨0, ["mail"]⟩]⟩] =
      [⟨1, "old", ["mail"], "all severities"⟩] := by
  decide +kernel

end Maintenant.Escalation
