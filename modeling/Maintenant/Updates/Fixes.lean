import Mathlib.Data.Prod.Lex

/-!
# Versions that fix a vulnerability

A tag such as `1.25.3-alpine` names a version and a variant of an image.  The scanner splits the
variant off before it reads the version; the comparison with a fix hands the whole tag to the
version library, which takes the variant for a prerelease, and a prerelease comes before its
version.
-/

namespace Maintenant.Updates

open List

/-- Suffixes that name a distribution; the longer ones come first. -/
def knownVariantSuffixes : List String :=
  ["-slim-bookworm", "-slim-bullseye", "-slim-buster", "-alpine3.21", "-alpine3.20", "-alpine3.19",
    "-alpine3.18", "-alpine", "-bookworm", "-bullseye", "-buster", "-noble", "-jammy", "-focal"]

/-- A tag is ASCII, so that a character is a byte and lower case is that of ASCII. -/
def splitVariant (tag : String) : String × String :=
  let lower := tag.toList.map Char.toLower
  match knownVariantSuffixes.find? fun suffix => suffix.toList.isSuffixOf lower with
  | some suffix =>
    let cut := tag.toList.length - suffix.toList.length
    (String.ofList (tag.toList.take cut), String.ofList (tag.toList.drop cut))
  | none => (tag, "")

/-- A known suffix in any case, or no suffix. -/
def IsVariant (variant : String) : Prop :=
  variant = "" ∨ ∃ suffix ∈ knownVariantSuffixes,
    variant.toList.map Char.toLower = suffix.toList

theorem splitVariant_append (tag : String) :
    (splitVariant tag).1 ++ (splitVariant tag).2 = tag := by
  rw [splitVariant]
  split
  · rw [← String.toList_inj, String.toList_append, String.toList_ofList, String.toList_ofList,
      take_append_drop]
  · exact String.append_empty

theorem splitVariant_isVariant (tag : String) : IsVariant (splitVariant tag).2 := by
  rw [splitVariant]
  split
  · rename_i suffix found
    refine .inr ⟨suffix, mem_of_find?_eq_some found, ?_⟩
    have ends := List.find?_some found
    obtain ⟨version, joined⟩ := isSuffixOf_iff_suffix.mp ends
    have cut : tag.toList.length - suffix.toList.length = version.length := by
      rw [← length_map Char.toLower, ← joined, length_append, Nat.add_sub_cancel]
    rw [String.toList_ofList, map_drop, ← joined, cut, drop_left]
  · exact .inl rfl

/-- What the library reads as the prerelease once a variant follows the version. -/
def withVariant (prerelease variant : String) : String :=
  if prerelease = "" then String.ofList (variant.toList.drop 1) else prerelease ++ variant

/-- A prerelease comes before none; two are ordered by the library. -/
def Lower (comparePrerelease : String → String → Ordering) (prerelease other : String) : Prop :=
  prerelease ≠ "" ∧ (other = "" ∨ comparePrerelease prerelease other = .lt)

/-- What is used of the version library, and what it promises. -/
structure Semver where
  Version : Type
  newVersion : String → Option Version
  /-- Major, minor and patch. -/
  core : Version → Nat ×ₗ Nat ×ₗ Nat
  prerelease : Version → String
  metadata : Version → String
  compare : Version → Version → Ordering
  comparePrerelease : String → String → Ordering
  lessThan : Version → Version → Bool
  greaterThan : Version → Version → Bool
  empty_refused : newVersion "" = none
  variant_read : ∀ {version variant v}, newVersion version = some v → metadata v = "" →
    IsVariant variant → ∃ w, newVersion (version ++ variant) = some w ∧ core w = core v ∧
      prerelease w = withVariant (prerelease v) variant
  compare_swap : ∀ v o, (compare v o).swap = compare o v
  compare_lt : ∀ v o, compare v o = .lt ↔ core v < core o ∨
    core v = core o ∧ Lower comparePrerelease (prerelease v) (prerelease o)
  lessThan_iff : ∀ v o, lessThan v o ↔ compare v o = .lt
  greaterThan_iff : ∀ v o, greaterThan v o ↔ compare v o = .gt

namespace Semver

variable (semver : Semver)

/-- `GenerateFixCommand` for a container, given its update commands. -/
def generateFixCommand (generateUpdateCommand : String → String → String)
    (currentTag fixedInVersion : String) : String :=
  if fixedInVersion = "" then ""
  else match semver.newVersion fixedInVersion, semver.newVersion currentTag with
    | some fixVer, some currentVer =>
      if semver.greaterThan fixVer currentVer then generateUpdateCommand fixedInVersion "" else ""
    | _, _ => ""

/-- Whether the newest tag is at least the version of the fix. -/
def isFixedByUpdate (latestTag fixedInVersion : String) : Bool :=
  if fixedInVersion = "" ∨ latestTag = "" then false
  else match semver.newVersion latestTag, semver.newVersion fixedInVersion with
    | some latestVer, some fixVer => !semver.lessThan latestVer fixVer
    | _, _ => false

/-- Of two texts with the same numbers, the first is read as the lower. -/
def ReadLower (tag fix : String) (v o : semver.Version) : Prop :=
  Lower semver.comparePrerelease (withVariant (semver.prerelease v) (splitVariant tag).2)
    (withVariant (semver.prerelease o) (splitVariant fix).2)

variable {semver} {tag fix : String} {v o : semver.Version}

theorem ne_empty (read : semver.newVersion tag = some v) : tag ≠ "" := by
  rintro rfl
  rw [semver.empty_refused] at read
  cases read

/-- The library keeps the numbers of a tag and reads the variant into its prerelease. -/
theorem read_tag (read : semver.newVersion (splitVariant tag).1 = some v)
    (plain : semver.metadata v = "") : ∃ w, semver.newVersion tag = some w ∧
      semver.core w = semver.core v ∧
      semver.prerelease w = withVariant (semver.prerelease v) (splitVariant tag).2 := by
  have whole := semver.variant_read read plain (splitVariant_isVariant tag)
  rwa [splitVariant_append] at whole

private def orderOf (v o : String) : Ordering :=
  if v = "" then if o = "" then .eq else .gt else if o = "" then .lt else .eq

/-- A library that knows one version. -/
private def oneVersion : Semver where
  Version := String
  newVersion text :=
    if text.toList.take 6 = "1.25.3".toList ∧ (text.toList.drop 6).length ≠ 1 then
      some (String.ofList (text.toList.drop 7))
    else none
  core _ := toLex (1, toLex (25, 3))
  prerelease := id
  metadata _ := ""
  compare := orderOf
  comparePrerelease _ _ := .eq
  lessThan v o := orderOf v o = .lt
  greaterThan v o := orderOf v o = .gt
  empty_refused := rfl
  variant_read := by
    rintro version variant v read - (rfl | ⟨suffix, known, cased⟩)
    · refine ⟨v, ?_, rfl, ?_⟩
      · rw [String.append_empty, read]
      · rw [withVariant]
        split <;> simp_all
    · have long : 2 ≤ variant.toList.length := by
        rw [← length_map Char.toLower, cased]
        clear cased
        decide +revert
      obtain ⟨⟨begins, rest⟩, ⟨⟩⟩ := Option.ite_none_right_eq_some.mp read
      have six : 6 ≤ version.toList.length := by
        have length := congrArg List.length begins
        rw [length_take] at length
        exact Nat.le_of_eq length.symm |>.trans (Nat.min_le_right _ _)
      rw [length_drop] at rest
      refine ⟨_, if_pos ?_, rfl, ?_⟩
      · rw [String.toList_append, take_append_of_le_length six, length_drop,
          length_append]
        exact ⟨begins, by omega⟩
      · rw [String.toList_append, withVariant, drop_append]
        rcases Nat.eq_or_lt_of_le six with same | more
        · simp [← same, drop_eq_nil_of_le]
        · have nonempty : version.toList.drop 7 ≠ [] := by
            rw [ne_eq, drop_eq_nil_iff]
            omega
          simp [nonempty, Nat.sub_eq_zero_of_le (show 7 ≤ version.toList.length by omega)]
  compare_swap v o := by
    simp only [orderOf]
    split_ifs <;> rfl
  compare_lt v o := by
    simp only [orderOf, Lower, id]
    split_ifs <;> simp [*]
  lessThan_iff v o := decide_eq_true_iff
  greaterThan_iff v o := decide_eq_true_iff

end Semver

end Maintenant.Updates
