import ComponentPages.Proofs.Version.Notation
import ComponentPages.Version.Change

namespace ComponentPages

/-!
# The measure of a change

A change is named after the number of the version that grew. If the numbers go up in their
lexicographic order, the first of them that differs gives the change its name, and if they do not,
the change is never a major one. How a version is written does not matter: blanks around it and a
mark in front of it leave the change as it is.
-/

/-! ## The order of versions -/

namespace Version

variable {before after : Version}

/-- The numbers are compared one after the other. -/
theorem numbers_lt_iff :
    before.numbers < after.numbers ↔
      before.major < after.major ∨ before.major = after.major ∧
        (before.minor < after.minor ∨ before.minor = after.minor ∧ before.patch < after.patch) := by
  simp [numbers, List.cons_lt_cons_iff]

/-- Versions have the same numbers if they agree in each of the three. -/
theorem numbers_eq_iff :
    before.numbers = after.numbers ↔
      before.major = after.major ∧ before.minor = after.minor ∧ before.patch = after.patch := by
  simp [numbers]

end Version

namespace Change

variable {before after : Version}

/-- The change that is named after the most significant number in which two versions differ. -/
inductive NamesFirstDifference (before after : Version) : Change → Prop where
  | major :
      before.major ≠ after.major →
      NamesFirstDifference before after .major
  | minor :
      before.major = after.major →
      before.minor ≠ after.minor →
      NamesFirstDifference before after .minor
  | patch :
      before.major = after.major →
      before.minor = after.minor →
      before.patch ≠ after.patch →
      NamesFirstDifference before after .patch

/-- If the numbers go up, the change is named after the first one that differs. -/
theorem namesFirstDifference_between
    (goesUp : before.numbers < after.numbers) :
    NamesFirstDifference before after (between before after) := by
  rcases Version.numbers_lt_iff.mp goesUp with
    majorGrew | ⟨sameMajor, minorGrew | ⟨sameMinor, patchGrew⟩⟩
  · rw [between, if_pos majorGrew]
    exact .major (Nat.ne_of_lt majorGrew)
  · rw [between, if_neg (Nat.not_lt_of_ge sameMajor.ge), if_pos minorGrew]
    exact .minor sameMajor (Nat.ne_of_lt minorGrew)
  · rw [between, if_neg (Nat.not_lt_of_ge sameMajor.ge), if_neg (Nat.not_lt_of_ge sameMinor.ge)]
    exact .patch sameMajor sameMinor (Nat.ne_of_lt patchGrew)

/-- If the numbers do not go up, the change is not a major one. -/
private theorem between_ne_major
    (noneGoesUp : ¬ before.numbers < after.numbers) :
    between before after ≠ .major := by
  have majorStays : ¬ before.major < after.major := fun majorGrew =>
    noneGoesUp (Version.numbers_lt_iff.mpr (.inl majorGrew))
  rw [between, if_neg majorStays]
  split <;> simp

/-- Between versions of the same numbers the change is a patch. -/
private theorem between_eq_patch
    (sameNumbers : before.numbers = after.numbers) :
    between before after = .patch := by
  obtain ⟨sameMajor, sameMinor, -⟩ := Version.numbers_eq_iff.mp sameNumbers
  rw [between, if_neg (Nat.not_lt_of_ge sameMajor.ge), if_neg (Nat.not_lt_of_ge sameMinor.ge)]

/-- No change between versions is a prerelease. -/
theorem between_ne_prerelease (before after : Version) : between before after ≠ .prerelease := by
  unfold between
  split
  · simp
  · split <;> simp

/-! ## Changes between texts -/

/-- No change is found between equal versions only. -/
theorem classify_eq_none
    {previous : Option Text}
    {next : Text} :
    classify previous next = none ↔ previous = some next := by
  cases previous with
  | none =>
      simp [classify]
  | some version =>
      by_cases same : version = next
      · simp [classify, same]
      · simp only [classify, same, ↓reduceIte, Option.some.injEq, iff_false]
        split <;> simp

/-- A prerelease is never found. -/
theorem classify_ne_prerelease
    (previous : Option Text)
    (next : Text) :
    classify previous next ≠ some .prerelease := by
  cases previous with
  | none =>
      simp [classify]
  | some version =>
      by_cases same : version = next
      · simp [classify, same]
      · simp only [classify, same, ↓reduceIte]
        split
        · simp [between_ne_prerelease]
        · simp

variable {previous next : Text}

/-- The change between different texts is that between the versions that they give. -/
theorem classify_of_ne
    (differ : previous ≠ next) :
    classify (some previous) next =
      match Version.read? previous, Version.read? next with
      | some before, some after => some (between before after)
      | _, _ => some .major := by
  rw [classify]
  exact if_neg differ

private theorem classify_of_read?
    (differ : previous ≠ next)
    (isBefore : Version.read? previous = some before)
    (isAfter : Version.read? next = some after) :
    classify (some previous) next = some (between before after) := by
  rw [classify_of_ne differ, isBefore, isAfter]

/-- Where one of two texts gives no version, the change is a major one. -/
theorem classify_of_unread
    (differ : previous ≠ next)
    (unread : Version.read? previous = none ∨ Version.read? next = none) :
    classify (some previous) next = some .major := by
  rw [classify_of_ne differ]
  rcases unread with isUnread | isUnread
  · rw [isUnread]
  · rw [isUnread]
    cases Version.read? previous <;> rfl

/-- The change between different texts depends on the versions that they give. -/
theorem classify_congr
    {otherPrevious otherNext : Text}
    (differ : previous ≠ next)
    (othersDiffer : otherPrevious ≠ otherNext)
    (samePrevious : Version.read? otherPrevious = Version.read? previous)
    (sameNext : Version.read? otherNext = Version.read? next) :
    classify (some otherPrevious) otherNext = classify (some previous) next := by
  rw [classify_of_ne differ, classify_of_ne othersDiffer, samePrevious, sameNext]

/--
The change between two versions measures how far they are apart. Where there is no version before,
or one of two different texts denotes none, it is a major one. Between texts that denote versions
it is named after the first number that differs if the numbers go up, is no major one if they do
not, and a patch if they are the same. It is never a prerelease, there is none between equal texts
only, and blanks and marks around a text that starts with a digit leave it as it is as long as the
texts differ.
-/
theorem classify_measures :
    (∀ next, classify none next = some .major) ∧
    (∀ previous next,
      (classify (some previous) next = none ↔ previous = next) ∧
      (previous ≠ next →
        (∀ version, ¬ Version.Denotes previous version) ∨
          (∀ version, ¬ Version.Denotes next version) →
        classify (some previous) next = some .major) ∧
      (∀ before after, Version.Denotes previous before → Version.Denotes next after →
        (before.numbers < after.numbers →
          ∃ change, NamesFirstDifference before after change ∧
            classify (some previous) next = some change) ∧
        (¬ before.numbers < after.numbers → classify (some previous) next ≠ some .major) ∧
        (before.numbers = after.numbers → previous ≠ next →
          classify (some previous) next = some .patch)) ∧
      (∀ wrapped, previous ≠ next →
        (Version.StartsWithDigit previous → Version.Wraps wrapped previous → wrapped ≠ next →
          classify (some wrapped) next = classify (some previous) next) ∧
        (Version.StartsWithDigit next → Version.Wraps wrapped next → previous ≠ wrapped →
          classify (some previous) wrapped = classify (some previous) next))) ∧
    ∀ previous next, classify previous next ≠ some .prerelease := by
  refine ⟨fun _ => rfl, fun previous next => ⟨?_, ?_, ?_, ?_⟩, classify_ne_prerelease⟩
  · rw [classify_eq_none, Option.some.injEq]
  · intro differ noVersion
    apply classify_of_unread differ
    exact noVersion.imp Version.read?_eq_none_iff.mpr Version.read?_eq_none_iff.mpr
  · intro before after isBefore isAfter
    have readBefore := Version.read?_eq_some_iff.mpr isBefore
    have readAfter := Version.read?_eq_some_iff.mpr isAfter
    refine ⟨fun goesUp => ?_, fun noneGoesUp => ?_, fun sameNumbers differ => ?_⟩
    · have differ : previous ≠ next := by
        rintro rfl
        obtain rfl := Option.some.inj (readBefore.symm.trans readAfter)
        exact absurd goesUp (List.lt_irrefl before.numbers)
      exact ⟨_, namesFirstDifference_between goesUp, classify_of_read? differ readBefore readAfter⟩
    · by_cases same : previous = next
      · rw [classify_eq_none.mpr (congrArg some same)]
        simp
      · rw [classify_of_read? same readBefore readAfter]
        exact fun isMajor => between_ne_major noneGoesUp (Option.some.inj isMajor)
    · rw [classify_of_read? differ readBefore readAfter, between_eq_patch sameNumbers]
  · intro wrapped differ
    refine ⟨fun startsWithDigit wraps stillDiffer => ?_, fun startsWithDigit wraps stillDiffer => ?_⟩
    · exact classify_congr differ stillDiffer (Version.read?_of_wraps wraps startsWithDigit) rfl
    · exact classify_congr differ stillDiffer rfl (Version.read?_of_wraps wraps startsWithDigit)

/-! ### A minor version with both kinds of identifiers -/

namespace Minor

/-- The earlier version as it is written. -/
def olderText : Text :=
  "v1.2.3".toList

/-- The later version as it is written. -/
def newerText : Text :=
  "1.3.0-rc.1+build.5".toList

/-- The earlier version. -/
def older : Version :=
  { major := 1, minor := 2, patch := 3 }

/-- The later version. -/
def newer : Version where
  major := 1
  minor := 3
  patch := 0
  prerelease := ["rc".toList, "1".toList]
  build := ["build".toList, "5".toList]

end Minor

/-- The minor number is the first that differs, also with a mark and blanks around the version. -/
theorem classify_measures_minor :
    Version.Denotes Minor.olderText Minor.older ∧ Version.Denotes Minor.newerText Minor.newer ∧
      NamesFirstDifference Minor.older Minor.newer .minor ∧
      classify (some Minor.olderText) Minor.newerText = some .minor ∧
      classify (some Minor.olderText) (' ' :: 'v' :: Minor.newerText) = some .minor := by
  have isBefore : Version.Denotes Minor.olderText Minor.older :=
    Version.read?_eq_some_iff.mp (by decide)
  have isAfter : Version.Denotes Minor.newerText Minor.newer :=
    Version.read?_eq_some_iff.mp (by decide)
  have wraps : Version.Wraps (' ' :: 'v' :: Minor.newerText) Minor.newerText :=
    ⟨[' '], ['v'], [], by simp, by decide, by decide, List.forall_mem_nil _⟩
  obtain ⟨-, measures, -⟩ := classify_measures
  obtain ⟨-, -, ofVersions, ofWrapped⟩ := measures Minor.olderText Minor.newerText
  obtain ⟨goesUp, -, -⟩ := ofVersions _ _ isBefore isAfter
  obtain ⟨change, names, isChange⟩ := goesUp (by decide)
  obtain ⟨-, ofNext⟩ := ofWrapped (' ' :: 'v' :: Minor.newerText) (by decide)
  have isSame := ofNext ⟨'1', rfl, by decide⟩ wraps (by decide)
  cases names with
  | major differ =>
      exact absurd rfl differ
  | minor same differ =>
      exact ⟨isBefore, isAfter, .minor same differ, isChange, isSame.trans isChange⟩
  | patch _ same _ =>
      exact absurd same (by decide)

end Change

end ComponentPages
