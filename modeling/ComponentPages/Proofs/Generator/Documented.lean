import ComponentPages.Proofs.Generator.CleanBatch
import ComponentPages.Proofs.Snapshot.DeclaredVersion

namespace ComponentPages

/-!
# Documented components

The version of a page doubles as the sign that there is one: an entry whose page has an empty
version counts as never documented. So a component whose page was just made is documented, and
reported as current, exactly if the version that its source declares is not empty. It is empty only
if a constant or a property quotes nothing but blanks.
-/

namespace Registry.IsCurrentFor

variable {registry : Registry} {snapshot : Snapshot}

/-- Without a version a page that is current is reported as missing. -/
theorem reason_compare_of_no_version
    (isCurrent : registry.IsCurrentFor snapshot)
    (noVersion : snapshot.version = []) :
    (registry.compare snapshot).reason = .missingDocs := by
  obtain ⟨entry, found, sameVersion, -⟩ := isCurrent
  have notDocumented : entry.isDocumented = false := by
    simp [Entry.isDocumented, sameVersion, noVersion]
  simp [compare, found, Comparison.ofVersions, Comparison.reasonFor, notDocumented]

/-- A page that is current is reported so, or as missing, and the version tells which. -/
theorem reason_compare_iff
    (isCurrent : registry.IsCurrentFor snapshot) :
    ((registry.compare snapshot).reason = .upToDate ↔ snapshot.version ≠ []) ∧
      ((registry.compare snapshot).reason = .missingDocs ↔ snapshot.version = []) := by
  by_cases noVersion : snapshot.version = []
  · simp [isCurrent.reason_compare_of_no_version noVersion, noVersion]
  · simp [isCurrent.reason_compare noVersion, noVersion]

end Registry.IsCurrentFor

private theorem Registry.identity_compare
    (registry : Registry)
    (snapshot : Snapshot) :
    (registry.compare snapshot).identity = snapshot.identity := by
  unfold compare
  cases registry.entry? snapshot.identity <;> rfl

namespace Generator

/--
The version that a source declares is empty exactly if the source declares it by a constant or a
property that quotes nothing but blanks. Right after the page of a source was made, its component
is documented, and a comparison with the same source reports it as current, exactly if that is not
the case; otherwise the comparison reports that the page is missing.
-/
theorem documented_after_generate
    (source : Text) :
    (DeclaredVersion.ofSource source = [] ↔ DeclaredVersion.DeclaresBlank source) ∧
    (DeclaredVersion.DeclaresBlank source →
      ∃ quote, DeclaredVersion.IsBlankQuote quote ∧ quote <:+: source) ∧
    ∀ now path (generator : Generator) world made written after,
      (generator.generate now source path :
        StateM World (Generator × Except Error (Option Written))) world =
          ((made, .ok (some written)), after) →
      ∃ entry,
        made.registry.entry? written.identity = some entry ∧
        (entry.isDocumented = true ↔ ¬ DeclaredVersion.DeclaresBlank source) ∧
        ∀ time view later, view later path = .ok source →
          ∃ comparison,
            (made.compareFiles time (.ofView view) [path] : StateM World Report) later =
              (⟨[comparison], []⟩, later) ∧
            comparison.identity = written.identity ∧
            (comparison.reason = .upToDate ↔ ¬ DeclaredVersion.DeclaresBlank source) ∧
            (comparison.reason = .missingDocs ↔ DeclaredVersion.DeclaresBlank source) := by
  refine ⟨DeclaredVersion.ofSource_eq_nil_iff, fun blank => blank.exists_blankQuote, ?_⟩
  intro now path generator world made written after generated
  obtain ⟨snapshot, isSnapshot, sameIdentity, isCurrent⟩ := isCurrentFor_of_generate generated
  have noVersion {time : Text} {other : Snapshot}
      (isOther : Snapshot.ofSource? time source path = some other) :
      other.version = [] ↔ DeclaredVersion.DeclaresBlank source := by
    obtain ⟨_, -, rfl⟩ := Option.map_eq_some_iff.mp isOther
    exact DeclaredVersion.ofSource_eq_nil_iff
  obtain ⟨entry, found, sameVersion, -⟩ := id isCurrent
  refine ⟨entry, sameIdentity ▸ found, ?_, fun time view later isRead => ?_⟩
  · rw [← noVersion isSnapshot, ← sameVersion]
    simp [Entry.isDocumented]
  · obtain ⟨other, isOther, otherIdentity, otherVersion, otherContent⟩ :=
      Snapshot.exists_ofSource? isSnapshot time
    obtain ⟨isUpToDate, isMissing⟩ :=
      (isCurrent.congr otherIdentity otherVersion otherContent).reason_compare_iff
    refine ⟨made.registry.compare other, ?_, ?_, ?_, ?_⟩
    · have isTaken : snapshotIn time view later path = .ok other :=
        snapshotIn_eq_ok.mpr ⟨source, isRead, isOther⟩
      rw [run_compareFiles]
      simp [snapshotsIn, problemsIn, isTaken, Except.toOption]
    · rw [Registry.identity_compare, otherIdentity, sameIdentity]
    · rw [isUpToDate, Ne, noVersion isOther]
    · rw [isMissing, noVersion isOther]

end Generator

namespace Session.Small

/-- The page of the small project is made from a source without any quotes. -/
theorem documented_after_generate_small :
    ∃ made written after entry comparison,
      (generator.generate [] latter path :
        StateM World (Generator × Except Error (Option Written))) world =
          ((made, .ok (some written)), after) ∧
      made.registry.entry? written.identity = some entry ∧ entry.isDocumented = true ∧
      (made.compareFiles [] (.ofView view) [path] : StateM World Report) after =
        (⟨[comparison], []⟩, after) ∧
      comparison.reason = .upToDate := by
  have succeeds :
      ((generator.generate [] latter path :
        StateM World (Generator × Except Error (Option Written))) world).1.2.toOption.join.isSome =
          true := by
    decide
  rcases isRun : (generator.generate [] latter path :
      StateM World (Generator × Except Error (Option Written))) world with ⟨⟨made, result⟩, after⟩
  rw [isRun] at succeeds
  rcases result with error | _ | written
  · contradiction
  · contradiction
  · obtain ⟨isEmptyIff, -, measures⟩ := Generator.documented_after_generate latter
    have notBlank : ¬ DeclaredVersion.DeclaresBlank latter := by
      rw [← isEmptyIff]
      decide
    obtain ⟨entry, found, isDocumented, compares⟩ := measures _ _ _ _ _ _ _ isRun
    obtain ⟨comparison, isCompared, -, isUpToDate, -⟩ := compares [] view after rfl
    exact ⟨made, written, after, entry, comparison, rfl, found, isDocumented.mpr notBlank,
      isCompared, isUpToDate.mpr notBlank⟩

/-- A source whose version constant quotes a blank. -/
def blankSource : Text :=
  "export const A = 1; export const A_VERSION = ' '".toList

/-- The run for a source whose version is blank. -/
def blankRun : (Generator × Except Error (Option Written)) × World :=
  (generator.generate [] blankSource path :
    StateM World (Generator × Except Error (Option Written))) world

/-- Its version is empty, and right after its page was made the page is reported as missing. -/
theorem blankSource_missingDocs :
    DeclaredVersion.ofSource blankSource = [] ∧
      blankRun.1.2 = .ok (some ⟨"A".toList, options.pagePath "A".toList⟩) ∧
      (blankRun.1.1.registry.entry? "A".toList).map (·.isDocumented) = some false ∧
      ((blankRun.1.1.compareFiles [] (.ofView fun _ _ => .ok blankSource) [path] :
        StateM World Report) blankRun.2).1.results.map (·.reason) = [.missingDocs] := by
  refine ⟨by decide, by decide +kernel, by decide +kernel, by decide +kernel⟩

end Session.Small

end ComponentPages
