import ComponentPages.Proofs.Generator.Staleness

namespace ComponentPages

/-!
# Marks follow pages

Writing a page and marking its component are two steps, and saving that comes after them can fail.
Still the version on the mark of a component is always that of its last page, because the mark is
only changed right after a page was written, and recording a snapshot leaves it as it is. A
generator that is loaded again takes its marks from the store, which may be older than the pages;
so this holds as long as the generator goes on.
-/

/-! ## Pages in a ledger -/

/-- Whether a deed is that of writing a page. -/
def Deed.IsPage : Deed → Prop
  | .written _ => True
  | _ => False

namespace Ledger

/-- The version of the last page; empty if no page was written. -/
def pageVersion (ledger : Ledger) : Text :=
  (ledger.page.map (·.version)).getD []

/-- The last page stays until another one is written. -/
theorem pageVersion_ofDeeds_append
    (identity : Text)
    (deeds : List Deed)
    {more : List Deed}
    (noPages : ∀ deed ∈ more, ¬deed.IsPage) :
    (ofDeeds identity (deeds ++ more)).pageVersion = (ofDeeds identity deeds).pageVersion := by
  induction more generalizing deeds with
  | nil =>
      rw [List.append_nil]
  | cons deed later inductionHypothesis =>
      rw [List.append_cons]
      have othersNoPages : ∀ other ∈ later, ¬other.IsPage := by
        intro other member
        exact noPages other (List.mem_cons_of_mem _ member)
      refine (inductionHypothesis _ othersNoPages).trans ?_
      rw [ofDeeds_concat]
      cases deed with
      | recorded snapshot =>
          by_cases same : snapshot.identity = identity <;> simp [enter, pageVersion, same]
      | written snapshot =>
          exact absurd trivial (noPages _ List.mem_cons_self)
      | saved =>
          rfl
      | reopened =>
          rfl
      | disturbed entries =>
          rfl

end Ledger

namespace Generator

variable {generator : Generator} {world after : World} {deeds : List Deed}

private theorem not_isPage_of_mem_disturbance
    {path : Path}
    {deed : Deed}
    (member : deed ∈ disturbance path world after) :
    ¬deed.IsPage := by
  unfold disturbance at member
  split at member
  · contradiction
  · obtain rfl := List.mem_singleton.mp member
    exact id

private theorem not_isPage_of_mem_savingDeeds
    {registry : Registry}
    {deed : Deed}
    (member : deed ∈ savingDeeds registry world) :
    ¬deed.IsPage := by
  unfold savingDeeds at member
  split at member
  · obtain rfl := List.mem_singleton.mp member
    exact id
  · exact not_isPage_of_mem_disturbance member

/-! ## Marks -/

/-- Whether the mark of every component has the version of its last page. -/
def MarksFollow (generator : Generator) (deeds : List Deed) : Prop :=
  ∀ identity,
    (generator.registry.documentationOf identity).1 =
      (Ledger.ofDeeds identity deeds).pageVersion

namespace MarksFollow

/-- Deeds other than pages leave the marks right if the registry keeps them. -/
theorem of_noPages
    (marksFollow : generator.MarksFollow deeds)
    {made : Generator}
    (sameMarks : ∀ identity,
      made.registry.documentationOf identity = generator.registry.documentationOf identity)
    {more : List Deed}
    (noPages : ∀ deed ∈ more, ¬deed.IsPage) :
    made.MarksFollow (deeds ++ more) := by
  intro identity
  rw [Ledger.pageVersion_ofDeeds_append identity deeds noPages, sameMarks]
  exact marksFollow identity

/-- Marking a component that is known follows its page. -/
theorem mark
    (marksFollow : generator.MarksFollow deeds)
    (now : Text)
    {snapshot : Snapshot}
    {entry : Entry}
    (isKnown : generator.registry.entry? snapshot.identity = some entry) :
    (generator.mark now snapshot).MarksFollow (deeds ++ [.written snapshot]) := by
  intro identity
  rw [Ledger.ofDeeds_concat, Generator.mark]
  by_cases same : identity = snapshot.identity
  · rw [same, Registry.documentationOf_markDocumented_self isKnown]
    simp [Ledger.enter, Ledger.pageVersion]
  · rw [Registry.documentationOf_markDocumented_of_ne same]
    simpa [Ledger.enter, Ledger.pageVersion, Ne.symm same] using marksFollow identity

/-- The marks follow the pages in every course. -/
theorem course
    (marksFollow : generator.MarksFollow deeds)
    {allowed : Snapshot → Prop}
    {more : List Deed}
    {made : Generator}
    (course : generator.Course allowed world more made after) :
    made.MarksFollow (deeds ++ more) := by
  induction course with
  | start =>
      rw [List.append_nil]
      exact marksFollow
  | record course now isAllowed inductionHypothesis =>
      rw [← List.append_assoc]
      refine inductionHypothesis.of_noPages (Registry.documentationOf_upsert _ now _) ?_
      simp [Deed.IsPage]
  | move course keeps inductionHypothesis =>
      rw [← List.append_assoc]
      exact inductionHypothesis.of_noPages (fun _ => rfl) fun _ => not_isPage_of_mem_disturbance
  | mark course now isAllowed isKnown inductionHypothesis =>
      rw [← List.append_assoc]
      exact inductionHypothesis.mark now isKnown
  | save course isSaved inductionHypothesis =>
      rw [← List.append_assoc]
      exact inductionHypothesis.of_noPages (fun _ => rfl) fun _ => not_isPage_of_mem_savingDeeds

end MarksFollow

/-- Recording snapshots of paths leaves every mark as it is, whether saving succeeds or not. -/
theorem documentationOf_refresh
    (now : Text)
    (view : World → Path → Except FileFault Text)
    (generator : Generator)
    (paths : List Path)
    (world : World)
    (identity : Text) :
    Registry.documentationOf
        ((generator.refresh now (.ofView view) paths :
          StateM World (Generator × Except Error (List Outcome))) world).1.1.registry identity =
      generator.registry.documentationOf identity := by
  have sameMarks := Registry.documentationOf_upsertAll generator.registry now
    (snapshotsIn now view world paths) identity
  rw [run_refresh]
  dsimp only
  split
  · exact sameMarks
  · split <;> exact sameMarks

end Generator

/-! ## Sessions -/

namespace Session

/-- Every request but loading the generator again keeps the marks right. -/
theorem marksFollow_handle
    {session : Session}
    (marksFollow : session.generator.MarksFollow session.deeds)
    {request : Request}
    (goesOn : request ≠ .reopen) :
    (session.handle request).generator.MarksFollow (session.handle request).deeds := by
  -- Snapshots of any kind may be recorded, so every operation takes a course.
  cases request with
  | generate now source path =>
      exact marksFollow.course (Generator.course_generate now (fun _ _ => trivial) rfl)
  | generateFile now view path =>
      exact marksFollow.course (Generator.course_generateFile (fun _ _ => trivial) rfl)
  | generateAll now view paths =>
      exact marksFollow.course (Generator.course_generateEach (fun _ _ _ _ _ _ => trivial) rfl)
  | generateOutdated now view =>
      exact marksFollow.course (Generator.course_generateEach (fun _ _ _ _ _ _ => trivial) rfl)
  | refresh now view paths =>
      exact marksFollow.course (Generator.course_refresh (fun _ _ => trivial) rfl)
  | reopen =>
      contradiction
  | elsewhere world =>
      exact marksFollow.of_noPages (fun _ => rfl)
        fun _ => Generator.not_isPage_of_mem_disturbance

/-- The marks of a registry follow the pages after every run that does not start anew. -/
theorem marksFollow_run
    {session : Session}
    (marksFollow : session.generator.MarksFollow session.deeds)
    {requests : List Request}
    (goesOn : .reopen ∉ requests) :
    (session.run requests).generator.MarksFollow (session.run requests).deeds := by
  induction requests generalizing session with
  | nil =>
      exact marksFollow
  | cons request later inductionHypothesis =>
      have firstGoesOn : request ≠ .reopen := by
        rintro rfl
        exact goesOn List.mem_cons_self
      have othersGoOn : .reopen ∉ later := by
        intro member
        exact goesOn (List.mem_cons_of_mem _ member)
      exact inductionHypothesis (marksFollow_handle marksFollow firstGoesOn) othersGoOn

/--
In every session that starts without entries and in which the generator goes on, whatever fails,
each entry is marked with the version of the last page that was written for its component, and with
none if there is no such page. Recording snapshots of paths never changes the version or the time
on a mark.
-/
theorem marks_follow_pages
    {start : Generator}
    (isEmpty : start.registry.entries = .empty)
    (world : World)
    {requests : List Request}
    (goesOn : .reopen ∉ requests)
    {session : Session}
    (isRun : (Session.mk start world []).run requests = session) :
    (∀ identity entry,
      session.generator.registry.entry? identity = some entry →
        entry.documentationVersion =
          (Ledger.ofDeeds identity session.deeds).pageVersion) ∧
      ∀ (now : Text) (view : World → Path → Except FileFault Text) (generator : Generator)
          (paths : List Path) (world : World) (identity : Text),
        Registry.documentationOf
            ((generator.refresh now (.ofView view) paths :
              StateM World (Generator × Except Error (List Outcome))) world).1.1.registry
            identity =
          generator.registry.documentationOf identity := by
  refine ⟨?_, Generator.documentationOf_refresh⟩
  intro identity entry found
  have unmarked : start.MarksFollow [] := by
    intro identity
    simp [Registry.documentationOf, Registry.entry?, isEmpty, Ledger.ofDeeds, Ledger.initial,
      Ledger.pageVersion]
  have marksFollow : session.generator.MarksFollow session.deeds := by
    rw [← isRun]
    exact marksFollow_run unmarked goesOn
  rw [← marksFollow identity, Registry.documentationOf_eq found]

namespace Small

/-- A source of a later version. -/
def upgraded : Text :=
  "// @version 2.0.0\nexport const A = 1".toList

/-- A world in which the four changes of files for one page succeed and the next one fails. -/
def failingWorld : World :=
  ⟨.empty [], [none, none, none, none, some ⟨.other [], none⟩]⟩

/-- The page of the later version is not written. -/
def failingRequests : List Request :=
  [.generate [] former path, .generate [] upgraded path]

/-- The session after these requests in the failing world. -/
def failingSession : Session :=
  (Session.mk generator failingWorld []).run failingRequests

end Small

/-- A component whose later version has no page is marked with the former version. -/
theorem marks_follow_pages_small :
    ∃ entry,
      Small.failingSession.generator.registry.entry? "A".toList = some entry ∧
        entry.currentVersion = "2.0.0".toList ∧
        entry.documentationVersion =
          (Ledger.ofDeeds "A".toList Small.failingSession.deeds).pageVersion := by
  have isUpgraded :
      (Small.failingSession.generator.registry.entry? "A".toList).map (·.currentVersion) =
        some "2.0.0".toList := by
    decide
  obtain ⟨entry, found, isCurrent⟩ := Option.map_eq_some_iff.mp isUpgraded
  have isEmpty : Small.generator.registry.entries = .empty :=
    rfl
  have goesOn : .reopen ∉ Small.failingRequests := by
    simp [Small.failingRequests]
  have isRun :
      (Session.mk Small.generator Small.failingWorld []).run Small.failingRequests =
        Small.failingSession :=
    rfl
  have follows := (marks_follow_pages isEmpty Small.failingWorld goesOn isRun).1
  exact ⟨entry, found, isCurrent, follows _ entry found⟩

end Session

end ComponentPages
