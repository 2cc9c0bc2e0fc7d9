import ComponentPages.Page.Context
import ComponentPages.Proofs.Text.Keyed

namespace ComponentPages

/-!
# What a page context holds

The steps that a page shows of a history are its last ones, the latest first, and a template finds
them in the context under their names.
-/

namespace Page

/-- The first step that a page shows is the last of the history. -/
theorem head?_changelog (entry : Entry) :
    (changelog (some entry)).head? = entry.history.getLast? := by
  simp [changelog, changelogLength, List.head?_take]

/-- The context of a page holds the steps of the history that the page shows. -/
theorem find?_changelog
    (now : Text)
    (snapshot : Snapshot)
    (extraction : Extraction)
    (entry : Option Entry)
    (extension : Text) :
    (contextOf now snapshot extraction entry extension).find? "changelog".toList =
      some (.list ((changelog entry).map historyValue)) := by
  -- The last binding of a name counts, so the bindings are looked through from the end.
  rw [contextOf, Keyed.find?_ofList]
  simp [Bindings.find?]

/-- The version of a step is found under its name. -/
theorem child?_historyValue_version (item : HistoryItem) :
    (historyValue item).child? "version".toList = some (.text item.version) := by
  have found := Keyed.find?_ofList
    ((["version", "date", "changeKind", "breaking", "migrationRequired", "notes"].zip
      [Value.text item.version, .text item.date, .text item.change.word, .boolean item.breaking,
        .boolean item.migrationRequired, optionalText item.notes]).map
      fun field => (field.1.toList, field.2))
    "version".toList
  refine found.trans ?_
  simp [Bindings.find?]

/-- A template finds the version of the first step that a page shows. -/
theorem lookup?_changelog_version
    (now : Text)
    (snapshot : Snapshot)
    (extraction : Extraction)
    (entry : Option Entry)
    (extension : Text) :
    (contextOf now snapshot extraction entry extension).lookup? "changelog.0.version".toList =
      ((changelog entry).head?.map fun item => .text item.version) := by
  have segments :
      Context.segments "changelog.0.version".toList =
        ["changelog".toList, "0".toList, "version".toList] := by
    decide
  have position : Value.position? "0".toList = some 0 := by
    decide
  have isFirst : ∀ items, Value.child? "0".toList (.list items) = items[0]? := by
    intro items
    rw [Value.child?, position, Option.bind_some]
  rw [Context.lookup?, segments]
  dsimp only
  rw [find?_changelog, Option.bind_some, Value.descend?, isFirst]
  cases changelog entry with
  | nil =>
      rfl
  | cons first rest =>
      exact congrArg (·.bind (Value.descend? · [])) (child?_historyValue_version first)

end Page

end ComponentPages
