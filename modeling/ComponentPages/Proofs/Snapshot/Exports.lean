import ComponentPages.Proofs.Declaration.Name
import ComponentPages.Proofs.Snapshot.ExportedItem
import ComponentPages.Proofs.Text.Offset

namespace ComponentPages

/-!
# Exported names

The names that a source exports are mentioned in its declarations and lists. Each is listed once,
in the order of the places of their first mentions; a list stands for its items, one after another.
-/

namespace Exports

open Text (IsWord)

/-! ## Distinct names -/

variable {seen names : List Text} {name : Text}

/-- Of names that are listed more than once the first is kept, and no name is lost. -/
theorem mem_distinct : name ∈ distinct seen names ↔ name ∈ names ∧ name ∉ seen := by
  fun_induction distinct seen names with
  | case1 =>
      simp
  | case2 seen first later isSeen inductionHypothesis =>
      rw [inductionHypothesis, List.mem_cons]
      refine ⟨fun ⟨isLater, notSeen⟩ => ⟨.inr isLater, notSeen⟩, ?_⟩
      rintro ⟨rfl | isLater, notSeen⟩
      · exact absurd isSeen notSeen
      · exact ⟨isLater, notSeen⟩
  | case3 seen first later notSeen inductionHypothesis =>
      rw [List.mem_cons, inductionHypothesis, List.mem_cons, List.mem_cons]
      by_cases isFirst : name = first
      · simp [isFirst, notSeen]
      · simp [isFirst]

/-- What stands in order without a name in front stands so behind it. -/
private theorem idxOf_cons_lt
    {first earlier later : Text}
    (earlierOther : earlier ≠ first)
    (laterOther : later ≠ first)
    (inOrder : names.idxOf earlier < names.idxOf later) :
    (first :: names).idxOf earlier < (first :: names).idxOf later := by
  rw [List.idxOf_cons_ne names earlierOther.symm, List.idxOf_cons_ne names laterOther.symm]
  exact Nat.succ_lt_succ inOrder

/-- Names that are distinct stand in the order in which they are found first. -/
theorem pairwise_idxOf_distinct (seen names : List Text) :
    (distinct seen names).Pairwise fun earlier later =>
      names.idxOf earlier < names.idxOf later := by
  fun_induction distinct seen names with
  | case1 =>
      exact .nil
  | case2 seen first later isSeen inductionHypothesis =>
      refine inductionHypothesis.imp_of_mem fun isOne isOther inOrder => ?_
      exact idxOf_cons_lt (ne_of_mem_of_not_mem isSeen (mem_distinct.mp isOne).2).symm
        (ne_of_mem_of_not_mem isSeen (mem_distinct.mp isOther).2).symm inOrder
  | case3 seen first later notSeen inductionHypothesis =>
      have notFirst : ∀ other ∈ distinct (first :: seen) later, other ≠ first := by
        rintro other isOther rfl
        exact (mem_distinct.mp isOther).2 List.mem_cons_self
      refine .cons (fun other isOther => ?_) ?_
      · rw [List.idxOf_cons_self, List.idxOf_cons_ne later (notFirst other isOther).symm]
        exact Nat.succ_pos _
      · refine inductionHypothesis.imp_of_mem fun isOne isOther inOrder => ?_
        exact idxOf_cons_lt (notFirst _ isOne) (notFirst _ isOther) inOrder

/-- Distinct names are found first at different places, so none is listed twice. -/
theorem nodup_distinct (seen names : List Text) : (distinct seen names).Nodup :=
  (pairwise_idxOf_distinct seen names).imp fun inOrder isSame =>
    absurd (isSame ▸ inOrder) (Nat.lt_irrefl _)

/-! ## Mentions -/

/-- The names of exported declarations, with the offsets of their places. -/
def declared (source : Text) : List (Nat × Text) :=
  (declaration.occurrences source).map fun found =>
    (found.stop - found.captured.byteLength, found.captured)

/-- The names of export lists, with the offset of what stands between the braces of their list. -/
def listed (source : Text) : List (Nat × Text) :=
  (list.occurrences source).flatMap fun found =>
    (listNames found.captured).map fun name =>
      (found.stop - 1 - found.captured.byteLength, name)

/-- All mentions of exported names, ordered by their places. -/
def mentions (source : Text) : List (Nat × Text) :=
  (declared source ++ listed source).mergeSort fun earlier later => earlier.1 ≤ later.1

private theorem ofSource_eq (source : Text) :
    ofSource source = distinct [] ((mentions source).map (·.2)) :=
  rfl

/-- The mentions are those of declarations and of lists, in the order of their places. -/
theorem mentions_perm (source : Text) :
    (mentions source).Perm (declared source ++ listed source) :=
  List.mergeSort_perm _ _

/-- A name is exported exactly if a declaration or a list mentions it. -/
theorem mem_ofSource {source : Text} :
    name ∈ ofSource source ↔
      ∃ mention, (mention ∈ declared source ∨ mention ∈ listed source) ∧ mention.2 = name := by
  rw [ofSource_eq, mem_distinct, and_iff_left List.not_mem_nil, List.mem_map]
  refine exists_congr fun mention => and_congr_left fun _ => ?_
  rw [(mentions_perm source).mem_iff, List.mem_append]

private theorem le_trans_place (first second third : Nat × Text) :
    decide (first.1 ≤ second.1) = true → decide (second.1 ≤ third.1) = true →
      decide (first.1 ≤ third.1) = true := by
  simp only [decide_eq_true_eq]
  exact Nat.le_trans

private theorem le_total_place (first second : Nat × Text) :
    (decide (first.1 ≤ second.1) || decide (second.1 ≤ first.1)) = true := by
  simp only [Bool.or_eq_true, decide_eq_true_eq]
  exact Nat.le_total _ _

private theorem mentions_inOrder (source : Text) :
    (mentions source).Pairwise fun earlier later => earlier.1 ≤ later.1 :=
  (List.pairwise_mergeSort le_trans_place le_total_place _).imp fun inOrder =>
    of_decide_eq_true inOrder

/-- Mentions at one place stay in their order. -/
theorem filter_mentions
    (source : Text)
    (place : Nat) :
    (mentions source).filter (·.1 == place) =
      (declared source ++ listed source).filter (·.1 == place) := by
  generalize isAll : declared source ++ listed source = all
  have areThere : ∀ mention ∈ all.filter (·.1 == place), mention.1 = place := by
    intro mention member
    simpa using List.of_mem_filter member
  have samePlace : (all.filter (·.1 == place)).Pairwise fun earlier later =>
      decide (earlier.1 ≤ later.1) = true := by
    refine List.pairwise_of_forall_mem_list fun one isOne other isOther => ?_
    rw [areThere one isOne, areThere other isOther]
    exact decide_eq_true (Nat.le_refl place)
  have isSublist : (all.filter (·.1 == place)).Sublist (mentions source) := by
    rw [mentions, isAll]
    exact List.sublist_mergeSort le_trans_place le_total_place samePlace List.filter_sublist
  have isFiltered := isSublist.filter (·.1 == place)
  rw [List.filter_filter] at isFiltered
  simp only [Bool.and_self] at isFiltered
  refine (isFiltered.eq_of_length ?_).symm
  rw [← isAll]
  exact ((mentions_perm source).filter _).length_eq.symm

/-! ## Where names stand -/

/-- The name of a declaration is an identifier, and it stands where the declaration is read. -/
theorem exists_of_declaration
    {previous : Option Char}
    {text unread : Text}
    (isMatch : declaration previous text = some (name, unread)) :
    Text.IsIdentifier name ∧ name ++ unread <:+ text := by
  simp only [declaration, Text.oneOf?, Option.bind_eq_bind, Option.bind_eq_some_iff,
    Text.afterWord?_eq_some_iff] at isMatch
  obtain ⟨afterExport, ⟨afterWord, ⟨-, rfl⟩, isAfterExport⟩, ⟨keyword, afterKeyword⟩, isKeyword,
    afterBlanks, isAfterBlanks, isName⟩ := isMatch
  obtain ⟨word, -, isWord⟩ := List.exists_of_findSome?_eq_some isKeyword
  obtain ⟨rest, isRest, isPair⟩ := Option.map_eq_some_iff.mp isWord
  obtain ⟨-, rfl⟩ := Prod.mk.inj isPair
  obtain ⟨isSplit, -⟩ := Text.eq_append_of_identifier? isName
  refine ⟨Text.isIdentifier_of_identifier? isName, ?_⟩
  rw [← isSplit]
  exact (Text.afterBlanks?_suffix isAfterBlanks).trans <| (Text.after?_suffix isRest).trans <|
    (Text.skipWordAndBlanks_suffix _ _).trans <| (Text.skipWordAndBlanks_suffix _ _).trans <|
      (Text.skipWordAndBlanks_suffix _ _).trans <| (Text.afterBlanks?_suffix isAfterExport).trans <|
        List.suffix_append _ _

/-- What stands between the braces of a list stands where the list is read. -/
theorem exists_of_list
    {previous : Option Char}
    {text items unread : Text}
    (isMatch : list previous text = some (items, unread)) :
    '\x7d' ∉ items ∧ items ++ '\x7d' :: unread <:+ text := by
  simp only [list, Option.bind_eq_bind, Option.bind_eq_some_iff,
    Text.afterWord?_eq_some_iff] at isMatch
  obtain ⟨afterExport, ⟨afterWord, ⟨-, rfl⟩, isAfterExport⟩, inside, isInside, isEnd⟩ := isMatch
  split at isEnd
  · contradiction
  · rename_i closer rest isRest
    obtain ⟨rfl, rfl⟩ := Prod.mk.inj (Option.some.inj isEnd)
    obtain rfl : closer = '\x7d' := by
      simpa using Text.stops_dropWhile (· != '\x7d') inside closer (by rw [isRest]; rfl)
    have isWhole : inside.takeWhile (· != '\x7d') ++ '\x7d' :: rest = inside := by
      rw [← isRest]
      exact List.takeWhile_append_dropWhile
    refine ⟨fun member => ?_, ?_⟩
    · simpa using List.mem_takeWhile_imp member
    · rw [isWhole]
      exact (Text.after?_suffix isInside).trans <| (Text.skipWordAndBlanks_suffix _ _).trans <|
        (Text.afterBlanks?_suffix isAfterExport).trans <| List.suffix_append _ _

/-- A mention in a declaration is an identifier that stands at its place. -/
theorem exists_of_mem_declared
    {source : Text}
    {mention : Nat × Text}
    (isMention : mention ∈ declared source) :
    Text.IsIdentifier mention.2 ∧ ∃ rest, source.from? mention.1 = some (mention.2 ++ rest) := by
  obtain ⟨found, isFound, rfl⟩ := List.mem_map.mp isMention
  obtain ⟨before, place, unread, rfl, isMatch, isStart, isStop⟩ :=
    Text.Pattern.isPlaced_of_mem_occurrencesFrom isFound
  obtain ⟨isIdentifier, read, rfl⟩ := exists_of_declaration isMatch
  refine ⟨isIdentifier, unread, ?_⟩
  have isPlace : found.stop - found.captured.byteLength = (before ++ read).byteLength := by
    rw [isStop, isStart]
    simp only [Text.byteLength_append]
    omega
  rw [isPlace, ← List.append_assoc]
  exact Text.from?_byteLength _ _

/-- A mention in a list is the name of an item of the list, whose text stands at its place. -/
theorem exists_of_mem_listed
    {source : Text}
    {mention : Nat × Text}
    (isMention : mention ∈ listed source) :
    ∃ found ∈ list.occurrences source, ∃ item ∈ Text.pieces (· == ',') found.captured,
      itemName item = mention.2 ∧ mention.2 ≠ [] ∧
        ∃ rest, source.from? mention.1 = some (found.captured ++ '\x7d' :: rest) := by
  obtain ⟨found, isFound, isName⟩ := List.mem_flatMap.mp isMention
  obtain ⟨name, isListed, rfl⟩ := List.mem_map.mp isName
  obtain ⟨isItemName, notEmpty⟩ := List.mem_filter.mp isListed
  obtain ⟨item, isItem, rfl⟩ := List.mem_map.mp isItemName
  obtain ⟨before, place, unread, rfl, isMatch, isStart, isStop⟩ :=
    Text.Pattern.isPlaced_of_mem_occurrencesFrom isFound
  obtain ⟨-, read, rfl⟩ := exists_of_list isMatch
  refine ⟨found, isFound, item, isItem, rfl, by simpa using notEmpty, unread, ?_⟩
  have isPlace : found.stop - 1 - found.captured.byteLength = (before ++ read).byteLength := by
    rw [isStop, isStart]
    simp only [Text.byteLength_append, Text.byteLength, show Char.utf8Size '\x7d' = 1 from rfl]
    omega
  dsimp only
  rw [isPlace, ← List.append_assoc]
  exact Text.from?_byteLength _ _

/-! ## The names that a source exports -/

/-- An exported name is not empty and has no blanks at its ends. -/
theorem name_of_mem_ofSource
    {source : Text}
    (isExported : name ∈ ofSource source) :
    name ≠ [] ∧ Text.trim name = name := by
  obtain ⟨mention, isDeclared | isListed, rfl⟩ := mem_ofSource.mp isExported
  · obtain ⟨isIdentifier, -⟩ := exists_of_mem_declared isDeclared
    have isWord : IsWord mention.2 := ⟨isIdentifier.notEmpty, isIdentifier.isBlank_eq_false⟩
    exact ⟨isWord.notEmpty, isWord.trim_eq⟩
  · obtain ⟨-, -, item, -, isName, notEmpty, -⟩ := exists_of_mem_listed isListed
    refine ⟨notEmpty, ?_⟩
    rw [← isName]
    exact Text.trim_trim _

/-- The name of each item is exported, unless it is empty. -/
theorem itemName_mem_ofSource
    {source item : Text}
    {found : Text.Occurrence Text}
    (isFound : found ∈ list.occurrences source)
    (isItem : item ∈ Text.pieces (· == ',') found.captured)
    (notEmpty : itemName item ≠ []) :
    itemName item ∈ ofSource source := by
  refine mem_ofSource.mpr
    ⟨(found.stop - 1 - found.captured.byteLength, itemName item), .inr ?_, rfl⟩
  refine List.mem_flatMap.mpr ⟨found, isFound, List.mem_map.mpr ⟨itemName item, ?_, rfl⟩⟩
  exact List.mem_filter.mpr ⟨List.mem_map_of_mem isItem, by simpa using notEmpty⟩

/--
The names that a source exports are distinct, not empty and trimmed. They are those that its
declarations and lists mention, in the order of the first mentions; these are ordered by the places
of the names of declarations and of the lists, and at one place as they are written. A name of a
declaration is an identifier. A name of a list stands in an item, and it is a word exactly if the
item is written as that word. A new name is found exactly if the blank in front of `as` and the one
behind it are spaces, unless `type` is the old name and taken for the keyword.
-/
theorem ofSource_names (source : Text) :
    (ofSource source).Nodup ∧
    (∀ name ∈ ofSource source, name ≠ [] ∧ Text.trim name = name) ∧
    (∀ name, name ∈ ofSource source ↔ name ∈ (mentions source).map (·.2)) ∧
    ((ofSource source).Pairwise fun earlier later =>
      ((mentions source).map (·.2)).idxOf earlier < ((mentions source).map (·.2)).idxOf later) ∧
    ((mentions source).Perm (declared source ++ listed source) ∧
      ((mentions source).Pairwise fun earlier later => earlier.1 ≤ later.1) ∧
      ∀ place, (mentions source).filter (·.1 == place) =
        (declared source ++ listed source).filter (·.1 == place)) ∧
    (∀ mention ∈ declared source,
      Text.IsIdentifier mention.2 ∧
      (∀ character ∈ mention.2, Text.isBlank character = false ∧ character ≠ '/') ∧
      ∃ rest, source.from? mention.1 = some (mention.2 ++ rest)) ∧
    (∀ mention ∈ listed source,
      ∃ found ∈ list.occurrences source, ∃ item ∈ Text.pieces (· == ',') found.captured,
        itemName item = mention.2 ∧ mention.2 <:+: item ∧
        (∀ word, IsWord word → (mention.2 = word ↔ Names item word)) ∧
        ∃ rest, source.from? mention.1 = some (found.captured ++ '\x7d' :: rest)) ∧
    (∀ found ∈ list.occurrences source, ∀ item ∈ Text.pieces (· == ',') found.captured,
      itemName item ≠ [] → itemName item ∈ ofSource source) ∧
    ∀ lead old before behind new trail,
      (∀ character ∈ lead, Text.isBlank character = true) →
      old ≠ [] → Text.trim old = old →
      (∀ character ∈ before, Text.isBlank character = true) → before ≠ [] →
      (∀ character ∈ behind, Text.isBlank character = true) →
      IsWord new →
      (∀ character ∈ trail, Text.isBlank character = true) →
      (itemName (lead ++ (old ++ (before ++ ("as".toList ++ behind)) ++ new ++ trail)) = new ↔
        before.getLast? = some ' ' ∧ behind.head? = some ' ' ∧
          ¬ (old = "type".toList ∧ before.head? = some ' ')) := by
  refine ⟨nodup_distinct _ _, fun _ => name_of_mem_ofSource, fun name => ?_,
    pairwise_idxOf_distinct _ _,
    ⟨mentions_perm source, mentions_inOrder source, filter_mentions source⟩,
    fun mention isMention => ?_, fun mention isMention => ?_,
    fun _ isFound _ isItem => itemName_mem_ofSource isFound isItem, ?_⟩
  · rw [ofSource_eq, mem_distinct, and_iff_left List.not_mem_nil]
  · obtain ⟨isIdentifier, isPlaced⟩ := exists_of_mem_declared isMention
    refine ⟨isIdentifier, fun character member => ?_, isPlaced⟩
    refine ⟨isIdentifier.isBlank_eq_false character member, ?_⟩
    rintro rfl
    have slashOrdinary :=
      Text.isOrdinary_of_continuesIdentifier (isIdentifier.continues '/' member)
    exact absurd slashOrdinary (by decide)
  · obtain ⟨found, isFound, item, isItem, isName, -, isPlaced⟩ := exists_of_mem_listed isMention
    refine ⟨found, isFound, item, isItem, isName, ?_, fun word isWord => ?_, isPlaced⟩
    · rw [← isName]
      exact itemName_infix item
    · rw [← isName]
      exact itemName_eq_iff isWord
  · intro lead old before behind new trail leadBlank oldNotEmpty oldTrimmed beforeBlank
      beforeNotEmpty behindBlank isWord trailBlank
    exact itemName_rename_iff leadBlank oldNotEmpty oldTrimmed beforeBlank beforeNotEmpty
      behindBlank isWord trailBlank

/-! ### A new name on the next line -/

/-- A list whose item has a line break in front of its new name. -/
def brokenRename : Text :=
  "export \x7b Base as\n  Button \x7d".toList

/-- The whole item is exported, white space included. -/
theorem ofSource_brokenRename :
    ofSource brokenRename = ["Base as\n  Button".toList] := by
  rw [ofSource_eq, mentions, List.mergeSort_of_pairwise (by decide)]
  decide

end Exports

end ComponentPages
