import ComponentPages.Proofs.Declaration.AnchorPlace
import ComponentPages.Proofs.Source.BytewiseComments
import ComponentPages.Proofs.Source.BytewiseScan

namespace ComponentPages

/-!
# Declarations and calls in bytes

Fields, the bodies of declarations, configurations and axes are found at offsets, too, and cut out
of the text that they stand in. Each offset at which a text is cut is that of a byte of an ASCII
character, or lies right behind one, or is the start or the end of the text.
-/

namespace Bytewise

/-! ## Fields -/

/-- The terminators of fields. -/
def terminators : List Char :=
  [';', ',', '\n']

private theorem areAscii_terminators : ∀ character ∈ terminators, character.toNat < 128 := by
  decide

private theorem contains_terminators : terminators.contains = Field.isTerminator := by
  funext character
  simp only [terminators, Field.isTerminator, List.contains_cons, List.contains_nil,
    Bool.or_false, Bool.or_assoc]

/--
The ranges of fields, the last one first, with the range of one more piece: it is left out if the
piece is blank, and extends the last range if the piece continues a type.
-/
def addRange
    (body : Text)
    (fields : List (Nat × Nat))
    (range : Nat × Nat) :
    Except Text.BadCut (List (Nat × Nat)) := do
  let piece ← body.cut range.1 range.2
  if (Text.trim piece).isEmpty then
    return fields
  else
    match fields with
    | [] => return [range]
    | last :: earlier =>
        let previous ← body.cut last.1 last.2
        if Field.continuesType (Text.trim previous) (Text.trim piece) then
          return (last.1, range.2) :: earlier
        else
          return range :: last :: earlier

/-- The fields of a body, cut out of it and trimmed. -/
def fields (body : Text) : Except Text.BadCut (List Text) := do
  let merged ← (ranges terminators body).foldlM (addRange body) []
  let pieces ← cutAll body merged.reverse
  return pieces.map Text.trim

variable {body piece previous : Text} {range last : Nat × Nat} {earlier : List (Nat × Nat)}

private theorem addRange_of_blank
    (isPiece : body.cut range.1 range.2 = .ok piece)
    (isBlank : (Text.trim piece).isEmpty = true)
    (fields : List (Nat × Nat)) :
    addRange body fields range = .ok fields := by
  rw [addRange, isPiece]
  exact if_pos isBlank

private theorem addRange_nil
    (isPiece : body.cut range.1 range.2 = .ok piece)
    (notBlank : ¬ (Text.trim piece).isEmpty = true) :
    addRange body [] range = .ok [range] := by
  rw [addRange, isPiece]
  exact if_neg notBlank

private theorem addRange_cons
    (isPiece : body.cut range.1 range.2 = .ok piece)
    (isPrevious : body.cut last.1 last.2 = .ok previous)
    (notBlank : ¬ (Text.trim piece).isEmpty = true) :
    addRange body (last :: earlier) range =
      if Field.continuesType (Text.trim previous) (Text.trim piece) then
        .ok ((last.1, range.2) :: earlier)
      else
        .ok (range :: last :: earlier) := by
  rw [addRange, isPiece, ok_bind, if_neg notBlank]
  dsimp only
  rw [isPrevious]
  rfl

/-- The ranges that are merged hold the fields that are gathered. -/
private theorem exists_merged
    {text front current gap : Text}
    {later : List (Char × Text)}
    (isText : text = front ++ (current ++ (gap ++ Division.laterText later)))
    (earlier : List (Nat × Nat)) :
    ∃ merged,
      (Division.laterSpans (front ++ (current ++ gap)).byteLength later).foldlM (addRange text)
          ((front.byteLength, (front ++ current).byteLength) :: earlier) =
        .ok (merged.reverse ++ earlier) ∧
      List.Forall₂ (Division.Holds text) merged (Field.gather current gap later) := by
  induction later generalizing front current gap earlier with
  | nil =>
      exact ⟨[_], rfl, .cons (isText ▸ holds_append front current _) .nil⟩
  | cons behind later inductionHypothesis =>
      obtain ⟨separator, piece⟩ := behind
      have isCurrent : Division.Holds text (front.byteLength, (front ++ current).byteLength)
          current :=
        isText ▸ holds_append front current _
      have isPiece : Division.Holds text
          ((front ++ (current ++ (gap ++ [separator]))).byteLength,
            (front ++ (current ++ (gap ++ [separator])) ++ piece).byteLength) piece := by
        have isPlaced : text =
            front ++ (current ++ (gap ++ [separator])) ++ (piece ++ Division.laterText later) := by
          rw [isText]
          simp
        exact isPlaced ▸ holds_append _ piece _
      have isStart : (front ++ (current ++ gap)).byteLength + separator.utf8Size =
          (front ++ (current ++ (gap ++ [separator]))).byteLength := by
        simp only [Text.byteLength_append, Text.byteLength]
        omega
      rw [Division.laterSpans, List.foldlM_cons, isStart, ← Text.byteLength_append, Field.gather]
      split
      · rename_i isBlank
        have goesOn : text =
            front ++ (current ++ (gap ++ [separator] ++ piece ++ Division.laterText later)) := by
          rw [isText]
          simp
        have isGap : front ++ (current ++ (gap ++ [separator])) ++ piece =
            front ++ (current ++ (gap ++ [separator] ++ piece)) := by
          simp
        rw [addRange_of_blank (cut_of_holds isPiece) isBlank, ok_bind, isGap]
        exact inductionHypothesis goesOn earlier
      · rename_i notBlank
        rw [addRange_cons (cut_of_holds isPiece) (cut_of_holds isCurrent) notBlank]
        split
        · have goesOn : text = front ++ (current ++ (gap ++ [separator]) ++ piece ++
              ([] ++ Division.laterText later)) := by
            rw [isText]
            simp
          have extended := inductionHypothesis goesOn earlier
          rw [List.append_nil] at extended
          rwa [ok_bind, List.append_assoc front]
        · have startsAnew : text = front ++ (current ++ (gap ++ [separator])) ++
              (piece ++ ([] ++ Division.laterText later)) := by
            rw [isText]
            simp
          obtain ⟨merged, isMerged, hold⟩ := inductionHypothesis startsAnew
            ((front.byteLength, (front ++ current).byteLength) :: earlier)
          rw [List.append_nil] at isMerged
          refine ⟨(front.byteLength, (front ++ current).byteLength) :: merged, ?_,
            .cons isCurrent hold⟩
          rw [ok_bind, isMerged, List.reverse_cons, List.append_assoc, List.singleton_append]

/-- The ranges that are merged from the first piece on hold the fields that are gathered. -/
private theorem exists_merged_all
    {text front first : Text}
    {later : List (Char × Text)}
    (isText : text = front ++ (first ++ Division.laterText later)) :
    ∃ merged,
      (Division.spansFrom front.byteLength ⟨first, later⟩).foldlM (addRange text) [] =
        .ok merged.reverse ∧
      List.Forall₂ (Division.Holds text) merged (Field.gatherAll first later) := by
  induction later generalizing front first with
  | nil =>
      have isFirst := isText ▸ holds_append front first _
      rw [Division.spansFrom, ← Text.byteLength_append, List.foldlM_cons]
      by_cases isBlank : (Text.trim first).isEmpty = true
      · rw [addRange_of_blank (cut_of_holds isFirst) isBlank, Field.gatherAll, if_pos isBlank]
        exact ⟨[], rfl, .nil⟩
      · rw [addRange_nil (cut_of_holds isFirst) isBlank, Field.gatherAll, if_neg isBlank]
        exact ⟨[_], rfl, .cons isFirst .nil⟩
  | cons behind later inductionHypothesis =>
      obtain ⟨separator, piece⟩ := behind
      have isFirst := isText ▸ holds_append front first _
      rw [Division.spansFrom, ← Text.byteLength_append, List.foldlM_cons]
      by_cases isBlank : (Text.trim first).isEmpty = true
      · have goesOn : text = front ++ first ++ [separator] ++
            (piece ++ Division.laterText later) := by
          rw [isText]
          simp
        have isStart : (front ++ first).byteLength + separator.utf8Size =
            (front ++ first ++ [separator]).byteLength :=
          (Text.byteLength_append _ [separator]).symm
        rw [addRange_of_blank (cut_of_holds isFirst) isBlank, ok_bind, Division.laterSpans,
          isStart, Field.gatherAll, if_pos isBlank]
        exact inductionHypothesis goesOn
      · have startsField : text =
            front ++ (first ++ ([] ++ Division.laterText ((separator, piece) :: later))) :=
          isText
        have merges := exists_merged startsField []
        rw [List.append_nil] at merges
        rw [addRange_nil (cut_of_holds isFirst) isBlank, ok_bind, Field.gatherAll, if_neg isBlank]
        simpa only [List.append_nil] using merges

/-- The fields that are cut out are those of the body. -/
theorem fields_eq (body : Text) : fields body = .ok (Field.ofBody body) := by
  have isText : body = [] ++ ((Division.ofText Field.isTerminator body).first ++
      Division.laterText (Division.ofText Field.isTerminator body).later) :=
    (Division.joined_ofTextFrom Field.isTerminator {} body).symm
  obtain ⟨merged, isMerged, hold⟩ := exists_merged_all isText
  have areRanges := ranges_eq areAscii_terminators body
  rw [contains_terminators, Division.spans_eq_spansFrom] at areRanges
  have isFold : (Division.spansFrom 0 (Division.ofText Field.isTerminator body)).foldlM
      (addRange body) [] = .ok merged.reverse :=
    isMerged
  rw [fields, areRanges, isFold, ok_bind, List.reverse_reverse, cutAll_of_holds hold]
  rfl

/-! ## Bodies of declarations -/

/-- The offset of a brace that no end of a heritage clause precedes, from an offset on. -/
def interfaceStart? (text : Text) (start : Nat) : Except Text.BadCut (Option Nat) := do
  let rest ← text.cut start text.byteLength
  let index := start + Text.byteLength (rest.takeWhile (!Anchor.endsHeritage ·))
  if (rest.dropWhile (!Anchor.endsHeritage ·)).isEmpty then
    return none
  else if (Utf8.encode text)[index]? = some (Utf8.byteOf '{') then
    return some index
  else
    return none

/-- The offset of a brace behind an equals sign and blanks, from an offset on. -/
def aliasStart? (text : Text) (start : Nat) : Except Text.BadCut (Option Nat) := do
  let rest ← text.cut start text.byteLength
  match Text.trimStart rest with
  | '=' :: value =>
      match Text.trimStart value with
      | '{' :: inside => return some (text.byteLength - Text.byteLength ('{' :: inside))
      | _ => return none
  | _ => return none

/-- The offset of the brace that opens the body of a declaration whose head ends at an offset. -/
def bodyStart? : Anchor.Form → Text → Nat → Except Text.BadCut (Option Nat)
  | .interface => interfaceStart?
  | .alias => aliasStart?

/-- The anchor that a declaration's head gives, if the declaration lists properties. -/
def anchor?
    (form : Anchor.Form)
    (text : Text)
    (head : Text.Occurrence Anchor.Head) :
    Except Text.BadCut (Option Anchor) :=
  if head.captured.parametric || !Anchor.namesProperties head.captured.name then
    .ok none
  else
    (bodyStart? form text head.stop).map fun start? =>
      start?.map fun bodyStart => ⟨form, head.captured.name, head.start, bodyStart⟩

/-- The anchors of one form. -/
def anchorsOf (form : Anchor.Form) (text : Text) : Except Text.BadCut (List Anchor) :=
  ((form.head.occurrences text).mapM (anchor? form text)).map (·.filterMap id)

/-- The anchors of a text, in source order. -/
def anchors (text : Text) : Except Text.BadCut (List Anchor) := do
  let interfaces ← anchorsOf .interface text
  let aliases ← anchorsOf .alias text
  return (interfaces ++ aliases).mergeSort fun earlier later => earlier.start ≤ later.start

/-- At the offset of a place a brace's byte stands exactly if a brace stands there. -/
private theorem stands_brace_iff (before rest : Text) :
    (Utf8.encode (before ++ rest))[before.byteLength]? = some (Utf8.byteOf '{') ↔
      rest.head? = some '{' := by
  rw [Utf8.getElem?_encode, Utf8.head?_encode (by decide)]

private theorem interfaceGap?_eq (rest : Text) :
    Anchor.interfaceGap? rest =
      if (rest.dropWhile (!Anchor.endsHeritage ·)).head? = some '{' then
        some (Text.byteLength (rest.takeWhile (!Anchor.endsHeritage ·)))
      else
        none := by
  dsimp only [Anchor.interfaceGap?, Anchor.endsHeritage]
  split
  · rename_i inside isBrace
    exact (if_pos (congrArg List.head? isBrace)).symm
  · rename_i notBrace
    refine (if_neg fun starts => ?_).symm
    obtain ⟨inside, isBrace⟩ := List.head?_eq_some_iff.mp starts
    exact notBrace inside isBrace

/--
The start of an interface's body is cut out without a fault and is the one that the gap gives.
-/
theorem interfaceStart?_eq (before rest : Text) :
    interfaceStart? (before ++ rest) before.byteLength =
      .ok ((Anchor.interfaceGap? rest).map (before.byteLength + ·)) := by
  have isRest : rest.takeWhile (!Anchor.endsHeritage ·) ++ rest.dropWhile (!Anchor.endsHeritage ·) =
      rest :=
    List.takeWhile_append_dropWhile
  have isBrace := stands_brace_iff (before ++ rest.takeWhile (!Anchor.endsHeritage ·))
    (rest.dropWhile (!Anchor.endsHeritage ·))
  rw [List.append_assoc, isRest, Text.byteLength_append] at isBrace
  rw [interfaceStart?, Text.cut_byteLength, ok_bind, interfaceGap?_eq]
  simp only [isBrace]
  by_cases starts : (rest.dropWhile (!Anchor.endsHeritage ·)).head? = some '{'
  · have notEmpty : ¬ (rest.dropWhile (!Anchor.endsHeritage ·)).isEmpty = true := by
      intro isEmpty
      rw [List.isEmpty_iff.mp isEmpty] at starts
      contradiction
    rw [if_neg notEmpty, if_pos starts, if_pos starts]
    rfl
  · rw [if_neg starts, if_neg starts, ite_self]
    rfl

/-- What is looked for behind the name of an alias: a brace behind an equals sign, or nothing. -/
private theorem aliasGap?_cases (rest : Text) :
    (∃ value inside, Text.trimStart rest = '=' :: value ∧ Text.trimStart value = '{' :: inside ∧
      Anchor.aliasGap? rest = some (rest.byteLength - Text.byteLength ('{' :: inside))) ∨
      (∀ value inside, Text.trimStart rest = '=' :: value →
        Text.trimStart value ≠ '{' :: inside) ∧ Anchor.aliasGap? rest = none := by
  dsimp only [Anchor.aliasGap?]
  split
  · rename_i value isEquals
    split
    · rename_i inside isBrace
      exact .inl ⟨value, inside, isEquals, isBrace, rfl⟩
    · rename_i notBrace
      refine .inr ⟨fun other inside isOther => ?_, rfl⟩
      obtain rfl := List.tail_eq_of_cons_eq (isEquals.symm.trans isOther)
      exact notBrace inside
  · rename_i notEquals
    exact .inr ⟨fun value _ isEquals => (notEquals value isEquals).elim, rfl⟩

/-- The start of an alias's body is cut out without a fault and is the one that the gap gives. -/
theorem aliasStart?_eq (before rest : Text) :
    aliasStart? (before ++ rest) before.byteLength =
      .ok ((Anchor.aliasGap? rest).map (before.byteLength + ·)) := by
  rw [aliasStart?, Text.cut_byteLength, ok_bind]
  obtain ⟨value, inside, isEquals, isBrace, isGap⟩ | ⟨notBrace, isGap⟩ := aliasGap?_cases rest
  · have isSuffix : '{' :: inside <:+ rest := by
      rw [← isBrace]
      refine (Text.trimStart_suffix value).trans ((List.suffix_cons '=' value).trans ?_)
      rw [← isEquals]
      exact Text.trimStart_suffix rest
    rw [isGap, Option.map_some, ← Nat.add_sub_assoc (Text.byteLength_le_of_suffix isSuffix),
      ← Text.byteLength_append]
    simp only [isEquals, isBrace]
    rfl
  · rw [isGap]
    split
    · rename_i value isEquals
      split
      · rename_i inside isBrace
        exact (notBrace value inside isEquals isBrace).elim
      · rfl
    · rfl

/-- The body that is looked for behind a place starts where the form's body starts. -/
theorem bodyStart?_eq (form : Anchor.Form) (before rest : Text) :
    bodyStart? form (before ++ rest) before.byteLength =
      .ok ((form.gap? rest).map (before.byteLength + ·)) := by
  match form with
  | .interface =>
      exact interfaceStart?_eq before rest
  | .alias =>
      exact aliasStart?_eq before rest

/-- A head gives the same anchor on bytes. -/
theorem anchor?_eq
    {form : Anchor.Form}
    {text : Text}
    {head : Text.Occurrence Anchor.Head}
    (occurs : head ∈ form.head.occurrences text) :
    anchor? form text head = .ok (Anchor.ofHead? form head) := by
  obtain ⟨front, previous, place, unread, rfl, isStop, isMatch⟩ :=
    Text.Pattern.exists_front_of_mem
      (fun _ _ _ _ isMatch => (Anchor.Form.suffix_of_head isMatch).2) occurs
  obtain ⟨rfl, -⟩ := Anchor.Form.suffix_of_head isMatch
  rw [anchor?, Anchor.ofHead?]
  split
  · rfl
  · rw [← isStop, bodyStart?_eq]
    simp only [Except.map, Option.map_map]
    rfl

/-- The anchors of one form are the same on bytes. -/
theorem anchorsOf_eq (form : Anchor.Form) (text : Text) :
    anchorsOf form text = .ok (Anchor.ofForm form text) := by
  have areAnchors : (form.head.occurrences text).mapM (anchor? form text) =
      .ok ((form.head.occurrences text).map (Anchor.ofHead? form)) :=
    mapM_of_forall fun head occurs => anchor?_eq occurs
  rw [anchorsOf, areAnchors, Anchor.ofForm]
  simp only [Except.map, List.filterMap_map, Function.id_comp]

/-- The anchors whose bodies are looked for at offsets are those of the text. -/
theorem anchors_eq (text : Text) : anchors text = .ok (Anchor.allOf text) := by
  rw [anchors, anchorsOf_eq, anchorsOf_eq]
  rfl

/-! ## Configurations -/

/-- The content of the object that stands behind an offset and blanks, cut out of the text. -/
def objectBehind?
    (text : Text)
    (start : Nat) :
    Except Text.BadCut (Except UnbalancedScope (Option Text)) := do
  let rest ← text.cut start text.byteLength
  let opening := start + (rest.byteLength - (Text.trimStart rest).byteLength)
  if (Utf8.encode text)[opening]? = some (Utf8.byteOf '{') then
    match ← content? text opening with
    | some content => return .ok (some content)
    | none => return .error ⟨BuilderCall.builder, opening⟩
  else
    return .ok none

/-- The content of the second argument of the call whose parenthesis stands at an offset. -/
def configuration?
    (text : Text)
    (call : Nat) :
    Except Text.BadCut (Except UnbalancedScope (Option Text)) :=
  match findTopLevel? text (call + 1) ',' with
  | none => .ok (.ok none)
  | some comma => objectBehind? text (comma + 1)

/-- The object that is looked for behind a place is the one that the text starts with there. -/
theorem objectBehind?_eq (front after : Text) :
    objectBehind? (front ++ after) front.byteLength =
      .ok (match Text.trimStart after with
        | '{' :: _ =>
            match Scope.content? (Text.trimStart after) with
            | some content => .ok (some content)
            | none =>
                .error ⟨BuilderCall.builder,
                  front.byteLength + (after.byteLength - (Text.trimStart after).byteLength)⟩
        | _ => .ok none) := by
  obtain ⟨blanks, isAfter⟩ := Text.trimStart_suffix after
  have isText : front ++ after = front ++ blanks ++ Text.trimStart after := by
    rw [List.append_assoc, isAfter]
  have isOpening : front.byteLength + (after.byteLength - (Text.trimStart after).byteLength) =
      (front ++ blanks).byteLength := by
    have isLength := Text.byteLength_append blanks (Text.trimStart after)
    rw [isAfter] at isLength
    rw [Text.byteLength_append]
    omega
  have isContent : Scope.contentAt? (front ++ after) (front ++ blanks).byteLength =
      Scope.content? (Text.trimStart after) := by
    rw [isText, Scope.contentAt?, Text.from?_byteLength]
    rfl
  have isBrace := stands_brace_iff (front ++ blanks) (Text.trimStart after)
  rw [← isText] at isBrace
  rw [objectBehind?, Text.cut_byteLength, ok_bind]
  dsimp only
  simp only [isOpening, isBrace, content?_eq, isContent, ok_bind]
  split
  · rename_i starts
    obtain ⟨inside, isStart⟩ := List.head?_eq_some_iff.mp starts
    simp only [isStart]
    cases Scope.content? ('{' :: inside) <;> rfl
  · rename_i startsOtherwise
    split
    · rename_i inside isStart
      exact absurd (congrArg List.head? isStart) startsOtherwise
    · rfl

/-- The configuration that is cut out is the one of the call. -/
theorem configuration?_eq
    (text : Text)
    (call : Nat) :
    configuration? text call = .ok (BuilderCall.configuration? text call) := by
  rw [configuration?, BuilderCall.configuration?, findTopLevel?_eq (by decide)]
  cases isFound : ComponentPages.findTopLevel? text (call + 1) ',' with
  | none =>
      rfl
  | some comma =>
      obtain ⟨before, after, rfl, rfl⟩ := exists_place_of_findTopLevel? isFound
      have isBehind : before.byteLength + 1 = (before ++ [',']).byteLength :=
        (Text.byteLength_append before [',']).symm
      dsimp only
      rw [isBehind, List.append_cons, Text.cutAt_byteLength]
      exact objectBehind?_eq (before ++ [',']) after

/-! ## Axes -/

/-- The separators between entries. -/
def commas : List Char :=
  [',']

private theorem areAscii_commas : ∀ character ∈ commas, character.toNat < 128 := by
  decide

private theorem contains_commas : commas.contains = Variant.isComma := by
  funext character
  simp only [commas, Variant.isComma, List.contains_cons, List.contains_nil, Bool.or_false]

/-- The axis that an entry gives, with the content of the entry's value cut out of it. -/
def axis? (entry : Text) : Except Text.BadCut (Option Variant) :=
  match Entry.keyAndValue? entry with
  | some (key, '{' :: inside) => do
      let start := entry.byteLength - Text.byteLength ('{' :: inside)
      match ← content? entry start with
      | some body => do
          let options := (← segments commas body).filterMap Variant.option?
          let default := "default".toList
          return some {
            name := key
            options := options
            defaultValue := if options.any (·.value == default) then some default else none
          }
      | none => return none
  | _ => .ok none

/-- The axes of a configuration, with what stands behind the key and the entries cut out of it. -/
def axes (configuration : Text) : Except Text.BadCut (List Variant) :=
  match Variant.variantsKey.break? configuration with
  | some (_, _, after) => do
      let stop := configuration.byteLength - after.byteLength
      match ← content? configuration (stop - 1) with
      | some body => do
          let entries ← segments commas body
          let axes ← entries.mapM axis?
          return axes.filterMap id
      | none => return []
  | none => .ok []

private theorem segments_commas (text : Text) :
    segments commas text = .ok (topLevelSegments Variant.isComma text) := by
  rw [segments_eq areAscii_commas, contains_commas]

/-- What is left behind the key of an entry is the end of its text. -/
private theorem key?_suffix
    {text key rest : Text}
    (isRead : Entry.key? text = some (key, rest)) :
    rest <:+ text := by
  simp only [Entry.key?, Option.orElse_eq_orElse, Option.orElse_eq_or, Option.or_eq_some_iff]
    at isRead
  obtain isName | ⟨-, isQuoted | ⟨-, isQuoted | ⟨-, isNumber⟩⟩⟩ := isRead
  · exact Text.identifierOf?_suffix isName
  · exact Text.quoted?_suffix isQuoted
  · exact Text.quoted?_suffix isQuoted
  · exact Text.run?_suffix isNumber

/-- The value of an entry ends it. -/
private theorem value_suffix
    {entry key value : Text}
    (isRead : Entry.keyAndValue? entry = some (key, value)) :
    value <:+ entry := by
  simp only [Entry.keyAndValue?, Option.bind_eq_bind, Option.bind_eq_some_iff, Option.pure_def,
    Option.some.injEq, Prod.mk.injEq] at isRead
  obtain ⟨⟨_, afterKey⟩, isKey, afterColon, isAfterColon, -, rfl⟩ := isRead
  have isBehind := (Text.after?_suffix isAfterColon).trans (Text.trimStart_suffix afterKey)
  exact ((Text.trimStart_suffix afterColon).trans isBehind).trans (key?_suffix isKey)

/-- The axis that is cut out of an entry is the one that it gives. -/
theorem axis?_eq (entry : Text) : axis? entry = .ok (Variant.axis? entry) := by
  rw [axis?, Variant.axis?]
  cases isRead : Entry.keyAndValue? entry with
  | none =>
      rfl
  | some keyAndValue =>
      obtain ⟨key, value⟩ := keyAndValue
      obtain ⟨front, rfl⟩ := value_suffix isRead
      split
      · rename_i _ inside isValue
        obtain ⟨rfl, rfl⟩ := Prod.mk.inj (Option.some.inj isValue)
        have isStart : Text.byteLength (front ++ '{' :: inside) -
            Text.byteLength ('{' :: inside) = Text.byteLength front := by
          rw [Text.byteLength_append, Nat.add_sub_cancel]
        have isBraced : Scope.bracedContent? ('{' :: inside) = Scope.content? ('{' :: inside) :=
          rfl
        simp only [isStart, content?_byteLength, ok_bind, Option.bind_eq_bind, Option.bind_some,
          isBraced]
        cases Scope.content? ('{' :: inside) with
        | none =>
            rfl
        | some body =>
            simp only [segments_commas, ok_bind]
            rfl
      · rename_i notBraced
        have isNone : Scope.bracedContent? value = none := by
          unfold Scope.bracedContent?
          split
          · exact (notBraced key _ rfl).elim
          · rfl
        simp only [Option.bind_eq_bind, Option.bind_some, isNone]
        rfl

/-- A match of the key leaves what stands behind the brace that it captures. -/
private theorem variantsKey_suffix
    {previous : Option Char}
    {place captured unread : Text}
    (isMatch : Variant.variantsKey previous place = some (captured, unread)) :
    captured = '{' :: unread ∧ '{' :: unread <:+ place := by
  simp only [Variant.variantsKey, Option.bind_eq_bind, Option.bind_eq_some_iff,
    Text.afterWord?_eq_some_iff] at isMatch
  obtain ⟨afterKey, ⟨-, rfl⟩, value, isValue, isBrace⟩ := isMatch
  split at isBrace
  · rename_i inside isStart
    obtain ⟨rfl, rfl⟩ := Prod.mk.inj (Option.some.inj isBrace)
    have isBehind := (Text.after?_suffix isValue).trans (Text.trimStart_suffix afterKey)
    refine ⟨rfl, ?_⟩
    rw [← isStart]
    exact ((Text.trimStart_suffix value).trans isBehind).trans (List.suffix_append _ _)
  · contradiction

/-- The axes that are cut out are those of the configuration. -/
theorem axes_eq (configuration : Text) :
    axes configuration = .ok (Variant.axesOf configuration) := by
  rw [axes, Variant.axesOf, Text.Pattern.first?]
  cases isFound : Variant.variantsKey.break? configuration with
  | none =>
      rfl
  | some found =>
      obtain ⟨before, captured, after⟩ := found
      obtain ⟨place, rfl, -, isMatch⟩ := Text.Pattern.exists_place_of_breakFrom? isFound
      obtain ⟨rfl, front, rfl⟩ := variantsKey_suffix isMatch
      have isStart : (before ++ (front ++ '{' :: after)).byteLength - after.byteLength - 1 =
          (before ++ front).byteLength := by
        simp only [Text.byteLength_append, Text.byteLength, show '{'.utf8Size = 1 from rfl]
        omega
      dsimp only
      rw [isStart, ← List.append_assoc, content?_byteLength, ok_bind, Option.map_some,
        Option.bind_some]
      cases Scope.content? ('{' :: after) with
      | none =>
          rfl
      | some body =>
          have areAxes : (topLevelSegments Variant.isComma body).mapM axis? =
              .ok ((topLevelSegments Variant.isComma body).map Variant.axis?) :=
            mapM_of_forall fun entry _ => axis?_eq entry
          simp only [segments_commas, ok_bind, areAxes, List.filterMap_map, Function.id_comp]
          rfl

/-! ## Cuts between characters -/

/--
Whether no cut of a text between two offsets fails, on any way that the text is read by its bytes,
so that what is cut out is what is read in the text.
-/
structure CutsBetweenCharacters (text : Text) : Prop where
  /-- A cut fails unless its offsets are in order and each of them is that of a place. -/
  cuts : ∀ start stop,
    (∃ piece, text.cut start stop = .ok piece) ↔
      start ≤ stop ∧
        (∃ before after, text = before ++ after ∧ before.byteLength = start) ∧
          ∃ before after, text = before ++ after ∧ before.byteLength = stop
  /-- A scope is looked for at any offset. -/
  scopes : ∀ opening, content? text opening = .ok (Scope.contentAt? text opening)
  /-- The text is divided at any ASCII characters. -/
  divisions : ∀ separators : List Char,
    (∀ separator ∈ separators, separator.toNat < 128) →
      segments separators text = .ok (topLevelSegments separators.contains text)
  /-- Any ASCII character is searched from any offset on. -/
  searches : ∀ start needle,
    needle.toNat < 128 →
      findTopLevel? text start needle = ComponentPages.findTopLevel? text start needle
  comments : strip text = .ok (Comment.strip text)
  fields : fields text = .ok (Field.ofBody text)
  anchors : anchors text = .ok (Anchor.allOf text)
  /-- The parenthesis of a call stands at any offset. -/
  configurations : ∀ call, configuration? text call = .ok (BuilderCall.configuration? text call)
  axes : axes text = .ok (Variant.axesOf text)
  axis : axis? text = .ok (Variant.axis? text)

/-- Whatever a text holds, it is cut between two characters only. -/
theorem cutsBetweenCharacters (text : Text) : CutsBetweenCharacters text where
  cuts := fun _ _ => Text.exists_cut_iff
  scopes := content?_eq text
  divisions := fun _ areAscii => segments_eq areAscii text
  searches := fun start _ isAscii => findTopLevel?_eq isAscii text start
  comments := strip_eq text
  fields := fields_eq text
  anchors := anchors_eq text
  configurations := configuration?_eq text
  axes := axes_eq text
  axis := axis?_eq text

/-- Between characters of more than one byte a text is divided, and an offset inside of one is that
of no scope. -/
theorem cutsBetweenCharacters_accents :
    segments [','] "é\x7b,\x7d, ü".toList = .ok ["é\x7b,\x7d".toList, "ü".toList] ∧
      content? "é\x7b,\x7d, ü".toList 1 = .ok none ∧
        content? "é\x7b,\x7d, ü".toList 2 = .ok (some ",".toList) := by
  have agree := cutsBetweenCharacters "é\x7b,\x7d, ü".toList
  refine ⟨?_, ?_, ?_⟩
  · rw [agree.divisions [','] (by decide)]
    decide
  · rw [agree.scopes 1]
    decide
  · rw [agree.scopes 2]
    decide

end Bytewise

end ComponentPages
