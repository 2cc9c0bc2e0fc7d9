import ComponentPages.Proofs.Declaration.Declaring

namespace ComponentPages

/-!
# Where anchors stand

An anchor stands where the keyword of its form starts a word and blanks and a name that ends in
`Props` follow, with no list of type parameters behind the name, and only what its form permits up
to the brace of the body. The anchors of a text stand in it so, in the order of their places and no
two at one place. A declaration that stands so in a text is found, unless the head of a declaration
in front reaches into it.
-/

/-! ## Places of occurrences -/

namespace Text.Pattern

variable {α : Type} {pattern : Pattern α} {previous : Option Char} {text : Text}

/-- The occurrences that are found start one behind another. -/
theorem pairwise_occurrencesFrom
    (pattern : Pattern α)
    (offset : Nat)
    (previous : Option Char)
    (passing : Nat)
    (text : Text) :
    (pattern.occurrencesFrom offset previous passing text).Pairwise
        (fun earlier later => earlier.start < later.start) ∧
      ∀ occurrence ∈ pattern.occurrencesFrom offset previous passing text,
        offset ≤ occurrence.start := by
  fun_induction occurrencesFrom pattern offset previous passing text with
  | case1 =>
      exact ⟨.nil, List.forall_mem_nil _⟩
  | case2 offset _ _ character _ inductionHypothesis =>
      obtain ⟨inOrder, areBehind⟩ := inductionHypothesis
      exact ⟨inOrder, fun other isLater => Nat.le_of_add_right_le (areBehind other isLater)⟩
  | case3 offset _ character _ _ inductionHypothesis =>
      obtain ⟨inOrder, areBehind⟩ := inductionHypothesis
      exact ⟨inOrder, fun other isLater => Nat.le_of_add_right_le (areBehind other isLater)⟩
  | case4 offset _ character _ _ _ _ inductionHypothesis =>
      obtain ⟨inOrder, areBehind⟩ := inductionHypothesis
      refine ⟨.cons (fun other isLater => ?_) inOrder, List.forall_mem_cons.mpr ⟨Nat.le_refl _, ?_⟩⟩
      · exact Nat.lt_of_lt_of_le (Nat.lt_add_of_pos_right (Char.utf8Size_pos character))
          (areBehind other isLater)
      · exact fun other isLater => Nat.le_of_add_right_le (areBehind other isLater)

/-- Whether no match in front of a place reaches into the text behind it. -/
def StopsInFront (pattern : Pattern α) (previous : Option Char) (text rest : Text) : Prop :=
  ∀ before place captured unread,
    text = before ++ place → place ≠ [] →
      pattern (before.getLast?.or previous) (place ++ rest) = some (captured, unread) →
        rest.length ≤ unread.length

/-- A match is found if no match in front of it reaches into it. -/
private theorem mem_occurrencesFrom_of_stopsInFront
    {before place unread : Text}
    {captured : α}
    {offset passing : Nat}
    (stopsInFront : pattern.StopsInFront previous before place)
    (notEmpty : place ≠ [])
    (isMatch : pattern (before.getLast?.or previous) place = some (captured, unread))
    (within : passing ≤ before.length) :
    ⟨offset + byteLength before,
        offset + byteLength before + (byteLength place - byteLength unread), captured⟩ ∈
      pattern.occurrencesFrom offset previous passing (before ++ place) := by
  induction before generalizing offset previous passing with
  | nil =>
      obtain rfl := Nat.le_zero.mp within
      obtain ⟨character, later, rfl⟩ := List.exists_cons_of_ne_nil notEmpty
      rw [List.getLast?_nil, Option.none_or] at isMatch
      rw [List.nil_append, occurrencesFrom]
      simp only [isMatch]
      exact List.mem_cons_self
  | cons character later inductionHypothesis =>
      rw [getLast?_cons_or] at isMatch
      have laterStops : pattern.StopsInFront (some character) later place := by
        intro front behind found left isLater isNotEmpty isFound
        rw [← getLast?_cons_or character front previous] at isFound
        exact stopsInFront (character :: front) behind found left
          (by rw [isLater, List.cons_append]) isNotEmpty isFound
      have isOffset : offset + byteLength (character :: later) =
          offset + character.utf8Size + byteLength later := by
        rw [byteLength, Nat.add_assoc]
      rw [isOffset, List.cons_append]
      cases passing with
      | succ passing =>
          rw [occurrencesFrom]
          exact inductionHypothesis laterStops isMatch (Nat.le_of_succ_le_succ within)
      | zero =>
          rw [occurrencesFrom]
          split
          · exact inductionHypothesis laterStops isMatch (Nat.zero_le _)
          · rename_i found left isFound
            have staysInFront := stopsInFront [] (character :: later) found left rfl
              (List.cons_ne_nil _ _) isFound
            refine List.mem_cons_of_mem _ (inductionHypothesis laterStops isMatch ?_)
            rw [List.length_append]
            omega

end Text.Pattern

namespace Anchor

variable {form : Form} {text : Text}

/-! ## Up to the brace -/

/-- What a form permits between the name and the brace of the body. -/
def Form.Permits : Form → Text → Prop
  | .interface, between => ∀ character ∈ between, endsHeritage character = false
  | .alias, between => ∃ before after,
      between = before ++ '=' :: after ∧ (∀ character ∈ before, Text.isBlank character = true) ∧
        ∀ character ∈ after, Text.isBlank character = true

/--
The gap of an interface goes up to its first brace, and nothing in it ends the heritage clause.
-/
private theorem interfaceGap?_eq_some_iff
    {rest : Text}
    {gap : Nat} :
    interfaceGap? rest = some gap ↔
      ∃ between inside,
        rest = between ++ '{' :: inside ∧ Form.interface.Permits between ∧
          between.byteLength = gap := by
  dsimp only [interfaceGap?, Form.Permits]
  constructor
  · intro found
    split at found
    · rename_i inside isBrace
      refine ⟨rest.takeWhile (!endsHeritage ·), inside, ?_, ?_, Option.some.inj found⟩
      · rw [← isBrace]
        exact List.takeWhile_append_dropWhile.symm
      · intro character member
        simpa using List.mem_takeWhile_imp member
    · contradiction
  · rintro ⟨between, inside, rfl, permits, rfl⟩
    have passes : ∀ character ∈ between, (!endsHeritage character) = true := by
      intro character member
      rw [permits character member]
      rfl
    have stops : Text.Stops (!endsHeritage ·) ('{' :: inside) := by
      intro character isFirst
      obtain rfl := Option.some.inj isFirst
      rfl
    obtain ⟨isTaken, isLeft⟩ := Prod.mk.inj (Text.run_append passes stops)
    dsimp only [endsHeritage] at isTaken isLeft
    rw [isTaken, isLeft]
    rfl

/-- The gap of an alias goes up to its first brace and is an equals sign among blanks. -/
private theorem aliasGap?_eq_some_iff
    {rest : Text}
    {gap : Nat} :
    aliasGap? rest = some gap ↔
      ∃ between inside,
        rest = between ++ '{' :: inside ∧ Form.alias.Permits between ∧
          between.byteLength = gap := by
  have isSplit (text : Text) : text = text.takeWhile Text.isBlank ++ Text.trimStart text :=
    List.takeWhile_append_dropWhile.symm
  dsimp only [aliasGap?, Form.Permits]
  constructor
  · intro found
    split at found
    · rename_i value isEquals
      split at found
      · rename_i inside isBrace
        have isWhole : rest = rest.takeWhile Text.isBlank ++
            '=' :: value.takeWhile Text.isBlank ++ '{' :: inside := by
          conv_lhs => rw [isSplit rest, isEquals, isSplit value, isBrace]
          simp
        refine ⟨_, inside, isWhole, ⟨_, _, rfl, ?_, ?_⟩, ?_⟩
        · exact fun character => List.mem_takeWhile_imp
        · exact fun character => List.mem_takeWhile_imp
        · rw [← Option.some.inj found]
          conv_rhs => rw [isWhole, Text.byteLength_append, Nat.add_sub_cancel]
      · contradiction
    · contradiction
  · rintro ⟨_, inside, rfl, ⟨before, after, rfl, beforeBlank, afterBlank⟩, rfl⟩
    have isEquals : Text.trimStart (before ++ '=' :: after ++ '{' :: inside) =
        '=' :: (after ++ '{' :: inside) := by
      rw [List.append_assoc, Text.trimStart_append beforeBlank, List.cons_append,
        Text.trimStart_cons_of_not_blank (by decide)]
    have isBrace : Text.trimStart (after ++ '{' :: inside) = '{' :: inside := by
      rw [Text.trimStart_append afterBlank, Text.trimStart_cons_of_not_blank (by decide)]
    simp only [isEquals, isBrace]
    rw [Text.byteLength_append, Nat.add_sub_cancel]

/-- The body of a declaration starts at the first brace behind what the form permits. -/
theorem Form.gap?_eq_some_iff
    {rest : Text}
    {gap : Nat} :
    form.gap? rest = some gap ↔
      ∃ between inside,
        rest = between ++ '{' :: inside ∧ form.Permits between ∧ between.byteLength = gap := by
  match form with
  | .interface =>
      exact interfaceGap?_eq_some_iff
  | .alias =>
      exact aliasGap?_eq_some_iff

/-- Blanks at the start of what a form permits can be left out. -/
theorem Form.Permits.trimStart
    {between : Text}
    (permits : form.Permits between) :
    form.Permits (Text.trimStart between) := by
  match form, permits with
  | .interface, permits =>
      exact fun character member => permits character (Text.mem_of_mem_trimStart member)
  | .alias, ⟨before, after, isBetween, beforeBlank, afterBlank⟩ =>
      refine ⟨[], after, ?_, List.forall_mem_nil _, afterBlank⟩
      rw [isBetween, Text.trimStart_append beforeBlank, List.nil_append,
        Text.trimStart_cons_of_not_blank (by decide)]

private theorem Form.Permits.append_blanks
    {blanks between : Text}
    (permits : form.Permits between)
    (areBlank : ∀ character ∈ blanks, Text.isBlank character = true) :
    form.Permits (blanks ++ between) := by
  match form, permits with
  | .interface, permits =>
      refine List.forall_mem_append.mpr ⟨fun character member => ?_, permits⟩
      cases ends : endsHeritage character with
      | false =>
          rfl
      | true =>
          simp only [endsHeritage, Bool.or_eq_true, beq_iff_eq] at ends
          have isBlank := areBlank character member
          rcases ends with (rfl | rfl) | rfl <;> exact absurd isBlank (by decide)
  | .alias, ⟨before, after, isBetween, beforeBlank, afterBlank⟩ =>
      refine ⟨blanks ++ before, after, ?_, ?_, afterBlank⟩
      · rw [isBetween, List.append_assoc]
      · exact List.forall_mem_append.mpr ⟨areBlank, beforeBlank⟩

/-! ## Heads -/

/-- What a head without type parameters stands in front of. -/
theorem Form.head_eq_some_iff
    {previous : Option Char}
    {name rest unread : Text} :
    form.head previous text = some (⟨name, false, rest⟩, unread) ↔
      ∃ gap afterName,
        text = form.keyword ++ (gap ++ (name ++ afterName)) ∧
          Text.followsWord previous = false ∧
            gap ≠ [] ∧ (∀ character ∈ gap, Text.isBlank character = true) ∧
              Text.IsIdentifier name ∧ Text.Stops Text.continuesIdentifier afterName ∧
                (∀ character ∈ (Text.trimStart afterName).head?, character ≠ '<') ∧
                  rest = Text.trimStart afterName ∧ unread = Text.trimStart afterName := by
  constructor
  · intro isMatch
    obtain ⟨startsWord, rfl, afterKeyword, afterBlanks, afterName, rfl, isAfterBlanks, isRead,
      isBehind⟩ := of_head isMatch
    obtain ⟨gap, gapNotEmpty, gapBlank, rfl⟩ := Text.exists_blanks_of_afterBlanks? isAfterBlanks
    obtain ⟨rfl, -⟩ := Text.eq_append_of_identifier? isRead
    have isIdentifier := Text.isIdentifier_of_identifier? isRead
    rcases isBehind with ⟨isList, -⟩ | ⟨-, isUnread, notAngle⟩
    · contradiction
    · refine ⟨gap, afterName, rfl, startsWord, gapNotEmpty, gapBlank, isIdentifier,
        Text.stops_of_identifier? isRead, ?_, isUnread.symm, isUnread.symm⟩
      rintro _ isFirst rfl
      obtain ⟨later, isAfter⟩ := List.head?_eq_some_iff.mp isFirst
      exact notAngle later (isUnread.symm.trans isAfter)
  · rintro ⟨gap, afterName, rfl, startsWord, gapNotEmpty, gapBlank, isIdentifier, stops, notAngle,
      rfl, rfl⟩
    obtain ⟨first, later, rfl⟩ := List.exists_cons_of_ne_nil isIdentifier.notEmpty
    have firstNotBlank := isIdentifier.isBlank_eq_false first List.mem_cons_self
    have isAfterKeyword : Text.afterWord? form.keyword previous
        (form.keyword ++ (gap ++ (first :: later ++ afterName))) =
          some (gap ++ (first :: later ++ afterName)) := by
      rw [Text.afterWord?, startsWord, Text.after?_append]
      rfl
    have isAfterBlanks : Text.afterBlanks? (gap ++ (first :: later ++ afterName)) =
        some (first :: later ++ afterName) :=
      Text.afterBlanks?_append gapNotEmpty gapBlank
        (Text.trimStart_cons_of_not_blank firstNotBlank _)
    have isRead := isIdentifier.identifier?_append_of_stops stops
    simp only [head, isAfterKeyword, Option.bind_eq_bind, Option.bind_some, isAfterBlanks, isRead]
    split
    · rename_i isAngle
      exact absurd rfl (notAngle '<' (by simp [isAngle]))
    · rfl

/-! ## Standing -/

/-- A name names properties if it ends in `Props` and is longer than that. -/
theorem namesProperties_iff
    {name : Text} :
    namesProperties name = true ↔ "Props".toList <:+ name ∧ name ≠ "Props".toList := by
  rw [namesProperties, Bool.and_eq_true, List.isSuffixOf_iff_suffix, bne_iff_ne]

/-- A declaration from its keyword up to the brace of its body. -/
def written (anchor : Anchor) (gap between : Text) : Text :=
  anchor.form.keyword ++ (gap ++ (anchor.name ++ between))

/--
Whether an anchor spans the declaration that is written behind `before`, up to the brace that opens
its body: its keyword, a gap of blanks, its name, and what its form permits between that and the
brace. The name is as long as it can be and no list of type parameters follows it.
-/
structure Stands (anchor : Anchor) (before gap between inside : Text) : Prop where
  isStart : before.byteLength = anchor.start
  isBodyStart : (before ++ anchor.written gap between).byteLength = anchor.bodyStart
  startsWord : Text.followsWord before.getLast? = false
  gapNotEmpty : gap ≠ []
  gapBlank : ∀ character ∈ gap, Text.isBlank character = true
  isIdentifier : Text.IsIdentifier anchor.name
  nameStops : Text.Stops Text.continuesIdentifier (between ++ '{' :: inside)
  endsInProps : "Props".toList <:+ anchor.name
  notProps : anchor.name ≠ "Props".toList
  notParametric : ∀ character ∈ (Text.trimStart (between ++ '{' :: inside)).head?, character ≠ '<'
  permits : anchor.form.Permits between

/-- The anchors that are found for a form are of this form and stand in the text. -/
theorem exists_stands_of_mem_ofForm
    {anchor : Anchor}
    (isAnchor : anchor ∈ ofForm form text) :
    anchor.form = form ∧
      ∃ before gap between inside,
        text = before ++ (anchor.written gap between ++ '{' :: inside) ∧
          anchor.Stands before gap between inside := by
  obtain ⟨⟨start, stop, ⟨name, parametric, rest⟩⟩, occurs, isHead⟩ := List.mem_filterMap.mp isAnchor
  obtain ⟨before, place, unread, rfl, isMatch, isStart, isStop⟩ :=
    Text.Pattern.isPlaced_of_mem_occurrencesFrom occurs
  rw [ofHead?] at isHead
  split at isHead
  · contradiction
  · rename_i isNamed
    simp only [Bool.or_eq_true, Bool.not_eq_true', not_or, Bool.not_eq_true, Bool.not_eq_false]
      at isNamed
    obtain ⟨rfl, isNamed⟩ := isNamed
    obtain ⟨gapLength, isGap, rfl⟩ := Option.map_eq_some_iff.mp isHead
    obtain ⟨gap, afterName, rfl, startsWord, gapNotEmpty, gapBlank, isIdentifier, nameStops,
      notAngle, rfl, rfl⟩ := Form.head_eq_some_iff.mp isMatch
    obtain ⟨trimmed, inside, isTrimmed, permits, rfl⟩ := Form.gap?_eq_some_iff.mp isGap
    obtain ⟨endsInProps, notProps⟩ := namesProperties_iff.mp isNamed
    have isAfterName :
        afterName = afterName.takeWhile Text.isBlank ++ trimmed ++ '{' :: inside := by
      rw [List.append_assoc, ← isTrimmed]
      exact List.takeWhile_append_dropWhile.symm
    refine ⟨rfl, before, gap, afterName.takeWhile Text.isBlank ++ trimmed, inside, ?_, ?_⟩
    · conv_lhs => rw [isAfterName]
      simp only [written, List.append_assoc]
    · rw [Option.or_none] at startsWord
      constructor
      case isStart =>
        rw [isStart, Nat.zero_add]
      case isBodyStart =>
        dsimp only at isStop isStart isTrimmed ⊢
        rw [isStop, isStart, isTrimmed]
        conv_rhs => rw [isAfterName]
        simp only [written, Text.byteLength_append]
        omega
      case startsWord => exact startsWord
      case gapNotEmpty => exact gapNotEmpty
      case gapBlank => exact gapBlank
      case isIdentifier => exact isIdentifier
      case nameStops => rwa [← isAfterName]
      case endsInProps => exact endsInProps
      case notProps => exact notProps
      case notParametric => rwa [← isAfterName]
      case permits => exact permits.append_blanks fun character => List.mem_takeWhile_imp

/-- A declaration that stands in a text is found if no head in front of it reaches into it. -/
theorem mem_ofForm_of_stands
    {anchor : Anchor}
    {before gap between inside : Text}
    (stands : anchor.Stands before gap between inside)
    (stopsInFront : anchor.form.head.StopsInFront none before
      (anchor.written gap between ++ '{' :: inside)) :
    anchor ∈ ofForm anchor.form (before ++ (anchor.written gap between ++ '{' :: inside)) := by
  have braceNotBlank : Text.isBlank '{' = false := by
    decide
  have isUnread := Text.trimStart_append_stop braceNotBlank between inside
  have isMatch : anchor.form.head (before.getLast?.or none)
      (anchor.written gap between ++ '{' :: inside) =
        some (⟨anchor.name, false, Text.trimStart between ++ '{' :: inside⟩,
          Text.trimStart between ++ '{' :: inside) := by
    refine Form.head_eq_some_iff.mpr ⟨gap, between ++ '{' :: inside, ?_, ?_, stands.gapNotEmpty,
      stands.gapBlank, stands.isIdentifier, stands.nameStops, stands.notParametric, isUnread.symm,
      isUnread.symm⟩
    · simp only [written, List.append_assoc]
    · rw [Option.or_none]
      exact stands.startsWord
  have notEmpty : anchor.written gap between ++ '{' :: inside ≠ [] := by
    simp
  refine List.mem_filterMap.mpr ⟨_, Text.Pattern.mem_occurrencesFrom_of_stopsInFront stopsInFront
    notEmpty isMatch (Nat.zero_le _), ?_⟩
  have isNamed : namesProperties anchor.name = true :=
    namesProperties_iff.mpr ⟨stands.endsInProps, stands.notProps⟩
  have isGap : anchor.form.gap? (Text.trimStart between ++ '{' :: inside) =
      some (Text.trimStart between).byteLength :=
    Form.gap?_eq_some_iff.mpr ⟨_, inside, rfl, stands.permits.trimStart, rfl⟩
  obtain ⟨blanks, isBetween⟩ := Text.trimStart_suffix between
  have isStart := stands.isStart
  have isBodyStart := stands.isBodyStart
  have isLength := congrArg Text.byteLength isBetween
  simp only [written, Text.byteLength_append] at isBodyStart isLength
  obtain ⟨form, name, start, bodyStart⟩ := anchor
  dsimp only at isStart isBodyStart
  simp only [ofHead?, isNamed, isGap, written, Text.byteLength_append, Bool.not_true, Bool.or_self,
    Bool.false_eq_true, if_false, Option.map_some, Option.some.injEq, mk.injEq, true_and]
  omega

/-! ## Order -/

private theorem start_of_ofHead?
    {head : Text.Occurrence Head}
    {anchor : Anchor}
    (isAnchor : ofHead? form head = some anchor) :
    anchor.start = head.start := by
  rw [ofHead?] at isAnchor
  split at isAnchor
  · contradiction
  · obtain ⟨gap, -, rfl⟩ := Option.map_eq_some_iff.mp isAnchor
    rfl

/-- The anchors of one form come in the order of their places. -/
theorem pairwise_start_ofForm
    (form : Form)
    (text : Text) :
    (ofForm form text).Pairwise fun earlier later => earlier.start < later.start := by
  refine List.Pairwise.filterMap _ ?_
    (Text.Pattern.pairwise_occurrencesFrom form.head 0 none 0 text).1
  intro earlier later inOrder anchor isAnchor other isOther
  rwa [start_of_ofHead? isAnchor, start_of_ofHead? isOther]

/-- Anchors of different forms do not start at one place. -/
private theorem start_ne_of_form_ne
    {anchor other : Anchor}
    (isAnchor : anchor ∈ ofForm .interface text)
    (isOther : other ∈ ofForm .alias text) :
    anchor.start ≠ other.start := by
  obtain ⟨isInterface, before, gap, between, inside, isText, stands⟩ :=
    exists_stands_of_mem_ofForm isAnchor
  obtain ⟨isAlias, otherBefore, otherGap, otherBetween, otherInside, isOtherText, otherStands⟩ :=
    exists_stands_of_mem_ofForm isOther
  intro sameStart
  rw [← stands.isStart, ← otherStands.isStart] at sameStart
  obtain ⟨-, samePlace⟩ := Text.append_inj_of_byteLength (isText.symm.trans isOtherText) sameStart
  rw [written, written, isInterface, isAlias] at samePlace
  exact absurd (List.cons.inj samePlace).1 (by decide)

/-- Anchors that are found in the order of their places are listed as they are found. -/
theorem allOf_of_pairwise
    (inOrder : (ofForm .interface text ++ ofForm .alias text).Pairwise
      fun earlier later => earlier.start ≤ later.start) :
    allOf text = ofForm .interface text ++ ofForm .alias text :=
  List.mergeSort_of_pairwise (inOrder.imp decide_eq_true)

/-- The anchors of a text are those of the two forms. -/
theorem mem_allOf_iff
    {anchor : Anchor} :
    anchor ∈ allOf text ↔ anchor ∈ ofForm .interface text ∨ anchor ∈ ofForm .alias text := by
  rw [allOf, List.mem_mergeSort, List.mem_append]

/-- The anchors of a text stand in it. -/
theorem exists_stands_of_mem_allOf
    {anchor : Anchor}
    (isAnchor : anchor ∈ allOf text) :
    ∃ before gap between inside,
      text = before ++ (anchor.written gap between ++ '{' :: inside) ∧
        anchor.Stands before gap between inside := by
  rcases mem_allOf_iff.mp isAnchor with isInterface | isAlias
  · exact (exists_stands_of_mem_ofForm isInterface).2
  · exact (exists_stands_of_mem_ofForm isAlias).2

/-- The anchors of a text are listed in the order of their places, no two at one place. -/
theorem pairwise_start_allOf (text : Text) :
    (allOf text).Pairwise fun earlier later => earlier.start < later.start := by
  have apart : (ofForm .interface text ++ ofForm .alias text).Pairwise
      fun earlier later => earlier.start ≠ later.start := by
    refine List.pairwise_append.mpr ⟨?_, ?_, ?_⟩
    · exact (pairwise_start_ofForm .interface text).imp Nat.ne_of_lt
    · exact (pairwise_start_ofForm .alias text).imp Nat.ne_of_lt
    · exact fun anchor isAnchor other isOther => start_ne_of_form_ne isAnchor isOther
  have apartSorted : (allOf text).Pairwise fun earlier later => earlier.start ≠ later.start :=
    (List.mergeSort_perm _ _).symm.pairwise apart Ne.symm
  have sorted : (allOf text).Pairwise fun earlier later => earlier.start ≤ later.start := by
    refine (List.pairwise_mergeSort ?_ ?_ _).imp of_decide_eq_true
    · intro first second third
      simpa using Nat.le_trans
    · intro first second
      simpa using Nat.le_total first.start second.start
  exact (sorted.and apartSorted).imp fun inOrder => Nat.lt_of_le_of_ne inOrder.1 inOrder.2

/--
The anchors of a text stand in it, in the order of their places and no two at one place. A
declaration that stands so in the text is one of them, unless the head of a declaration of the same
form that starts in front of it reaches into it.
-/
theorem allOf_stand_in_order (text : Text) :
    (allOf text).Pairwise (fun earlier later => earlier.start < later.start) ∧
      (∀ anchor ∈ allOf text, ∃ before gap between inside,
        text = before ++ (anchor.written gap between ++ '{' :: inside) ∧
          anchor.Stands before gap between inside) ∧
        ∀ anchor before gap between inside,
          text = before ++ (anchor.written gap between ++ '{' :: inside) →
          anchor.Stands before gap between inside →
          anchor.form.head.StopsInFront none before
            (anchor.written gap between ++ '{' :: inside) →
            anchor ∈ allOf text := by
  refine ⟨pairwise_start_allOf text, fun _ => exists_stands_of_mem_allOf, ?_⟩
  rintro anchor before gap between inside rfl stands stopsInFront
  have isFound := mem_ofForm_of_stands stands stopsInFront
  match isForm : anchor.form with
  | .interface =>
      exact mem_allOf_iff.mpr (.inl (isForm ▸ isFound))
  | .alias =>
      exact mem_allOf_iff.mpr (.inr (isForm ▸ isFound))

/-- A declaration whose keyword the head in front of it reads as a name. -/
def swallowedHead : Text :=
  "type type BoxProps = {}".toList

/-- A declaration that stands in a text but is reached into is not found. -/
example : allOf swallowedHead = [] := by
  rw [allOf_of_pairwise (by decide)]
  decide

end Anchor

end ComponentPages
