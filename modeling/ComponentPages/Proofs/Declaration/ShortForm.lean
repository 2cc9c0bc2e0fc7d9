import ComponentPages.Proofs.Declaration.Bundle
import ComponentPages.Proofs.Text.Joining

namespace ComponentPages

/-!
# The short form of types

The short form of a type is made in one pass: blanks are collapsed, then leading bars, one last
`undefined` arm and the bundles give way. Each step can uncover what an earlier one, or the same
one, would take away again: a bar behind leading bars and a space, a second `undefined` arm, a
bundle whose angle pair held bundles. The short form is a normal form exactly if nothing of this
kind is uncovered.
-/

namespace TypeText

variable {text : Text} {pieces : List Piece}

/-! ## Collapsed types -/

/-- A collapsed type is words with single spaces. -/
theorem isSpaced_collapse (text : Text) : Text.IsSpaced (collapse text) :=
  Text.isSpaced_joinWith fun _ isWord => Text.isWord_of_mem_words isWord

/-- The short form of a type is made of its words. -/
theorem normalize_congr
    {other : Text}
    (sameWords : Text.words text = Text.words other) :
    normalize text = normalize other := by
  rw [normalize, collapse, sameWords]
  rfl

/-- Words with single spaces are collapsed already. -/
private theorem collapse_eq_self (isSpaced : Text.IsSpaced text) : collapse text = text :=
  Text.joinWith_words isSpaced

/-! ## Leading bars -/

private theorem dropLeadingBars_suffix (text : Text) : dropLeadingBars text <:+ text :=
  (Text.trimStart_suffix _).trans (List.dropWhile_suffix _)

private theorem dropLeadingBars_eq_self
    (isTrimmed : Text.trim text = text)
    (noBar : text.head? ≠ some '|') :
    dropLeadingBars text = text := by
  have noneDropped : text.trimStartWhile (· == '|') = text := by
    cases text with
    | nil =>
        rfl
    | cons first later =>
        have notBar : first ≠ '|' := by
          simpa using noBar
        exact List.dropWhile_cons_of_neg (by simpa using notBar)
  rw [dropLeadingBars, noneDropped, Text.trimStart_eq_self isTrimmed]

/-- A leading bar is dropped. -/
private theorem length_dropLeadingBars_lt
    (hasBar : text.head? = some '|') :
    (dropLeadingBars text).length < text.length := by
  obtain ⟨later, rfl⟩ := List.head?_eq_some_iff.mp hasBar
  have isDropped : dropLeadingBars ('|' :: later) = dropLeadingBars later := rfl
  rw [isDropped]
  exact Nat.lt_succ_of_le (dropLeadingBars_suffix later).length_le

/-! ## Last arms -/

/-- A bar and the word behind it, with any blanks behind each of them. -/
def IsUndefinedArm (text : Text) : Prop :=
  ∃ gap after,
    text = '|' :: (gap ++ ("undefined".toList ++ after)) ∧
      (∀ character ∈ gap, Text.isBlank character = true) ∧
        ∀ character ∈ after, Text.isBlank character = true

/-- Whether the last arm of a type is `undefined`. -/
def EndsInUndefined (text : Text) : Prop :=
  ∃ before arm, text = before ++ arm ∧ IsUndefinedArm arm

/-- A last arm is dropped with the blanks in front of it. -/
theorem dropLastUndefined_append
    {arm : Text}
    (isArm : IsUndefinedArm arm)
    (before : Text) :
    dropLastUndefined (before ++ arm) = Text.trimEnd before := by
  obtain ⟨gap, after, rfl, gapBlank, afterBlank⟩ := isArm
  have wordTrimmed : Text.trimEnd "undefined".toList = "undefined".toList := by
    decide
  have isTrimmed : Text.trimEnd (before ++ '|' :: (gap ++ ("undefined".toList ++ after))) =
      before ++ '|' :: (gap ++ "undefined".toList) := by
    have isWhole : before ++ '|' :: (gap ++ ("undefined".toList ++ after)) =
        before ++ '|' :: gap ++ "undefined".toList ++ after := by
      simp only [List.append_assoc, List.cons_append]
    rw [isWhole, Text.trimEnd_append afterBlank, Text.trimEnd_append_of_ne_nil, wordTrimmed,
      List.append_assoc, List.cons_append]
    rw [wordTrimmed]
    decide
  have isReversed : (before ++ '|' :: (gap ++ "undefined".toList)).reverse =
      "undefined".toList.reverse ++ (gap.reverse ++ '|' :: before.reverse) := by
    simp only [List.reverse_append, List.reverse_cons, List.append_assoc, List.singleton_append]
  have gapDropped : Text.trimStart (gap.reverse ++ '|' :: before.reverse) = '|' :: before.reverse := by
    rw [Text.trimStart_append (by simpa using gapBlank)]
    exact Text.trimStart_cons_of_not_blank (by decide) _
  have barDropped : Text.after? ('|' :: before.reverse) ['|'] = some before.reverse :=
    Text.after?_append ['|'] before.reverse
  rw [dropLastUndefined, isTrimmed, isReversed, Text.after?_append]
  simp only [Option.bind_eq_bind, Option.bind_some, gapDropped, barDropped]
  rfl

private theorem dropLastUndefined_eq_self
    (noArm : ¬ EndsInUndefined text) :
    dropLastUndefined text = text := by
  simp only [dropLastUndefined, Option.bind_eq_bind]
  generalize isArm : Option.bind _ _ = arm
  cases arm with
  | none =>
      rfl
  | some kept =>
      obtain ⟨beforeArm, isBeforeArm, isRest⟩ := Option.bind_eq_some_iff.mp isArm
      obtain ⟨beforeBar, isBeforeBar, -⟩ := Option.bind_eq_some_iff.mp isRest
      obtain ⟨after, isText, afterBlank⟩ := Text.exists_eq_trimEnd text
      have isTrimmed := congrArg List.reverse (Text.after?_eq_some_iff.mp isBeforeArm)
      have isGap : beforeArm = beforeArm.takeWhile Text.isBlank ++ '|' :: beforeBar := by
        rw [← List.singleton_append, ← Text.after?_eq_some_iff.mp isBeforeBar]
        exact List.takeWhile_append_dropWhile.symm
      refine absurd ⟨beforeBar.reverse, _, ?_, (beforeArm.takeWhile Text.isBlank).reverse, after,
        rfl, ?_, afterBlank⟩ noArm
      · rw [List.reverse_reverse] at isTrimmed
        rw [isText, isTrimmed]
        conv_lhs => rw [isGap]
        simp
      · intro character member
        exact List.mem_takeWhile_imp (List.mem_reverse.mp member)

private theorem isPrefix_dropLastUndefined (text : Text) : dropLastUndefined text <+: text := by
  by_cases endsInUndefined : EndsInUndefined text
  · obtain ⟨before, arm, rfl, isArm⟩ := endsInUndefined
    rw [dropLastUndefined_append isArm]
    exact (List.rdropWhile_prefix Text.isBlank before).trans (List.prefix_append before arm)
  · rw [dropLastUndefined_eq_self endsInUndefined]

/-- A last arm is dropped. -/
private theorem length_dropLastUndefined_lt
    (endsInUndefined : EndsInUndefined text) :
    (dropLastUndefined text).length < text.length := by
  obtain ⟨before, arm, rfl, isArm⟩ := endsInUndefined
  have armStays : 0 < arm.length := by
    obtain ⟨gap, after, rfl, -, -⟩ := isArm
    exact Nat.succ_pos _
  have noLonger := (List.rdropWhile_prefix Text.isBlank before).length_le
  rw [dropLastUndefined_append isArm, List.length_append, Text.trimEnd_eq_rdropWhile]
  omega

/-! ## What bundles are read in -/

/-- A type collapsed, without its leading bars and without one last arm that is `undefined`. -/
def kept (text : Text) : Text :=
  dropLastUndefined (dropLeadingBars (collapse text))

private theorem isSpaced_dropLeadingBars
    (isSpaced : Text.IsSpaced text) :
    Text.IsSpaced (dropLeadingBars text) :=
  isSpaced.of_infix (dropLeadingBars_suffix text).isInfix
    (Text.trim_trimStart isSpaced.isTrimmed (List.dropWhile_suffix _))

private theorem isSpaced_dropLastUndefined
    (isSpaced : Text.IsSpaced text) :
    Text.IsSpaced (dropLastUndefined text) := by
  refine isSpaced.of_infix (isPrefix_dropLastUndefined text).isInfix ?_
  by_cases endsInUndefined : EndsInUndefined text
  · obtain ⟨before, arm, rfl, isArm⟩ := endsInUndefined
    rw [dropLastUndefined_append isArm]
    exact Text.trim_trimEnd isSpaced.isTrimmed (List.prefix_append before arm)
  · rw [dropLastUndefined_eq_self endsInUndefined, isSpaced.isTrimmed]

/-- What is kept of a type is words with single spaces. -/
theorem isSpaced_kept (text : Text) : Text.IsSpaced (kept text) :=
  isSpaced_dropLastUndefined (isSpaced_dropLeadingBars (isSpaced_collapse text))

/-! ## Ends of short forms -/

/-- Only no pieces have an empty short form. -/
private theorem eq_nil_of_short_eq_nil
    (isEmpty : pieces.flatMap Piece.short = []) :
    pieces = [] := by
  have noneEmpty : [] ∉ shortNames := by
    decide
  cases pieces with
  | nil =>
      rfl
  | cons piece later =>
      have pieceEmpty := (List.append_eq_nil_iff.mp isEmpty).1
      cases piece with
      | plain character =>
          exact absurd pieceEmpty (List.cons_ne_nil character [])
      | bundle text =>
          exact absurd (pieceEmpty ▸ bundleName_mem text) noneEmpty

/-- A blank in a short form is a piece, since short names have none. -/
private theorem exists_blank_of_short
    {blank : Char}
    {before after : Text}
    (isBlank : Text.isBlank blank = true)
    (isShort : pieces.flatMap Piece.short = before ++ blank :: after) :
    ∃ front back,
      pieces = front ++ .plain blank :: back ∧ front.flatMap Piece.short = before ∧
        back.flatMap Piece.short = after := by
  have namesNotBlank : ∀ name ∈ shortNames, ∀ character ∈ name,
      Text.isBlank character = false := by
    decide
  refine exists_plain_of_short (fun name isName inName => ?_) isShort
  rw [namesNotBlank name isName blank inName] at isBlank
  contradiction

/-- The short form of a spaced text is spaced. -/
theorem Reads.isSpaced_short
    (reads : Reads text pieces)
    (isSpaced : Text.IsSpaced text) :
    Text.IsSpaced (pieces.flatMap Piece.short) := by
  have isWritten := reads.written_eq
  refine ⟨?_, ?_, Text.trim_eq_self ?_ ?_⟩
  · intro character member isBlank
    obtain ⟨before, after, isShort⟩ := List.append_of_mem member
    obtain ⟨front, back, rfl, -, -⟩ := exists_blank_of_short isBlank isShort
    refine isSpaced.onlySpaces character ?_ isBlank
    rw [← isWritten]
    simp [Piece.written]
  · rintro ⟨before, after, isPair⟩
    have isShort : pieces.flatMap Piece.short = before ++ ' ' :: ([] ++ ' ' :: after) := by
      rw [← isPair]
      simp
    obtain ⟨front, back, rfl, -, isBack⟩ := exists_blank_of_short rfl isShort
    obtain ⟨between, behind, rfl, isBetween, -⟩ := exists_blank_of_short rfl isBack
    obtain rfl := eq_nil_of_short_eq_nil isBetween
    refine isSpaced.noPair ⟨front.flatMap Piece.written, behind.flatMap Piece.written, ?_⟩
    rw [← isWritten]
    simp [Piece.written]
  · intro character isFirst
    by_contra isBlank
    obtain ⟨after, isShort⟩ := List.head?_eq_some_iff.mp isFirst
    obtain ⟨front, back, rfl, isFront, -⟩ := exists_blank_of_short
      (eq_true_of_ne_false isBlank) (isShort.trans (List.nil_append _).symm)
    obtain rfl := eq_nil_of_short_eq_nil isFront
    have isTrimmed := isSpaced.isTrimmed
    rw [← isWritten] at isTrimmed
    exact isBlank (Text.isBlank_eq_false_of_trim_cons isTrimmed)
  · intro character isLast
    by_contra isBlank
    obtain ⟨before, isShort⟩ := List.getLast?_eq_some_iff.mp isLast
    obtain ⟨front, back, rfl, -, isBack⟩ :=
      exists_blank_of_short (eq_true_of_ne_false isBlank) isShort
    obtain rfl := eq_nil_of_short_eq_nil isBack
    refine isBlank (Text.isBlank_eq_false_of_getLast? isSpaced.isTrimmed ?_)
    rw [← isWritten]
    simp [Piece.written]

/-! ## Bars and arms in short forms -/

private theorem Reads.isBundle_of_mem
    {bundle : Text}
    (reads : Reads text pieces)
    (isPiece : .bundle bundle ∈ pieces) :
    IsBundle bundle := by
  induction reads with
  | done =>
      contradiction
  | plain _ _ inductionHypothesis =>
      exact inductionHypothesis (by simpa using isPiece)
  | bundle isBundle _ inductionHypothesis =>
      rcases List.mem_cons.mp isPiece with isFirst | isLater
      · rwa [Piece.bundle.inj isFirst]
      · exact inductionHypothesis isLater

/-- A bundle starts with a letter. -/
private theorem IsBundle.startsWithLetter
    {bundle : Text}
    (isBundle : IsBundle bundle) :
    bundle.head?.any Char.isAlpha = true := by
  obtain ⟨library, name, arguments, rfl, isLibrary, isName, -⟩ := isBundle
  have nameStarts : name.head?.any Char.isAlpha = true := by
    rcases isName with isComponent | ⟨element, rfl, areLetters, -⟩
    · revert name
      decide
    · cases element with
      | nil =>
          decide
      | cons first later =>
          exact areLetters first List.mem_cons_self
  have startsWith {first : Text} (isFirst : first.head?.any Char.isAlpha = true) (later : Text) :
      (first ++ later).head?.any Char.isAlpha = true := by
    cases first with
    | nil =>
        contradiction
    | cons =>
        exact isFirst
  rcases List.mem_pair.mp isLibrary with rfl | rfl
  · exact startsWith nameStarts arguments
  · exact startsWith (by decide) (name ++ arguments)

section

variable {render : Piece → Text}

/-- Pieces start with a bar if the first of them is one, as long as bundles start with letters. -/
theorem head?_eq_bar_iff
    (plainRendered : ∀ character, render (.plain character) = [character])
    (startWithLetters : ∀ bundle, .bundle bundle ∈ pieces →
      (render (.bundle bundle)).head?.any Char.isAlpha = true) :
    (pieces.flatMap render).head? = some '|' ↔ pieces.head? = some (.plain '|') := by
  cases pieces with
  | nil =>
      simp
  | cons piece later =>
      cases piece with
      | plain character =>
          simp [plainRendered]
      | bundle text =>
          have startsWithLetter := startWithLetters text List.mem_cons_self
          rw [List.flatMap_cons, List.head?_append]
          cases isFirst : (render (.bundle text)).head? with
          | none =>
              simp [isFirst] at startsWithLetter
          | some letter =>
              have notBar : letter ≠ '|' := by
                rintro rfl
                rw [isFirst] at startsWithLetter
                exact absurd startsWithLetter (by decide)
              simp [notBar]

/-- A word at the end is plain, as long as bundles end in a character that is not in it. -/
private theorem exists_plain_word
    {stop : Char}
    {before word : Text}
    (plainRendered : ∀ character, render (.plain character) = [character])
    (endInStop : ∀ bundle, .bundle bundle ∈ pieces → (render (.bundle bundle)).getLast? = some stop)
    (notInWord : stop ∉ word)
    (isRendered : pieces.flatMap render = before ++ word) :
    ∃ front, pieces = front ++ word.map .plain := by
  induction word using List.reverseRecOn generalizing pieces with
  | nil =>
      exact ⟨pieces, by simp⟩
  | append_singleton start letter inductionHypothesis =>
      rcases List.eq_nil_or_concat pieces with rfl | ⟨front, piece, rfl⟩
      · exact absurd isRendered (by simp)
      · rw [List.concat_eq_append] at endInStop isRendered ⊢
        rw [List.flatMap_append, List.flatMap_singleton, ← List.append_assoc] at isRendered
        cases piece with
        | plain character =>
            rw [plainRendered] at isRendered
            obtain ⟨isFront, isLetter⟩ := List.append_inj' isRendered rfl
            obtain rfl := List.singleton_inj.mp isLetter
            obtain ⟨lead, rfl⟩ := inductionHypothesis
              (fun bundle isPiece => endInStop bundle (List.mem_append_left _ isPiece))
              (fun inStart => notInWord (List.mem_append_left _ inStart)) isFront
            exact ⟨lead, by simp⟩
        | bundle text =>
            have isLast := congrArg List.getLast? isRendered
            rw [List.getLast?_append, endInStop text (by simp), List.getLast?_concat,
              Option.some_or] at isLast
            obtain rfl := Option.some.inj isLast
            exact absurd (List.mem_append_right start List.mem_cons_self) notInWord

/-- A last arm is plain in any form whose bundles end in a character that arms do not have. -/
theorem endsInUndefined_of_render
    {other : Piece → Text}
    {stop : Char}
    (plainRendered : ∀ character, render (.plain character) = [character])
    (otherRendered : ∀ character, other (.plain character) = [character])
    (endInStop : ∀ bundle, .bundle bundle ∈ pieces → (render (.bundle bundle)).getLast? = some stop)
    (notInArm : stop ∉ '|' :: "undefined".toList)
    (notBlank : Text.isBlank stop = false)
    (endsInUndefined : EndsInUndefined (pieces.flatMap render)) :
    EndsInUndefined (pieces.flatMap other) := by
  obtain ⟨before, arm, isRendered, isArm⟩ := endsInUndefined
  have notInWhole : stop ∉ arm := by
    obtain ⟨gap, after, rfl, gapBlank, afterBlank⟩ := isArm
    have notInBlanks {blanks : Text}
        (areBlank : ∀ character ∈ blanks, Text.isBlank character = true) :
        stop ∉ blanks := by
      intro inBlanks
      rw [areBlank stop inBlanks] at notBlank
      contradiction
    have notElsewhere := And.intro (notInBlanks gapBlank) (notInBlanks afterBlank)
    simp only [List.mem_cons, List.mem_append, not_or] at notInArm ⊢
    exact ⟨notInArm.1, notElsewhere.1, notInArm.2, notElsewhere.2⟩
  obtain ⟨front, rfl⟩ := exists_plain_word plainRendered endInStop notInWhole isRendered
  refine ⟨front.flatMap other, arm, ?_, isArm⟩
  rw [List.flatMap_append, List.flatMap_map]
  simp [otherRendered]

end

/-- The short form of a text starts with a bar if the text does. -/
theorem Reads.head?_short_iff
    (reads : Reads text pieces) :
    (pieces.flatMap Piece.short).head? = some '|' ↔ text.head? = some '|' := by
  have namesStart : ∀ name ∈ shortNames, name.head?.any Char.isAlpha = true := by
    decide
  have shortStarts (bundle : Text) (_ : .bundle bundle ∈ pieces) :
      (Piece.short (.bundle bundle)).head?.any Char.isAlpha = true :=
    namesStart _ (bundleName_mem bundle)
  have writtenStarts (bundle : Text) (isPiece : .bundle bundle ∈ pieces) :
      (Piece.written (.bundle bundle)).head?.any Char.isAlpha = true :=
    (reads.isBundle_of_mem isPiece).startsWithLetter
  rw [head?_eq_bar_iff (fun _ => rfl) shortStarts, ← head?_eq_bar_iff (fun _ => rfl) writtenStarts,
    reads.written_eq]

/-- The short form of a text has a last arm that is `undefined` if the text has one. -/
theorem Reads.endsInUndefined_short_iff
    (reads : Reads text pieces) :
    EndsInUndefined (pieces.flatMap Piece.short) ↔ EndsInUndefined text := by
  have namesEnd : ∀ name ∈ shortNames, name.getLast? = some 's' := by
    decide
  have shortEnds (bundle : Text) (_ : .bundle bundle ∈ pieces) :
      (Piece.short (.bundle bundle)).getLast? = some 's' :=
    namesEnd _ (bundleName_mem bundle)
  have writtenEnds (bundle : Text) (isPiece : .bundle bundle ∈ pieces) :
      (Piece.written (.bundle bundle)).getLast? = some '>' := by
    obtain ⟨lead, name, -, inside, rfl, -, -⟩ := (reads.isBundle_of_mem isPiece).exists_lastName
    simp [Piece.written, List.getLast?_cons]
  conv_rhs => rw [← reads.written_eq]
  constructor
  · exact endsInUndefined_of_render (fun _ => rfl) (fun _ => rfl) shortEnds (by decide) (by decide)
  · exact endsInUndefined_of_render (fun _ => rfl) (fun _ => rfl) writtenEnds (by decide) (by decide)

/-! ## Normal forms -/

/-- Whether nothing of a type gives way. -/
structure IsNormal (text : Text) : Prop where
  noLeadingBar : text.head? ≠ some '|'
  noLastUndefined : ¬ EndsInUndefined text
  noBundle : ¬ HoldsBundle text

/-- The short form of a type is that of the pieces of what is kept. -/
theorem exists_short_eq_normalize (text : Text) :
    ∃ pieces, Reads (kept text) pieces ∧ normalize text = pieces.flatMap Piece.short := by
  obtain ⟨pieces, reads, isReplaced⟩ := exists_reads (kept text)
  have isNormalized : normalize text = Text.trim (bundle.replaceAll (kept text)) := rfl
  refine ⟨pieces, reads, ?_⟩
  rw [isNormalized, isReplaced, (reads.isSpaced_short (isSpaced_kept text)).isTrimmed]

/-- A normalized type is words with single spaces. -/
theorem isSpaced_normalize (text : Text) : Text.IsSpaced (normalize text) := by
  obtain ⟨pieces, reads, isShort⟩ := exists_short_eq_normalize text
  rw [isShort]
  exact reads.isSpaced_short (isSpaced_kept text)

/-- A normal form is its own short form. -/
theorem IsNormal.normalize_eq
    (isNormal : IsNormal text)
    (isSpaced : Text.IsSpaced text) :
    normalize text = text := by
  have allKept : kept text = text := by
    rw [kept, collapse_eq_self isSpaced,
      dropLeadingBars_eq_self isSpaced.isTrimmed isNormal.noLeadingBar,
      dropLastUndefined_eq_self isNormal.noLastUndefined]
  obtain ⟨pieces, reads, isShort⟩ := exists_short_eq_normalize text
  rw [allKept] at reads
  rw [isShort, reads.short_of_not_holdsBundle isNormal.noBundle]

/-- What is no normal form gets shorter. -/
theorem length_normalize_lt
    (isSpaced : Text.IsSpaced text)
    (notNormal : ¬ IsNormal text) :
    (normalize text).length < text.length := by
  obtain ⟨pieces, reads, isShort⟩ := exists_short_eq_normalize text
  have barsNoLonger := (dropLeadingBars_suffix text).length_le
  have armNoLonger := (isPrefix_dropLastUndefined (dropLeadingBars text)).length_le
  rw [kept, collapse_eq_self isSpaced] at reads
  obtain ⟨shortNoLonger, shorter⟩ := reads.length_short
  rw [isShort]
  by_cases hasBar : text.head? = some '|'
  · have barDropped := length_dropLeadingBars_lt hasBar
    omega
  · rw [dropLeadingBars_eq_self isSpaced.isTrimmed hasBar] at shortNoLonger shorter
    by_cases endsInUndefined : EndsInUndefined text
    · have armDropped := length_dropLastUndefined_lt endsInUndefined
      omega
    · rw [dropLastUndefined_eq_self endsInUndefined] at shorter
      refine shorter ?_
      by_contra noBundle
      exact notNormal ⟨hasBar, endsInUndefined, noBundle⟩

/-- The types that are their own short form. -/
theorem normalize_eq_self_iff :
    normalize text = text ↔ Text.IsSpaced text ∧ IsNormal text := by
  constructor
  · intro isShort
    have isSpaced : Text.IsSpaced text := isShort ▸ isSpaced_normalize text
    refine ⟨isSpaced, ?_⟩
    by_contra notNormal
    have shorter := length_normalize_lt isSpaced notNormal
    rw [isShort] at shorter
    exact Nat.lt_irrefl _ shorter
  · rintro ⟨isSpaced, isNormal⟩
    exact isNormal.normalize_eq isSpaced

/-- A type of one word without bars and angles is its own short form. -/
theorem normalize_eq_self
    (notEmpty : text ≠ [])
    (noBlank : ∀ character ∈ text, Text.isBlank character = false)
    (noBar : '|' ∉ text)
    (noAngle : '<' ∉ text) :
    normalize text = text := by
  have areWords : ∀ word ∈ [text], Text.IsWord word := by
    simpa using ⟨notEmpty, noBlank⟩
  refine normalize_eq_self_iff.mpr ⟨Text.isSpaced_joinWith areWords, ?_, ?_, ?_⟩
  · exact fun isFirst => noBar (List.mem_of_head? isFirst)
  · rintro ⟨before, _, rfl, gap, after, rfl, -, -⟩
    exact noBar (List.mem_append_right before List.mem_cons_self)
  · intro holdsBundle
    obtain ⟨before, name, -, inside, after, rfl, -⟩ := holdsBundle_iff.mp holdsBundle
    exact noAngle (by simp)

/-- Making the short form again and again gives a normal form. -/
theorem exists_isNormal_iterate (text : Text) : ∃ passes, IsNormal (normalize^[passes] text) := by
  suffices ofLength : ∀ length, ∀ text : Text, Text.IsSpaced text → text.length = length →
      ∃ passes, IsNormal (normalize^[passes] text) by
    obtain ⟨passes, isNormal⟩ := ofLength _ (normalize text) (isSpaced_normalize text) rfl
    exact ⟨passes + 1, isNormal⟩
  intro length
  induction length using Nat.strongRecOn with
  | _ length inductionHypothesis =>
  rintro text isSpaced rfl
  by_cases isNormal : IsNormal text
  · exact ⟨0, isNormal⟩
  · obtain ⟨passes, isNormal⟩ := inductionHypothesis _ (length_normalize_lt isSpaced isNormal)
      (normalize text) (isSpaced_normalize text) rfl
    exact ⟨passes + 1, isNormal⟩

/--
The short form of a type is that of the pieces of what is kept of it, and its blanks are single
spaces. It starts with a bar, or has a last arm that is `undefined`, exactly if what is kept does,
and holds a bundle exactly if the pieces expose one. It is its own short form exactly if nothing of
this kind is left.
-/
theorem normalize_normalize (text : Text) :
    ∃ pieces,
      Reads (kept text) pieces ∧
        (∀ others, Reads (kept text) others → others = pieces) ∧
          normalize text = pieces.flatMap Piece.short ∧
            Text.IsSpaced (normalize text) ∧
              ((normalize text).head? = some '|' ↔ (kept text).head? = some '|') ∧
                (EndsInUndefined (normalize text) ↔ EndsInUndefined (kept text)) ∧
                  (HoldsBundle (normalize text) ↔ Exposes pieces) ∧
                    (normalize (normalize text) = normalize text ↔ IsNormal (normalize text)) := by
  have isSpaced := isSpaced_normalize text
  have sameIff : normalize (normalize text) = normalize text ↔ IsNormal (normalize text) := by
    rw [normalize_eq_self_iff, and_iff_right isSpaced]
  obtain ⟨pieces, reads, isShort⟩ := exists_short_eq_normalize text
  refine ⟨pieces, reads, fun others => reads.unique, isShort, isSpaced, ?_, ?_, ?_, sameIff⟩
  · rw [isShort, reads.head?_short_iff]
  · rw [isShort, reads.endsInUndefined_short_iff]
  · rw [isShort, holdsBundle_short_iff]

/-- A bar behind a leading bar, a second arm and a bundle around a bundle are left by one pass. -/
theorem normalize_normalize_ne :
    (normalize "| | string".toList = "| string".toList ∧
        normalize "| string".toList = "string".toList) ∧
      (normalize "string | undefined | undefined".toList = "string | undefined".toList ∧
          normalize "string | undefined".toList = "string".toList) ∧
        normalize "HTMLAttributes<ComponentProps<'a'>>".toList =
            "HTMLAttributes<HTMLAttributes>".toList ∧
          normalize "HTMLAttributes<HTMLAttributes>".toList = "HTMLAttributes".toList ∧
            ¬ ∀ text, normalize (normalize text) = normalize text := by
  refine ⟨by decide, by decide, by decide, by decide, fun isFixed => ?_⟩
  exact absurd (isFixed "string | undefined | undefined".toList) (by decide)

end TypeText

end ComponentPages
