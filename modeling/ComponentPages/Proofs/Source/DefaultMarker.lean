import ComponentPages.Proofs.Source.Closed
import ComponentPages.Proofs.Text.Blank
import ComponentPages.Proofs.Text.Find

namespace ComponentPages

/-!
# Default markers

A default marker is a comment that gives the default value of a property. Stripping takes out all
other comments but leaves a marker, wherever it stands outside literals.
-/

/-- A value that can stand in a default marker. -/
structure IsDefaultValue (value : Text) : Prop where
  notEmpty : value ≠ []
  trimmed : Text.trim value = value
  noCloser : ¬ "*/".toList <:+: value

instance (value : Text) : Decidable (IsDefaultValue value) :=
  decidable_of_iff (value ≠ [] ∧ Text.trim value = value ∧ ¬ "*/".toList <:+: value)
    ⟨fun ⟨notEmpty, trimmed, noCloser⟩ => ⟨notEmpty, trimmed, noCloser⟩,
      fun ⟨notEmpty, trimmed, noCloser⟩ => ⟨notEmpty, trimmed, noCloser⟩⟩

/-- What stands in a text, without some character, stands on one side of each place of it. -/
private theorem Text.infix_of_infix_append_cons
    {needle front rest : Text}
    {stop : Char}
    (lacksStop : stop ∉ needle)
    (isInfix : needle <:+: front ++ stop :: rest) :
    needle <:+: front ∨ needle <:+: rest := by
  obtain ⟨before, after, whole⟩ := isInfix
  rcases List.append_eq_append_iff.mp whole with ⟨missing, isFront, -⟩ | ⟨between, isNeedle, isRest⟩
  · exact .inl ⟨before, missing, isFront.symm⟩
  · cases between with
    | nil =>
        rw [List.append_nil] at isNeedle
        exact .inl ⟨before, [], by rw [List.append_nil, isNeedle]⟩
    | cons first later =>
        obtain ⟨rfl, rfl⟩ := List.cons.inj isRest
        have isSuffix : needle <:+ front ++ stop :: later := ⟨before, isNeedle⟩
        have inLater := Text.suffix_of_suffix_append_cons lacksStop isSuffix
        exact .inr (inLater.isInfix.trans (List.prefix_append later after).isInfix)

namespace Comment

/-- What a default marker says. -/
def saysDefault (value : Text) : Text :=
  " @default ".toList ++ (value ++ [' '])

/-- The comment that gives a default value. -/
def defaultMarker (value : Text) : Text :=
  "/*".toList ++ (saysDefault value ++ "*/".toList)

/-- A comment ends at the first place where it can. -/
theorem breakOn?_closer
    {inside : Text}
    (noCloser : ¬ "*/".toList <:+: inside)
    (after : Text) :
    Text.breakOn? (inside ++ '*' :: '/' :: after) "*/".toList = some (inside, after) := by
  have notEmpty : "*/".toList ≠ [] := by
    decide
  refine Text.breakOn?_of_not_infix notEmpty ?_
  rw [show "*/".toList.dropLast = ['*'] from rfl, List.infix_concat_iff]
  rintro (⟨front, isWhole⟩ | isInfix)
  · have lastAgree := congrArg List.getLast? isWhole
    simp at lastAgree
  · exact noCloser isInfix

/-- What a marker says does not end the comment. -/
theorem noCloser_saysDefault
    {value : Text}
    (isValue : IsDefaultValue value) :
    ¬ "*/".toList <:+: saysDefault value := by
  intro isInfix
  have isSplit : saysDefault value = " @default".toList ++ ' ' :: (value ++ ' ' :: []) :=
    rfl
  rw [isSplit] at isInfix
  rcases Text.infix_of_infix_append_cons (by decide) isInfix with inLead | inRest
  · exact absurd inLead (by decide)
  · rcases Text.infix_of_infix_append_cons (by decide) inRest with inValue | inNothing
    · exact isValue.noCloser inValue
    · exact absurd inNothing (by decide)

private theorem body_defaultMarker
    {value : Text}
    (isValue : IsDefaultValue value) :
    body (defaultMarker value) = "@default ".toList ++ value := by
  have isOpened : dropOpeners (defaultMarker value) = saysDefault value ++ "*/".toList :=
    rfl
  have endsBlank : (saysDefault value).reverse = ' ' :: (" @default ".toList ++ value).reverse := by
    have isWhole : saysDefault value = (" @default ".toList ++ value) ++ [' '] :=
      (List.append_assoc " @default ".toList value [' ']).symm
    rw [isWhole, List.reverse_concat]
  have isReversed : (saysDefault value ++ "*/".toList).reverse =
      '/' :: '*' :: (saysDefault value).reverse := by
    rw [List.reverse_append]
    rfl
  have isClosed : dropReversedClosers (saysDefault value ++ "*/".toList).reverse =
      (saysDefault value).reverse := by
    rw [isReversed, endsBlank]
    rfl
  have starsKept : Text.trimStartWhile (· == '*') (saysDefault value) = saysDefault value :=
    rfl
  have isTrimmed : Text.trim ("@default".toList ++ ([' '] ++ value)) =
      "@default".toList ++ ([' '] ++ value) :=
    Text.trim_append_eq_self (by decide) (by decide) isValue.notEmpty isValue.trimmed [' ']
  have isWhole : saysDefault value = [' '] ++ (("@default ".toList ++ value) ++ [' ']) :=
    congrArg (' ' :: ·) (List.append_assoc "@default ".toList value [' ']).symm
  have blanksLost : Text.trim (saysDefault value) = Text.trim ("@default ".toList ++ value) := by
    rw [isWhole]
    exact Text.trim_append_blanks (by decide) (by decide) _
  rw [body, isOpened, isClosed, List.reverse_reverse, starsKept, blanksLost]
  exact isTrimmed

/-- A marker is kept when comments are stripped. -/
theorem residue_defaultMarker
    {value : Text}
    (isValue : IsDefaultValue value) :
    residue (defaultMarker value) = defaultMarker value := by
  rw [residue, isDefaultMarker, body_defaultMarker isValue]
  rfl

/-- A text whose slashes stand in literals stays in front of what is stripped. -/
theorem stripFrom_append
    {reading : Reading}
    {text : Text}
    (along : reading.Along
      (fun reading character => reading.inLiteral = true ∨ character ≠ '/') text)
    (rest : Text) :
    stripFrom reading (text ++ rest) = text ++ stripFrom (reading.after text) rest := by
  induction text generalizing reading with
  | nil =>
      rfl
  | cons character later inductionHypothesis =>
      rw [List.cons_append, stripFrom_cons along.1, inductionHypothesis along.2]
      rfl

/-- Outside literals stripping goes on behind a marker. -/
theorem stripFrom_defaultMarker
    {value : Text}
    (isValue : IsDefaultValue value)
    (depth : Int)
    (rest : Text) :
    stripFrom ⟨depth, none, false⟩ (defaultMarker value ++ rest) =
      defaultMarker value ++ stripFrom ⟨depth, none, false⟩ rest := by
  have isSplit : defaultMarker value ++ rest =
      '/' :: '*' :: (saysDefault value ++ '*' :: '/' :: rest) :=
    congrArg (fun more => '/' :: '*' :: more)
      (List.append_assoc (saysDefault value) "*/".toList rest)
  have isRest : blockRest (saysDefault value ++ '*' :: '/' :: rest) =
      (saysDefault value ++ "*/".toList, rest) := by
    rw [blockRest, breakOn?_closer (noCloser_saysDefault isValue)]
  have isKept : residue ('/' :: '*' :: (saysDefault value ++ "*/".toList)) = defaultMarker value :=
    residue_defaultMarker isValue
  rw [isSplit, stripFrom_block rfl, isRest, isKept]

/-- Stripping leaves a scope in which no other comment starts as it is. -/
theorem strip_defaultMarker
    {front before after value : Text}
    (frontClosed : IsClosed front)
    (beforeClosed : IsClosed before)
    (afterClosed : IsClosed after)
    (isValue : IsDefaultValue value) :
    strip ((front ++ ['{']) ++ (before ++ (defaultMarker value ++ (after ++ ['}'])))) =
      (front ++ ['{']) ++ (before ++ (defaultMarker value ++ (after ++ ['}']))) := by
  have frontAlong : Reading.Along
      (fun reading character => reading.inLiteral = true ∨ character ≠ '/') {} (front ++ ['{']) :=
    (frontClosed.startsNoComment 0).append ⟨.inr (by decide), trivial⟩
  have frontAfter : Reading.after {} (front ++ ['{']) = ⟨1, none, false⟩ := by
    rw [Reading.after_append, frontClosed.after 0]
    rfl
  have afterAlong : Reading.Along
      (fun reading character => reading.inLiteral = true ∨ character ≠ '/') ⟨1, none, false⟩
      (after ++ ['}']) :=
    (afterClosed.startsNoComment 1).append ⟨.inr (by decide), trivial⟩
  rw [strip, stripFrom_append frontAlong, frontAfter,
    stripFrom_append (beforeClosed.startsNoComment 1), beforeClosed.after,
    stripFrom_defaultMarker isValue, stripFrom_eq_self afterAlong]

end Comment

end ComponentPages
