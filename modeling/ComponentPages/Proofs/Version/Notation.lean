import ComponentPages.Proofs.Text.Digits
import ComponentPages.Proofs.Text.Joining
import ComponentPages.Proofs.Text.Pattern
import ComponentPages.Proofs.Text.Word
import ComponentPages.Version.Basic

namespace ComponentPages

/-!
# The notation of versions

A version is written as its three numbers between dots, its prerelease identifiers behind a hyphen
and its build identifiers behind a plus sign, if it has any. Reading accepts exactly the notation
of the valid versions whose numbers have sixty-four bits, so that every such version has one
notation. Blanks around it and a mark in front of it do not count.
-/

namespace Version

/-! ## Valid versions -/

/-- An identifier has characters, all of which are ASCII letters, digits or hyphens. -/
structure IsIdentifier (text : Text) : Prop where
  notEmpty : text ≠ []
  allBelong : ∀ character ∈ text, isIdentifierCharacter character = true

/-- Whether a text is a number with a zero too many in front. -/
def IsPadded (text : Text) : Prop :=
  (∀ character ∈ text, character.isDigit = true) ∧ hasLeadingZero text = true

/-- A version of valid identifiers. Prerelease identifiers that are numbers are not padded. -/
structure IsValid (version : Version) : Prop where
  prerelease : ∀ identifier ∈ version.prerelease, IsIdentifier identifier ∧ ¬ IsPadded identifier
  build : ∀ identifier ∈ version.build, IsIdentifier identifier

/-- The three numbers, the most significant first. -/
def numbers (version : Version) : List Nat :=
  [version.major, version.minor, version.patch]

/-- Whether the numbers have sixty-four bits. -/
def Fits (version : Version) : Prop :=
  ∀ number ∈ version.numbers, number < Text.wordLimit

/-! ## The notation -/

/-- Identifiers behind their mark; nothing if there are none. -/
def suffixText (mark : Char) (identifiers : List Text) : Text :=
  if identifiers.isEmpty then [] else mark :: identifiersText identifiers

/-- The numbers with dots between them. -/
def numbersText (version : Version) : Text :=
  Text.joinWith ['.'] (version.numbers.map Text.ofNat)

/-- The notation of a version. -/
def text (version : Version) : Text :=
  version.numbersText ++ (suffixText '-' version.prerelease ++ suffixText '+' version.build)

/-! ## Numbers -/

private theorem hasLeadingZero_ofNat (number : Nat) :
    hasLeadingZero (Text.ofNat number) = false := by
  by_cases isZero : number = 0
  · subst isZero
    rw [Text.ofNat_zero]
    rfl
  · have noZero := Text.head?_ofNat_ne_zero (Nat.pos_of_ne_zero isZero)
    simp [hasLeadingZero, noZero]

/-- A number is read up to the first character that is no digit. -/
theorem number?_append
    {number : Nat}
    {rest : Text}
    (fits : number < Text.wordLimit)
    (stops : Text.Stops Char.isDigit rest) :
    number? (Text.ofNat number ++ rest) = some (number, rest) := by
  have areDigits : ∀ digit ∈ Text.ofNat number, digit.isDigit = true :=
    fun _ => Text.isDigit_of_mem_ofNat
  obtain ⟨isTaken, isLeft⟩ := Prod.mk.inj (Text.run_append areDigits stops)
  have isBelow : ¬ Text.wordLimit ≤ number :=
    Nat.not_le_of_lt fits
  rw [number?, isTaken, isLeft]
  simp [Text.ofNat_ne_nil, hasLeadingZero_ofNat, isBelow]

/-- A number that is read stands at the start of the text in decimal notation. -/
theorem eq_append_of_number?
    {text rest : Text}
    {number : Nat}
    (isRead : number? text = some (number, rest)) :
    number < Text.wordLimit ∧ text = Text.ofNat number ++ rest := by
  unfold number? at isRead
  dsimp only at isRead
  split at isRead
  · contradiction
  · rename_i isNumber
    simp only [Bool.or_eq_true, List.isEmpty_iff, decide_eq_true_eq, not_or, ge_iff_le,
      Nat.not_le, Bool.not_eq_true] at isNumber
    obtain ⟨⟨notEmpty, noPadding⟩, fits⟩ := isNumber
    obtain ⟨rfl, rfl⟩ := Prod.mk.inj (Option.some.inj isRead)
    refine ⟨fits, ?_⟩
    have areDigits : ∀ digit ∈ text.takeWhile Char.isDigit, digit.isDigit = true :=
      fun digit isTaken => List.mem_takeWhile_imp isTaken
    have isShort : (text.takeWhile Char.isDigit).length = 1 ∨
        (text.takeWhile Char.isDigit).head? ≠ some '0' := by
      have hasDigits := List.length_pos_of_ne_nil notEmpty
      by_cases isLong : 1 < (text.takeWhile Char.isDigit).length
      · simp only [hasLeadingZero, isLong, decide_true, Bool.true_and, beq_eq_false_iff_ne]
          at noPadding
        exact .inr noPadding
      · exact .inl (by omega)
    rw [Text.ofNat_digitsValue notEmpty areDigits isShort]
    exact List.takeWhile_append_dropWhile.symm

/-! ## Identifiers -/

/-- The characters of identifiers and the dots between them. -/
def belongsToIdentifiers (character : Char) : Bool :=
  isIdentifierCharacter character || character == '.'

private theorem dot_not_mem {identifier : Text} (isIdentifier : IsIdentifier identifier) :
    '.' ∉ identifier := by
  intro member
  exact absurd (isIdentifier.allBelong '.' member) (by decide)

/-- The text of identifiers is of characters that belong to them. -/
theorem belongsToIdentifiers_of_mem
    {identifiers : List Text}
    (areIdentifiers : ∀ identifier ∈ identifiers, IsIdentifier identifier) :
    ∀ character ∈ identifiersText identifiers, belongsToIdentifiers character = true := by
  refine Text.forall_mem_joinWith (by decide) fun identifier isMember character inIdentifier => ?_
  simp [belongsToIdentifiers, (areIdentifiers identifier isMember).allBelong character inIdentifier]

/-- Identifiers are read up to the first character that neither belongs to one nor is a dot. -/
theorem identifiers?_append
    {isValid : Text → Bool}
    {identifiers : List Text}
    {rest : Text}
    (notEmpty : identifiers ≠ [])
    (areIdentifiers : ∀ identifier ∈ identifiers, IsIdentifier identifier)
    (areValid : ∀ identifier ∈ identifiers, isValid identifier = true)
    (stops : Text.Stops belongsToIdentifiers rest) :
    identifiers? isValid (identifiersText identifiers ++ rest) = some (identifiers, rest) := by
  obtain ⟨isTaken, isLeft⟩ :=
    Prod.mk.inj (Text.run_append (belongsToIdentifiers_of_mem areIdentifiers) stops)
  have isSplit : Text.pieces (· == '.') (identifiersText identifiers) = identifiers :=
    Text.pieces_joinWith notEmpty fun identifier isMember =>
      dot_not_mem (areIdentifiers identifier isMember)
  unfold belongsToIdentifiers at isTaken isLeft
  rw [identifiers?, isTaken, isLeft, isSplit, if_pos (List.all_eq_true.mpr areValid)]

/-- Identifiers that are read are valid and stand at the start of the text between dots. -/
theorem eq_append_of_identifiers?
    {isValid : Text → Bool}
    {text rest : Text}
    {identifiers : List Text}
    (isRead : identifiers? isValid text = some (identifiers, rest)) :
    identifiers ≠ [] ∧ text = identifiersText identifiers ++ rest ∧
      ∀ identifier ∈ identifiers, isValid identifier = true ∧
        ∀ character ∈ identifier, isIdentifierCharacter character = true := by
  unfold identifiers? at isRead
  dsimp only at isRead
  split at isRead
  · rename_i areValid
    obtain ⟨rfl, rfl⟩ := Prod.mk.inj (Option.some.inj isRead)
    refine ⟨?_, ?_, ?_⟩
    · rw [Text.pieces_eq_splitOnP]
      exact List.splitOnP_ne_nil _ _
    · rw [identifiersText, Text.joinWith_pieces]
      exact List.takeWhile_append_dropWhile.symm
    · intro identifier isPiece
      refine ⟨List.all_eq_true.mp areValid identifier isPiece, fun character inPiece => ?_⟩
      have belongs := List.mem_takeWhile_imp (Text.mem_of_mem_pieces isPiece inPiece)
      have noDot := Text.separates_of_mem_pieces isPiece character inPiece
      simpa [noDot] using belongs
  · contradiction

/-- A suffix is read up to its end. -/
theorem suffix?_append
    {mark : Char}
    {isValid : Text → Bool}
    {identifiers : List Text}
    {rest : Text}
    (areIdentifiers : ∀ identifier ∈ identifiers, IsIdentifier identifier)
    (areValid : ∀ identifier ∈ identifiers, isValid identifier = true)
    (stops : Text.Stops belongsToIdentifiers rest)
    (noMark : rest.head? ≠ some mark) :
    suffix? mark isValid (suffixText mark identifiers ++ rest) = some (identifiers, rest) := by
  by_cases isEmpty : identifiers = []
  · subst isEmpty
    cases rest with
    | nil =>
        rfl
    | cons character later =>
        have isOther : character ≠ mark := by
          simpa using noMark
        exact if_neg isOther
  · have isMarked : suffixText mark identifiers = mark :: identifiersText identifiers :=
      if_neg fun noneThere => isEmpty (List.isEmpty_iff.mp noneThere)
    rw [isMarked, List.cons_append, suffix?, if_pos rfl]
    exact identifiers?_append isEmpty areIdentifiers areValid stops

/-- A suffix that is read stands at the start of the text. -/
theorem eq_append_of_suffix?
    {mark : Char}
    {isValid : Text → Bool}
    {text rest : Text}
    {identifiers : List Text}
    (isRead : suffix? mark isValid text = some (identifiers, rest)) :
    text = suffixText mark identifiers ++ rest ∧
      ∀ identifier ∈ identifiers, isValid identifier = true ∧
        ∀ character ∈ identifier, isIdentifierCharacter character = true := by
  cases text with
  | nil =>
      obtain ⟨rfl, rfl⟩ := Prod.mk.inj (Option.some.inj isRead)
      exact ⟨rfl, List.forall_mem_nil _⟩
  | cons character later =>
      rw [suffix?] at isRead
      split at isRead
      · rename_i isMark
        obtain ⟨notEmpty, rfl, areValid⟩ := eq_append_of_identifiers? isRead
        refine ⟨?_, areValid⟩
        rw [suffixText, if_neg (by simpa using notEmpty), isMark, List.cons_append]
      · obtain ⟨rfl, rfl⟩ := Prod.mk.inj (Option.some.inj isRead)
        exact ⟨rfl, List.forall_mem_nil _⟩

/-! ## Versions -/

/-- An identifier of a prerelease is not empty and not padded. -/
theorem isPrereleaseIdentifier_iff
    {text : Text} :
    isPrereleaseIdentifier text = true ↔ text ≠ [] ∧ ¬ IsPadded text := by
  rw [isPrereleaseIdentifier, IsPadded, Bool.and_eq_true, Bool.not_eq_true', Bool.not_eq_true',
    ← Bool.not_eq_true, ← Bool.not_eq_true, List.isEmpty_iff, Bool.and_eq_true, List.all_eq_true]

private theorem isBuildIdentifier_iff
    {text : Text} :
    isBuildIdentifier text = true ↔ text ≠ [] := by
  simp [isBuildIdentifier]

variable {version : Version} {text : Text}

/-- The notation of a version, part by part. -/
theorem text_eq (version : Version) :
    version.text =
      Text.ofNat version.major ++ '.' :: (Text.ofNat version.minor ++
        '.' :: (Text.ofNat version.patch ++
          (suffixText '-' version.prerelease ++ suffixText '+' version.build))) := by
  simp [Version.text, numbersText, numbers, Text.joinWith]

/-- Build identifiers have a plus sign in front. -/
theorem head?_suffixText_plus (identifiers : List Text) :
    ∀ character ∈ (suffixText '+' identifiers).head?, character = '+' := by
  intro character isFirst
  unfold suffixText at isFirst
  split at isFirst
  · contradiction
  · exact (Option.some.inj isFirst).symm

/-- Prerelease identifiers end in front of build identifiers. -/
private theorem stops_suffixText_plus (identifiers : List Text) :
    Text.Stops belongsToIdentifiers (suffixText '+' identifiers) := by
  intro character isFirst
  rw [head?_suffixText_plus _ character isFirst]
  decide

private theorem head?_suffixText_plus_ne (identifiers : List Text) :
    (suffixText '+' identifiers).head? ≠ some '-' := by
  intro isHyphen
  exact absurd (head?_suffixText_plus _ '-' isHyphen) (by decide)

/-- A number ends in front of a dot. -/
private theorem stops_dot (later : Text) : Text.Stops Char.isDigit ('.' :: later) := by
  intro character isFirst
  obtain rfl := Option.some.inj isFirst
  decide

/-- Behind the numbers there is no digit. -/
private theorem stops_suffixes (version : Version) :
    Text.Stops Char.isDigit
      (suffixText '-' version.prerelease ++ suffixText '+' version.build) := by
  intro character isFirst
  by_cases noPrerelease : version.prerelease = []
  · rw [noPrerelease] at isFirst
    rw [head?_suffixText_plus _ character isFirst]
    decide
  · rw [suffixText, if_neg (by simpa using noPrerelease)] at isFirst
    obtain rfl := Option.some.inj isFirst
    decide

/-- A valid version is read from its notation. -/
theorem ofText?_text
    (isValid : version.IsValid)
    (fits : version.Fits) :
    ofText? version.text = some version := by
  have fitsAt (number : Nat) (isNumber : number ∈ version.numbers) : number < Text.wordLimit :=
    fits number isNumber
  have afterDot (later : Text) : Text.after? ('.' :: later) ['.'] = some later :=
    Text.after?_append ['.'] later
  have major := number?_append (fitsAt version.major (by simp [numbers])) (stops_dot
    (Text.ofNat version.minor ++ '.' :: (Text.ofNat version.patch ++
      (suffixText '-' version.prerelease ++ suffixText '+' version.build))))
  have minor := number?_append (fitsAt version.minor (by simp [numbers])) (stops_dot
    (Text.ofNat version.patch ++
      (suffixText '-' version.prerelease ++ suffixText '+' version.build)))
  have patch := number?_append (fitsAt version.patch (by simp [numbers])) (stops_suffixes version)
  have prerelease :
      suffix? '-' isPrereleaseIdentifier
          (suffixText '-' version.prerelease ++ suffixText '+' version.build) =
        some (version.prerelease, suffixText '+' version.build) := by
    apply suffix?_append
    · exact fun identifier isMember => (isValid.prerelease identifier isMember).1
    · intro identifier isMember
      obtain ⟨isIdentifier, notPadded⟩ := isValid.prerelease identifier isMember
      exact isPrereleaseIdentifier_iff.mpr ⟨isIdentifier.notEmpty, notPadded⟩
    · exact stops_suffixText_plus version.build
    · exact head?_suffixText_plus_ne version.build
  have build :
      suffix? '+' isBuildIdentifier (suffixText '+' version.build) = some (version.build, []) := by
    rw [← List.append_nil (suffixText '+' version.build)]
    apply suffix?_append isValid.build
    · intro identifier isMember
      exact isBuildIdentifier_iff.mpr (isValid.build identifier isMember).notEmpty
    · exact Text.stops_nil _
    · simp
  rw [ofText?, text_eq]
  simp [major, minor, patch, prerelease, build, afterDot]

/-- What is read as a version is the notation of a valid one. -/
theorem eq_text_of_ofText?
    (isRead : ofText? text = some version) :
    version.IsValid ∧ version.Fits ∧ text = version.text := by
  simp only [ofText?, Option.bind_eq_bind, Option.bind_eq_some_iff, Prod.exists] at isRead
  obtain ⟨major, _, isMajor, minor, _, ⟨_, isMinorDot, isMinor⟩, patch, _,
    ⟨_, isPatchDot, isPatch⟩, prerelease, _, isPrerelease, build, rest, isBuild, isEnd⟩ := isRead
  obtain ⟨majorFits, rfl⟩ := eq_append_of_number? isMajor
  obtain rfl := Text.after?_eq_some_iff.mp isMinorDot
  obtain ⟨minorFits, rfl⟩ := eq_append_of_number? isMinor
  obtain rfl := Text.after?_eq_some_iff.mp isPatchDot
  obtain ⟨patchFits, rfl⟩ := eq_append_of_number? isPatch
  obtain ⟨rfl, arePrerelease⟩ := eq_append_of_suffix? isPrerelease
  obtain ⟨rfl, areBuild⟩ := eq_append_of_suffix? isBuild
  split at isEnd
  · rename_i isEmpty
    obtain rfl := List.isEmpty_iff.mp isEmpty
    obtain rfl := Option.some.inj isEnd
    refine ⟨⟨?_, ?_⟩, ?_, ?_⟩
    · intro identifier isMember
      obtain ⟨isValid, allBelong⟩ := arePrerelease identifier isMember
      obtain ⟨notEmpty, notPadded⟩ := isPrereleaseIdentifier_iff.mp isValid
      exact ⟨⟨notEmpty, allBelong⟩, notPadded⟩
    · intro identifier isMember
      obtain ⟨isValid, allBelong⟩ := areBuild identifier isMember
      exact ⟨isBuildIdentifier_iff.mp isValid, allBelong⟩
    · simpa [Fits, numbers] using ⟨majorFits, minorFits, patchFits⟩
    · rw [text_eq]
      simp
  · contradiction

/-- Reading accepts exactly the notation of the valid versions of sixty-four bits. -/
theorem ofText?_eq_some_iff :
    ofText? text = some version ↔ version.IsValid ∧ version.Fits ∧ text = version.text := by
  constructor
  · exact eq_text_of_ofText?
  · rintro ⟨isValid, fits, rfl⟩
    exact ofText?_text isValid fits

/-! ## Versions of one notation -/

/-- A number in front of no digit, and what follows it, can be told from the whole. -/
theorem ofNat_append_inj
    {number other : Nat}
    {rest otherRest : Text}
    (stops : Text.Stops Char.isDigit rest)
    (otherStops : Text.Stops Char.isDigit otherRest)
    (same : Text.ofNat number ++ rest = Text.ofNat other ++ otherRest) :
    number = other ∧ rest = otherRest := by
  have isRun : Text.run Char.isDigit (Text.ofNat number ++ rest) = (Text.ofNat number, rest) :=
    Text.run_append (fun _ => Text.isDigit_of_mem_ofNat) stops
  rw [same, Text.run_append (fun _ => Text.isDigit_of_mem_ofNat) otherStops] at isRun
  obtain ⟨sameDigits, rfl⟩ := Prod.mk.inj isRun
  have sameValue := congrArg Text.digitsValue sameDigits
  rw [Text.digitsValue_ofNat, Text.digitsValue_ofNat] at sameValue
  exact ⟨sameValue.symm, rfl⟩

/-- Identifiers behind their mark, and what follows them, can be told from the whole. -/
theorem suffixText_append_inj
    {mark : Char}
    {identifiers others : List Text}
    {rest otherRest : Text}
    (areIdentifiers : ∀ identifier ∈ identifiers, IsIdentifier identifier)
    (areOthers : ∀ identifier ∈ others, IsIdentifier identifier)
    (stops : Text.Stops belongsToIdentifiers rest)
    (otherStops : Text.Stops belongsToIdentifiers otherRest)
    (noMark : rest.head? ≠ some mark)
    (otherNoMark : otherRest.head? ≠ some mark)
    (same : suffixText mark identifiers ++ rest = suffixText mark others ++ otherRest) :
    identifiers = others ∧ rest = otherRest := by
  have isRead :
      suffix? mark (fun _ => true) (suffixText mark identifiers ++ rest) =
        some (identifiers, rest) :=
    suffix?_append areIdentifiers (fun _ _ => rfl) stops noMark
  rw [same, suffix?_append areOthers (fun _ _ => rfl) otherStops otherNoMark] at isRead
  obtain ⟨rfl, rfl⟩ := Prod.mk.inj (Option.some.inj isRead)
  exact ⟨rfl, rfl⟩

/-- The notation tells valid versions apart, also those whose numbers have more bits. -/
theorem eq_of_text_eq
    {other : Version}
    (isValid : version.IsValid)
    (otherValid : other.IsValid)
    (same : version.text = other.text) :
    version = other := by
  rw [text_eq, text_eq] at same
  obtain ⟨sameMajor, same⟩ := ofNat_append_inj (stops_dot _) (stops_dot _) same
  obtain ⟨sameMinor, same⟩ :=
    ofNat_append_inj (stops_dot _) (stops_dot _) (List.cons.inj same).2
  obtain ⟨samePatch, same⟩ :=
    ofNat_append_inj (stops_suffixes _) (stops_suffixes _) (List.cons.inj same).2
  obtain ⟨samePrerelease, same⟩ := suffixText_append_inj
    (fun identifier isMember => (isValid.prerelease identifier isMember).1)
    (fun identifier isMember => (otherValid.prerelease identifier isMember).1)
    (stops_suffixText_plus _) (stops_suffixText_plus _) (head?_suffixText_plus_ne _)
    (head?_suffixText_plus_ne _) same
  rw [← List.append_nil (suffixText '+' version.build),
    ← List.append_nil (suffixText '+' other.build)] at same
  obtain ⟨sameBuild, -⟩ := suffixText_append_inj isValid.build otherValid.build
    (Text.stops_nil _) (Text.stops_nil _) (by simp) (by simp) same
  cases version
  cases other
  simp_all

/-! ## The characters of the notation -/

/-- The characters of the notation: those of identifiers, dots and plus signs. -/
def isNotationCharacter (character : Char) : Bool :=
  belongsToIdentifiers character || character == '+'

private theorem isNotationCharacter_of_isDigit
    {digit : Char}
    (isDigit : digit.isDigit = true) :
    isNotationCharacter digit = true := by
  simp [isNotationCharacter, belongsToIdentifiers, isIdentifierCharacter, Char.isAlphanum, isDigit]

private theorem isNotationCharacter_of_mem_suffixText
    {mark : Char}
    {identifiers : List Text}
    (isMark : isNotationCharacter mark = true)
    (areIdentifiers : ∀ identifier ∈ identifiers, IsIdentifier identifier) :
    ∀ character ∈ suffixText mark identifiers, isNotationCharacter character = true := by
  unfold suffixText
  split
  · exact List.forall_mem_nil _
  · refine List.forall_mem_cons.mpr ⟨isMark, fun character inIdentifiers => ?_⟩
    simp [isNotationCharacter, belongsToIdentifiers_of_mem areIdentifiers character inIdentifiers]

/-- A version is written in characters of the notation. -/
theorem isNotationCharacter_of_mem_text
    (isValid : version.IsValid) :
    ∀ character ∈ version.text, isNotationCharacter character = true := by
  refine List.forall_mem_append.mpr ⟨?_, List.forall_mem_append.mpr ⟨?_, ?_⟩⟩
  · refine Text.forall_mem_joinWith (by decide) fun digits isPart digit inDigits => ?_
    obtain ⟨number, -, rfl⟩ := List.mem_map.mp isPart
    exact isNotationCharacter_of_isDigit (Text.isDigit_of_mem_ofNat inDigits)
  · exact isNotationCharacter_of_mem_suffixText (by decide)
      fun identifier isMember => (isValid.prerelease identifier isMember).1
  · exact isNotationCharacter_of_mem_suffixText (by decide) isValid.build

/-- No character of the notation is blank. -/
theorem isBlank_eq_false_of_isNotationCharacter
    {character : Char}
    (isNotation : isNotationCharacter character = true) :
    Text.isBlank character = false := by
  simp only [isNotationCharacter, belongsToIdentifiers, isIdentifierCharacter, Bool.or_eq_true,
    beq_iff_eq] at isNotation
  rcases isNotation with ((isAlphanum | rfl) | rfl) | rfl
  · exact Text.isBlank_eq_false_of_isAlphanum isAlphanum
  · decide
  · decide
  · decide

/-- There are no blanks around the notation. -/
theorem trim_text (isValid : version.IsValid) : Text.trim version.text = version.text := by
  have notBlank (character : Char) (member : character ∈ version.text) :
      Text.isBlank character = false :=
    isBlank_eq_false_of_isNotationCharacter
      (isNotationCharacter_of_mem_text isValid character member)
  exact Text.trim_eq_self
    (fun character isFirst => notBlank character (List.mem_of_mem_head? isFirst))
    (fun character isLast => notBlank character (List.mem_of_getLast? isLast))

/-! ## Blanks and marks around versions -/

/-- What may stand directly in front of a version. -/
def marks : List Text :=
  [[], ['v'], ['V']]

/-- Whether a text is another one behind a mark, with blanks around both. -/
def Wraps (text inside : Text) : Prop :=
  ∃ before mark after,
    text = before ++ (mark ++ inside ++ after) ∧ mark ∈ marks ∧
      (∀ character ∈ before, Text.isBlank character = true) ∧
        ∀ character ∈ after, Text.isBlank character = true

/-- Whether a text starts with a digit, of any script. -/
def StartsWithDigit (text : Text) : Prop :=
  ∃ digit ∈ text.head?, Text.isDecimalDigit digit = true

/-- The notation starts with a digit. -/
theorem startsWithDigit_text (version : Version) : StartsWithDigit version.text := by
  obtain ⟨digit, later, isNumber⟩ :=
    List.exists_cons_of_ne_nil (Text.ofNat_ne_nil version.major)
  have isFirst : digit ∈ Text.ofNat version.major := by
    rw [isNumber]
    exact List.mem_cons_self
  rw [text_eq, isNumber]
  exact ⟨digit, rfl, Text.isDecimalDigit_of_isDigit (Text.isDigit_of_mem_ofNat isFirst)⟩

/-- Whether a text wraps the notation of a valid version of sixty-four bits. -/
structure Denotes (text : Text) (version : Version) : Prop where
  isValid : version.IsValid
  fits : version.Fits
  wraps : Wraps text version.text

/-- Every text wraps what is left of it without the blanks and the mark. -/
theorem wraps_dropMark (text : Text) : Wraps text (dropMark (Text.trim text)) := by
  obtain ⟨before, after, isText, beforeBlank, afterBlank⟩ := Text.exists_eq_trim text
  have isMarked : ∃ mark ∈ marks, Text.trim text = mark ++ dropMark (Text.trim text) := by
    generalize Text.trim text = trimmed
    unfold dropMark
    split
    · exact ⟨['v'], by decide, rfl⟩
    · exact ⟨['V'], by decide, rfl⟩
    · exact ⟨[], by decide, rfl⟩
  obtain ⟨mark, isMark, isTrimmed⟩ := isMarked
  refine ⟨before, mark, after, ?_, isMark, beforeBlank, afterBlank⟩
  rw [← isTrimmed]
  exact isText

/-- Blanks and a mark around a text that starts with a digit do not count. -/
theorem dropMark_trim_of_wraps
    {text inside : Text}
    (wraps : Wraps text inside)
    (startsWithDigit : StartsWithDigit inside) :
    dropMark (Text.trim text) = Text.trimEnd inside := by
  obtain ⟨before, mark, after, rfl, isMark, beforeBlank, afterBlank⟩ := wraps
  obtain ⟨digit, isFirst, isDigit⟩ := startsWithDigit
  obtain ⟨later, rfl⟩ := List.head?_eq_some_iff.mp isFirst
  have digitNotBlank := Text.isBlank_eq_false_of_isDecimalDigit isDigit
  rw [Text.trim_append_blanks beforeBlank afterBlank]
  have isEnd := Text.trimEnd_cons_of_not_blank digitNotBlank later
  have isPlain : dropMark (digit :: Text.trimEnd later) = digit :: Text.trimEnd later := by
    unfold dropMark
    split
    · rename_i isV
      obtain ⟨rfl, -⟩ := List.cons.inj isV
      exact absurd isDigit (by decide)
    · rename_i isV
      obtain ⟨rfl, -⟩ := List.cons.inj isV
      exact absurd isDigit (by decide)
    · rfl
  have isOne : mark = [] ∨ mark = ['v'] ∨ mark = ['V'] := by
    simpa [marks] using isMark
  rcases isOne with rfl | rfl | rfl
  · rw [List.nil_append, Text.trim_cons_of_not_blank digitNotBlank, isEnd, isPlain]
  · rw [List.singleton_append, Text.trim_cons_of_not_blank (by decide),
      Text.trimEnd_cons_of_not_blank (by decide)]
    rfl
  · rw [List.singleton_append, Text.trim_cons_of_not_blank (by decide),
      Text.trimEnd_cons_of_not_blank (by decide)]
    rfl

/-- What is read from a text that starts with a digit is read from each text that wraps it. -/
theorem read?_of_wraps
    {text inside : Text}
    (wraps : Wraps text inside)
    (startsWithDigit : StartsWithDigit inside) :
    read? text = read? inside := by
  have wrapsItself : Wraps inside inside :=
    ⟨[], [], [], by simp, by decide, List.forall_mem_nil _, List.forall_mem_nil _⟩
  rw [read?, read?, dropMark_trim_of_wraps wraps startsWithDigit,
    dropMark_trim_of_wraps wrapsItself startsWithDigit]

/-- The version that a text denotes is read from it, and no other one. -/
theorem read?_eq_some_iff :
    read? text = some version ↔ Denotes text version := by
  constructor
  · intro isRead
    obtain ⟨isValid, fits, isText⟩ := ofText?_eq_some_iff.mp isRead
    exact ⟨isValid, fits, isText ▸ wraps_dropMark text⟩
  · rintro ⟨isValid, fits, wraps⟩
    rw [read?, dropMark_trim_of_wraps wraps (startsWithDigit_text version),
      Text.trimEnd_eq_self (trim_text isValid)]
    exact ofText?_eq_some_iff.mpr ⟨isValid, fits, rfl⟩

/-- A text is refused exactly if it denotes no version. -/
theorem read?_eq_none_iff :
    read? text = none ↔ ∀ version, ¬ Denotes text version := by
  rw [Option.eq_none_iff_forall_ne_some]
  exact forall_congr' fun version => not_congr read?_eq_some_iff

end Version

end ComponentPages
