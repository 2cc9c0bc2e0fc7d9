import ComponentPages.Proofs.Version.Notation
import ComponentPages.Snapshot.Basic

namespace ComponentPages

/-!
# Declared versions

The first annotation of a source declares the version whose notation stands in it, but only as far
as one suffix: behind prerelease identifiers the build identifiers are left out. Annotations and
comments declare a version that starts with a digit. Constants and properties declare whatever
their quotes hold, so that the declared version is empty exactly if one of them decides and quotes
nothing but blanks.
-/

namespace Version

variable {version other : Version}

/-- What an annotation keeps of a version: with prerelease identifiers no build identifiers. -/
def recorded (version : Version) : Version :=
  if version.prerelease.isEmpty then version else { version with build := [] }

private theorem recorded_of_no_prerelease (noPrerelease : version.prerelease = []) :
    version.recorded = version :=
  if_pos (List.isEmpty_iff.mpr noPrerelease)

private theorem recorded_of_prerelease (hasPrerelease : version.prerelease ≠ []) :
    version.recorded = { version with build := [] } :=
  if_neg fun isEmpty => hasPrerelease (List.isEmpty_iff.mp isEmpty)

/-- A version with at most one suffix is kept as it is. -/
theorem recorded_eq_self_iff :
    version.recorded = version ↔ version.prerelease = [] ∨ version.build = [] := by
  by_cases noPrerelease : version.prerelease = []
  · simp [recorded_of_no_prerelease, noPrerelease]
  · rw [recorded_of_prerelease noPrerelease, or_iff_right noPrerelease]
    constructor
    · intro isSame
      rw [← isSame]
    · intro noBuild
      rw [← noBuild]

private theorem IsValid.recorded (isValid : version.IsValid) : version.recorded.IsValid := by
  unfold Version.recorded
  split
  · exact isValid
  · exact ⟨isValid.prerelease, List.forall_mem_nil _⟩

/-- The numbers of a version stand in front of what is kept of its suffixes. -/
theorem text_recorded (version : Version) :
    version.recorded.text =
      version.numbersText ++
        if version.prerelease.isEmpty then suffixText '+' version.build
        else suffixText '-' version.prerelease := by
  by_cases noPrerelease : version.prerelease = []
  · simp [recorded_of_no_prerelease, noPrerelease, text, suffixText]
  · rw [recorded_of_prerelease noPrerelease, if_neg (by simpa using noPrerelease)]
    simp [text, numbersText, numbers, suffixText]

end Version

namespace DeclaredVersion

variable {version : Version} {source written rest : Text}

/-! ## Numbers -/

private theorem restOfNumbers_digits
    {digits : Text}
    (areDigits : ∀ digit ∈ digits, Text.isDecimalDigit digit = true)
    (rest : Text) :
    restOfNumbers (digits ++ rest) = (digits ++ (restOfNumbers rest).1, (restOfNumbers rest).2) := by
  induction digits with
  | nil =>
      rfl
  | cons digit later inductionHypothesis =>
      obtain ⟨isDigit, laterDigits⟩ := List.forall_mem_cons.mp areDigits
      have noDot : digit ≠ '.' := by
        rintro rfl
        exact absurd isDigit (by decide)
      rw [List.cons_append, restOfNumbers, if_pos isDigit, inductionHypothesis laterDigits]
      · rfl
      · intro _ _ isDot
        exact absurd isDot noDot

/-- A dot belongs to the numbers if a digit follows it. -/
private theorem restOfNumbers_dot
    {digits : Text}
    (notEmpty : digits ≠ [])
    (areDigits : ∀ digit ∈ digits, Text.isDecimalDigit digit = true)
    (rest : Text) :
    restOfNumbers ('.' :: (digits ++ rest)) =
      ('.' :: (digits ++ (restOfNumbers rest).1), (restOfNumbers rest).2) := by
  obtain ⟨digit, later, rfl⟩ := List.exists_cons_of_ne_nil notEmpty
  obtain ⟨isDigit, laterDigits⟩ := List.forall_mem_cons.mp areDigits
  rw [List.cons_append, restOfNumbers, if_pos isDigit, restOfNumbers_digits laterDigits]
  rfl

/-- The numbers end in front of a character that is no digit and no dot. -/
private theorem restOfNumbers_stop
    (noDigit : Text.Stops Text.isDecimalDigit rest)
    (noDot : rest.head? ≠ some '.') :
    restOfNumbers rest = ([], rest) := by
  cases rest with
  | nil =>
      rfl
  | cons character later =>
      have isOther : character ≠ '.' := by
        simpa using noDot
      rw [restOfNumbers, if_neg (by simp [noDigit character rfl])]
      intro _ _ isDot
      exact absurd isDot isOther

/-- The numbers of a version are read, and then at most one suffix. -/
theorem annotated?_numbersText
    (version : Version)
    (noDigit : Text.Stops Text.isDecimalDigit rest)
    (noDot : rest.head? ≠ some '.') :
    annotated? (version.numbersText ++ rest) =
      some (version.numbersText ++
          ((suffix? ['-', '+'] isSuffixCharacter rest).getD ([], rest)).1,
        ((suffix? ['-', '+'] isSuffixCharacter rest).getD ([], rest)).2) := by
  have areDigits (number : Nat) :
      ∀ digit ∈ Text.ofNat number, Text.isDecimalDigit digit = true :=
    fun _ isMember => Text.isDecimalDigit_of_isDigit (Text.isDigit_of_mem_ofNat isMember)
  obtain ⟨first, later, isMajor⟩ := List.exists_cons_of_ne_nil (Text.ofNat_ne_nil version.major)
  have majorDigits := areDigits version.major
  rw [isMajor] at majorDigits
  obtain ⟨isDigit, laterDigits⟩ := List.forall_mem_cons.mp majorDigits
  have isText : version.numbersText ++ rest =
      first :: (later ++ '.' :: (Text.ofNat version.minor ++
        '.' :: (Text.ofNat version.patch ++ rest))) := by
    simp [Version.numbersText, Version.numbers, Text.joinWith, isMajor]
  have isRead : restOfNumbers (later ++ '.' :: (Text.ofNat version.minor ++
        '.' :: (Text.ofNat version.patch ++ rest))) =
      (later ++ '.' :: (Text.ofNat version.minor ++ '.' :: Text.ofNat version.patch), rest) := by
    rw [restOfNumbers_digits laterDigits, restOfNumbers_dot (Text.ofNat_ne_nil _) (areDigits _),
      restOfNumbers_dot (Text.ofNat_ne_nil _) (areDigits _), restOfNumbers_stop noDigit noDot,
      List.append_nil]
  rw [isText, annotated?, if_pos isDigit]
  simp [isRead, Version.numbersText, Version.numbers, Text.joinWith, isMajor]

/-! ## Suffixes -/

/-- The characters of a suffix are those of identifiers and the dots between them. -/
theorem isSuffixCharacter_eq : isSuffixCharacter = Version.belongsToIdentifiers := by
  funext character
  rw [isSuffixCharacter, Version.belongsToIdentifiers, Version.isIdentifierCharacter,
    Bool.or_right_comm]

private theorem identifiersText_ne_nil
    {identifiers : List Text}
    (notEmpty : identifiers ≠ [])
    (areIdentifiers : ∀ identifier ∈ identifiers, Version.IsIdentifier identifier) :
    Version.identifiersText identifiers ≠ [] := by
  obtain ⟨identifier, isMember⟩ := List.exists_mem_of_ne_nil identifiers notEmpty
  obtain ⟨character, inIdentifier⟩ :=
    List.exists_mem_of_ne_nil identifier (areIdentifiers identifier isMember).notEmpty
  exact List.ne_nil_of_mem (Text.mem_joinWith_of_mem isMember inIdentifier)

/-- Identifiers behind their mark are one suffix. -/
theorem suffix?_suffixText
    {mark : Char}
    {identifiers : List Text}
    (isMark : mark ∈ ['-', '+'])
    (areIdentifiers : ∀ identifier ∈ identifiers, Version.IsIdentifier identifier)
    (stops : Text.Stops isSuffixCharacter rest)
    (noMark : identifiers = [] → ∀ character ∈ rest.head?, character ∉ ['-', '+']) :
    (suffix? ['-', '+'] isSuffixCharacter (Version.suffixText mark identifiers ++ rest)).getD
        ([], Version.suffixText mark identifiers ++ rest) =
      (Version.suffixText mark identifiers, rest) := by
  by_cases isEmpty : identifiers = []
  · have noSuffix : Version.suffixText mark identifiers = [] :=
      if_pos (List.isEmpty_iff.mpr isEmpty)
    rw [noSuffix, List.nil_append]
    cases rest with
    | nil =>
        rfl
    | cons character later =>
        have isOther := noMark isEmpty character rfl
        rw [suffix?, if_neg (mt List.mem_of_elem_eq_true isOther), Option.getD_none]
  · have isMarked :
        Version.suffixText mark identifiers = mark :: Version.identifiersText identifiers :=
      if_neg fun noneThere => isEmpty (List.isEmpty_iff.mp noneThere)
    have allBelong := Version.belongsToIdentifiers_of_mem areIdentifiers
    rw [← isSuffixCharacter_eq] at allBelong
    have isRun := Text.run_append allBelong stops
    have isTaken : ((Version.identifiersText identifiers ++ rest).takeWhile
        isSuffixCharacter).isEmpty = false := by
      rw [(Prod.mk.inj isRun).1]
      simpa using identifiersText_ne_nil isEmpty areIdentifiers
    rw [isMarked, List.cons_append, suffix?, if_pos (List.elem_eq_true_of_mem isMark), Text.run?,
      isTaken, isRun]
    rfl

private theorem isSuffixCharacter_eq_false_of_isBlank
    {character : Char}
    (blank : Text.isBlank character = true) :
    isSuffixCharacter character = false := by
  cases isSuffix : isSuffixCharacter character with
  | false =>
      rfl
  | true =>
      rw [isSuffixCharacter_eq] at isSuffix
      have isNotation : Version.isNotationCharacter character = true := by
        rw [Version.isNotationCharacter, isSuffix, Bool.true_or]
      rw [Version.isBlank_eq_false_of_isNotationCharacter isNotation] at blank
      contradiction

/-- What starts with identifiers behind their mark starts with the mark. -/
private theorem head?_suffixText_append
    {mark : Char}
    {identifiers : List Text}
    {character : Char}
    (isFirst : character ∈ (Version.suffixText mark identifiers ++ rest).head?) :
    character = mark ∨ character ∈ rest.head? := by
  unfold Version.suffixText at isFirst
  split at isFirst
  · exact .inr isFirst
  · exact .inl (Option.some.inj isFirst).symm

/-- Behind the numbers of a notation in front of a blank stands a mark or the blank. -/
private theorem head?_suffixes
    (version : Version)
    (endsInBlank : ∀ character ∈ rest.head?, Text.isBlank character = true) :
    ∀ character ∈ (Version.suffixText '-' version.prerelease ++
        (Version.suffixText '+' version.build ++ rest)).head?,
      character = '-' ∨ character = '+' ∨ Text.isBlank character = true := by
  intro character isFirst
  refine (head?_suffixText_append isFirst).imp_right fun isLater => ?_
  exact (head?_suffixText_append isLater).imp_right (endsInBlank character)

/-- Of two suffixes the first one is read. -/
theorem suffix?_suffixes
    (isValid : version.IsValid)
    (endsInBlank : ∀ character ∈ rest.head?, Text.isBlank character = true) :
    ((suffix? ['-', '+'] isSuffixCharacter (Version.suffixText '-' version.prerelease ++
        (Version.suffixText '+' version.build ++ rest))).getD
      ([], Version.suffixText '-' version.prerelease ++
        (Version.suffixText '+' version.build ++ rest))).1 =
      if version.prerelease.isEmpty then Version.suffixText '+' version.build
      else Version.suffixText '-' version.prerelease := by
  by_cases noPrerelease : version.prerelease = []
  · have isNone : Version.suffixText '-' version.prerelease = [] :=
      if_pos (List.isEmpty_iff.mpr noPrerelease)
    rw [isNone, List.nil_append, if_pos (List.isEmpty_iff.mpr noPrerelease),
      suffix?_suffixText (by decide) isValid.build]
    · intro character isFirst
      exact isSuffixCharacter_eq_false_of_isBlank (endsInBlank character isFirst)
    · intro _ character isFirst isMark
      have blank := endsInBlank character isFirst
      rcases List.mem_pair.mp isMark with rfl | rfl
      · exact absurd blank (by decide)
      · exact absurd blank (by decide)
  · rw [if_neg (by simpa using noPrerelease), suffix?_suffixText (by decide)]
    · exact fun identifier isMember => (isValid.prerelease identifier isMember).1
    · intro character isFirst
      rcases head?_suffixText_append isFirst with rfl | isLater
      · decide
      · exact isSuffixCharacter_eq_false_of_isBlank (endsInBlank character isLater)
    · exact fun isNone => absurd isNone noPrerelease

/-- The notation of a version is read up to a blank, but for a second suffix. -/
theorem annotated?_text
    (isValid : version.IsValid)
    (endsInBlank : ∀ character ∈ rest.head?, Text.isBlank character = true) :
    ∃ unread, annotated? (version.text ++ rest) = some (version.recorded.text, unread) := by
  have tailStart := head?_suffixes version endsInBlank
  have isText : version.text ++ rest =
      version.numbersText ++ (Version.suffixText '-' version.prerelease ++
        (Version.suffixText '+' version.build ++ rest)) := by
    simp [Version.text]
  rw [isText, annotated?_numbersText version, suffix?_suffixes isValid endsInBlank,
    ← Version.text_recorded]
  · exact ⟨_, rfl⟩
  · intro character isFirst
    rcases tailStart character isFirst with rfl | rfl | blank
    · decide
    · decide
    · exact Text.isDecimalDigit_eq_false_of_isBlank blank
  · intro isDot
    exact absurd (tailStart '.' isDot) (by decide)

/-! ## Annotations -/

/-- The word of an annotation, blanks behind it, and perhaps a mark. -/
def IsLead (lead : Text) : Prop :=
  ∃ gap mark,
    lead = "@version".toList ++ (gap ++ mark) ∧ gap ≠ [] ∧
      (∀ character ∈ gap, Text.isBlank character = true) ∧ mark ∈ [[], ['v']]

/-- Whether a text ends where an annotation has the first digit of its version. -/
def IsAnnotationStart (text : Text) : Prop :=
  ∃ lead digit, text = lead ++ [digit] ∧ IsLead lead ∧ Text.isDecimalDigit digit = true

/-- Whether the first annotation of a source has a text behind its lead, up to a blank. -/
def FirstAnnotation (source written : Text) : Prop :=
  ∃ before lead after,
    source = before ++ (lead ++ (written ++ after)) ∧ IsLead lead ∧
      (∀ text, IsAnnotationStart text → ¬ text <:+: before) ∧
        ∀ character ∈ after.head?, Text.isBlank character = true

/-- A version that is read starts with a digit. -/
private theorem startsWithDigit_of_annotated?
    {text captured unread : Text}
    (isRead : annotated? text = some (captured, unread)) :
    ∃ digit later moreCaptured, text = digit :: later ∧ captured = digit :: moreCaptured ∧
      Text.isDecimalDigit digit = true := by
  cases text with
  | nil =>
      contradiction
  | cons digit later =>
      rw [annotated?] at isRead
      split at isRead
      · rename_i isDigit
        obtain ⟨rfl, -⟩ := Prod.mk.inj (Option.some.inj isRead)
        exact ⟨digit, later, _, rfl, List.cons_append, isDigit⟩
      · contradiction

/-- A text is a mark, if it has one, and what is left without it. -/
private theorem exists_mark_append_dropMark (text : Text) :
    ∃ mark ∈ [[], ['v']], text = mark ++ dropMark text :=
  Text.exists_append_getD_after? text ['v']

/-- What an annotation declares stands behind its lead and starts with a digit. -/
theorem exists_lead_of_versionTag
    {previous : Option Char}
    {text captured unread : Text}
    (isMatch : versionTag previous text = some (captured, unread)) :
    ∃ lead digit later moreCaptured,
      text = lead ++ digit :: later ∧ IsLead lead ∧ captured = digit :: moreCaptured ∧
        Text.isDecimalDigit digit = true := by
  obtain ⟨value, isValueRead, isRead⟩ := Option.bind_eq_some_iff.mp isMatch
  obtain ⟨behind, rfl, isBlanks⟩ := Text.afterWordAndBlanks?_eq_some_iff.mp isValueRead
  obtain ⟨mark, isMark, isValue⟩ := exists_mark_append_dropMark value
  obtain ⟨digit, later, moreCaptured, isVersion, isCaptured, isDigit⟩ :=
    startsWithDigit_of_annotated? isRead
  obtain ⟨gap, notEmpty, areBlank, rfl⟩ := Text.exists_blanks_of_afterBlanks? isBlanks
  refine ⟨"@version".toList ++ (gap ++ mark), digit, later, moreCaptured, ?_,
    ⟨gap, mark, rfl, notEmpty, areBlank, isMark⟩, isCaptured, isDigit⟩
  rw [← isVersion, List.append_assoc, List.append_assoc, ← isValue]

/-- Behind its lead a version is read. -/
theorem versionTag_append
    {lead : Text}
    {digit : Char}
    (isLead : IsLead lead)
    (isDigit : Text.isDecimalDigit digit = true)
    (previous : Option Char)
    (rest : Text) :
    versionTag previous (lead ++ digit :: rest) = annotated? (digit :: rest) := by
  obtain ⟨gap, mark, rfl, notEmpty, areBlank, isMark⟩ := isLead
  have digitNotBlank := Text.isBlank_eq_false_of_isDecimalDigit isDigit
  have noMark : digit ≠ 'v' := by
    rintro rfl
    exact absurd isDigit (by decide)
  have isValue : Text.afterBlanks? (gap ++ (mark ++ digit :: rest)) =
      some (mark ++ digit :: rest) := by
    apply Text.afterBlanks?_append notEmpty areBlank
    rcases List.mem_pair.mp isMark with rfl | rfl
    · exact Text.trimStart_cons_of_not_blank digitNotBlank rest
    · exact Text.trimStart_cons_of_not_blank (by decide) (digit :: rest)
  have isDropped : dropMark (mark ++ digit :: rest) = digit :: rest := by
    rcases List.mem_pair.mp isMark with rfl | rfl
    · simp [dropMark, Text.after?, noMark]
    · simp [dropMark, Text.after?]
  rw [List.append_assoc, List.append_assoc, versionTag, Text.afterWordAndBlanks?,
    Text.after?_append, Option.bind_some, isValue]
  exact congrArg annotated? isDropped

/-- The start of an annotation has its first letter once. -/
theorem IsAnnotationStart.exists_cons
    {start : Text}
    (isStart : IsAnnotationStart start) :
    ∃ later, start = '@' :: later ∧ '@' ∉ later := by
  obtain ⟨lead, digit, rfl, ⟨gap, mark, rfl, -, areBlank, isMark⟩, isDigit⟩ := isStart
  refine ⟨"version".toList ++ (gap ++ mark) ++ [digit], rfl, ?_⟩
  simp only [List.mem_append, List.mem_singleton, not_or]
  refine ⟨⟨by decide, fun inGap => ?_, fun inMark => ?_⟩, ?_⟩
  · exact absurd (areBlank '@' inGap) (by decide)
  · rcases List.mem_pair.mp isMark with rfl | rfl
    · contradiction
    · exact absurd inMark (by decide)
  · rintro rfl
    exact absurd isDigit (by decide)

/-- In front of the first annotation none is found. -/
theorem absent_versionTag
    {before : Text}
    (notAnnotated : ∀ start, IsAnnotationStart start → ¬ start <:+: before)
    (rest : Text) :
    versionTag.Absent before ('@' :: rest) := by
  have begins : versionTag.Begins ['@'] fun text =>
      ∃ start later, text = start ++ later ∧ '@' ∉ start ∧ IsAnnotationStart ('@' :: start) := by
    rintro previous text ⟨captured, unread⟩ isMatch
    obtain ⟨lead, digit, later, -, rfl, isLead, -, isDigit⟩ := exists_lead_of_versionTag isMatch
    have isStart : IsAnnotationStart (lead ++ [digit]) := ⟨lead, digit, rfl, isLead, isDigit⟩
    obtain ⟨start, shape, once⟩ := isStart.exists_cons
    refine ⟨start ++ later, ?_, start, later, rfl, once, shape ▸ isStart⟩
    rw [← List.append_assoc, List.singleton_append, ← shape]
    simp
  refine begins.absent fun place isPlace notEmpty behind whole => ?_
  rintro ⟨start, later, rfl, once, isStart⟩
  obtain ⟨first, more, rfl⟩ := List.exists_cons_of_ne_nil notEmpty
  obtain ⟨rfl, behindAt⟩ := List.cons.inj whole
  obtain ⟨between, rfl, -⟩ := Text.exists_between once behindAt
  have isInfix : '@' :: start <:+: '@' :: (start ++ between) :=
    (List.prefix_append ('@' :: start) between).isInfix
  exact notAnnotated ('@' :: start) isStart (isInfix.trans isPlace.isInfix)

/-- The first annotation is what the search for annotations finds. -/
theorem first?_versionTag
    {written captured : Text}
    (isFirst : FirstAnnotation source written)
    (startsWithDigit : Version.StartsWithDigit written)
    (isRead : ∀ rest, (∀ character ∈ rest.head?, Text.isBlank character = true) →
      ∃ unread, annotated? (written ++ rest) = some (captured, unread)) :
    versionTag.first? source = some captured := by
  obtain ⟨before, lead, after, rfl, isLead, notAnnotated, endsInBlank⟩ := isFirst
  obtain ⟨digit, startsWith, isDigit⟩ := startsWithDigit
  obtain ⟨more, rfl⟩ := List.head?_eq_some_iff.mp startsWith
  obtain ⟨unread, isVersion⟩ := isRead after endsInBlank
  obtain ⟨later, shape, -⟩ :=
    IsAnnotationStart.exists_cons ⟨lead, digit, rfl, isLead, isDigit⟩
  have isMatch (previous : Option Char) :
      versionTag previous (lead ++ (digit :: more ++ after)) = some (captured, unread) := by
    rw [List.cons_append, versionTag_append isLead isDigit]
    exact isVersion
  have isPlace : lead ++ (digit :: more ++ after) = '@' :: (later ++ (more ++ after)) := by
    have whole : lead ++ [digit] ++ (more ++ after) = '@' :: later ++ (more ++ after) := by
      rw [shape]
    simpa using whole
  have absent := absent_versionTag notAnnotated (later ++ (more ++ after))
  rw [← isPlace] at absent
  rw [Text.Pattern.first?, Text.Pattern.break?, absent.breakFrom?_append,
    Text.Pattern.breakFrom?_eq_some (by simp) (isMatch _)]
  rfl

/-- The first version tag of a source decides its version. -/
theorem ofSource_of_versionTag
    {captured : Text}
    (isFound : versionTag.first? source = some captured) :
    ofSource source = Text.trim captured := by
  simp [ofSource, isFound]

/--
What the first annotation of a source declares is what is kept of its version, which is all of it
unless the version has two suffixes. Snapshots of two such sources have one version exactly if the
same is kept of the versions of both.
-/
theorem ofSource_annotation
    (isValid : version.IsValid)
    (isFirst : FirstAnnotation source version.text) :
    ofSource source = version.recorded.text ∧
      (ofSource source = version.text ↔ version.prerelease = [] ∨ version.build = []) ∧
      ∀ (other : Version) otherSource, other.IsValid → FirstAnnotation otherSource other.text →
        ∀ now path otherNow otherPath,
          ∀ snapshot ∈ Snapshot.ofSource? now source path,
            ∀ otherSnapshot ∈ Snapshot.ofSource? otherNow otherSource otherPath,
              (snapshot.version = otherSnapshot.version ↔ version.recorded = other.recorded) := by
  have isDeclared {version : Version} {source : Text} (isValid : version.IsValid)
      (isFirst : FirstAnnotation source version.text) :
      ofSource source = version.recorded.text := by
    rw [ofSource_of_versionTag (first?_versionTag isFirst version.startsWithDigit_text
      fun rest => annotated?_text isValid), Version.trim_text isValid.recorded]
  refine ⟨isDeclared isValid isFirst, ?_, ?_⟩
  · rw [isDeclared isValid isFirst, ← Version.recorded_eq_self_iff]
    exact ⟨Version.eq_of_text_eq isValid.recorded isValid, congrArg Version.text⟩
  · intro other otherSource otherValid otherFirst now path otherNow otherPath snapshot isSnapshot
      otherSnapshot isOther
    obtain ⟨_, -, rfl⟩ := Option.map_eq_some_iff.mp isSnapshot
    obtain ⟨_, -, rfl⟩ := Option.map_eq_some_iff.mp isOther
    rw [isDeclared isValid isFirst, isDeclared otherValid otherFirst]
    exact ⟨Version.eq_of_text_eq isValid.recorded otherValid.recorded, congrArg Version.text⟩

/-! ## Sources without an annotation -/

/-- A source has no annotation exactly if none is found. -/
theorem first?_versionTag_eq_none_iff :
    versionTag.first? source = none ↔ ∀ start, IsAnnotationStart start → ¬ start <:+: source := by
  rw [Text.Pattern.first?_eq_none_iff]
  constructor
  · rintro noMatch start ⟨lead, digit, rfl, isLead, isDigit⟩ ⟨before, after, isSource⟩
    have isMatch := versionTag_append isLead isDigit before.getLast? after
    have isPlace := noMatch before (lead ++ digit :: after) (by simp [← isSource]) (by simp)
    rw [isMatch, annotated?, if_pos isDigit] at isPlace
    contradiction
  · rintro notAnnotated before place rfl -
    cases isMatch : versionTag before.getLast? place with
    | none =>
        rfl
    | some result =>
        obtain ⟨captured, unread⟩ := result
        obtain ⟨lead, digit, later, -, rfl, isLead, -, isDigit⟩ := exists_lead_of_versionTag isMatch
        refine absurd ⟨before, later, ?_⟩ (notAnnotated _ ⟨lead, digit, rfl, isLead, isDigit⟩)
        simp

/-! ## Digits in front -/

private theorem startsWithDigit_of_versionTag
    {captured : Text}
    (isFound : versionTag.first? source = some captured) :
    Version.StartsWithDigit captured := by
  obtain ⟨_, _, _, -, isMatch⟩ := Text.Pattern.exists_place_of_first? isFound
  obtain ⟨_, digit, _, _, -, -, rfl, isDigit⟩ := exists_lead_of_versionTag isMatch
  exact ⟨digit, rfl, isDigit⟩

/-- Three numbers start with a digit. -/
private theorem startsWithDigit_of_threeNumbers?
    {text captured unread : Text}
    (isRead : commented?.threeNumbers? text = some (captured, unread)) :
    Version.StartsWithDigit captured := by
  simp only [commented?.threeNumbers?, Option.bind_eq_bind, Option.bind_eq_some_iff] at isRead
  obtain ⟨⟨major, _⟩, isMajor, _, -, _, -, isWhole⟩ := isRead
  obtain ⟨rfl, -⟩ := Prod.mk.inj (Option.some.inj isWhole)
  obtain ⟨notEmpty, areDigits⟩ := Text.of_run? isMajor
  obtain ⟨digit, later, rfl⟩ := List.exists_cons_of_ne_nil notEmpty
  exact ⟨digit, rfl, areDigits digit List.mem_cons_self⟩

private theorem startsWithDigit_of_commented?
    {text captured unread : Text}
    (isRead : commented? text = some (captured, unread)) :
    Version.StartsWithDigit captured := by
  simp only [commented?, Option.orElse_eq_orElse, Option.orElse_eq_or, Option.or_eq_some_iff]
    at isRead
  rcases isRead with afterWord | ⟨-, afterLetter⟩
  · obtain ⟨_, -, isNumbers⟩ := Option.bind_eq_some_iff.mp afterWord
    exact startsWithDigit_of_threeNumbers? isNumbers
  · obtain ⟨_, -, isNumbers⟩ := Option.bind_eq_some_iff.mp afterLetter
    exact startsWithDigit_of_threeNumbers? isNumbers

/-- A version in a comment starts with a digit. -/
private theorem startsWithDigit_of_inComment?
    {atLineStart : Bool}
    {text captured : Text}
    (isFound : inComment? atLineStart text = some captured) :
    Version.StartsWithDigit captured := by
  fun_induction inComment? atLineStart text with
  | case1 =>
      contradiction
  | case2 atLineStart character rest marked version unread isMarked =>
      obtain rfl := Option.some.inj isFound
      dsimp only [marked] at isMarked
      split at isMarked
      · exact startsWithDigit_of_commented? isMarked
      · exact startsWithDigit_of_commented? isMarked
      · split at isMarked
        · exact startsWithDigit_of_commented? isMarked
        · contradiction
      · contradiction
  | case3 atLineStart character rest marked notMarked inductionHypothesis =>
      exact inductionHypothesis isFound

/-- A text that starts with a digit has more than blanks. -/
private theorem trim_ne_nil_of_startsWithDigit
    {text : Text}
    (startsWithDigit : Version.StartsWithDigit text) :
    Text.trim text ≠ [] := by
  obtain ⟨digit, isFirst, isDigit⟩ := startsWithDigit
  intro isEmpty
  have blank := Text.trim_eq_nil_iff.mp isEmpty digit (List.mem_of_mem_head? isFirst)
  rw [Text.isBlank_eq_false_of_isDecimalDigit isDigit] at blank
  contradiction

/-! ## Empty versions -/

/-- A quote, perhaps a mark, blanks and another quote. -/
def IsBlankQuote (text : Text) : Prop :=
  ∃ opening mark gap closing,
    text = opening :: (mark ++ gap ++ [closing]) ∧ isQuote opening = true ∧
      isQuote closing = true ∧ mark ∈ [[], ['v']] ∧ gap ≠ [] ∧
        ∀ character ∈ gap, Text.isBlank character = true

/--
Whether a source has no annotation, and the constant that declares its version, or else the
property, quotes nothing but blanks.
-/
structure DeclaresBlank (source : Text) : Prop where
  notAnnotated : ∀ start, IsAnnotationStart start → ¬ start <:+: source
  quotesBlank :
    ∃ quoted,
      (constant.first? source <|> property.first? source) = some quoted ∧
        ∀ character ∈ quoted, Text.isBlank character = true

/-- What a constant or a property quotes is declared if there is no annotation. -/
theorem ofSource_of_quoted
    {quoted : Text}
    (noTag : versionTag.first? source = none)
    (isQuoted : (constant.first? source <|> property.first? source) = some quoted) :
    ofSource source = Text.trim quoted := by
  simp only [Option.orElse_eq_orElse, Option.orElse_eq_or] at isQuoted
  simp only [ofSource, noTag, Option.orElse_eq_orElse, Option.orElse_eq_or, Option.none_or,
    ← Option.or_assoc, isQuoted, Option.some_or, Option.getD_some]

/-- Without an annotation and without quotes a comment declares the version, or the default. -/
theorem ofSource_of_not_quoted
    (noTag : versionTag.first? source = none)
    (notQuoted : (constant.first? source <|> property.first? source) = none) :
    ofSource source = Text.trim ((inComment? true source).getD default) := by
  simp only [Option.orElse_eq_orElse, Option.orElse_eq_or] at notQuoted
  simp only [ofSource, noTag, Option.orElse_eq_orElse, Option.orElse_eq_or, Option.none_or,
    ← Option.or_assoc, notQuoted]

/-- The declared version is empty exactly if nothing but blanks is quoted in its place. -/
theorem ofSource_eq_nil_iff : ofSource source = [] ↔ DeclaresBlank source := by
  cases isTag : versionTag.first? source with
  | some captured =>
      rw [ofSource_of_versionTag isTag]
      refine iff_of_false ?_ fun declaresBlank => ?_
      · exact trim_ne_nil_of_startsWithDigit (startsWithDigit_of_versionTag isTag)
      · rw [first?_versionTag_eq_none_iff.mpr declaresBlank.notAnnotated] at isTag
        contradiction
  | none =>
      have notAnnotated := first?_versionTag_eq_none_iff.mp isTag
      cases isQuoted : (constant.first? source <|> property.first? source) with
      | some quoted =>
          rw [ofSource_of_quoted isTag isQuoted, Text.trim_eq_nil_iff]
          constructor
          · intro areBlank
            exact ⟨notAnnotated, quoted, isQuoted, areBlank⟩
          · rintro ⟨-, other, isOther, areBlank⟩
            rw [isQuoted] at isOther
            exact Option.some.inj isOther ▸ areBlank
      | none =>
          rw [ofSource_of_not_quoted isTag isQuoted]
          refine iff_of_false ?_ fun declaresBlank => ?_
          · apply trim_ne_nil_of_startsWithDigit
            cases isComment : inComment? true source with
            | some captured =>
                exact startsWithDigit_of_inComment? isComment
            | none =>
                exact ⟨'1', rfl, by decide⟩
          · obtain ⟨quoted, isOther, -⟩ := declaresBlank.quotesBlank
            rw [isQuoted] at isOther
            contradiction

/-! ## Blank quotes -/

/-- If what is read between quotes is blank, nothing but blanks stands there. -/
theorem exists_blankQuote_of_quoted?
    {text captured : Text}
    (isRead : quoted? text = some (captured, rest))
    (areBlank : ∀ character ∈ captured, Text.isBlank character = true) :
    ∃ quote, IsBlankQuote quote ∧ text = quote ++ rest := by
  cases text with
  | nil =>
      contradiction
  | cons opening inside =>
      unfold quoted? at isRead
      dsimp only at isRead
      split at isRead
      · contradiction
      · rename_i closing after isClosed
        generalize isContent : inside.takeWhile (!isQuote ·) = content at isRead
        have isInside : inside = content ++ closing :: after := by
          rw [← isContent, ← isClosed, List.takeWhile_append_dropWhile]
        have isClosing : isQuote closing = true := by
          simpa using Text.stops_dropWhile (!isQuote ·) inside closing (by rw [isClosed]; rfl)
        obtain ⟨mark, isMark, isMarked⟩ := exists_mark_append_dropMark content
        split at isRead
        · contradiction
        · rename_i isPlain
          simp only [Bool.or_eq_true, Bool.not_eq_true', not_or, Bool.not_eq_false] at isPlain
          split at isRead
          · -- Nothing is left behind the mark, so the mark itself would be a blank.
            rename_i noneLeft
            obtain ⟨rfl, -⟩ := Prod.mk.inj (Option.some.inj isRead)
            rw [List.isEmpty_iff.mp noneLeft, List.append_nil] at isMarked
            rcases List.mem_pair.mp isMark with rfl | rfl
            · rw [isMarked] at isPlain
              exact absurd isPlain.2 (by decide)
            · exact absurd (areBlank 'v' (isMarked ▸ List.mem_cons_self)) (by decide)
          · rename_i someLeft
            obtain ⟨rfl, rfl⟩ := Prod.mk.inj (Option.some.inj isRead)
            refine ⟨opening :: (mark ++ dropMark content ++ [closing]),
              ⟨opening, mark, dropMark content, closing, rfl, isPlain.1, isClosing, isMark, ?_,
                areBlank⟩, ?_⟩
            · simpa using someLeft
            · rw [← isMarked, isInside]
              simp

/-- A blank value that is assigned stands in quotes in the source. -/
theorem exists_blankQuote_of_assigned?
    {text captured : Text}
    (isRead : assigned? text = some (captured, rest))
    (areBlank : ∀ character ∈ captured, Text.isBlank character = true) :
    ∃ quote, IsBlankQuote quote ∧ quote <:+: text := by
  obtain ⟨value, isValue, isQuoted⟩ := Option.bind_eq_some_iff.mp isRead
  obtain ⟨quote, isQuote, isText⟩ := exists_blankQuote_of_quoted? isQuoted areBlank
  have inText : Text.trimStart value <:+ text :=
    (Text.trimStart_suffix value).trans
      ((Text.after?_suffix isValue).trans (Text.trimStart_suffix text))
  rw [isText] at inText
  exact ⟨quote, isQuote, (List.prefix_append quote rest).isInfix.trans inText.isInfix⟩

private theorem skipType_suffix (text : Text) : skipType text <:+ text := by
  unfold skipType
  dsimp only
  cases isType : (do
      let type ← Text.after? (Text.trimStart text) [':']
      Text.after? (Text.trimStart type) "string".toList) with
  | none =>
      exact List.suffix_rfl
  | some after =>
      obtain ⟨type, isBehind, isString⟩ := Option.bind_eq_some_iff.mp isType
      exact (Text.after?_suffix isString).trans ((Text.trimStart_suffix type).trans
        ((Text.after?_suffix isBehind).trans (Text.trimStart_suffix text)))

/-- If the declared version is empty, nothing but blanks stands between two quotes somewhere. -/
theorem DeclaresBlank.exists_blankQuote
    (declaresBlank : DeclaresBlank source) :
    ∃ quote, IsBlankQuote quote ∧ quote <:+: source := by
  obtain ⟨-, quoted, isQuoted, areBlank⟩ := declaresBlank
  simp only [Option.orElse_eq_orElse, Option.orElse_eq_or, Option.or_eq_some_iff] at isQuoted
  rcases isQuoted with isConstant | ⟨-, isProperty⟩
  · obtain ⟨before, place, after, rfl, isMatch⟩ := Text.Pattern.exists_place_of_first? isConstant
    simp only [constant, Option.bind_eq_bind, Option.bind_eq_some_iff,
      Text.afterWord?_eq_some_iff] at isMatch
    obtain ⟨afterExport, ⟨afterWord, ⟨-, rfl⟩, isExport⟩, name, isName, isRead⟩ := isMatch
    split at isRead
    · obtain ⟨quote, isQuote, inType⟩ := exists_blankQuote_of_assigned? isRead areBlank
      have inName : quote <:+: name :=
        inType.trans ((skipType_suffix _).trans (List.dropWhile_suffix _)).isInfix
      have inPlace : name <:+ "export".toList ++ afterWord :=
        (Text.afterWordAndBlanks?_suffix isName).trans
          ((Text.afterBlanks?_suffix isExport).trans (List.suffix_append _ _))
      exact ⟨quote, isQuote,
        inName.trans (inPlace.trans (List.suffix_append before _)).isInfix⟩
    · contradiction
  · obtain ⟨before, place, after, rfl, isMatch⟩ := Text.Pattern.exists_place_of_first? isProperty
    obtain ⟨value, isValue, isRead⟩ := Option.bind_eq_some_iff.mp isMatch
    obtain ⟨quote, isQuote, inValue⟩ := exists_blankQuote_of_assigned? isRead areBlank
    have inPlace := Text.after?_suffix isValue
    exact ⟨quote, isQuote,
      inValue.trans (inPlace.trans (List.suffix_append before place)).isInfix⟩

namespace Annotated

/-- The text of a file whose first line annotates a version. -/
def sourceOf (written : Text) : Text :=
  "/** ".toList ++ ("@version v".toList ++ (written ++ " */".toList))

private theorem firstAnnotation_sourceOf (written : Text) :
    FirstAnnotation (sourceOf written) written := by
  refine ⟨"/** ".toList, "@version v".toList, " */".toList, rfl, ⟨[' '], ['v'], ?_⟩, ?_, ?_⟩
  · decide
  · intro start isStart isInfix
    obtain ⟨later, rfl, -⟩ := isStart.exists_cons
    exact absurd (isInfix.subset List.mem_cons_self) (by decide)
  · decide

/-- A beta version. -/
def beta (number : Text) : Version where
  major := 2
  minor := 0
  patch := 0
  prerelease := ["beta".toList, number]

/-- A build of a release candidate. -/
def candidate (build : Text) : Version where
  major := 1
  minor := 0
  patch := 0
  prerelease := ["rc".toList, "1".toList]
  build := ["build".toList, build]

end Annotated

open Annotated in
/-- Two beta versions are declared as they are annotated, and so their snapshots differ. -/
theorem ofSource_annotation_betas :
    (beta ['1']).text = "2.0.0-beta.1".toList ∧
      ofSource (sourceOf (beta ['1']).text) = (beta ['1']).text ∧
      ∀ snapshot ∈ Snapshot.ofSource? [] (sourceOf (beta ['1']).text) ⟨"Button.tsx".toList⟩,
        ∀ otherSnapshot ∈ Snapshot.ofSource? [] (sourceOf (beta ['2']).text) ⟨"Button.tsx".toList⟩,
          snapshot.version ≠ otherSnapshot.version := by
  have isRead : Version.ofText? (beta ['1']).text = some (beta ['1']) := by decide
  have otherRead : Version.ofText? (beta ['2']).text = some (beta ['2']) := by decide
  have isValid := (Version.eq_text_of_ofText? isRead).1
  have otherValid := (Version.eq_text_of_ofText? otherRead).1
  obtain ⟨-, whole, apart⟩ := ofSource_annotation isValid (firstAnnotation_sourceOf _)
  refine ⟨by decide, whole.mpr (.inr rfl), fun snapshot isSnapshot other isOther => ?_⟩
  rw [Ne, apart _ _ otherValid (firstAnnotation_sourceOf _) _ _ _ _ snapshot isSnapshot other isOther]
  decide

open Annotated in
/-- Two builds of one release candidate are annotated, and neither is declared as a whole. -/
theorem ofSource_annotation_candidates :
    (candidate ['5']).IsValid ∧ (candidate ['6']).IsValid ∧ candidate ['5'] ≠ candidate ['6'] ∧
      FirstAnnotation (sourceOf (candidate ['5']).text) (candidate ['5']).text ∧
      FirstAnnotation (sourceOf (candidate ['6']).text) (candidate ['6']).text ∧
      (candidate ['5']).text = "1.0.0-rc.1+build.5".toList ∧
      ofSource (sourceOf (candidate ['5']).text) = "1.0.0-rc.1".toList ∧
      ofSource (sourceOf (candidate ['6']).text) = "1.0.0-rc.1".toList := by
  have isRead : Version.ofText? (candidate ['5']).text = some (candidate ['5']) := by decide
  have otherRead : Version.ofText? (candidate ['6']).text = some (candidate ['6']) := by decide
  exact ⟨(Version.eq_text_of_ofText? isRead).1, (Version.eq_text_of_ofText? otherRead).1,
    by decide, firstAnnotation_sourceOf _, firstAnnotation_sourceOf _, by decide, by decide,
    by decide⟩

end DeclaredVersion

end ComponentPages
