import ComponentPages.Declaration.Extraction
import ComponentPages.Proofs.Declaration.Keyword
import ComponentPages.Proofs.Source.Division
import ComponentPages.Proofs.Source.Scope

namespace ComponentPages

/-!
# Written configurations

A configuration of style variants is written as a call of the builder whose second argument is an
object with a `variants` entry. Reading the call gives back the axes and their options, whatever
the literals hold that would count as a delimiter, a separator or a comment outside of them.
-/

/-! ## What is written -/

/-- A literal that holds no quote of any kind, no backslash and not the builder's name. -/
structure WrittenLiteral where
  quote : Char
  content : Text
  isQuoting : isQuote quote = true
  noQuotes : ∀ character ∈ content, isQuote character = false
  noBackslash : '\\' ∉ content
  noBuilder : ¬ BuilderCall.builder <:+: content

/-- The literal with its quotes. -/
def WrittenLiteral.source (literal : WrittenLiteral) : Text :=
  literal.quote :: (literal.content ++ [literal.quote])

/-- The name of an axis or the key of an option. -/
inductive WrittenKey where
  /-- An identifier. -/
  | identifier (name : Text) (isIdentifier : Text.IsIdentifier name)
  /-- A run of ASCII digits. -/
  | number
      (digits : Text)
      (notEmpty : digits ≠ [])
      (areDigits : ∀ digit ∈ digits, digit.isDigit = true)
  /-- A literal in single or double quotes. -/
  | quoted (literal : WrittenLiteral) (noBacktick : literal.quote ≠ '\x60')

namespace WrittenKey

/-- The key as it is written. -/
def source : WrittenKey → Text
  | .identifier name _ => name
  | .number digits _ _ => digits
  | .quoted literal _ => literal.source

/-- The key without its quotes. -/
def text : WrittenKey → Text
  | .identifier name _ => name
  | .number digits _ _ => digits
  | .quoted literal _ => literal.content

/-- An entry with the key in front of a value. -/
def entry (key : WrittenKey) (value : Text) : Text :=
  key.source ++ ':' :: ' ' :: value

end WrittenKey

/-- An option of an axis: its key and what the key stands for. -/
structure WrittenOption where
  key : WrittenKey
  value : WrittenLiteral

namespace WrittenOption

/-- The option with its value. -/
def source (written : WrittenOption) : Text :=
  written.key.entry written.value.source

/-- The option that is meant. -/
def option (written : WrittenOption) : VariantOption where
  value := written.key.text
  description := VariantOption.describe written.key.text

end WrittenOption

/-- An object whose content is given. -/
def braced (inside : Text) : Text :=
  '{' :: (' ' :: (inside ++ [' ']) ++ ['}'])

/-- An axis: its name and its options. -/
structure WrittenAxis where
  key : WrittenKey
  options : List WrittenOption

namespace WrittenAxis

/-- The axis with its options in braces. -/
def source (written : WrittenAxis) : Text :=
  written.key.entry
    (braced (Text.joinWith ", ".toList (written.options.map WrittenOption.source)))

/-- The axis that is meant. -/
def variant (written : WrittenAxis) : Variant where
  name := written.key.text
  options := written.options.map WrittenOption.option
  defaultValue :=
    if "default".toList ∈ written.options.map (·.key.text) then
      some "default".toList
    else
      none

/-- The object that configures the axes of a list. -/
def configuration (axes : List WrittenAxis) : Text :=
  "variants: ".toList ++ braced (Text.joinWith ", ".toList (axes.map source))

/-- The arguments of a call, and the parenthesis that ends it. -/
def arguments (base : WrittenLiteral) (axes : List WrittenAxis) : Text :=
  base.source ++ ([',', ' '] ++ (braced (configuration axes) ++ [')']))

/-- The call that configures the axes of a list. -/
def call (base : WrittenLiteral) (axes : List WrittenAxis) : Text :=
  "cva(".toList ++ arguments base axes

end WrittenAxis

/-! ## Literals -/

namespace WrittenLiteral

variable (literal : WrittenLiteral)

private theorem quote_not_mem : literal.quote ∉ literal.content := by
  intro member
  have noQuote := literal.noQuotes _ member
  rw [literal.isQuoting] at noQuote
  contradiction

/-- Every character of a literal plays the part of one inside a literal. -/
private theorem along_source :
    Reading.Along (fun reading character => reading.role character = .literal) {}
      literal.source :=
  Reading.along_literal literal.isQuoting
    (.of_not_mem literal.quote_not_mem literal.noBackslash)

/-- A literal is an entry by itself, whatever separates entries. -/
theorem isEntry (separates : Char → Bool) : IsEntry separates literal.source where
  closed := .literal literal.isQuoting literal.quote_not_mem literal.noBackslash
  undivided :=
    .literal literal.isQuoting (.of_not_mem literal.quote_not_mem literal.noBackslash)
  notEmpty := List.cons_ne_nil _ _
  trimmed := by
    have quoteNotBlank : Text.isBlank literal.quote = false := by
      have isQuoting := literal.isQuoting
      simp only [isQuote, Bool.or_eq_true, beq_iff_eq] at isQuoting
      rcases isQuoting with (isSame | isSame) | isSame <;> rw [isSame] <;> decide
    apply Text.trim_eq_self <;> simp [source, quoteNotBlank, List.getLast?_cons]

end WrittenLiteral

/-! ## Keys -/

/-- A text of characters that continue identifiers is an entry. -/
private theorem isEntry_of_continuesIdentifier
    {text : Text}
    (notEmpty : text ≠ [])
    (continues : ∀ character ∈ text, Text.continuesIdentifier character = true) :
    IsEntry Variant.isComma text where
  closed := .of_ordinary fun character member =>
    Text.isOrdinary_of_continuesIdentifier (continues character member)
  undivided := by
    refine .of_forall (fun character member => ?_) {}
    have isContinuing := continues character member
    refine Bool.eq_false_iff.mpr fun isComma => ?_
    rw [Variant.isComma, beq_iff_eq] at isComma
    rw [isComma] at isContinuing
    exact absurd isContinuing (by decide)
  notEmpty := notEmpty
  trimmed := by
    refine Text.trim_eq_self (fun character isFirst => ?_) (fun character isLast => ?_)
    · exact Text.isBlank_eq_false_of_continuesIdentifier
        (continues character (List.mem_of_mem_head? isFirst))
    · exact Text.isBlank_eq_false_of_continuesIdentifier
        (continues character (List.mem_of_mem_getLast? isLast))

/-- The characters that a key of an entry may have behind the first one. -/
def Entry.continuesKey (character : Char) : Bool :=
  Text.isWordCharacter character || character == '$' || character == '-'

namespace WrittenKey

/-- A key is an entry by itself. -/
theorem isEntry (key : WrittenKey) : IsEntry Variant.isComma key.source := by
  cases key with
  | identifier name isIdentifier =>
      exact isEntry_of_continuesIdentifier isIdentifier.notEmpty isIdentifier.continues
  | number digits notEmpty areDigits =>
      refine isEntry_of_continuesIdentifier notEmpty fun digit member => ?_
      exact (Text.kind_of_isDigit (areDigits digit member)).2.1
  | quoted literal _ =>
      exact literal.isEntry Variant.isComma

/-- A key in front of a colon is read as it is written. -/
theorem key?_source
    (key : WrittenKey)
    (rest : Text) :
    Entry.key? (key.source ++ ':' :: rest) = some (key.source, ':' :: rest) := by
  cases key with
  | identifier name isIdentifier =>
      have allContinue : ∀ character ∈ name, Entry.continuesKey character = true := by
        intro character member
        have isContinuing := isIdentifier.continues character member
        rw [Text.continuesIdentifier] at isContinuing
        rw [Entry.continuesKey, isContinuing, Bool.true_or]
      have isRead : Text.identifierOf? Entry.continuesKey (name ++ ':' :: rest) =
          some (name, ':' :: rest) :=
        Text.identifierOf?_append isIdentifier allContinue (by decide)
      exact congrArg (· <|> _) isRead
  | number digits notEmpty areDigits =>
      have areDecimal : ∀ digit ∈ digits, Text.isDecimalDigit digit = true := by
        intro digit member
        exact (Text.kind_of_isDigit (areDigits digit member)).1
      have isRead : Text.run? Text.isDecimalDigit (digits ++ ':' :: rest) =
          some (digits, ':' :: rest) :=
        Text.run?_append notEmpty areDecimal (by decide) rest
      obtain ⟨first, later, rfl⟩ := List.exists_cons_of_ne_nil notEmpty
      obtain ⟨-, -, startsNone, noQuote⟩ :=
        Text.kind_of_isDigit (areDigits first List.mem_cons_self)
      simp only [isQuote, Bool.or_eq_false_iff, beq_eq_false_iff_ne] at noQuote
      rw [List.cons_append] at isRead
      rw [Entry.key?, source, List.cons_append, Text.identifierOf?_eq_none startsNone,
        Text.quoted?_eq_none noQuote.1.2, Text.quoted?_eq_none noQuote.1.1, isRead]
      rfl
  | quoted literal noBacktick =>
      have isRead := Text.quoted?_append literal.quote_not_mem (':' :: rest)
      have isQuoting := literal.isQuoting
      simp only [isQuote, Bool.or_eq_true, beq_iff_eq, noBacktick, or_false] at isQuoting
      rw [source, WrittenLiteral.source, Entry.key?]
      rcases isQuoting with isDouble | isSingle
      · rw [isDouble] at isRead ⊢
        rw [isRead, List.cons_append, Text.identifierOf?_eq_none (by decide),
          Text.quoted?_eq_none (by decide)]
        rfl
      · rw [isSingle] at isRead ⊢
        rw [isRead, List.cons_append, Text.identifierOf?_eq_none (by decide)]
        rfl

/-- Without its quotes a key is what it says. -/
theorem unquote_source (key : WrittenKey) : unquote key.source = key.text := by
  cases key with
  | identifier name isIdentifier =>
      refine unquote_eq_self fun character member => ?_
      exact Text.isQuote_eq_false_of_continuesIdentifier (isIdentifier.continues character member)
  | number digits notEmpty areDigits =>
      refine unquote_eq_self fun digit member => ?_
      exact (Text.kind_of_isDigit (areDigits digit member)).2.2.2
  | quoted literal noBacktick =>
      have isQuoting := literal.isQuoting
      simp only [isQuote, Bool.or_eq_true, beq_iff_eq, noBacktick, or_false] at isQuoting
      exact unquote_quoted isQuoting.symm literal.noQuotes

/-- An entry is read as its key and its value. -/
theorem keyAndValue?_entry
    {value : Text}
    (isValue : IsEntry Variant.isComma value)
    (key : WrittenKey) :
    Entry.keyAndValue? (key.entry value) = some (key.text, value) := by
  have valueKept : Text.trimStart (' ' :: value) = value := by
    have blankDropped : Text.trimStart ([' '] ++ value) = Text.trimStart value :=
      Text.trimStart_append (List.forall_mem_singleton.mpr Text.isBlank_space) value
    rwa [Text.trimStart_eq_self isValue.trimmed] at blankDropped
  have colonNotBlank : Text.isBlank ':' = false := by
    decide
  simp only [Entry.keyAndValue?, entry, key?_source, Option.bind_eq_bind, Option.bind_some,
    Text.trimStart_cons_of_not_blank colonNotBlank, Text.after?, if_true, unquote_source,
    valueKept]
  rfl

/-- A key with a value is an entry if the value is one. -/
theorem isEntry_entry
    {value : Text}
    (isValue : IsEntry Variant.isComma value)
    (key : WrittenKey) :
    IsEntry Variant.isComma (key.entry value) := by
  have separatorClosed : IsClosed [':', ' '] := .of_ordinary (by decide)
  have separatorUndivided : Division.Undivided Variant.isComma {} [':', ' '] :=
    .of_forall (by decide) {}
  have isEntry := key.isEntry
  have isSplit : key.entry value = key.source ++ ([':', ' '] ++ value) :=
    rfl
  rw [isSplit]
  exact {
    closed := isEntry.closed.append (separatorClosed.append isValue.closed)
    undivided := isEntry.undivided.append isEntry.closed
      (separatorUndivided.append separatorClosed isValue.undivided)
    notEmpty := by
      simp
    trimmed := Text.trim_append_eq_self isEntry.notEmpty isEntry.trimmed isValue.notEmpty
      isValue.trimmed [':', ' ']
  }

end WrittenKey

/-! ## Objects -/

/-- What is in braces is an entry by itself. -/
theorem isEntry_braced
    {inside : Text}
    (closed : IsClosed inside)
    (separates : Char → Bool) :
    IsEntry separates (braced inside) := by
  have blankClosed : IsClosed [' '] := .of_ordinary (by decide)
  have contentClosed : IsClosed ([' '] ++ (inside ++ [' '])) :=
    blankClosed.append (closed.append blankClosed)
  exact {
    closed := .scope (by decide) contentClosed (by decide)
    undivided := .scope (by decide) contentClosed.balanced (by decide)
    notEmpty := List.cons_ne_nil _ _
    trimmed := by
      apply Text.trim_eq_self <;> simp [braced, List.getLast?_cons] <;> decide
  }

/-- The content of an object stands between two blanks. -/
theorem content?_braced
    {inside : Text}
    (closed : IsClosed inside)
    (after : Text) :
    Scope.content? (braced inside ++ after) = some ([' '] ++ (inside ++ [' '])) := by
  have blankClosed : IsClosed [' '] := .of_ordinary (by decide)
  have contentClosed : IsClosed ([' '] ++ (inside ++ [' '])) :=
    blankClosed.append (closed.append blankClosed)
  have isSplit : braced inside ++ after = '{' :: ([' '] ++ (inside ++ [' ']) ++ '}' :: after) := by
    simp [braced]
  rw [isSplit]
  exact Scope.content?_of_balanced (by decide) contentClosed.balanced (by decide) after

private theorem Variant.isComma_eq_false_of_isBlank
    (character : Char)
    (isBlank : Text.isBlank character = true) :
    Variant.isComma character = false := by
  refine Bool.eq_false_iff.mpr fun isComma => ?_
  rw [Variant.isComma, beq_iff_eq] at isComma
  rw [isComma] at isBlank
  exact absurd isBlank (by decide)

/-- The segments of an object's content are the entries written in it. -/
theorem topLevelSegments_content
    {entries : List Text}
    (areEntries : ∀ entry ∈ entries, IsEntry Variant.isComma entry) :
    topLevelSegments Variant.isComma
        ([' '] ++ (Text.joinWith ", ".toList entries ++ [' '])) =
      entries :=
  topLevelSegments_entries rfl Variant.isComma_eq_false_of_isBlank areEntries
    (List.forall_mem_singleton.mpr Text.isBlank_space)
    (List.forall_mem_singleton.mpr Text.isBlank_space)

/-- Entries with commas between them are closed. -/
theorem isClosed_joinWith
    {entries : List Text}
    (areEntries : ∀ entry ∈ entries, IsEntry Variant.isComma entry) :
    IsClosed (Text.joinWith ", ".toList entries) :=
  .joinWith (.of_ordinary (by decide)) fun entry member => (areEntries entry member).closed

/-! ## Options and axes -/

namespace WrittenOption

/-- An option is an entry by itself. -/
theorem isEntry (written : WrittenOption) : IsEntry Variant.isComma written.source :=
  written.key.isEntry_entry (written.value.isEntry Variant.isComma)

/-- An option is read as the one that is meant. -/
theorem option?_source (written : WrittenOption) :
    Variant.option? written.source = some written.option := by
  simp only [Variant.option?, source,
    WrittenKey.keyAndValue?_entry (written.value.isEntry Variant.isComma),
    Option.bind_eq_bind, Option.bind_some]
  rfl

private theorem any_option
    (options : List WrittenOption)
    (value : Text) :
    (options.map option).any (·.value == value) = true ↔ value ∈ options.map (·.key.text) := by
  simp [List.any_map, option]

/-- Options are read as those that are meant. -/
theorem filterMap_option? (options : List WrittenOption) :
    (options.map source).filterMap Variant.option? = options.map option := by
  have areRead : Variant.option? ∘ source = some ∘ option := funext option?_source
  rw [List.filterMap_map, areRead, List.filterMap_eq_map]

end WrittenOption

namespace WrittenAxis

private theorem areEntries (options : List WrittenOption) :
    ∀ entry ∈ options.map WrittenOption.source, IsEntry Variant.isComma entry :=
  List.forall_mem_map.mpr fun written _ => written.isEntry

/-- An axis is an entry by itself. -/
theorem isEntry (written : WrittenAxis) : IsEntry Variant.isComma written.source :=
  written.key.isEntry_entry
    (isEntry_braced (isClosed_joinWith (areEntries written.options)) Variant.isComma)

/-- An axis is read as the one that is meant. -/
theorem axis?_source (written : WrittenAxis) :
    Variant.axis? written.source = some written.variant := by
  have areEntries := areEntries written.options
  have closed := isClosed_joinWith areEntries
  have isRead := written.key.keyAndValue?_entry (isEntry_braced closed Variant.isComma)
  have content := content?_braced closed []
  rw [List.append_nil] at content
  have bracedContent : Scope.bracedContent?
      (braced (Text.joinWith ", ".toList (written.options.map WrittenOption.source))) =
        some ([' '] ++ (Text.joinWith ", ".toList
          (written.options.map WrittenOption.source) ++ [' '])) :=
    content
  simp only [Variant.axis?, source, isRead, Option.bind_eq_bind, Option.bind_some, bracedContent,
    topLevelSegments_content areEntries, WrittenOption.filterMap_option?,
    WrittenOption.any_option]
  rfl

/-- Axes are read as those that are meant. -/
theorem filterMap_axis? (axes : List WrittenAxis) :
    (axes.map source).filterMap Variant.axis? = axes.map variant := by
  have areRead : Variant.axis? ∘ source = some ∘ variant := funext axis?_source
  rw [List.filterMap_map, areRead, List.filterMap_eq_map]

private theorem isClosed_axes (axes : List WrittenAxis) :
    IsClosed (Text.joinWith ", ".toList (axes.map source)) :=
  isClosed_joinWith (List.forall_mem_map.mpr fun written _ => written.isEntry)

/-- The configuration of a call is closed. -/
theorem isClosed_configuration (axes : List WrittenAxis) :
    IsClosed (configuration axes) := by
  have keyClosed : IsClosed "variants: ".toList := .of_ordinary (by decide)
  exact keyClosed.append (isEntry_braced (isClosed_axes axes) Variant.isComma).closed

/-- The axes that a configuration lists are those that are written in it. -/
theorem axesOf_configuration (axes : List WrittenAxis) :
    Variant.axesOf ([' '] ++ (configuration axes ++ [' '])) = axes.map variant := by
  have areEntries : ∀ entry ∈ axes.map source, IsEntry Variant.isComma entry :=
    List.forall_mem_map.mpr fun written _ => written.isEntry
  have content := content?_braced (isClosed_axes axes) [' ']
  have isFound : Variant.variantsKey.first? ([' '] ++ (configuration axes ++ [' '])) =
      some (braced (Text.joinWith ", ".toList (axes.map source)) ++ [' ']) :=
    rfl
  rw [Variant.axesOf, isFound, Option.bind_some, content]
  exact (congrArg _ (topLevelSegments_content areEntries)).trans (filterMap_axis? axes)

end WrittenAxis

/-! ## Calls -/

namespace BuilderCall

private theorem misses_of_first
    {text : Text}
    (lacksFirst : 'c' ∉ text) :
    pattern.Misses text :=
  isKeywordPattern.begins.misses_of_head lacksFirst

/-- No call starts in a literal. -/
theorem misses_literal (literal : WrittenLiteral) : pattern.Misses literal.source := by
  have noneQuotes : ∀ letter ∈ builder, isQuote letter = false := by
    decide
  have notInBuilder : literal.quote ∉ builder := by
    intro member
    have noQuote := noneQuotes _ member
    rw [literal.isQuoting] at noQuote
    contradiction
  have quoteMissed : pattern.Misses [literal.quote] := by
    refine misses_of_first fun member => notInBuilder ?_
    exact List.mem_singleton.mp member ▸ List.mem_cons_self
  intro rest
  refine (quoteMissed _).append ?_
  exact (isKeywordPattern.begins.absent_of_not_infix literal.noBuilder notInBuilder rest).append
    (quoteMissed rest)

/-- No call starts in the key of an entry, also if the key is the builder's name. -/
theorem misses_key (key : WrittenKey) : pattern.Misses (key.source ++ [':', ' ']) := by
  cases key with
  | identifier name isIdentifier =>
      intro rest
      have noCall : pattern.Absent name (':' :: ' ' :: rest) :=
        isKeywordPattern.absent_name isIdentifier (by decide) (.inl (by decide)) (' ' :: rest)
      exact Text.Pattern.Absent.append noCall (misses_of_first (by decide) rest)
  | number digits notEmpty areDigits =>
      refine (misses_of_first fun member => ?_).append (misses_of_first (by decide))
      exact absurd (areDigits _ member) (by decide)
  | quoted literal _ =>
      exact (misses_literal literal).append (misses_of_first (by decide))

private theorem misses_entry
    {value : Text}
    (missesValue : pattern.Misses value)
    (key : WrittenKey) :
    pattern.Misses (key.entry value) := by
  have isSplit : key.entry value = key.source ++ [':', ' '] ++ value := by
    simp [WrittenKey.entry]
  rw [isSplit]
  exact (misses_key key).append missesValue

private theorem misses_braced
    {inside : Text}
    (missesInside : pattern.Misses inside) :
    pattern.Misses (braced inside) := by
  have isSplit : braced inside = ['{', ' '] ++ (inside ++ [' ', '}']) := by
    simp [braced]
  rw [isSplit]
  exact (misses_of_first (by decide)).append (missesInside.append (misses_of_first (by decide)))

/-- No call starts in a list of entries. -/
theorem misses_entries
    {α : Type}
    {source : α → Text}
    (missesSource : ∀ written, pattern.Misses (source written))
    (all : List α) :
    pattern.Misses (Text.joinWith ", ".toList (all.map source)) :=
  .joinWith (misses_of_first (by decide))
    (List.forall_mem_map.mpr fun written _ => missesSource written)

/-- No call starts in the configuration of a call. -/
theorem misses_configuration (axes : List WrittenAxis) :
    pattern.Misses (braced (WrittenAxis.configuration axes)) := by
  refine misses_braced ((misses_of_first (by decide)).append (misses_braced ?_))
  refine misses_entries (fun axis => misses_entry (misses_braced ?_) axis.key) axes
  exact misses_entries (fun option => misses_entry (misses_literal option.value) option.key)
    axis.options

/-- No call starts in the arguments of a call. -/
theorem misses_arguments
    (base : WrittenLiteral)
    (axes : List WrittenAxis) :
    pattern.Misses (WrittenAxis.arguments base axes) := by
  have commaMissed : pattern.Misses [',', ' '] := misses_of_first (by decide)
  have endMissed : pattern.Misses [')'] := misses_of_first (by decide)
  exact (misses_literal base).append
    (commaMissed.append ((misses_configuration axes).append endMissed))

/-- The one call that is written stands at the start of the text. -/
theorem allOf_call
    (base : WrittenLiteral)
    (axes : List WrittenAxis) :
    allOf (WrittenAxis.call base axes) = [3] := by
  have absent := misses_arguments base axes []
  have isMatch : pattern none ('c' :: ("va(".toList ++ WrittenAxis.arguments base axes)) =
      some ((), WrittenAxis.arguments base axes) :=
    rfl
  exact congrArg (List.map _) (absent.occurrences_eq_singleton isMatch)

/-- The comma behind the first argument is found. -/
theorem findTopLevel?_call
    (base : WrittenLiteral)
    (axes : List WrittenAxis) :
    findTopLevel? (WrittenAxis.call base axes) (3 + 1) ',' =
      some (Text.byteLength ("cva(".toList ++ base.source)) := by
  have baseClosed := (base.isEntry Variant.isComma).closed
  have passes : Reading.Along
      (fun reading character =>
        (reading.role character = .closer → 0 < reading.depth) ∧
          ¬ (reading.role character = .plain ∧ reading.depth = 0 ∧ character = ','))
      {} base.source := by
    refine base.along_source.imp fun reading character isLiteral => ?_
    rw [isLiteral]
    exact ⟨nofun, nofun⟩
  have atComma : breakTopLevelFrom? ',' {}
      ([',', ' '] ++ (braced (WrittenAxis.configuration axes) ++ [')'])) =
        some ([], ' ' :: (braced (WrittenAxis.configuration axes) ++ [')'])) :=
    rfl
  have isCut := Text.cutAt_byteLength "cva(".toList (WrittenAxis.arguments base axes)
  have isBehind : Reading.behind "cva(".toList = {} := by
    decide
  have isOffset : Text.byteLength "cva(".toList = 3 + 1 := by
    decide
  rw [isOffset] at isCut
  simp only [findTopLevel?, WrittenAxis.call, isCut, isBehind]
  rw [WrittenAxis.arguments, breakTopLevelFrom?_append passes, baseClosed.after, atComma]
  simp only [Option.map_some, List.append_nil, Text.byteLength_append]

/-- The configuration of a call is found at its parenthesis. -/
theorem configuration?_call
    (base : WrittenLiteral)
    (axes : List WrittenAxis) :
    configuration? (WrittenAxis.call base axes) 3 =
      .ok (some ([' '] ++ (WrittenAxis.configuration axes ++ [' ']))) := by
  have isSplit : WrittenAxis.call base axes = ("cva(".toList ++ base.source ++ [',']) ++
      ' ' :: (braced (WrittenAxis.configuration axes) ++ [')']) := by
    simp [WrittenAxis.call, WrittenAxis.arguments]
  have isCut := Text.cutAt_byteLength ("cva(".toList ++ base.source ++ [','])
    (' ' :: (braced (WrittenAxis.configuration axes) ++ [')']))
  have isOffset : Text.byteLength ("cva(".toList ++ base.source ++ [',']) =
      Text.byteLength ("cva(".toList ++ base.source) + 1 :=
    Text.byteLength_append _ _
  rw [← isSplit, isOffset] at isCut
  have content := content?_braced (WrittenAxis.isClosed_configuration axes) [')']
  have trimmed : Text.trimStart (' ' :: (braced (WrittenAxis.configuration axes) ++ [')'])) =
      braced (WrittenAxis.configuration axes) ++ [')'] :=
    rfl
  rw [configuration?, findTopLevel?_call]
  simp only [isCut, trimmed]
  rw [content]
  rfl

end BuilderCall

/-- Axes whose names are all different are all added. -/
theorem Variant.addNew_of_nodup
    {axes more : List Variant}
    (distinct : ((axes ++ more).map Variant.name).Nodup) :
    addNew axes more = axes ++ more := by
  induction more generalizing axes with
  | nil =>
      rw [addNew, List.append_nil]
  | cons axis later inductionHypothesis =>
      have isNew : ¬ (axes.any fun known => known.name == axis.name) = true := by
        simp only [List.any_eq_true, beq_iff_eq, not_exists, not_and]
        intro known member isSame
        rw [List.map_append, List.nodup_append] at distinct
        exact distinct.2.2 _ (List.mem_map_of_mem member) _
          (List.mem_map_of_mem List.mem_cons_self) isSame
      rw [List.append_cons] at distinct ⊢
      rw [addNew, if_neg isNew, inductionHypothesis distinct]

/-- No comment starts in a call. -/
theorem WrittenAxis.startsNoComment_call
    (base : WrittenLiteral)
    (axes : List WrittenAxis) :
    StartsNoComment (call base axes) := by
  have builderClosed : IsClosed BuilderCall.builder := .of_ordinary (by decide)
  have commaClosed : IsClosed [',', ' '] := .of_ordinary (by decide)
  have baseClosed := (base.isEntry Variant.isComma).closed
  have objectClosed := (isEntry_braced (isClosed_configuration axes) Variant.isComma).closed
  have argumentsClosed : IsClosed
      ('(' :: (base.source ++ ([',', ' '] ++ braced (configuration axes)) ++ [')'])) :=
    .scope (by decide) (baseClosed.append (commaClosed.append objectClosed)) (by decide)
  have isSplit : call base axes = BuilderCall.builder ++
      ('(' :: (base.source ++ ([',', ' '] ++ braced (configuration axes)) ++ [')'])) := by
    simp [call, arguments, BuilderCall.builder]
  rw [isSplit]
  exact (builderClosed.append argumentsClosed).startsNoComment

/--
Reading the call that configures axes with different names gives back exactly these axes with their
options, in order, whatever the literals hold.
-/
theorem Extraction.variantsOfSource_call
    (base : WrittenLiteral)
    (axes : List WrittenAxis)
    (distinct : (axes.map (·.key.text)).Nodup) :
    variantsOfSource (WrittenAxis.call base axes) = .ok (axes.map WrittenAxis.variant) := by
  have namesDistinct : (([] ++ axes.map WrittenAxis.variant).map Variant.name).Nodup := by
    rw [List.nil_append, List.map_map]
    exact distinct
  rw [variantsOfSource, Comment.strip_eq_self (WrittenAxis.startsNoComment_call base axes),
    Variant.allOf, BuilderCall.allOf_call, Variant.ofCallsFrom,
    BuilderCall.configuration?_call]
  simp only [Variant.ofCallsFrom, WrittenAxis.axesOf_configuration]
  rw [Variant.addNew_of_nodup namesDistinct, List.nil_append]

/-- A literal that holds delimiters, a separator and the starts of comments. -/
def WrittenLiteral.punctuation : WrittenLiteral where
  quote := '\''
  content := ", \x7b(] // /*".toList
  isQuoting := rfl
  noQuotes := by decide
  noBackslash := by decide
  noBuilder := by decide

/-- Two axes whose names and keys are of every kind. -/
def WrittenAxis.sizes : List WrittenAxis :=
  [⟨.identifier "size".toList (by decide),
      [⟨.identifier "default".toList (by decide), .punctuation⟩,
        ⟨.number "2".toList (by decide) (by decide), .punctuation⟩]⟩,
    ⟨.quoted .punctuation (by decide), []⟩]

/-- A call whose literals hold delimiters and marks of comments. -/
theorem Extraction.variantsOfSource_call_sizes :
    WrittenAxis.call .punctuation WrittenAxis.sizes =
        ("cva(', \x7b(] // /*', \x7b variants: \x7b size: \x7b default: ', \x7b(] // /*', " ++
          "2: ', \x7b(] // /*' \x7d, ', \x7b(] // /*': \x7b  \x7d \x7d \x7d)").toList ∧
      (WrittenAxis.sizes.map (·.key.text)).Nodup ∧
        variantsOfSource (WrittenAxis.call .punctuation WrittenAxis.sizes) =
          .ok
            [⟨"size".toList,
                [⟨"default".toList, "Default styling".toList⟩,
                  ⟨"2".toList, "`2` variant".toList⟩],
                some "default".toList⟩,
              ⟨", \x7b(] // /*".toList, [], none⟩] := by
  have distinct : (WrittenAxis.sizes.map (·.key.text)).Nodup := by
    decide
  exact ⟨by decide, distinct,
    variantsOfSource_call .punctuation WrittenAxis.sizes distinct⟩

end ComponentPages
