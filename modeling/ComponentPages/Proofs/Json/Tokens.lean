import ComponentPages.Json.Printer
import ComponentPages.Json.Token
import ComponentPages.Proofs.Text.Digits
import ComponentPages.Proofs.Text.Utf8
import Mathlib.Data.List.TakeWhile

namespace ComponentPages

/-!
# Tokens of a printed document

The tokens of a value are told by the value alone, and they are what its printed text is read as,
whatever follows. A number is the only token that what follows could make longer.
-/

namespace JsonToken

/-! ## Signs -/

/-- The bytes of a text are read as its characters, without gaps. -/
theorem signsOf_encode (text : Text) : signsOf (Utf8.encode text) = text.map some := by
  induction text with
  | nil =>
      rw [Utf8.encode, List.flatMap_nil, signsOf]
      rfl
  | cons character rest inductionHypothesis =>
      obtain ⟨first, later, shape, decoded⟩ := Utf8.exists_encode_cons character rest
      rw [shape, signsOf]
      split
      · rename_i notDecoded
        simp [decoded] at notDecoded
      · rename_i character' rest' decoded'
        obtain ⟨rfl, rfl⟩ := Prod.mk.inj (Option.some.inj (decoded.symm.trans decoded'))
        rw [inductionHypothesis, List.map_cons]

/-! ## One token -/

/-- Signs that belong to the token before are passed over. -/
private theorem ofSignsFrom?_append
    (passed rest : List Sign) :
    ofSignsFrom? passed.length (passed ++ rest) = ofSignsFrom? 0 rest := by
  induction passed with
  | nil =>
      rfl
  | cons sign later inductionHypothesis =>
      simpa [ofSignsFrom?] using inductionHypothesis

/-- A token in front is read before the tokens that follow it. -/
theorem ofSignsFrom?_token
    {sign : Sign}
    {later rest : List Sign}
    {token : JsonToken}
    (notSpace : isSpace sign = false)
    (found : first? (sign :: (later ++ rest)) = some (token, later.length + 1)) :
    ofSignsFrom? 0 (sign :: (later ++ rest)) = (ofSignsFrom? 0 rest).map (token :: ·) := by
  rw [ofSignsFrom?, notSpace]
  simp only [Bool.false_eq_true, ↓reduceIte, found, Option.bind_eq_bind, Option.bind_some,
    Nat.add_sub_cancel, ofSignsFrom?_append]
  cases ofSignsFrom? 0 rest <;> rfl

/-- The start of a line is passed over. -/
private theorem ofSignsFrom?_lineAt
    (level : Nat)
    (rest : List Sign) :
    ofSignsFrom? 0 ((JsonValue.lineAt level).map some ++ rest) = ofSignsFrom? 0 rest := by
  have blanks : ∀ number,
      ofSignsFrom? 0 ((List.replicate number ' ').map some ++ rest) = ofSignsFrom? 0 rest := by
    intro number
    induction number with
    | zero =>
        rfl
    | succ number inductionHypothesis =>
        rw [List.replicate_succ, List.map_cons, List.cons_append, ofSignsFrom?]
        exact inductionHypothesis
  rw [JsonValue.lineAt, List.map_cons, List.cons_append, ofSignsFrom?]
  exact blanks _

/-! ## Strings -/

/-- The code of an escape of a control character. -/
private theorem code?_hexadecimalDigit
    {code : Nat}
    (small : code < 0x20) :
    code? (some '0') (some '0') (some (JsonValue.hexadecimalDigit (code / 16)))
      (some (JsonValue.hexadecimalDigit (code % 16))) = some code := by
  have all : ∀ code : Fin 0x20,
      code? (some '0') (some '0') (some (JsonValue.hexadecimalDigit (code.val / 16)))
        (some (JsonValue.hexadecimalDigit (code.val % 16))) = some code.val := by
    decide
  exact all ⟨code, small⟩

/-- An escape of one letter is read as one piece. -/
private theorem stringPieces?_letter
    {letter character : Char}
    (isEscape : escaped? letter = some character)
    (rest : List Sign) :
    stringPieces? (some '\\' :: some letter :: rest) =
      (stringPieces? rest).map fun (pieces, taken) =>
        (.character character :: pieces, taken + 2) := by
  have notCode : letter ≠ 'u' := by
    rintro rfl
    simp [escaped?] at isEscape
  rw [stringPieces?]
  · simp only [isEscape, Option.bind_eq_bind, Option.bind_some]
    cases stringPieces? rest <;> rfl
  · intro first second third fourth later _ isCode
    exact notCode isCode

/-- An escape by a code is read as one piece. -/
private theorem stringPieces?_code
    {first second third fourth : Sign}
    {character : Char}
    (isCode : code? first second third fourth = some character.toNat)
    (rest : List Sign) :
    stringPieces? (some '\\' :: some 'u' :: first :: second :: third :: fourth :: rest) =
      (stringPieces? rest).map fun (pieces, taken) =>
        (.character character :: pieces, taken + 6) := by
  have piece : pieceOfCode character.toNat = .character character := by
    have isValid : character.toNat.isValidChar := character.valid
    rw [pieceOfCode, if_pos isValid, Char.ofNat_toNat]
  rw [stringPieces?]
  simp only [isCode, piece, Option.bind_eq_bind, Option.bind_some]
  cases stringPieces? rest <;> rfl

/-- An escaped character is read as one piece. -/
private theorem stringPieces?_escape
    (character : Char)
    (rest : List Sign) :
    stringPieces? ((JsonValue.escape character).map some ++ rest) =
      (stringPieces? rest).map fun (pieces, taken) =>
        (.character character :: pieces, taken + (JsonValue.escape character).length) := by
  unfold JsonValue.escape
  split
  · exact stringPieces?_letter rfl rest
  · exact stringPieces?_letter rfl rest
  · exact stringPieces?_letter rfl rest
  · exact stringPieces?_letter rfl rest
  · exact stringPieces?_letter rfl rest
  · exact stringPieces?_letter rfl rest
  · exact stringPieces?_letter rfl rest
  · rename_i notQuote notBackslash _ _ _ _ _
    split
    · rename_i isControl
      exact stringPieces?_code (code?_hexadecimalDigit isControl) rest
    · rename_i notControl
      simp only [List.map_cons, List.map_nil, List.cons_append, List.nil_append]
      rw [stringPieces?]
      · have isPlain : ¬ (character < ' ' || character = '\\') = true := by
          simpa [notControl] using notBackslash
        rw [if_neg isPlain]
        rfl
      all_goals simp_all

/-- The characters of a string, and the quote behind it, are read as pieces. -/
private theorem stringPieces?_quote
    (content : Text)
    (rest : List Sign) :
    stringPieces? ((content.flatMap JsonValue.escape).map some ++ some '"' :: rest) =
      some (content.map .character, (content.flatMap JsonValue.escape).length + 1) := by
  induction content with
  | nil =>
      rfl
  | cons character later inductionHypothesis =>
      rw [List.flatMap_cons, List.map_append, List.append_assoc, stringPieces?_escape,
        inductionHypothesis]
      simp only [Option.map_some, List.map_cons, List.length_append, Option.some.injEq,
        Prod.mk.injEq, true_and]
      omega

private theorem textOf?_characters (content : Text) :
    textOf? (content.map .character) = some content := by
  induction content with
  | nil =>
      rfl
  | cons character later inductionHypothesis =>
      simp [textOf?, inductionHypothesis]

/-- A quoted text is read as that text. -/
theorem ofSignsFrom?_quote
    (content : Text)
    (rest : List Sign) :
    ofSignsFrom? 0 ((JsonValue.quote content).map some ++ rest) =
      (ofSignsFrom? 0 rest).map (.text (some content) :: ·) := by
  have shape :
      (JsonValue.quote content).map some ++ rest =
        some '"' :: (((content.flatMap JsonValue.escape).map some ++ [some '"']) ++ rest) := by
    simp [JsonValue.quote]
  rw [shape]
  apply ofSignsFrom?_token
  · decide
  · rw [List.append_assoc, List.singleton_append]
    change (stringPieces? _).map
      (fun (pieces, taken) => (JsonToken.text (textOf? pieces), taken + 1)) = _
    rw [stringPieces?_quote]
    simp [textOf?_characters]

/-! ## Numbers and words -/

/-- Whether no number goes on in signs. -/
def EndsNumber (signs : List Sign) : Prop :=
  ∀ sign ∈ signs.head?, belongsToNumber sign = false

/-- A number ends where the text ends. -/
theorem endsNumber_nil : EndsNumber [] := by
  simp [EndsNumber]

private theorem endsNumber_cons
    {sign : Sign}
    (belongsNot : belongsToNumber sign = false)
    (later : List Sign) :
    EndsNumber (sign :: later) := by
  simpa [EndsNumber] using belongsNot

/-- A character that starts another token belongs to no number. -/
private theorem ne_of_belongsToNumber
    {character mark : Char}
    (belongs : belongsToNumber (some character) = true)
    (marks : belongsToNumber (some mark) = false) :
    character ≠ mark := by
  rintro rfl
  rw [belongs] at marks
  simp at marks

/-- The characters of a number are taken up to the end of the number. -/
private theorem takeWhile_belongsToNumber
    {written : Text}
    (belongs : ∀ character ∈ written, belongsToNumber (some character) = true)
    {rest : List Sign}
    (ends : EndsNumber rest) :
    ((written.map some ++ rest).takeWhile belongsToNumber).filterMap id = written := by
  have all : ∀ sign ∈ written.map some, belongsToNumber sign = true := by
    intro sign member
    obtain ⟨character, isMember, rfl⟩ := List.mem_map.mp member
    exact belongs character isMember
  have stops : rest.takeWhile belongsToNumber = [] := by
    cases rest with
    | nil =>
        rfl
    | cons sign later =>
        rw [List.takeWhile_cons_of_neg (by simpa [EndsNumber] using ends)]
  rw [List.takeWhile_append_of_pos all, stops, List.append_nil, List.filterMap_map]
  simp

/-- A number is read as it is written. -/
theorem ofSignsFrom?_number
    {written : Text}
    (isNumeral : isNumber written = true)
    (belongs : ∀ character ∈ written, belongsToNumber (some character) = true)
    {rest : List Sign}
    (ends : EndsNumber rest) :
    ofSignsFrom? 0 (written.map some ++ rest) =
      (ofSignsFrom? 0 rest).map (.number written :: ·) := by
  have taken := takeWhile_belongsToNumber belongs ends
  cases written with
  | nil =>
      simp [isNumber, Text.after?, afterWhole?] at isNumeral
  | cons first later =>
      have firstBelongs := belongs first (by simp)
      have notSpace : isSpace (some first) = false := by
        have notBlank : first ≠ ' ' := ne_of_belongsToNumber firstBelongs (by decide)
        have notTab : first ≠ '\t' := ne_of_belongsToNumber firstBelongs (by decide)
        have notBreak : first ≠ '\n' := ne_of_belongsToNumber firstBelongs (by decide)
        have notReturn : first ≠ '\r' := ne_of_belongsToNumber firstBelongs (by decide)
        simp [isSpace, notBlank, notTab, notBreak, notReturn]
      rw [List.map_cons, List.cons_append] at taken ⊢
      apply ofSignsFrom?_token notSpace
      -- The first character starts no other kind of token.
      rw [first?]
      · simp only [taken, isNumeral, ↓reduceIte, List.length_cons, List.length_map]
      · exact ne_of_belongsToNumber firstBelongs (by decide)
      · exact ne_of_belongsToNumber firstBelongs (by decide)
      · exact ne_of_belongsToNumber firstBelongs (by decide)
      · exact ne_of_belongsToNumber firstBelongs (by decide)
      · exact ne_of_belongsToNumber firstBelongs (by decide)
      · exact ne_of_belongsToNumber firstBelongs (by decide)
      · exact ne_of_belongsToNumber firstBelongs (by decide)

private theorem ofSignsFrom?_null (rest : List Sign) :
    ofSignsFrom? 0 ("null".toList.map some ++ rest) = (ofSignsFrom? 0 rest).map (.null :: ·) := by
  change ofSignsFrom? 0 (some 'n' :: ("ull".toList.map some ++ rest)) = _
  exact ofSignsFrom?_token rfl rfl

private theorem ofSignsFrom?_true (rest : List Sign) :
    ofSignsFrom? 0 ("true".toList.map some ++ rest) =
      (ofSignsFrom? 0 rest).map (.boolean true :: ·) := by
  change ofSignsFrom? 0 (some 't' :: ("rue".toList.map some ++ rest)) = _
  exact ofSignsFrom?_token rfl rfl

private theorem ofSignsFrom?_false (rest : List Sign) :
    ofSignsFrom? 0 ("false".toList.map some ++ rest) =
      (ofSignsFrom? 0 rest).map (.boolean false :: ·) := by
  change ofSignsFrom? 0 (some 'f' :: ("alse".toList.map some ++ rest)) = _
  exact ofSignsFrom?_token rfl rfl

/-- The mark that a token is written with, if it is always the same character. -/
def mark? : JsonToken → Option Char
  | .openObject => some '\x7b'
  | .closeObject => some '\x7d'
  | .openList => some '['
  | .closeList => some ']'
  | .colon => some ':'
  | .comma => some ','
  | _ => none

/-- A mark is read as its token. -/
theorem ofSignsFrom?_mark
    {token : JsonToken}
    {mark : Char}
    (isMark : token.mark? = some mark)
    (rest : List Sign) :
    ofSignsFrom? 0 (some mark :: rest) = (ofSignsFrom? 0 rest).map (token :: ·) := by
  change ofSignsFrom? 0 (some mark :: ([] ++ rest)) = _
  cases token <;> simp only [mark?, Option.some.injEq, reduceCtorEq] at isMark <;>
    subst isMark <;> exact ofSignsFrom?_token rfl rfl

/-- Digits of which the first is no zero are a number. -/
theorem isNumber_of_digits
    {first : Char}
    {later : Text}
    (isDigit : first.isDigit = true)
    (notZero : first ≠ '0')
    (laterDigits : ∀ digit ∈ later, digit.isDigit = true) :
    isNumber (first :: later) = true := by
  have notSigned : first ≠ '-' := by
    rintro rfl
    simp at isDigit
  have whole : afterWhole? (first :: later) = some [] := by
    rw [afterWhole?]
    · rw [if_pos isDigit, List.dropWhile_eq_nil_iff.mpr laterDigits]
    · exact notZero
  simp [isNumber, Text.after?, notSigned, whole, afterFraction?, afterExponent?]

/-- The digits of a natural number are a number. -/
theorem isNumber_ofNat (number : Nat) : isNumber (Text.ofNat number) = true := by
  rcases Nat.eq_zero_or_pos number with rfl | positive
  · rw [Text.ofNat_zero]
    rfl
  · obtain ⟨first, later, shape⟩ := List.exists_cons_of_ne_nil (Text.ofNat_ne_nil number)
    have digits : ∀ digit ∈ first :: later, digit.isDigit = true := by
      intro digit member
      rw [← shape] at member
      exact Text.isDigit_of_mem_ofNat member
    have notZero := Text.head?_ofNat_ne_zero positive
    rw [shape] at notZero ⊢
    exact isNumber_of_digits (digits first (by simp)) (by simpa using notZero)
      fun digit member => digits digit (List.mem_cons_of_mem first member)

/-- The digits of a natural number belong to numbers. -/
theorem belongsToNumber_of_mem_ofNat
    {number : Nat}
    {digit : Char}
    (member : digit ∈ Text.ofNat number) :
    belongsToNumber (some digit) = true := by
  rw [belongsToNumber, Text.isDigit_of_mem_ofNat member, Bool.true_or]

end JsonToken

/-! ## Values -/

namespace JsonValue

open JsonToken

mutual

/-- Whether a value is written as a document shows it: its numbers are numbers, and its strings
and names are texts. -/
def IsWritten : JsonValue → Prop
  | .null => True
  | .boolean _ => True
  | .number written =>
      isNumber written = true ∧
        ∀ character ∈ written, belongsToNumber (some character) = true
  | .text content => content.isSome
  | .list items => AllWritten items
  | .object fields => FieldsWritten fields

/-- Whether all items are values that are written as they are read. -/
def AllWritten : List JsonValue → Prop
  | [] => True
  | item :: later => item.IsWritten ∧ AllWritten later

/-- Whether all fields have names and values that are written as they are read. -/
def FieldsWritten : List (Option Text × JsonValue) → Prop
  | [] => True
  | (name, value) :: later => name.isSome ∧ value.IsWritten ∧ FieldsWritten later

end

mutual

/-- The tokens of a value. -/
def tokens : JsonValue → List JsonToken
  | .null => [.null]
  | .boolean flag => [.boolean flag]
  | .number written => [.number written]
  | .text content => [.text content]
  | .list [] => [.openList, .closeList]
  | .list (item :: later) => .openList :: tokens item ++ laterItemTokens later ++ [.closeList]
  | .object [] => [.openObject, .closeObject]
  | .object ((name, value) :: later) =>
      .openObject :: .text name :: .colon :: tokens value ++ laterFieldTokens later ++
        [.closeObject]

/-- The tokens of items behind the first one, each with its comma. -/
def laterItemTokens : List JsonValue → List JsonToken
  | [] => []
  | item :: later => .comma :: tokens item ++ laterItemTokens later

/-- The tokens of fields behind the first one, each with its comma. -/
def laterFieldTokens : List (Option Text × JsonValue) → List JsonToken
  | [] => []
  | (name, value) :: later =>
      .comma :: .text name :: .colon :: tokens value ++ laterFieldTokens later

end

/-- Whether a text is read as tokens in front of what goes on with no number. -/
def Reads (text : Text) (tokens : List JsonToken) : Prop :=
  ∀ rest, EndsNumber rest →
    ofSignsFrom? 0 (text.map some ++ rest) = (ofSignsFrom? 0 rest).map (tokens ++ ·)

/-- Whether a text goes on with no number if what follows it does not. -/
def Closes (text : Text) : Prop :=
  ∀ rest, EndsNumber rest → EndsNumber (text.map some ++ rest)

private theorem closes_nil : Closes [] :=
  fun _ ends => ends

/-- A text that starts outside numbers closes them. -/
theorem closes_cons
    {character : Char}
    (belongsNot : belongsToNumber (some character) = false)
    (text : Text) :
    Closes (character :: text) :=
  fun _ _ => endsNumber_cons belongsNot _

/-- Texts one after another are read as their tokens one after another. -/
theorem Reads.append
    {text other : Text}
    {tokens others : List JsonToken}
    (reads : Reads text tokens)
    (readsOther : Reads other others)
    (closes : Closes other) :
    Reads (text ++ other) (tokens ++ others) := by
  intro rest ends
  rw [List.map_append, List.append_assoc, reads _ (closes rest ends), readsOther rest ends,
    Option.map_map]
  simp only [Function.comp_def, List.append_assoc]

private theorem reads_nil : Reads [] [] := by
  intro rest _
  simp

/-- A mark in front is read as its token. -/
theorem Reads.mark
    {token : JsonToken}
    {mark : Char}
    {text : Text}
    {tokens : List JsonToken}
    (isMark : token.mark? = some mark)
    (reads : Reads text tokens) :
    Reads (mark :: text) (token :: tokens) := by
  intro rest ends
  rw [List.map_cons, List.cons_append, ofSignsFrom?_mark isMark, reads rest ends,
    Option.map_map]
  rfl

/-- The start of a line in front is passed over. -/
theorem Reads.line
    {text : Text}
    {tokens : List JsonToken}
    (level : Nat)
    (reads : Reads text tokens) :
    Reads (lineAt level ++ text) tokens := by
  intro rest ends
  rw [List.map_append, List.append_assoc, ofSignsFrom?_lineAt, reads rest ends]

/-- A quoted text in front is read as a string. -/
theorem Reads.quoted
    {text : Text}
    {tokens : List JsonToken}
    (content : Text)
    (reads : Reads text tokens) :
    Reads (quote content ++ text) (.text (some content) :: tokens) := by
  intro rest ends
  rw [List.map_append, List.append_assoc, ofSignsFrom?_quote, reads rest ends, Option.map_map]
  rfl

/-- The colon behind a name, and the blank behind the colon, are read as one token. -/
theorem Reads.colon
    {text : Text}
    {tokens : List JsonToken}
    (reads : Reads text tokens) :
    Reads (": ".toList ++ text) (.colon :: tokens) := by
  have blank : Reads (' ' :: text) tokens := by
    intro rest ends
    rw [List.map_cons, List.cons_append, ofSignsFrom?]
    exact reads rest ends
  exact blank.mark rfl

private theorem closes_lineAt
    (level : Nat)
    (text : Text) :
    Closes (lineAt level ++ text) :=
  closes_cons (by decide) _

/-- What is printed behind an item closes a number. -/
theorem closes_printItems
    (level : Nat)
    (items : List JsonValue)
    {text : Text}
    (closes : Closes text) :
    Closes (printItems level items ++ text) := by
  cases items with
  | nil =>
      exact closes
  | cons item later =>
      exact closes_cons (by decide) _

private theorem closes_printFields
    (level : Nat)
    (fields : List (Option Text × JsonValue))
    {text : Text}
    (closes : Closes text) :
    Closes (printFields level fields ++ text) := by
  cases fields with
  | nil =>
      exact closes
  | cons field later =>
      exact closes_cons (by decide) _

mutual

/-- A printed value is read as its tokens. -/
theorem reads_print
    (level : Nat) :
    ∀ {value : JsonValue}, value.IsWritten → Reads (value.print level) value.tokens
  | .null, _ => fun rest _ => by
      rw [print, ofSignsFrom?_null]
      rfl
  | .boolean true, _ => fun rest _ => by
      rw [print, ofSignsFrom?_true]
      rfl
  | .boolean false, _ => fun rest _ => by
      rw [print, ofSignsFrom?_false]
      rfl
  | .number written, isWritten => fun rest ends => by
      rw [print, ofSignsFrom?_number isWritten.1 isWritten.2 ends]
      rfl
  | .text (some content), _ => fun rest _ => by
      rw [print, Option.getD_some, ofSignsFrom?_quote]
      rfl
  | .list [], _ => (reads_nil.mark rfl).mark rfl
  -- The pieces are put together from the closing bracket to the front, since what stands behind a
  -- value decides whether a number at its end is read whole.
  | .list (item :: later), isWritten => by
      have closing : Reads (lineAt level ++ [']']) [.closeList] :=
        (reads_nil.mark rfl).line level
      have readsItem := reads_print (level + 1) isWritten.1
      have readsLater := reads_printItems (level + 1) isWritten.2
      have readsBehind := readsLater.append closing (closes_lineAt level _)
      have readsItems := (readsItem.append readsBehind
        (closes_printItems _ _ (closes_lineAt level _))).line (level + 1)
      have readsWhole : Reads ('[' :: _) (.openList :: _) := readsItems.mark rfl
      simpa [print, tokens] using readsWhole
  | .object [], _ => (reads_nil.mark rfl).mark rfl
  | .object ((some name, value) :: later), isWritten => by
      have closing : Reads (lineAt level ++ ['\x7d']) [.closeObject] :=
        (reads_nil.mark rfl).line level
      have readsValue := reads_print (level + 1) isWritten.2.1
      have readsLater := reads_printFields (level + 1) isWritten.2.2
      have readsBehind := readsLater.append closing (closes_lineAt level _)
      have readsFields := (((readsValue.append readsBehind
        (closes_printFields _ _ (closes_lineAt level _))).colon).quoted name).line (level + 1)
      have readsWhole : Reads ('\x7b' :: _) (.openObject :: _) := readsFields.mark rfl
      simpa [print, tokens] using readsWhole

/-- Printed items are read as their tokens. -/
theorem reads_printItems
    (level : Nat) :
    ∀ {items : List JsonValue},
      AllWritten items → Reads (printItems level items) (laterItemTokens items)
  | [], _ => reads_nil
  | item :: later, allWritten => by
      have readsItem := (reads_print level allWritten.1).append
        (reads_printItems level allWritten.2)
        (by simpa using closes_printItems level later closes_nil)
      have readsWhole : Reads (',' :: _) (.comma :: _) := (readsItem.line level).mark rfl
      simpa [printItems, laterItemTokens] using readsWhole

/-- Printed fields are read as their tokens. -/
theorem reads_printFields
    (level : Nat) :
    ∀ {fields : List (Option Text × JsonValue)},
      FieldsWritten fields → Reads (printFields level fields) (laterFieldTokens fields)
  | [], _ => reads_nil
  | (some name, value) :: later, fieldsWritten => by
      have readsValue := (reads_print level fieldsWritten.2.1).append
        (reads_printFields level fieldsWritten.2.2)
        (by simpa using closes_printFields level later closes_nil)
      have readsField := ((readsValue.colon).quoted name).line level
      have readsWhole : Reads (',' :: _) (.comma :: _) := readsField.mark rfl
      simpa [printFields, laterFieldTokens] using readsWhole

end

end JsonValue

end ComponentPages
