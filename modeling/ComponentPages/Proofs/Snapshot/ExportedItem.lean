import ComponentPages.Proofs.Text.Find
import ComponentPages.Proofs.Text.Joining
import ComponentPages.Snapshot.Exports

namespace ComponentPages

/-!
# Items of export lists

The name that an item exports is a word exactly if the item is that word, with `type` and a space
in front or behind something and ` as `, and with blanks around it. A new name is therefore found if
the blank in front of `as` and the one behind it are spaces.
-/

namespace Text

/-- A word is its own trimmed form. -/
theorem IsWord.trim_eq {word : Text} (isWord : IsWord word) : trim word = word :=
  trim_eq_self (fun character isFirst => isWord.noBlank character (List.mem_of_mem_head? isFirst))
    (fun character isLast => isWord.noBlank character (List.mem_of_getLast? isLast))

end Text

namespace Exports

open Text (IsWord)

variable {text item front gap last word : Text}

/-! ## The last ` as ` -/

private theorem afterLastAs_of_not_infix
    (absent : ¬ " as ".toList <:+: text) :
    afterLastAs text = text := by
  have absentBack : ¬ " as ".toList.reverse <:+: text.reverse := by
    rwa [List.reverse_infix]
  rw [afterLastAs, Text.breakOn?_eq_none_iff.mpr absentBack]

/-- What follows an occurrence behind which no other one ends is what follows the last one. -/
private theorem afterLastAs_append
    (noLater : ¬ " as ".toList <:+: "as ".toList ++ last)
    (front : Text) :
    afterLastAs (front ++ (" as ".toList ++ last)) = last := by
  have found : Text.breakOn? (front ++ (" as ".toList ++ last)).reverse " as ".toList.reverse =
      some (last.reverse, front.reverse) := by
    refine (Text.breakOn?_eq_some_iff (by decide)).mpr ⟨by simp, ?_⟩
    rw [show " as ".toList.reverse.dropLast = "as ".toList.reverse from rfl,
      ← List.reverse_append, List.reverse_infix]
    exact noLater
  rw [afterLastAs, found]
  exact List.reverse_reverse last

/-- What is renamed stands behind the last `as`; without one it is the whole. -/
theorem exists_afterLastAs (text : Text) :
    afterLastAs text = text ∨ ∃ front, text = front ++ (" as ".toList ++ afterLastAs text) := by
  cases found : Text.breakOn? text.reverse " as ".toList.reverse with
  | none =>
      rw [afterLastAs, found]
      exact .inl rfl
  | some found? =>
      obtain ⟨last, rest⟩ := found?
      refine .inr ⟨rest.reverse, ?_⟩
      have isText := congrArg List.reverse (Text.eq_append_of_breakOn? found)
      rw [List.reverse_reverse] at isText
      rw [afterLastAs, found, isText]
      simp

/-- No ` as ` stands in a word with blanks in front of it. -/
private theorem not_infix_blanks_word
    (areBlank : ∀ character ∈ gap, Text.isBlank character = true)
    (isWord : IsWord word) :
    ¬ " as ".toList <:+: gap ++ word := by
  have lacksSpace : ' ' ∉ word := fun member =>
    absurd (isWord.noBlank ' ' member) (by decide)
  induction gap with
  | nil =>
      exact fun isInfix => lacksSpace (isInfix.subset (by decide))
  | cons blank later inductionHypothesis =>
      obtain ⟨-, laterBlank⟩ := List.forall_mem_cons.mp areBlank
      intro isInfix
      rcases List.infix_cons_iff.mp isInfix with isStart | inLater
      · have goesOn : "as ".toList <+: later ++ word := (List.cons_prefix_cons.mp isStart).2
        cases later with
        | nil =>
            exact lacksSpace (goesOn.subset (by decide))
        | cons next others =>
            obtain ⟨rfl, -⟩ := List.cons_prefix_cons.mp goesOn
            exact absurd (laterBlank 'a' List.mem_cons_self) (by decide)
      · exact inductionHypothesis laterBlank inLater

/-- Behind a new name's ` as ` there is no other one. -/
theorem afterLastAs_word
    (areBlank : ∀ character ∈ gap, Text.isBlank character = true)
    (isWord : IsWord word)
    (front : Text) :
    afterLastAs (front ++ (" as ".toList ++ (gap ++ word))) = gap ++ word := by
  refine afterLastAs_append (fun isInfix => ?_) front
  have oneBlank : ∀ character ∈ ' ' :: gap, Text.isBlank character = true :=
    List.forall_mem_cons.mpr ⟨Text.isBlank_space, areBlank⟩
  have inBlanks : " as ".toList <:+: ' ' :: gap ++ word := by
    rcases List.infix_cons_iff.mp isInfix with isStart | inLater
    · exact absurd (List.cons_prefix_cons.mp isStart).1 (by decide)
    · rcases List.infix_cons_iff.mp inLater with isStart | inLater
      · exact absurd (List.cons_prefix_cons.mp isStart).1 (by decide)
      · exact inLater
  exact not_infix_blanks_word oneBlank isWord inBlanks

/-! ## How items are written -/

/-- Whether only `type` stands in front of ` as `, so that it is taken for the keyword. -/
def IsTypeOnly (front : Text) : Prop :=
  ∃ gap,
    front = "type".toList ++ gap ∧ (∀ character ∈ gap, Text.isBlank character = true) ∧
      ∀ first ∈ gap.head?, first = ' '

/-- What stands in front of the name that an item exports. -/
inductive Leads : Text → Prop where
  | nothing : Leads []
  | type
      {gap : Text}
      (areBlank : ∀ character ∈ gap, Text.isBlank character = true) :
      Leads ("type ".toList ++ gap)
  | rename
      {front gap : Text}
      (notEmpty : front ≠ [])
      (startsPlain : ∀ first ∈ front.head?, Text.isBlank first = false)
      (notType : ¬ IsTypeOnly front)
      (areBlank : ∀ character ∈ gap, Text.isBlank character = true) :
      Leads (front ++ (" as ".toList ++ gap))

/-- Whether an item is written as a name, with blanks around it. -/
def Names (item name : Text) : Prop :=
  ∃ lead before after,
    item = lead ++ (before ++ name ++ after) ∧
      (∀ character ∈ lead, Text.isBlank character = true) ∧
        (∀ character ∈ after, Text.isBlank character = true) ∧ Leads before

private theorem Leads.startsPlain
    {before : Text}
    (leads : Leads before) :
    ∀ first ∈ before.head?, Text.isBlank first = false := by
  cases leads with
  | nothing =>
      exact nofun
  | type =>
      intro first isFirst
      obtain rfl := Option.some.inj isFirst
      decide
  | @rename front gap notEmpty startsPlain =>
      obtain ⟨first, later, rfl⟩ := List.exists_cons_of_ne_nil notEmpty
      exact startsPlain

/-- What an item is without the keyword in front. -/
def withoutType (item : Text) : Text :=
  Text.trim ((Text.after? item "type ".toList).getD item)

private theorem itemName_eq (item : Text) :
    itemName item = Text.trim (afterLastAs (withoutType (Text.trim item))) :=
  rfl

private theorem withoutType_of_no_keyword
    (isTrimmed : Text.trim text = text)
    (noType : ¬ "type ".toList <+: text) :
    withoutType text = text := by
  have notThere : Text.after? text "type ".toList = none := by
    refine Option.eq_none_iff_forall_ne_some.mpr fun rest isRest => noType ?_
    exact ⟨rest, (Text.after?_eq_some_iff.mp isRest).symm⟩
  rw [withoutType, notThere]
  exact isTrimmed

private theorem withoutType_append (text : Text) :
    withoutType ("type ".toList ++ text) = Text.trim text := by
  rw [withoutType, Text.after?_append]
  rfl

/-- A text that starts with no blank and ends in a word is trimmed. -/
theorem trim_append_word
    (startsPlain : ∀ first ∈ front.head?, Text.isBlank first = false)
    (isWord : IsWord word) :
    Text.trim (front ++ word) = front ++ word := by
  refine Text.trim_eq_self ?_ ?_
  · cases front with
    | nil =>
        intro first isFirst
        exact isWord.noBlank first (List.mem_of_mem_head? isFirst)
    | cons first later =>
        exact startsPlain
  · intro character isLast
    rw [List.getLast?_append_of_ne_nil front isWord.notEmpty] at isLast
    exact isWord.noBlank character (List.mem_of_getLast? isLast)

/-- A text that starts with no blank, with ` as ` and a word behind it, is trimmed. -/
private theorem trim_rename
    (notEmpty : front ≠ [])
    (startsPlain : ∀ first ∈ front.head?, Text.isBlank first = false)
    (gap : Text)
    (isWord : IsWord word) :
    Text.trim (front ++ (" as ".toList ++ (gap ++ word))) =
      front ++ (" as ".toList ++ (gap ++ word)) := by
  have goesOn : ∀ first ∈ (front ++ (" as ".toList ++ gap)).head?, Text.isBlank first = false := by
    rwa [List.head?_append_of_ne_nil front notEmpty]
  have isTrimmed := trim_append_word goesOn isWord
  rwa [List.append_assoc, List.append_assoc] at isTrimmed

/-- A word by itself is a name. -/
theorem afterLastAs_trim_blanks_word
    (areBlank : ∀ character ∈ gap, Text.isBlank character = true)
    (isWord : IsWord word) :
    Text.trim (afterLastAs (Text.trim (gap ++ word))) = word := by
  have absent : ¬ " as ".toList <:+: word :=
    not_infix_blanks_word (List.forall_mem_nil _) isWord
  rw [Text.trim_append areBlank, isWord.trim_eq, afterLastAs_of_not_infix absent, isWord.trim_eq]

/-- The keyword in front of ` as ` is only taken off if something stands behind it. -/
private theorem exists_of_type_prefix
    {rest behind : Text}
    (notType : ¬ IsTypeOnly front)
    (isType : front ++ ' ' :: rest = "type ".toList ++ behind) :
    ∃ later, front = "type ".toList ++ later ∧ behind = later ++ ' ' :: rest := by
  rcases List.append_eq_append_iff.mp isType with
    ⟨missing, isKeyword, isRest⟩ | ⟨later, isFront, isBehind⟩
  · refine absurd ?_ notType
    cases missing with
    | nil =>
        exact ⟨[' '], by simpa using isKeyword.symm, by decide, by decide⟩
    | cons space more =>
        obtain ⟨rfl, -⟩ := List.cons.inj isRest
        have onlySpace : ∀ place < 5, "type ".toList[place]? = some ' ' → place = 4 := by
          decide
        have isLength : front.length = 4 := by
          refine onlySpace front.length ?_ (by simp [isKeyword])
          have sameLength := congrArg List.length isKeyword
          rw [List.length_append, List.length_cons, show "type ".toList.length = 5 from rfl]
            at sameLength
          omega
        have isFront : front = "type ".toList.take front.length := by
          rw [isKeyword, List.take_left]
        exact ⟨[], isFront.trans (congrArg (List.take · "type ".toList) isLength),
          List.forall_mem_nil _, nofun⟩
  · exact ⟨later, isFront, isBehind⟩

/-- The name behind a lead is the one that is exported. -/
theorem trim_afterLastAs_of_leads
    {before : Text}
    (leads : Leads before)
    (isWord : IsWord word) :
    Text.trim (afterLastAs (withoutType (before ++ word))) = word := by
  have lacksSpace : ' ' ∉ word := fun member =>
    absurd (isWord.noBlank ' ' member) (by decide)
  cases leads with
  | nothing =>
      have noType : ¬ "type ".toList <+: word := fun isPrefix =>
        lacksSpace (isPrefix.subset (by decide))
      have alone := afterLastAs_trim_blanks_word (List.forall_mem_nil _) isWord
      rw [List.nil_append, isWord.trim_eq] at alone
      rwa [List.nil_append, withoutType_of_no_keyword isWord.trim_eq noType]
  | type areBlank =>
      rw [List.append_assoc, withoutType_append]
      exact afterLastAs_trim_blanks_word areBlank isWord
  | @rename front gap notEmpty startsPlain notType areBlank =>
      have nameFound (start : Text) :
          Text.trim (afterLastAs (start ++ (" as ".toList ++ (gap ++ word)))) = word := by
        rw [afterLastAs_word areBlank isWord, Text.trim_append areBlank, isWord.trim_eq]
      rw [List.append_assoc, List.append_assoc]
      by_cases isType : "type ".toList <+: front ++ (" as ".toList ++ (gap ++ word))
      · obtain ⟨behind, isBehind⟩ := isType
        obtain ⟨later, rfl, -⟩ := exists_of_type_prefix notType isBehind.symm
        have isWhole : later = later.takeWhile Text.isBlank ++ Text.trimStart later :=
          List.takeWhile_append_dropWhile.symm
        have someLeft : Text.trimStart later ≠ [] := by
          intro noneLeft
          have laterBlank := List.dropWhile_eq_nil_iff.mp noneLeft
          exact notType ⟨' ' :: later, rfl,
            List.forall_mem_cons.mpr ⟨Text.isBlank_space, laterBlank⟩, by simp⟩
        have leftPlain : ∀ first ∈ (Text.trimStart later).head?, Text.isBlank first = false :=
          Text.stops_dropWhile Text.isBlank later
        rw [List.append_assoc, withoutType_append, isWhole, List.append_assoc,
          Text.trim_append (fun _ => List.mem_takeWhile_imp),
          trim_rename someLeft leftPlain gap isWord]
        exact nameFound _
      · rw [withoutType_of_no_keyword (trim_rename notEmpty startsPlain gap isWord) isType]
        exact nameFound front

/-- The name of an item stands in it. -/
theorem itemName_infix (item : Text) : itemName item <:+: item := by
  have inPlain : itemName item <:+: withoutType (Text.trim item) := by
    rw [itemName_eq]
    refine (Text.trim_infix _).trans ?_
    rcases exists_afterLastAs (withoutType (Text.trim item)) with isAlone | ⟨front, isRenamed⟩
    · rw [isAlone]
    · conv_rhs => rw [isRenamed, ← List.append_assoc]
      exact (List.suffix_append _ _).isInfix
  obtain ⟨key, -, isWhole⟩ := Text.exists_append_getD_after? (Text.trim item) "type ".toList
  have inTrimmed : withoutType (Text.trim item) <:+: Text.trim item := by
    refine (Text.trim_infix _).trans ?_
    conv_rhs => rw [isWhole]
    exact (List.suffix_append _ _).isInfix
  exact inPlain.trans (inTrimmed.trans (Text.trim_infix item))

/-- An item that is written as a word exports it. -/
theorem itemName_of_names
    (names : Names item word)
    (isWord : IsWord word) :
    itemName item = word := by
  obtain ⟨lead, before, after, rfl, leadBlank, afterBlank, leads⟩ := names
  rw [itemName_eq, Text.trim_append_blanks leadBlank afterBlank,
    trim_append_word leads.startsPlain isWord]
  exact trim_afterLastAs_of_leads leads isWord

/-- A trimmed item is what it is without the keyword, and maybe the keyword in front. -/
theorem exists_withoutType
    (isTrimmed : Text.trim text = text) :
    ∃ key plain,
      text = key ++ plain ∧ withoutType text = plain ∧ Text.trim plain = plain ∧
        ((key = [] ∧ ¬ "type ".toList <+: plain) ∨
          ∃ gap, key = "type ".toList ++ gap ∧
            ∀ character ∈ gap, Text.isBlank character = true) := by
  by_cases isType : "type ".toList <+: text
  · obtain ⟨rest, rfl⟩ := isType
    have isRest : rest.takeWhile Text.isBlank ++ Text.trimStart rest = rest :=
      List.takeWhile_append_dropWhile
    have restTrimmed := Text.trim_trimStart isTrimmed (List.suffix_append _ rest)
    have areBlank : ∀ character ∈ rest.takeWhile Text.isBlank, Text.isBlank character = true :=
      fun _ => List.mem_takeWhile_imp
    refine ⟨"type ".toList ++ rest.takeWhile Text.isBlank, Text.trimStart rest, ?_, ?_,
      restTrimmed, .inr ⟨_, rfl, areBlank⟩⟩
    · rw [List.append_assoc, isRest]
    · have sameTrimmed := Text.trim_append areBlank (Text.trimStart rest)
      rw [isRest, restTrimmed] at sameTrimmed
      rw [withoutType_append, sameTrimmed]
  · exact ⟨[], text, rfl, withoutType_of_no_keyword isTrimmed isType, isTrimmed, .inl ⟨rfl, isType⟩⟩

/-- What stands in front of the last ` as ` is more than the keyword. -/
private theorem not_isTypeOnly_append
    {key plain : Text}
    (isKey : (key = [] ∧ ¬ "type ".toList <+: plain) ∨
      ∃ gap, key = "type ".toList ++ gap ∧ ∀ character ∈ gap, Text.isBlank character = true)
    (isPlain : plain = front ++ (" as ".toList ++ last))
    (notEmpty : front ≠ [])
    (startsPlain : ∀ first ∈ front.head?, Text.isBlank first = false) :
    ¬ IsTypeOnly (key ++ front) := by
  obtain ⟨first, later, rfl⟩ := List.exists_cons_of_ne_nil notEmpty
  have firstPlain := startsPlain first rfl
  rintro ⟨blanks, isType, areBlank, firstSpace⟩
  rcases isKey with ⟨rfl, noType⟩ | ⟨gap, rfl, -⟩
  · refine noType ?_
    rw [isPlain, ← List.nil_append (first :: later), isType]
    cases blanks with
    | nil =>
        exact ⟨"as ".toList ++ last, rfl⟩
    | cons space more =>
        obtain rfl := firstSpace space rfl
        exact ⟨more ++ (" as ".toList ++ last), rfl⟩
  · have isType : "type".toList ++ ' ' :: (gap ++ first :: later) = "type".toList ++ blanks :=
      isType
    have firstBlank := areBlank first (by simp [← List.append_cancel_left isType])
    rw [firstPlain] at firstBlank
    contradiction

/-- An item that exports a word is written as that word. -/
theorem names_of_itemName
    (isName : itemName item = word)
    (isWord : IsWord word) :
    Names item word := by
  obtain ⟨lead, after, isItem, leadBlank, afterBlank⟩ := Text.exists_eq_trim item
  obtain ⟨key, plain, isWhole, isPlain, plainTrimmed, isKey⟩ :=
    exists_withoutType (Text.trim_trim item)
  rw [itemName_eq, isPlain] at isName
  rcases exists_afterLastAs plain with isAlone | ⟨front, isRenamed⟩
  · rw [isAlone, plainTrimmed] at isName
    subst isName
    refine ⟨lead, key, after, by rw [← isWhole]; exact isItem, leadBlank, afterBlank, ?_⟩
    rcases isKey with ⟨rfl, -⟩ | ⟨gap, rfl, areBlank⟩
    · exact .nothing
    · exact .type areBlank
  · generalize isLast : afterLastAs plain = last at isName isRenamed
    obtain ⟨gap, tail, isLast, gapBlank, tailBlank⟩ := Text.exists_eq_trim last
    rw [isName] at isLast
    have startsPlain : front ≠ [] ∧ ∀ first ∈ front.head?, Text.isBlank first = false := by
      cases front with
      | nil =>
          rw [isRenamed] at plainTrimmed
          exact absurd (Text.isBlank_eq_false_of_trim_cons plainTrimmed) (by decide)
      | cons first later =>
          rw [isRenamed] at plainTrimmed
          refine ⟨List.cons_ne_nil _ _, fun other isFirst => ?_⟩
          obtain rfl := Option.some.inj isFirst
          exact Text.isBlank_eq_false_of_trim_cons plainTrimmed
    obtain ⟨notEmpty, startsPlain⟩ := startsPlain
    have keyStartsPlain : ∀ first ∈ (key ++ front).head?, Text.isBlank first = false := by
      rcases isKey with ⟨rfl, -⟩ | ⟨gap, rfl, areBlank⟩
      · exact startsPlain
      · rw [List.append_assoc]
        exact (Leads.type areBlank).startsPlain
    refine ⟨lead, (key ++ front) ++ (" as ".toList ++ gap), tail ++ after, ?_, leadBlank,
      List.forall_mem_append.mpr ⟨tailBlank, afterBlank⟩,
      .rename (by simp [notEmpty]) keyStartsPlain
        (not_isTypeOnly_append isKey isRenamed notEmpty startsPlain) gapBlank⟩
    rw [isItem, isWhole, isRenamed, isLast]
    simp only [List.append_assoc]

/-- The name of an item is a word exactly if the item is written as that word. -/
theorem itemName_eq_iff
    (isWord : IsWord word) :
    itemName item = word ↔ Names item word :=
  ⟨fun isName => names_of_itemName isName isWord, fun names => itemName_of_names names isWord⟩

/-! ## New names -/

variable {lead old before behind new trail : Text}

private theorem trimEnd_append_as
    (front : Text)
    (areBlank : ∀ character ∈ gap, Text.isBlank character = true) :
    Text.trimEnd (front ++ ("as".toList ++ gap)) = front ++ "as".toList := by
  have asTrimmed : Text.trimEnd "as".toList = "as".toList := by
    decide
  rw [← List.append_assoc, Text.trimEnd_append areBlank,
    Text.trimEnd_append_of_ne_nil front (by rw [asTrimmed]; decide), asTrimmed]

private theorem trimEnd_type (areBlank : ∀ character ∈ gap, Text.isBlank character = true) :
    Text.trimEnd ("type".toList ++ gap) = "type".toList := by
  rw [Text.trimEnd_append areBlank]
  decide

/-- What leads an item with a new name has spaces around `as`, and no keyword at its start. -/
private theorem spaces_of_leads
    (oldNotEmpty : old ≠ [])
    (beforeBlank : ∀ character ∈ before, Text.isBlank character = true)
    (beforeNotEmpty : before ≠ [])
    (behindBlank : ∀ character ∈ behind, Text.isBlank character = true)
    (leads : Leads (old ++ (before ++ ("as".toList ++ behind)))) :
    before.getLast? = some ' ' ∧ behind.head? = some ' ' ∧
      ¬ (old = "type".toList ∧ before.head? = some ' ') := by
  generalize isWhole : old ++ (before ++ ("as".toList ++ behind)) = whole at leads
  cases leads with
  | nothing =>
      simp [oldNotEmpty] at isWhole
  | @type gap areBlank =>
      have isTrimmed := congrArg Text.trimEnd isWhole
      have spaceBlank : ∀ character ∈ ' ' :: gap, Text.isBlank character = true :=
        List.forall_mem_cons.mpr ⟨Text.isBlank_space, areBlank⟩
      rw [← List.append_assoc, trimEnd_append_as _ behindBlank,
        show "type ".toList ++ gap = "type".toList ++ ' ' :: gap from rfl,
        trimEnd_type spaceBlank] at isTrimmed
      have sameLast := congrArg List.getLast? isTrimmed
      simp at sameLast
  | @rename front gap notEmpty startsPlain notType areBlank =>
      have spaceBlank : ∀ character ∈ ' ' :: gap, Text.isBlank character = true :=
        List.forall_mem_cons.mpr ⟨Text.isBlank_space, areBlank⟩
      have isSplit : (old ++ before) ++ ("as".toList ++ behind) =
          (front ++ [' ']) ++ ("as".toList ++ ' ' :: gap) := by
        rw [List.append_assoc, isWhole, List.append_assoc]
        rfl
      have isFront : old ++ before = front ++ [' '] := by
        have isTrimmed := congrArg Text.trimEnd isSplit
        rw [trimEnd_append_as _ behindBlank, trimEnd_append_as _ spaceBlank] at isTrimmed
        exact List.append_cancel_right isTrimmed
      rw [isFront] at isSplit
      obtain rfl := List.append_cancel_left (List.append_cancel_left isSplit)
      have isLast : before.getLast? = some ' ' := by
        rw [← List.getLast?_append_of_ne_nil old beforeNotEmpty, isFront]
        exact List.getLast?_concat
      refine ⟨isLast, rfl, ?_⟩
      rintro ⟨rfl, isFirst⟩
      obtain ⟨start, rfl⟩ := List.getLast?_eq_some_iff.mp isLast
      rw [← List.append_assoc] at isFront
      refine notType ⟨start, (List.append_cancel_right isFront).symm, ?_, ?_⟩
      · exact fun character member => beforeBlank character (List.mem_append_left _ member)
      · intro first isStart
        rw [List.head?_append, Option.mem_def.mp isStart] at isFirst
        exact Option.some.inj isFirst

/-- With a space on either side of `as` an old name that is not taken for the keyword leads. -/
private theorem leads_of_spaces
    {start gap : Text}
    (oldNotEmpty : old ≠ [])
    (oldTrimmed : Text.trim old = old)
    (startBlank : ∀ character ∈ start, Text.isBlank character = true)
    (gapBlank : ∀ character ∈ gap, Text.isBlank character = true)
    (notKeyword : ¬ (old = "type".toList ∧ (start ++ [' ']).head? = some ' ')) :
    Leads (old ++ ((start ++ [' ']) ++ ("as".toList ++ ' ' :: gap))) := by
  have isWhole : old ++ ((start ++ [' ']) ++ ("as".toList ++ ' ' :: gap)) =
      (old ++ start) ++ (" as ".toList ++ gap) := by
    simp only [List.append_assoc]
    rfl
  rw [isWhole]
  refine .rename (by simp [oldNotEmpty]) ?_ ?_ gapBlank
  · obtain ⟨first, later, rfl⟩ := List.exists_cons_of_ne_nil oldNotEmpty
    intro other isStart
    obtain rfl := Option.some.inj isStart
    exact Text.isBlank_eq_false_of_trim_cons oldTrimmed
  · rintro ⟨tail, isFront, tailBlank, firstSpace⟩
    have isTrimmed := congrArg Text.trimEnd isFront
    rw [Text.trimEnd_append startBlank, Text.trimEnd_eq_self oldTrimmed,
      trimEnd_type tailBlank] at isTrimmed
    subst isTrimmed
    obtain rfl := List.append_cancel_left isFront
    refine notKeyword ⟨rfl, ?_⟩
    cases start with
    | nil =>
        rfl
    | cons first later =>
        exact congrArg some (firstSpace first rfl)

/-- Whether an item with a new name leads with what is in front of that name. -/
theorem leads_rename_iff
    (oldNotEmpty : old ≠ [])
    (oldTrimmed : Text.trim old = old)
    (beforeBlank : ∀ character ∈ before, Text.isBlank character = true)
    (beforeNotEmpty : before ≠ [])
    (behindBlank : ∀ character ∈ behind, Text.isBlank character = true) :
    Leads (old ++ (before ++ ("as".toList ++ behind))) ↔
      before.getLast? = some ' ' ∧ behind.head? = some ' ' ∧
        ¬ (old = "type".toList ∧ before.head? = some ' ') := by
  constructor
  · exact spaces_of_leads oldNotEmpty beforeBlank beforeNotEmpty behindBlank
  · rintro ⟨isLast, isFirst, notKeyword⟩
    obtain ⟨start, rfl⟩ := List.getLast?_eq_some_iff.mp isLast
    obtain ⟨gap, rfl⟩ := List.head?_eq_some_iff.mp isFirst
    have startBlank : ∀ character ∈ start, Text.isBlank character = true :=
      fun character member => beforeBlank character (List.mem_append_left _ member)
    exact leads_of_spaces oldNotEmpty oldTrimmed startBlank (List.forall_mem_cons.mp behindBlank).2
      notKeyword

/--
The new name of an item is the name that it exports exactly if the blank in front of `as` and the
one behind it are spaces, unless `type` is the old name and taken for the keyword.
-/
theorem itemName_rename_iff
    (leadBlank : ∀ character ∈ lead, Text.isBlank character = true)
    (oldNotEmpty : old ≠ [])
    (oldTrimmed : Text.trim old = old)
    (beforeBlank : ∀ character ∈ before, Text.isBlank character = true)
    (beforeNotEmpty : before ≠ [])
    (behindBlank : ∀ character ∈ behind, Text.isBlank character = true)
    (isWord : IsWord new)
    (trailBlank : ∀ character ∈ trail, Text.isBlank character = true) :
    itemName (lead ++ (old ++ (before ++ ("as".toList ++ behind)) ++ new ++ trail)) = new ↔
      before.getLast? = some ' ' ∧ behind.head? = some ' ' ∧
        ¬ (old = "type".toList ∧ before.head? = some ' ') := by
  rw [itemName_eq_iff isWord,
    ← leads_rename_iff oldNotEmpty oldTrimmed beforeBlank beforeNotEmpty behindBlank]
  have startsPlain : ∀ first ∈ (old ++ (before ++ ("as".toList ++ behind))).head?,
      Text.isBlank first = false := by
    obtain ⟨first, later, rfl⟩ := List.exists_cons_of_ne_nil oldNotEmpty
    intro other isFirst
    obtain rfl := Option.some.inj isFirst
    exact Text.isBlank_eq_false_of_trim_cons oldTrimmed
  constructor
  · rintro ⟨otherLead, other, otherTrail, sameItem, otherLeadBlank, otherTrailBlank, leads⟩
    have sameTrimmed := congrArg Text.trim sameItem
    rw [Text.trim_append_blanks leadBlank trailBlank,
      Text.trim_append_blanks otherLeadBlank otherTrailBlank, trim_append_word startsPlain isWord,
      trim_append_word leads.startsPlain isWord] at sameTrimmed
    rwa [List.append_cancel_right sameTrimmed]
  · intro leads
    exact ⟨lead, _, trail, rfl, leadBlank, trailBlank, leads⟩

end Exports

end ComponentPages
