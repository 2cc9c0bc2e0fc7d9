import ComponentPages.Proofs.Declaration.Keyword
import ComponentPages.Proofs.Text.Search

namespace ComponentPages

/-!
# Text that declares nothing

Source text is searched for the heads of declarations, of which those with a body are kept, and for
calls of the builder. The brace of a body, or the parenthesis of a call, has to stand somewhere
behind the keyword, so text without it declares nothing. Neither does a comment if it declares
nothing by itself and the brace of no body in front of it is looked for in it.
-/

/-! ## Readers in front of a stop -/

namespace Text

variable {text rest : Text} {stop : Char}

/-- A run of characters of a kind does not reach a stop. -/
private theorem run_append_stop
    {kind : Char → Bool}
    (isStop : kind stop = false)
    (text rest : Text) :
    (text ++ stop :: rest).takeWhile kind = text.takeWhile kind ∧
      (text ++ stop :: rest).dropWhile kind = text.dropWhile kind ++ stop :: rest := by
  induction text with
  | nil =>
      simp [isStop]
  | cons first later inductionHypothesis =>
      obtain ⟨sameTaken, sameLeft⟩ := inductionHypothesis
      rw [List.cons_append, List.takeWhile_cons, List.takeWhile_cons, List.dropWhile_cons,
        List.dropWhile_cons, sameTaken, sameLeft]
      split
      · exact ⟨rfl, rfl⟩
      · exact ⟨rfl, rfl⟩

/-- Blanks are trimmed in front of a stop as they are in the text before it. -/
theorem trimStart_append_stop
    (notBlank : isBlank stop = false)
    (text rest : Text) :
    trimStart (text ++ stop :: rest) = trimStart text ++ stop :: rest :=
  (run_append_stop notBlank text rest).2

private theorem after?_append_stop
    {word : Text}
    (lacksStop : stop ∉ word)
    (text rest : Text) :
    after? (text ++ stop :: rest) word = (after? text word).map (· ++ stop :: rest) := by
  cases isAfter : after? text word with
  | some left =>
      rw [after?_eq_some_iff.mp isAfter, List.append_assoc, after?_append, Option.map_some]
  | none =>
      refine Option.eq_none_iff_forall_ne_some.mpr fun behind isBehind => ?_
      obtain ⟨between, rfl, -⟩ := exists_between lacksStop (after?_eq_some_iff.mp isBehind)
      rw [after?_append] at isAfter
      contradiction

private theorem afterWord?_append_stop
    {word : Text}
    (lacksStop : stop ∉ word)
    (previous : Option Char)
    (text rest : Text) :
    afterWord? word previous (text ++ stop :: rest) =
      (afterWord? word previous text).map (· ++ stop :: rest) := by
  rw [afterWord?, afterWord?, after?_append_stop lacksStop]
  split <;> rfl

private theorem afterBlanks?_append_stop
    (notBlank : isBlank stop = false)
    (text rest : Text) :
    afterBlanks? (text ++ stop :: rest) = (afterBlanks? text).map (· ++ stop :: rest) := by
  cases text with
  | nil =>
      simp [afterBlanks?, notBlank]
  | cons first later =>
      rw [List.cons_append, afterBlanks?, afterBlanks?, trimStart_append_stop notBlank]
      split <;> rfl

private theorem identifier?_append_stop
    (notStart : startsIdentifier stop = false)
    (isStop : continuesIdentifier stop = false)
    (text rest : Text) :
    identifier? (text ++ stop :: rest) =
      (identifier? text).map fun (name, left) => (name, left ++ stop :: rest) := by
  cases text with
  | nil =>
      rw [List.nil_append, identifier?, identifierOf?_eq_none notStart]
      rfl
  | cons first later =>
      obtain ⟨sameTaken, sameLeft⟩ := run_append_stop isStop later rest
      rw [List.cons_append, identifier?, identifierOf?, identifierOf?]
      split
      · exact congrArg some (Prod.ext (congrArg (first :: ·) sameTaken) sameLeft)
      · rfl

end Text

/-! ## Stops of a search -/

/-- The marks of a comment, in front of which heads and calls end. -/
def commentMarks : Text := "/*".toList

/-- A mark of a comment is no blank, opens no list of type parameters and is in no name. -/
private theorem kind_of_commentMark :
    ∀ stop ∈ commentMarks, Text.isBlank stop = false ∧ Text.startsIdentifier stop = false ∧
      Text.continuesIdentifier stop = false ∧ stop ≠ '<' ∧ stop ≠ '(' ∧
        ∀ keyword ∈ keywords, stop ∉ keyword := by
  decide

/-- A head with the text behind it. -/
def Anchor.Head.before (rest : Text) (head : Anchor.Head) : Anchor.Head :=
  { head with rest := rest }

/-- The head of a declaration is read alike whatever stands behind the first mark of a comment. -/
theorem Anchor.Form.head_readsUpTo
    {stop : Char}
    (isMark : stop ∈ commentMarks)
    (form : Form) :
    form.head.ReadsUpTo Head.before stop := by
  obtain ⟨notBlank, notStart, isStop, notAngle, -, notInKeyword⟩ := kind_of_commentMark stop isMark
  have lacksStop : stop ∉ form.keyword := notInKeyword _ form.isKeywordPattern_head.isKeyword
  intro previous text rest
  rw [head, head, Text.afterWord?_append_stop lacksStop]
  cases Text.afterWord? form.keyword previous text with
  | none =>
      rfl
  | some afterKeyword =>
      simp only [Option.map_some, Option.bind_eq_bind, Option.bind_some,
        Text.afterBlanks?_append_stop notBlank]
      cases Text.afterBlanks? afterKeyword with
      | none =>
          rfl
      | some afterBlanks =>
          simp only [Option.map_some, Option.bind_some,
            Text.identifier?_append_stop notStart isStop]
          cases Text.identifier? afterBlanks with
          | none =>
              rfl
          | some found =>
              obtain ⟨name, afterName⟩ := found
              simp only [Option.map_some, Option.bind_some, Text.trimStart_append_stop notBlank]
              cases Text.trimStart afterName with
              | nil =>
                  rw [List.nil_append]
                  split
                  · rename_i isAngle
                    exact absurd (List.cons.inj isAngle).1 notAngle
                  · rfl
              | cons first later =>
                  rw [List.cons_append]
                  split
                  · rename_i isAngle
                    obtain ⟨rfl, rfl⟩ := List.cons.inj isAngle
                    rfl
                  · rename_i notAngles
                    split
                    · rename_i isAngle
                      obtain ⟨rfl, rfl⟩ := List.cons.inj isAngle
                      exact absurd rfl (notAngles _)
                    · rfl

/-- A call is read alike whatever stands behind the first mark of a comment. -/
theorem BuilderCall.readsUpTo
    {stop : Char}
    (isMark : stop ∈ commentMarks) :
    pattern.ReadsUpTo (fun _ captured => captured) stop := by
  obtain ⟨notBlank, -, -, -, notParenthesis, notInKeyword⟩ := kind_of_commentMark stop isMark
  have lacksStop : stop ∉ builder := notInKeyword _ isKeywordPattern.isKeyword
  have notInParenthesis : stop ∉ ['('] := by
    simpa using notParenthesis
  intro previous text rest
  rw [pattern, pattern, Text.afterWord?_append_stop lacksStop]
  cases Text.afterWord? builder previous text with
  | none =>
      rfl
  | some afterName =>
      simp only [Option.map_some, Option.bind_eq_bind, Option.bind_some,
        Text.trimStart_append_stop notBlank, Text.after?_append_stop notInParenthesis]
      cases Text.after? (Text.trimStart afterName) ['('] <;> rfl

/-! ## Braces and parentheses -/

/-- What is left behind a head is the end of its text. -/
theorem Anchor.Form.suffix_of_head
    {form : Form}
    {previous : Option Char}
    {text unread : Text}
    {head : Head}
    (isMatch : form.head previous text = some (head, unread)) :
    head.rest = unread ∧ unread <:+ text := by
  obtain ⟨-, isRest, afterKeyword, afterBlanks, afterName, rfl, isAfterBlanks, isName, isBehind⟩ :=
    of_head isMatch
  refine ⟨isRest, ?_⟩
  obtain ⟨isSplit, -⟩ := Text.eq_append_of_identifier? isName
  have inBlanks : afterName <:+ afterBlanks := ⟨head.name, isSplit.symm⟩
  have isBehindName : Text.trimStart afterName <:+ form.keyword ++ afterKeyword :=
    (Text.trimStart_suffix afterName).trans
      (inBlanks.trans ((Text.afterBlanks?_suffix isAfterBlanks).trans (List.suffix_append _ _)))
  rcases isBehind with ⟨-, isAngle⟩ | ⟨-, isUnread, -⟩
  · rw [isAngle] at isBehindName
    exact (List.suffix_cons _ _).trans isBehindName
  · rwa [isUnread] at isBehindName

namespace Anchor

variable {form : Form} {text more : Text}

/-- The characters up to which a heritage clause is passed over. -/
def endsHeritage (character : Char) : Bool :=
  character == '{' || character == ';' || character == '}'

/-- Whether a body starts behind a head. -/
def Form.HasBody : Form → Text → Prop
  | .interface, rest => ∃ inside, rest.dropWhile (!endsHeritage ·) = '{' :: inside
  | .alias, rest => ∃ value inside, Text.trimStart rest = '=' :: value ∧
      Text.trimStart value = '{' :: inside

private theorem Form.gap?_eq_none_iff
    (form : Form)
    (rest : Text) :
    form.gap? rest = none ↔ ¬ form.HasBody rest := by
  match form with
  | .interface =>
      dsimp only [gap?, interfaceGap?, HasBody]
      split
      · rename_i isBrace
        exact ⟨nofun, fun noBody => absurd ⟨_, isBrace⟩ noBody⟩
      · rename_i notBrace
        exact ⟨fun _ ⟨inside, isBrace⟩ => notBrace inside isBrace, fun _ => rfl⟩
  | .alias =>
      dsimp only [gap?, aliasGap?, HasBody]
      split
      · rename_i value isEquals
        split
        · rename_i isBrace
          exact ⟨nofun, fun noBody => absurd ⟨_, _, isEquals, isBrace⟩ noBody⟩
        · rename_i notBrace
          refine ⟨?_, fun _ => rfl⟩
          rintro - ⟨value, inside, isOther, isBrace⟩
          obtain ⟨-, rfl⟩ := List.cons.inj (isEquals.symm.trans isOther)
          exact notBrace inside isBrace
      · rename_i notEquals
        exact ⟨fun _ ⟨value, _, isEquals, _⟩ => notEquals value isEquals, fun _ => rfl⟩

private theorem Form.HasBody.mem_brace
    (hasBody : form.HasBody text) :
    '{' ∈ text := by
  match form, hasBody with
  | .interface, ⟨inside, isBrace⟩ =>
      exact (List.dropWhile_suffix _).subset (isBrace ▸ List.mem_cons_self)
  | .alias, ⟨value, inside, isEquals, isBrace⟩ =>
      have inValue : '{' ∈ value := Text.mem_of_mem_trimStart (isBrace ▸ List.mem_cons_self)
      exact Text.mem_of_mem_trimStart (isEquals ▸ List.mem_cons_of_mem '=' inValue)

/-- Text without a brace that is put behind does not give a head a body. -/
private theorem Form.HasBody.of_append
    (hasBody : form.HasBody (text ++ more))
    (lacksBrace : '{' ∉ more) :
    form.HasBody text := by
  have starts (kind : Char → Bool) {text inside : Text} {first : Char}
      (isStart : (text ++ more).dropWhile kind = first :: inside)
      (hasBrace : first = '{' ∨ '{' ∈ inside) :
      ∃ left, text.dropWhile kind = first :: left ∧ inside = left ++ more := by
    rw [List.dropWhile_append] at isStart
    split at isStart
    · have inMore : '{' ∈ more.dropWhile kind := by
        rw [isStart, List.mem_cons]
        exact hasBrace.imp Eq.symm id
      exact absurd ((List.dropWhile_suffix kind).subset inMore) lacksBrace
    · rename_i notEmpty
      obtain ⟨character, left, isLeft⟩ := List.exists_cons_of_ne_nil
        (fun isNothing => notEmpty (List.isEmpty_iff.mpr isNothing))
      rw [isLeft, List.cons_append] at isStart
      obtain ⟨rfl, rfl⟩ := List.cons.inj isStart
      exact ⟨left, isLeft, rfl⟩
  match form, hasBody with
  | .interface, ⟨inside, isBrace⟩ =>
      obtain ⟨left, isLeft, -⟩ := starts _ isBrace (.inl rfl)
      exact ⟨left, isLeft⟩
  | .alias, ⟨value, inside, isEquals, isBrace⟩ =>
      have inValue : '{' ∈ value := Text.mem_of_mem_trimStart (isBrace ▸ List.mem_cons_self)
      obtain ⟨left, isLeft, rfl⟩ := starts _ isEquals (.inr inValue)
      obtain ⟨others, areLeft, -⟩ := starts _ isBrace (.inl rfl)
      exact ⟨left, others, isLeft, areLeft⟩

/-- A comment behind a head ends an alias. -/
private theorem not_hasBody_alias
    {left rest : Text}
    (lacksBrace : '{' ∉ left) :
    ¬ Form.alias.HasBody (left ++ '/' :: rest) := by
  have notBlank : Text.isBlank '/' = false := by
    decide
  rintro ⟨value, inside, isEquals, isBrace⟩
  rw [Text.trimStart_append_stop notBlank] at isEquals
  rcases List.append_eq_cons_iff.mp isEquals with ⟨-, isSlash⟩ | ⟨between, isLeft, rfl⟩
  · exact absurd (List.cons.inj isSlash).1 (by decide)
  · rw [Text.trimStart_append_stop notBlank] at isBrace
    rcases List.append_eq_cons_iff.mp isBrace with ⟨-, isSlash⟩ | ⟨others, areLeft, -⟩
    · exact absurd (List.cons.inj isSlash).1 (by decide)
    · have inBetween : '{' ∈ between := Text.mem_of_mem_trimStart (areLeft ▸ List.mem_cons_self)
      exact lacksBrace (Text.mem_of_mem_trimStart (isLeft ▸ List.mem_cons_of_mem '=' inBetween))

/-- A head without a body is dropped. -/
private theorem drops_of_not_hasBody
    {head : Head}
    (noBody : ¬ form.HasBody head.rest) :
    Text.Pattern.Drops (ofHead? form) head := by
  intro start stop
  rw [ofHead?]
  split
  · rfl
  · rw [(form.gap?_eq_none_iff head.rest).mpr noBody]
    rfl

end Anchor

/-! ## The searches -/

open Text.Pattern (Drops PassesOver ReadsUpTo)

/--
A search for heads or for calls. What it keeps stands behind a keyword and has the character
`needed` behind it.
-/
structure IsDeclaringSearch {α β : Type} (pattern : Text.Pattern α)
    (keep : Text.Occurrence α → Option β) (note : Text → α → α) (needed : Char) : Prop where
  misses : ∀ text, (∀ first ∈ "itc".toList, first ∉ text) → pattern.Misses text
  readsUpTo : ∀ stop ∈ commentMarks, pattern.ReadsUpTo note stop
  drops : ∀ {previous text captured unread},
    pattern previous text = some (captured, unread) → needed ∉ text → Drops keep captured
  dropsToo : ∀ {captured rest more first last}, needed ∉ more →
    keep ⟨first, last, note rest captured⟩ = none → Drops keep (note (rest ++ more) captured)

/-- The search for declarations drops heads that no brace follows. -/
theorem Anchor.Form.isDeclaringSearch (form : Form) :
    IsDeclaringSearch form.head (ofHead? form) Head.before '{' where
  misses text := form.isKeywordPattern_head.misses
  readsUpTo stop isMark := form.head_readsUpTo isMark
  drops isMatch lacksBrace := by
    obtain ⟨rfl, isSuffix⟩ := suffix_of_head isMatch
    exact drops_of_not_hasBody fun hasBody => lacksBrace (isSuffix.subset hasBody.mem_brace)
  dropsToo {head rest more first last} lacksBrace isDropped := by
    rw [ofHead?] at isDropped
    split at isDropped
    · rename_i isNoList
      intro start stop
      rw [ofHead?]
      exact if_pos isNoList
    · have noBody := (form.gap?_eq_none_iff rest).mp (Option.map_eq_none_iff.mp isDropped)
      exact drops_of_not_hasBody fun hasBody => noBody (hasBody.of_append lacksBrace)

private theorem BuilderCall.eq_none_of_lacks
    {previous : Option Char}
    {text : Text}
    (lacksParenthesis : '(' ∉ text) :
    pattern previous text = none := by
  refine Option.eq_none_iff_forall_ne_some.mpr fun result isMatch => lacksParenthesis ?_
  obtain ⟨afterName, rfl, isParenthesis⟩ := of_pattern isMatch
  refine List.mem_append_right _ (Text.mem_of_mem_trimStart ?_)
  rw [isParenthesis]
  exact List.mem_cons_self

/-- The search for calls finds nothing where no parenthesis stands. -/
theorem BuilderCall.isDeclaringSearch :
    IsDeclaringSearch pattern some (fun _ captured => captured) '(' where
  misses text := isKeywordPattern.misses
  readsUpTo stop isMark := readsUpTo isMark
  drops isMatch lacksParenthesis := by
    rw [eq_none_of_lacks lacksParenthesis] at isMatch
    contradiction
  dropsToo _ isDropped := by
    contradiction

namespace IsDeclaringSearch

variable {α β : Type} {pattern : Text.Pattern α} {keep : Text.Occurrence α → Option β}
  {note : Text → α → α} {needed : Char} {previous : Option Char}

/-- A search passes over a text that lacks what it needs. -/
theorem passesOver_of_lacks
    {text : Text}
    (isSearch : IsDeclaringSearch pattern keep note needed)
    (lacksNeeded : needed ∉ text) :
    PassesOver pattern keep previous 0 text [] := by
  refine .of_places (fun before place isText captured unread isMatch => ?_) (Nat.zero_le _)
  rw [List.append_nil] at isMatch
  refine ⟨isSearch.drops isMatch fun member => lacksNeeded ?_, Nat.zero_le _⟩
  rw [isText]
  exact List.mem_append_right _ member

/-- A comment that declares nothing by itself is passed over. -/
theorem passesOver_comment
    {inside after : Text}
    (isSearch : IsDeclaringSearch pattern keep note needed)
    (lacksNeeded : needed ∉ after)
    (keepsNothing : (pattern.occurrences ('/' :: (inside ++ "*/".toList))).filterMap keep = []) :
    PassesOver pattern keep previous 0 ('/' :: (inside ++ "*/".toList)) after := by
  have missesSlash : pattern.Misses ['/'] := isSearch.misses ['/'] (by decide)
  have missesClosing : pattern.Misses "*/".toList := isSearch.misses "*/".toList (by decide)
  have readsUpTo := isSearch.readsUpTo '*' (by decide)
  have passesSlash : PassesOver pattern keep none 0 ['/'] (inside ++ "*/".toList) :=
    (missesSlash _).passesOver none
  have keepsNothingInside : (pattern.occurrencesFrom (0 + Text.byteLength ['/']) (some '/') 0
      (inside ++ '*' :: ['/'])).filterMap keep = [] := by
    rw [← keepsNothing]
    exact (passesSlash.filterMap_occurrencesFrom 0).symm
  have passesInside : PassesOver pattern keep (some '/') 0 inside ('*' :: ('/' :: after)) := by
    refine readsUpTo.passesOver_of_occurrencesFrom ?_ keepsNothingInside (Nat.zero_le _)
    intro captured left first last isDropped
    have drops := isSearch.dropsToo lacksNeeded isDropped
    rwa [List.append_assoc] at drops
  have passesBoth : PassesOver pattern keep (some '/') 0 (inside ++ "*/".toList) after :=
    passesInside.append ((missesClosing after).passesOver _)
  exact ((missesSlash _).passesOver previous).append passesBoth

end IsDeclaringSearch

/-! ## Bodies -/

/-- Whether no declaration and no call is found in the body of a declaration. -/
structure DeclaresNothing (body : Text) : Prop where
  noAnchor : ∀ form : Anchor.Form,
    PassesOver form.head (Anchor.ofHead? form) (some '{') 0 (body ++ ['}']) []
  noCall : PassesOver BuilderCall.pattern some (some '{') 0 (body ++ ['}']) []

namespace DeclaresNothing

/-- A body without braces and parentheses declares nothing. -/
theorem of_lacks
    {body : Text}
    (lacksBrace : '{' ∉ body)
    (lacksParenthesis : '(' ∉ body) :
    DeclaresNothing body where
  noAnchor form := form.isDeclaringSearch.passesOver_of_lacks (by simpa using lacksBrace)
  noCall := BuilderCall.isDeclaringSearch.passesOver_of_lacks (by simpa using lacksParenthesis)

private theorem ofForm_eq_nil
    {text : Text}
    (noAnchor : Anchor.allOf text = [])
    (form : Anchor.Form) :
    Anchor.ofForm form text = [] := by
  have noneOfEither := congrArg List.length noAnchor
  rw [Anchor.allOf, List.length_mergeSort, List.length_append, List.length_nil] at noneOfEither
  obtain ⟨noInterface, noAlias⟩ := Nat.add_eq_zero_iff.mp noneOfEither
  match form with
  | .interface =>
      exact List.length_eq_zero_iff.mp noInterface
  | .alias =>
      exact List.length_eq_zero_iff.mp noAlias

/--
A body whose only brackets stand in a comment declares nothing if the comment by itself declares
nothing. What stands in front of the comment must not have a brace in the comment for its body.
-/
theorem of_comment
    {before inside after : Text}
    (lacksBraces : '{' ∉ before ++ after)
    (lacksParentheses : '(' ∉ before ++ after)
    (noAnchor : Anchor.allOf ('/' :: (inside ++ "*/".toList)) = [])
    (noCall : BuilderCall.allOf ('/' :: (inside ++ "*/".toList)) = [])
    (isApart : '{' ∉ inside ∨ ∀ rest, Anchor.Form.interface.head.Absent before ('/' :: rest)) :
    DeclaresNothing (before ++ ('/' :: (inside ++ "*/".toList) ++ after)) := by
  simp only [List.mem_append, not_or] at lacksBraces lacksParentheses
  have isSplit : before ++ ('/' :: (inside ++ "*/".toList) ++ after) ++ ['}'] =
      before ++ ('/' :: (inside ++ "*/".toList) ++ (after ++ ['}'])) := by
    simp
  have afterLacksBrace : '{' ∉ after ++ ['}'] := by
    simpa using lacksBraces.2
  have afterLacksParenthesis : '(' ∉ after ++ ['}'] := by
    simpa using lacksParentheses.2
  constructor
  · intro form
    have isSearch := form.isDeclaringSearch
    have passesComment (previous : Option Char) :
        PassesOver form.head (Anchor.ofHead? form) previous 0
          ('/' :: (inside ++ "*/".toList) ++ (after ++ ['}'])) [] := by
      refine .append ?_ (isSearch.passesOver_of_lacks afterLacksBrace)
      rw [List.append_nil]
      exact isSearch.passesOver_comment afterLacksBrace (ofForm_eq_nil noAnchor form)
    rw [isSplit]
    match form with
    | .alias =>
        refine .append ?_ (passesComment _)
        rw [List.append_nil]
        refine (isSearch.readsUpTo '/' (by decide)).passesOver_of_drops ?_
        intro place isPlace previous head left isMatch
        obtain ⟨-, isLeft⟩ := Anchor.Form.suffix_of_head isMatch
        refine Anchor.drops_of_not_hasBody (Anchor.not_hasBody_alias fun member => ?_)
        exact lacksBraces.1 ((isLeft.trans isPlace).subset member)
    | .interface =>
        rcases isApart with insideLacksBrace | absent
        · refine isSearch.passesOver_of_lacks ?_
          simp [lacksBraces, insideLacksBrace]
        · refine .append ?_ (passesComment _)
          exact (absent _).passesOver _
  · have isSearch := BuilderCall.isDeclaringSearch
    rw [isSplit]
    refine .append ?_ (.append ?_ (isSearch.passesOver_of_lacks afterLacksParenthesis))
    · rw [List.append_nil]
      refine (isSearch.readsUpTo '/' (by decide)).passesOver_of_drops ?_
      intro place isPlace previous captured left isMatch
      rw [BuilderCall.eq_none_of_lacks fun member => lacksParentheses.1 (isPlace.subset member)]
        at isMatch
      contradiction
    · rw [List.append_nil]
      refine isSearch.passesOver_comment afterLacksParenthesis ?_
      rw [BuilderCall.allOf, List.map_eq_nil_iff] at noCall
      rw [noCall, List.filterMap_nil]

end DeclaresNothing

end ComponentPages
