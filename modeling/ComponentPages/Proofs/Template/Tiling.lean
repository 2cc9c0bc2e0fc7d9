import ComponentPages.Proofs.Source.Ranges
import ComponentPages.Proofs.Template.Lexing
import ComponentPages.Template.Fragment

namespace ComponentPages

/-!
# Places of tokens

The tokens of a template stand in it one behind another and leave nothing out. Each of them is the
longest token that could be read at its place. A stretch of the template that is cut out between two
tokens is read as the tokens which stand in it, with places that are counted from its start.
-/

namespace Token

/-! ## The longest token -/

/-- The tokens that can be read somewhere: tags with names, text without braces, and the brace. -/
inductive IsLexeme : Token → Prop where
  | tag {token : Token} :
      IsTag token →
      IsLexeme token
  | text {content : Text} :
      content ≠ [] →
      (∀ character ∈ content, character ≠ '{') →
      IsLexeme (.text content)
  | brace : IsLexeme .brace

/-- Whether a token is the longest one that a text starts with. -/
structure IsLongest (token : Token) (text : Text) : Prop where
  isLexeme : IsLexeme token
  startsText : token.source <+: text
  isLongest : ∀ other, IsLexeme other → other.source <+: text →
    other.source.length ≤ token.source.length

variable {token : Token} {tokens : List Token}

private theorem IsTag.exists_source
    (isTag : IsTag token) :
    ∃ behind, token.source = '{' :: behind := by
  cases isTag <;> exact ⟨_, rfl⟩

private theorem IsLexeme.source_ne_nil
    (isLexeme : IsLexeme token) :
    token.source ≠ [] := by
  cases isLexeme with
  | tag isTag =>
      obtain ⟨behind, isSource⟩ := isTag.exists_source
      rw [isSource]
      exact List.cons_ne_nil _ _
  | text notEmpty _ =>
      exact notEmpty
  | brace =>
      exact List.cons_ne_nil _ _

/-- A text that starts with a brace does not start with text that has none. -/
private theorem not_prefix_of_brace
    {content behind : Text}
    (notEmpty : content ≠ [])
    (noBrace : ∀ character ∈ content, character ≠ '{') :
    ¬ content <+: '{' :: behind := by
  obtain ⟨first, later, rfl⟩ := List.exists_cons_of_ne_nil notEmpty
  intro isStart
  exact noBrace first List.mem_cons_self (List.cons_prefix_cons.mp isStart).1

/-- Text without braces ends where a brace follows. -/
private theorem length_le_of_brace
    {content other behind after : Text}
    (noBrace : ∀ character ∈ other, character ≠ '{')
    (isBrace : ∀ first ∈ after.head?, first = '{')
    (isStart : other ++ behind = content ++ after) :
    other.length ≤ content.length := by
  rcases List.append_eq_append_iff.mp isStart with ⟨_, rfl, _⟩ | ⟨between, rfl, isBehind⟩
  · rw [List.length_append]
    exact Nat.le_add_right _ _
  · cases between with
    | nil =>
        rw [List.append_nil]
    | cons first more =>
        -- Longer text would have the brace in it.
        refine absurd (isBrace first ?_) (noBrace first ?_)
        · rw [isBehind]
          rfl
        · exact List.mem_append_right _ List.mem_cons_self

/-- In a list of the shape of tokens each token is the longest at its place. -/
theorem Lexed.isLongest
    {later : List Token}
    (lexed : Lexed (token :: later)) :
    IsLongest token (token.source ++ sourceOf later) := by
  refine ⟨?_, List.prefix_append _ _, ?_⟩
  · cases lexed with
    | tag isTag _ => exact .tag isTag
    | text notEmpty noBrace _ _ => exact .text notEmpty noBrace
    | brace _ _ => exact .brace
  intro other isLexeme ⟨behind, isStart⟩
  cases lexed with
  | tag isTag _ =>
      obtain ⟨inside, isSource⟩ := isTag.exists_source
      cases isLexeme with
      | @tag other isOther =>
          -- A tag is read in one way only.
          have whole : '{' :: (inside ++ sourceOf later) = token.source ++ sourceOf later := by
            rw [isSource, List.cons_append]
          have readsOther := tag?_of_isTag isOther (whole.trans isStart.symm)
          rw [tag?_of_isTag isTag whole] at readsOther
          obtain ⟨rfl, -⟩ := Prod.mk.inj (Option.some.inj readsOther)
          exact Nat.le_refl _
      | text notEmpty noBrace =>
          rw [isSource, List.cons_append] at isStart
          exact absurd ⟨behind, isStart⟩ (not_prefix_of_brace notEmpty noBrace)
      | brace =>
          rw [isSource]
          exact Nat.succ_le_succ (Nat.zero_le _)
  | text notEmpty noBrace notText lexedLater =>
      cases isLexeme with
      | tag isOther =>
          obtain ⟨inside, isSource⟩ := isOther.exists_source
          obtain ⟨first, others, rfl⟩ := List.exists_cons_of_ne_nil notEmpty
          rw [isSource] at isStart
          exact absurd (List.cons.inj isStart).1.symm (noBrace first List.mem_cons_self)
      | text _ otherNoBrace =>
          exact length_le_of_brace otherNoBrace (lexedLater.head?_sourceOf notText) isStart
      | brace =>
          exact List.length_pos_of_ne_nil notEmpty
  | brace notFound _ =>
      cases isLexeme with
      | tag isOther =>
          have found : tag? (sourceOf _) = some (_, behind) :=
            tag?_of_isTag isOther isStart.symm
          rw [notFound] at found
          contradiction
      | text otherNotEmpty otherNoBrace =>
          exact absurd ⟨behind, isStart⟩ (not_prefix_of_brace otherNotEmpty otherNoBrace)
      | brace =>
          exact Nat.le_refl _

/-- By itself a lexeme is a list of the shape of tokens. -/
theorem IsLexeme.lexed
    (isLexeme : IsLexeme token) :
    Lexed [token] := by
  cases isLexeme with
  | tag isTag =>
      exact .tag isTag .nil
  | text notEmpty noBrace =>
      exact .text notEmpty noBrace (fun startsWithText => startsWithText) .nil
  | brace =>
      exact .brace rfl .nil

/-- A text starts with one longest token at most. -/
theorem IsLongest.unique
    {other : Token}
    {text : Text}
    (isLongest : IsLongest token text)
    (otherLongest : IsLongest other text) :
    other = token := by
  have sameLength : other.source.length = token.source.length :=
    Nat.le_antisymm (isLongest.isLongest other otherLongest.isLexeme otherLongest.startsText)
      (otherLongest.isLongest token isLongest.isLexeme isLongest.startsText)
  have sameSource : other.source = token.source :=
    (List.prefix_of_prefix_length_le otherLongest.startsText isLongest.startsText
      (Nat.le_of_eq sameLength)).eq_of_length sameLength
  have readsOther := otherLongest.isLexeme.lexed.ofTemplate_sourceOf
  have sameSources : sourceOf [other] = sourceOf [token] := by
    rw [sourceOf_cons, sourceOf_cons, sameSource]
  rw [sameSources, isLongest.isLexeme.lexed.ofTemplate_sourceOf] at readsOther
  exact (List.singleton_inj.mp readsOther).symm

private theorem Lexed.isLexeme
    (lexed : Lexed tokens) :
    ∀ token ∈ tokens, IsLexeme token := by
  intro token member
  obtain ⟨before, later, rfl⟩ := List.append_of_mem member
  exact lexed.of_append_right.isLongest.isLexeme

end Token

/-! ## Places -/

/-- A token with the offsets of a text between which it stands. -/
structure PlacedToken where
  token : Token
  start : Nat
  stop : Nat
  deriving Repr, DecidableEq

namespace PlacedToken

/-- Tokens with their places when the first of them stands at an offset. -/
def allFrom : (offset : Nat) → List Token → List PlacedToken
  | _, [] => []
  | offset, token :: later =>
      let stop := offset + token.source.byteLength
      ⟨token, offset, stop⟩ :: allFrom stop later

/-- The tokens of a template with their places in it. -/
def ofTemplate (template : Text) : List PlacedToken :=
  allFrom 0 (Token.ofTemplate template)

/-- A token at a place so many bytes further on. -/
def shift (distance : Nat) (placed : PlacedToken) : PlacedToken :=
  ⟨placed.token, distance + placed.start, distance + placed.stop⟩

/-- Whether a token stands between two offsets. -/
def isWithin (first last : Nat) (placed : PlacedToken) : Bool :=
  first ≤ placed.start && placed.stop ≤ last

/-- Whether one of some tokens starts or stops at an offset. -/
def IsBoundary (tokens : List PlacedToken) (offset : Nat) : Prop :=
  ∃ placed ∈ tokens, offset = placed.start ∨ offset = placed.stop

/-- Whether tokens go from one offset to another without gaps, none of them at an empty place. -/
inductive Tile : (start stop : Nat) → List PlacedToken → Prop where
  | nil {offset : Nat} :
      Tile offset offset []
  | cons {token : Token} {start gap stop : Nat} {later : List PlacedToken} :
      start < gap →
      Tile gap stop later →
      Tile start stop (⟨token, start, gap⟩ :: later)

private theorem Tile.le
    {start stop : Nat}
    {tokens : List PlacedToken}
    (tile : Tile start stop tokens) :
    start ≤ stop := by
  induction tile with
  | nil =>
      exact Nat.le_refl _
  | cons isOrdered _ inductionHypothesis =>
      exact Nat.le_trans (Nat.le_of_lt isOrdered) inductionHypothesis

/-- Tokens that tile a range stand in it. -/
private theorem Tile.mem_bounds
    {start stop : Nat}
    {tokens : List PlacedToken}
    {placed : PlacedToken}
    (tile : Tile start stop tokens)
    (member : placed ∈ tokens) :
    start ≤ placed.start ∧ placed.start < placed.stop ∧ placed.stop ≤ stop := by
  induction tile with
  | nil =>
      contradiction
  | cons isOrdered tileLater inductionHypothesis =>
      rcases List.mem_cons.mp member with rfl | isLater
      · exact ⟨Nat.le_refl _, isOrdered, tileLater.le⟩
      · obtain ⟨isBehind, isInside⟩ := inductionHypothesis isLater
        exact ⟨Nat.le_trans (Nat.le_of_lt isOrdered) isBehind, isInside⟩

/-- Whether a token stands in a template where it says and is the longest one there. -/
def IsLongestIn (template : Text) (placed : PlacedToken) : Prop :=
  ∃ before after,
    template = before ++ after ∧ before.byteLength = placed.start ∧
      (before ++ placed.token.source).byteLength = placed.stop ∧
        Token.IsLongest placed.token after

/-- Whether tokens tile a template and each of them is the longest one at its place. -/
structure AreLexed (template : Text) (tokens : List PlacedToken) : Prop where
  tile : Tile 0 template.byteLength tokens
  areLongest : ∀ placed ∈ tokens, placed.IsLongestIn template

/-! ## The places of tokens in a row -/

/-- Tokens are placed list by list. -/
private theorem allFrom_append
    (offset : Nat)
    (front back : List Token) :
    allFrom offset (front ++ back) =
      allFrom offset front ++ allFrom (offset + (Token.sourceOf front).byteLength) back := by
  induction front generalizing offset with
  | nil =>
      rfl
  | cons token later inductionHypothesis =>
      rw [List.cons_append, allFrom, allFrom, inductionHypothesis, Token.sourceOf_cons,
        Text.byteLength_append, Nat.add_assoc, List.cons_append]

/-- Shifting placed tokens places them from a shifted offset. -/
private theorem map_shift_allFrom
    (distance offset : Nat)
    (tokens : List Token) :
    (allFrom offset tokens).map (shift distance) = allFrom (distance + offset) tokens := by
  induction tokens generalizing offset with
  | nil =>
      rfl
  | cons token later inductionHypothesis =>
      rw [allFrom, allFrom, List.map_cons, inductionHypothesis, Nat.add_assoc]
      rfl

/-- Tokens placed one behind the other tile their source. -/
theorem tile_allFrom
    {tokens : List Token}
    (areLexemes : ∀ token ∈ tokens, Token.IsLexeme token)
    (offset : Nat) :
    Tile offset (offset + (Token.sourceOf tokens).byteLength) (allFrom offset tokens) := by
  induction tokens generalizing offset with
  | nil =>
      exact .nil
  | cons token later inductionHypothesis =>
      obtain ⟨isLexeme, laterLexemes⟩ := List.forall_mem_cons.mp areLexemes
      have notEmpty := Text.byteLength_pos isLexeme.source_ne_nil
      have tileLater := inductionHypothesis laterLexemes (offset + token.source.byteLength)
      rw [Token.sourceOf_cons, Text.byteLength_append, ← Nat.add_assoc]
      exact .cons (Nat.lt_add_of_pos_right notEmpty) tileLater

/-- A token in a row stands behind the sources of those in front of it. -/
private theorem exists_of_mem_allFrom
    {offset : Nat}
    {tokens : List Token}
    {placed : PlacedToken}
    (member : placed ∈ allFrom offset tokens) :
    ∃ front back,
      tokens = front ++ placed.token :: back ∧
        placed.start = offset + (Token.sourceOf front).byteLength ∧
          placed.stop = placed.start + placed.token.source.byteLength := by
  induction tokens generalizing offset with
  | nil =>
      contradiction
  | cons token later inductionHypothesis =>
      rcases List.mem_cons.mp member with rfl | isLater
      · exact ⟨[], later, rfl, rfl, rfl⟩
      · obtain ⟨front, back, rfl, isStart, isStop⟩ := inductionHypothesis isLater
        refine ⟨token :: front, back, rfl, ?_, isStop⟩
        rw [isStart, Token.sourceOf_cons, Text.byteLength_append, Nat.add_assoc]

/-- At a boundary the tokens are those in front of it and those behind it. -/
theorem exists_of_isBoundary
    {offset : Nat}
    {tokens : List Token}
    (isBoundary : IsBoundary (allFrom 0 tokens) offset) :
    ∃ front back, tokens = front ++ back ∧ (Token.sourceOf front).byteLength = offset := by
  obtain ⟨placed, member, isEnd⟩ := isBoundary
  obtain ⟨front, back, rfl, isStart, isStop⟩ := exists_of_mem_allFrom member
  rw [Nat.zero_add] at isStart
  rcases isEnd with rfl | rfl
  · exact ⟨front, placed.token :: back, rfl, isStart.symm⟩
  · refine ⟨front ++ [placed.token], back, by simp, ?_⟩
    rw [isStop, isStart, Token.sourceOf_append, Text.byteLength_append, Token.sourceOf_cons,
      Token.sourceOf_nil, List.append_nil]

/-- Of tokens in a row, those between two boundaries are the ones that stand within them. -/
theorem filter_isWithin
    {front between back : List Token}
    (areLexemes : ∀ token ∈ front ++ (between ++ back), Token.IsLexeme token) :
    (allFrom 0 (front ++ (between ++ back))).filter
        (isWithin (Token.sourceOf front).byteLength
          (Token.sourceOf (front ++ between)).byteLength) =
      allFrom (Token.sourceOf front).byteLength between := by
  obtain ⟨frontLexemes, restLexemes⟩ := List.forall_mem_append.mp areLexemes
  obtain ⟨betweenLexemes, backLexemes⟩ := List.forall_mem_append.mp restLexemes
  have tileFront := tile_allFrom frontLexemes 0
  have tileBetween := tile_allFrom betweenLexemes (Token.sourceOf front).byteLength
  have tileBack := tile_allFrom backLexemes
    ((Token.sourceOf front).byteLength + (Token.sourceOf between).byteLength)
  rw [Nat.zero_add] at tileFront
  rw [Token.sourceOf_append, Text.byteLength_append, allFrom_append, allFrom_append, Nat.zero_add,
    List.filter_append, List.filter_append]
  have noneInFront : (allFrom 0 front).filter (isWithin (Token.sourceOf front).byteLength
      ((Token.sourceOf front).byteLength + (Token.sourceOf between).byteLength)) = [] := by
    refine List.filter_eq_nil_iff.mpr fun placed member => ?_
    obtain ⟨-, isOrdered, isInFront⟩ := tileFront.mem_bounds member
    simp only [isWithin, Bool.and_eq_true, decide_eq_true_eq, not_and]
    omega
  have allBetween : (allFrom (Token.sourceOf front).byteLength between).filter
      (isWithin (Token.sourceOf front).byteLength
        ((Token.sourceOf front).byteLength + (Token.sourceOf between).byteLength)) =
      allFrom (Token.sourceOf front).byteLength between := by
    refine List.filter_eq_self.mpr fun placed member => ?_
    obtain ⟨isBehind, -, isInside⟩ := tileBetween.mem_bounds member
    simp only [isWithin, Bool.and_eq_true, decide_eq_true_eq]
    exact ⟨isBehind, isInside⟩
  have noneBehind : (allFrom ((Token.sourceOf front).byteLength +
      (Token.sourceOf between).byteLength) back).filter
      (isWithin (Token.sourceOf front).byteLength
        ((Token.sourceOf front).byteLength + (Token.sourceOf between).byteLength)) = [] := by
    refine List.filter_eq_nil_iff.mpr fun placed member => ?_
    obtain ⟨isBehind, isOrdered, -⟩ := tileBack.mem_bounds member
    simp only [isWithin, Bool.and_eq_true, decide_eq_true_eq, not_and]
    omega
  rw [noneInFront, allBetween, noneBehind, List.append_nil, List.nil_append]

/-- Between two boundaries in order the tokens are a stretch of all of them. -/
theorem exists_of_isBoundary_le
    {first last : Nat}
    {tokens : List Token}
    (areLexemes : ∀ token ∈ tokens, Token.IsLexeme token)
    (isFirst : IsBoundary (allFrom 0 tokens) first)
    (isLast : IsBoundary (allFrom 0 tokens) last)
    (inOrder : first ≤ last) :
    ∃ front between back,
      tokens = front ++ (between ++ back) ∧ (Token.sourceOf front).byteLength = first ∧
        (Token.sourceOf (front ++ between)).byteLength = last := by
  obtain ⟨front, rest, rfl, rfl⟩ := exists_of_isBoundary isFirst
  obtain ⟨upToLast, back, isSplit, rfl⟩ := exists_of_isBoundary isLast
  rcases List.append_eq_append_iff.mp isSplit with
    ⟨between, rfl, rfl⟩ | ⟨between, rfl, rfl⟩
  · exact ⟨front, between, back, rfl, rfl, rfl⟩
  · -- The boundaries are one, since no readable token is empty.
    have noneBetween : between = [] := by
      cases between with
      | nil =>
          rfl
      | cons token more =>
          have isLexeme := areLexemes token (by simp)
          have notEmpty := Text.byteLength_pos isLexeme.source_ne_nil
          rw [Token.sourceOf_append, Token.sourceOf_cons, Text.byteLength_append,
            Text.byteLength_append] at inOrder
          omega
    subst noneBetween
    exact ⟨upToLast, [], rest, by simp, by simp, by simp⟩

/-! ## The places of the tokens of a template -/

/-- The tokens of a template tile it and are the longest ones. -/
theorem areLexed_ofTemplate (template : Text) : AreLexed template (ofTemplate template) := by
  have lexed := Token.lexed_ofTemplate template
  have isSource := Token.sourceOf_ofTemplate template
  unfold ofTemplate
  generalize Token.ofTemplate template = tokens at lexed isSource
  subst isSource
  constructor
  case tile =>
    have tile := tile_allFrom lexed.isLexeme 0
    rwa [Nat.zero_add] at tile
  case areLongest =>
    intro placed member
    obtain ⟨front, back, rfl, isStart, isStop⟩ := exists_of_mem_allFrom member
    rw [Nat.zero_add] at isStart
    refine ⟨Token.sourceOf front, placed.token.source ++ Token.sourceOf back, ?_, isStart.symm, ?_,
      lexed.of_append_right.isLongest⟩
    · rw [Token.sourceOf_append, Token.sourceOf_cons]
    · rw [Text.byteLength_append, isStop, isStart]

/-- Tokens that go on tiling a text, each the longest at its place, are those of the text. -/
theorem eq_allFrom_of_tile
    {before : Text}
    {tokens : List Token}
    {others : List PlacedToken}
    (lexed : Token.Lexed tokens)
    (tile : Tile before.byteLength (before ++ Token.sourceOf tokens).byteLength others)
    (areLongest : ∀ placed ∈ others, placed.IsLongestIn (before ++ Token.sourceOf tokens)) :
    others = allFrom before.byteLength tokens := by
  induction others generalizing before tokens with
  | nil =>
      rw [Text.byteLength_append] at tile
      generalize isStop : before.byteLength + (Token.sourceOf tokens).byteLength = stop at tile
      cases tile with
      | nil =>
          cases tokens with
          | nil =>
              rfl
          | cons token later =>
              have notEmpty := Text.byteLength_pos
                (lexed.isLexeme token List.mem_cons_self).source_ne_nil
              rw [Token.sourceOf_cons, Text.byteLength_append] at isStop
              omega
  | cons placed later inductionHypothesis =>
      obtain ⟨isLongest, laterLongest⟩ := List.forall_mem_cons.mp areLongest
      obtain ⟨front, after, isWhole, isStart, isStop, isLongest⟩ := isLongest
      generalize isOffset : before.byteLength = offset at tile
      cases tile with
      | @cons other _ gap _ _ _ tileLater =>
          obtain ⟨rfl, rfl⟩ := Text.append_inj_of_byteLength isWhole (isOffset.trans isStart.symm)
          cases tokens with
          | nil =>
              have startsNothing := List.eq_nil_of_prefix_nil isLongest.startsText
              exact absurd startsNothing isLongest.isLexeme.source_ne_nil
          | cons token rest =>
              obtain rfl := lexed.isLongest.unique isLongest
              have isBehind : before ++ Token.sourceOf (other :: rest) =
                  before ++ other.source ++ Token.sourceOf rest := by
                rw [Token.sourceOf_cons, List.append_assoc]
              rw [isBehind] at tileLater laterLongest
              obtain rfl : (before ++ other.source).byteLength = gap := isStop
              have lexedRest : Token.Lexed ([other] ++ rest) := lexed
              rw [inductionHypothesis lexedRest.of_append_right tileLater laterLongest, allFrom,
                ← isOffset, Text.byteLength_append]

/-- Longest tokens that tile a template are the tokens of the template. -/
theorem AreLexed.eq_ofTemplate
    {template : Text}
    {others : List PlacedToken}
    (areLexed : AreLexed template others) :
    others = ofTemplate template := by
  obtain ⟨tile, areLongest⟩ := areLexed
  have isSource := Token.sourceOf_ofTemplate template
  rw [← isSource] at tile areLongest
  have isStart : (0 : Nat) = Text.byteLength [] := rfl
  rw [isStart] at tile
  exact eq_allFrom_of_tile (Token.lexed_ofTemplate template) tile areLongest

/--
The tokens of a template are the only ones that tile it, each of them the longest one at its place.
Of the text between two boundaries the tokens are those that stand between these boundaries, at
places that are counted from the first of them.
-/
theorem ofTemplate_tiles_and_restricts (template : Text) :
    (∀ tokens, AreLexed template tokens ↔ tokens = ofTemplate template) ∧
      ∀ first last,
        IsBoundary (ofTemplate template) first →
        IsBoundary (ofTemplate template) last →
        first ≤ last →
          ∃ slice,
            Division.Holds template (first, last) slice ∧
              (ofTemplate slice).map (shift first) =
                (ofTemplate template).filter (isWithin first last) := by
  constructor
  · intro tokens
    constructor
    · exact AreLexed.eq_ofTemplate
    · rintro rfl
      exact areLexed_ofTemplate template
  · intro first last isFirst isLast inOrder
    have lexed := Token.lexed_ofTemplate template
    have isSource := Token.sourceOf_ofTemplate template
    unfold ofTemplate at isFirst isLast ⊢
    generalize Token.ofTemplate template = tokens at lexed isSource isFirst isLast
    subst isSource
    obtain ⟨front, between, back, rfl, rfl, rfl⟩ :=
      exists_of_isBoundary_le lexed.isLexeme isFirst isLast inOrder
    have readsBetween : Token.ofTemplate (Token.sourceOf between) = between :=
      lexed.of_append_right.of_append_left.ofTemplate_sourceOf
    refine ⟨Token.sourceOf between, ⟨Token.sourceOf front, Token.sourceOf back, ?_, rfl, ?_⟩, ?_⟩
    · rw [Token.sourceOf_append, Token.sourceOf_append, List.append_assoc]
    · rw [Token.sourceOf_append]
    · rw [readsBetween, filter_isWithin lexed.isLexeme, map_shift_allFrom, Nat.add_zero]

/-- A brace in front of a tag, and two braces in front of a name that no tag has. -/
def braces : Text :=
  "\x7b\x7b\x7ba\x7d\x7d b\x7b\x7bc".toList

private theorem ofTemplate_braces :
    ofTemplate braces =
      [⟨.brace, 0, 1⟩, ⟨.variable ['a'], 1, 6⟩, ⟨.text [' ', 'b'], 6, 8⟩, ⟨.brace, 8, 9⟩,
        ⟨.brace, 9, 10⟩, ⟨.text ['c'], 10, 11⟩] := by
  have isSource : braces = Token.sourceOf
      [.brace, .variable ['a'], .text [' ', 'b'], .brace, .brace, .text ['c']] := by
    decide
  have lexed : Token.Lexed
      [.brace, .variable ['a'], .text [' ', 'b'], .brace, .brace, .text ['c']] := by
    have lastText : Token.Lexed [.text ['c']] :=
      .text (by decide) (by decide) (fun startsWithText => startsWithText) .nil
    refine .brace (by decide) (.tag (.ofVariable ⟨by decide, by decide⟩) ?_)
    exact .text (by decide) (by decide) (fun startsWithText => startsWithText)
      (.brace (by decide) (.brace (by decide) lastText))
  rw [ofTemplate, isSource, lexed.ofTemplate_sourceOf]
  rfl

/-- The tag by itself with what is between it and the second of the last braces. -/
theorem ofTemplate_tiles_and_restricts_braces :
    IsBoundary (ofTemplate braces) 1 ∧ IsBoundary (ofTemplate braces) 9 ∧
      ∃ slice,
        Division.Holds braces (1, 9) slice ∧
          (ofTemplate slice).map (shift 1) =
            [⟨.variable ['a'], 1, 6⟩, ⟨.text [' ', 'b'], 6, 8⟩, ⟨.brace, 8, 9⟩] := by
  have tokens := ofTemplate_braces
  have isFirst : IsBoundary (ofTemplate braces) 1 :=
    ⟨⟨.brace, 0, 1⟩, by simp [tokens], .inr rfl⟩
  have isLast : IsBoundary (ofTemplate braces) 9 :=
    ⟨⟨.brace, 8, 9⟩, by simp [tokens], .inr rfl⟩
  obtain ⟨slice, holds, restricts⟩ :=
    (ofTemplate_tiles_and_restricts braces).2 1 9 isFirst isLast (by decide)
  rw [tokens] at restricts
  exact ⟨isFirst, isLast, slice, holds, restricts⟩

end PlacedToken

end ComponentPages
