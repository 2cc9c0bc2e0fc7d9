import ComponentPages.Proofs.Source.FirstSeparator
import ComponentPages.Proofs.Source.Scope

namespace ComponentPages

/-!
# Reading bytes

Source text can be read byte by byte, from any offset on. Only ASCII characters count for anything,
and the bytes of other characters are passed over. So a walk through the bytes of a text visits what
counts like a reading of its characters meets it, also if the walk starts inside a character or
beyond the text.
-/

namespace Bytewise

/-! ## Bytes that count -/

/-- Whether a byte is that of one of some characters. -/
def isOneOf (characters : List Char) (byte : UInt8) : Bool :=
  characters.any (Utf8.byteOf · == byte)

/--
The byte of an ASCII character is one of those of ASCII characters exactly if the character is.
-/
theorem isOneOf_byteOf
    {characters : List Char}
    {character : Char}
    (areAscii : ∀ other ∈ characters, other.toNat < 128)
    (isAscii : character.toNat < 128) :
    isOneOf characters (Utf8.byteOf character) = characters.contains character := by
  rw [Bool.eq_iff_iff, isOneOf, List.any_eq_true, List.contains_iff_mem]
  constructor
  · rintro ⟨other, member, isSame⟩
    rwa [← (Utf8.byteOf_inj (areAscii other member) isAscii).mp (beq_iff_eq.mp isSame)]
  · exact fun member => ⟨character, member, beq_self_eq_true _⟩

/-- A byte beyond ASCII is none of those of ASCII characters. -/
theorem isOneOf_of_le
    {characters : List Char}
    {byte : UInt8}
    (areAscii : ∀ other ∈ characters, other.toNat < 128)
    (isBeyond : 128 ≤ byte.toNat) :
    isOneOf characters byte = false := by
  rw [isOneOf, List.any_eq_false]
  intro other member isSame
  exact Utf8.ne_byteOf_of_le isBeyond (areAscii other member) (beq_iff_eq.mp isSame).symm

/-- A character beyond ASCII is none of the ASCII characters. -/
theorem contains_of_not_isAscii
    {characters : List Char}
    {character : Char}
    (areAscii : ∀ other ∈ characters, other.toNat < 128)
    (notAscii : ¬ character.toNat < 128) :
    characters.contains character = false := by
  rw [← Bool.not_eq_true, List.contains_iff_mem]
  exact fun member => notAscii (areAscii character member)

/-- The opening delimiters. -/
def openers : List Char :=
  ['{', '(', '[']

/-- The closing delimiters. -/
def closers : List Char :=
  ['}', ')', ']']

/-- The three quotes. -/
def quotes : List Char :=
  ['\x22', '\'', '\x60']

/-- Openers are ASCII characters. -/
theorem areAscii_openers : ∀ character ∈ openers, character.toNat < 128 := by
  decide

/-- Closers are ASCII characters. -/
theorem areAscii_closers : ∀ character ∈ closers, character.toNat < 128 := by
  decide

private theorem areAscii_quotes : ∀ character ∈ quotes, character.toNat < 128 := by
  decide

/-- The openers on bytes are the openers. -/
theorem contains_openers (character : Char) : openers.contains character = isOpener character := by
  simp only [openers, isOpener, List.contains_cons, List.contains_nil, Bool.or_false, Bool.or_assoc]

/-- The closers on bytes are the closers. -/
theorem contains_closers (character : Char) : closers.contains character = isCloser character := by
  simp only [closers, isCloser, List.contains_cons, List.contains_nil, Bool.or_false, Bool.or_assoc]

private theorem contains_quotes (character : Char) :
    quotes.contains character = isQuote character := by
  simp only [quotes, isQuote, List.contains_cons, List.contains_nil, Bool.or_false, Bool.or_assoc]

/-! ## The tracker -/

/-- What is known after some bytes have been read. -/
structure Tracker where
  /-- Openers less closers, outside literals. -/
  depth : Int := 0
  /-- The quote of the literal that is still open. -/
  quote : Option UInt8 := none
  deriving Repr, DecidableEq

namespace Tracker

/-- Whether a literal is open. -/
def inLiteral (tracker : Tracker) : Bool :=
  tracker.quote.isSome

/-- The role of the next byte, which a backslash precedes or not. -/
def role (tracker : Tracker) (escaped : Bool) (byte : UInt8) : Role :=
  if tracker.inLiteral then
    .literal
  else if isOneOf quotes byte && !escaped then
    .literal
  else if isOneOf openers byte then
    .opener
  else if isOneOf closers byte then
    .closer
  else
    .plain

/-- The quote that is open once the next byte has been read. -/
def quoteAfter (tracker : Tracker) (escaped : Bool) (byte : UInt8) : Option UInt8 :=
  match tracker.quote with
  | some quote =>
      if byte = quote && !escaped then none else some quote
  | none =>
      if isOneOf quotes byte && !escaped then some byte else none

/-- The tracker behind a byte. -/
def next (tracker : Tracker) (escaped : Bool) (byte : UInt8) : Tracker where
  depth :=
    match tracker.role escaped byte with
    | .opener => tracker.depth + 1
    | .closer => tracker.depth - 1
    | _ => tracker.depth
  quote := tracker.quoteAfter escaped byte

/-- Whether a tracker knows of bytes what a reading knows of their characters. -/
structure Follows (tracker : Tracker) (reading : Reading) : Prop where
  depth : tracker.depth = reading.depth
  quote : tracker.quote = reading.quote.map Utf8.byteOf
  isAscii : ∀ quote ∈ reading.quote, quote.toNat < 128

variable {tracker : Tracker} {reading : Reading} {character : Char} {byte : UInt8}

/-- A tracker starts as a reading does. -/
theorem follows_start (escaped : Bool) : Follows {} ⟨0, none, escaped⟩ :=
  ⟨rfl, rfl, fun _ isOpen => absurd isOpen (by simp)⟩

/-- A tracker that follows a reading is in a literal exactly if the reading is. -/
theorem Follows.inLiteral
    (follows : tracker.Follows reading) :
    tracker.inLiteral = reading.inLiteral := by
  rw [Tracker.inLiteral, follows.quote, Option.isSome_map, Reading.inLiteral]

private theorem Follows.role
    (follows : tracker.Follows reading)
    (isAscii : character.toNat < 128) :
    tracker.role reading.escaped (Utf8.byteOf character) = reading.role character := by
  rw [Tracker.role, Reading.role, follows.inLiteral, isOneOf_byteOf areAscii_quotes isAscii,
    isOneOf_byteOf areAscii_openers isAscii, isOneOf_byteOf areAscii_closers isAscii,
    contains_quotes, contains_openers, contains_closers]

private theorem Follows.quoteAfter
    (follows : tracker.Follows reading)
    (isAscii : character.toNat < 128) :
    tracker.quoteAfter reading.escaped (Utf8.byteOf character) =
      (reading.quoteAfter character).map Utf8.byteOf := by
  rw [Tracker.quoteAfter, Reading.quoteAfter, follows.quote,
    isOneOf_byteOf areAscii_quotes isAscii, contains_quotes]
  cases isOpen : reading.quote with
  | none =>
      dsimp only [Option.map_none]
      split <;> rfl
  | some quote =>
      have quoteAscii := follows.isAscii quote isOpen
      simp only [Option.map_some, Utf8.byteOf_inj isAscii quoteAscii]
      split <;> rfl

/-- A tracker goes on following behind an ASCII character. -/
theorem Follows.next
    (follows : tracker.Follows reading)
    (isAscii : character.toNat < 128) :
    (tracker.next reading.escaped (Utf8.byteOf character)).Follows (reading.next character) where
  depth := by
    cases isRole : reading.role character <;>
      simp only [Tracker.next, Reading.next, follows.role isAscii, isRole, follows.depth]
  quote := follows.quoteAfter isAscii
  isAscii := by
    intro quote isNext
    have isOpen : reading.quoteAfter character = some quote := isNext
    rw [Reading.quoteAfter] at isOpen
    split at isOpen
    · rename_i other isOther
      split at isOpen
      · contradiction
      · exact Option.some.inj isOpen ▸ follows.isAscii other isOther
    · split at isOpen
      · exact Option.some.inj isOpen ▸ isAscii
      · contradiction

/-! ## Bytes beyond ASCII -/

/-- A byte beyond ASCII is part of a literal, or plain. -/
private theorem role_of_le
    (isBeyond : 128 ≤ byte.toNat)
    (tracker : Tracker)
    (escaped : Bool) :
    tracker.role escaped byte = if tracker.inLiteral then .literal else .plain := by
  rw [role, isOneOf_of_le areAscii_quotes isBeyond, isOneOf_of_le areAscii_openers isBeyond,
    isOneOf_of_le areAscii_closers isBeyond]
  rfl

/-- A byte beyond ASCII changes nothing. -/
theorem Follows.next_of_le
    (follows : tracker.Follows reading)
    (isBeyond : 128 ≤ byte.toNat)
    (escaped : Bool) :
    tracker.next escaped byte = tracker := by
  have isDepth : (tracker.next escaped byte).depth = tracker.depth := by
    rw [Tracker.next, role_of_le isBeyond]
    cases tracker.inLiteral <;> rfl
  have isQuote : (tracker.next escaped byte).quote = tracker.quote := by
    rw [Tracker.next, Tracker.quoteAfter, isOneOf_of_le areAscii_quotes isBeyond, follows.quote]
    cases isOpen : reading.quote with
    | none =>
        rfl
    | some quote =>
        have noQuote := Utf8.ne_byteOf_of_le isBeyond (follows.isAscii quote isOpen)
        simp [noQuote]
  rcases isNext : tracker.next escaped byte with ⟨depth, quote⟩
  rw [isNext] at isDepth isQuote
  cases tracker
  rw [Tracker.mk.injEq]
  exact ⟨isDepth, isQuote⟩

/-- Behind a character beyond ASCII a reading knows what it knew, and no backslash precedes. -/
theorem Follows.next_eq
    (follows : tracker.Follows reading)
    (notAscii : ¬ character.toNat < 128) :
    reading.next character = { reading with escaped := false } := by
  have isNone {other : Char} (isAscii : other.toNat < 128) : character ≠ other :=
    fun isSame => notAscii (isSame ▸ isAscii)
  rcases reading with ⟨depth, quote, escaped⟩
  have noBackslash : (character == '\\') = false :=
    beq_eq_false_iff_ne.mpr (isNone (by decide))
  cases quote with
  | some quote =>
      rw [Reading.next_inside fun isSame => absurd isSame (isNone (follows.isAscii quote rfl)),
        noBackslash]
  | none =>
      have noOpener := contains_of_not_isAscii areAscii_openers notAscii
      have noCloser := contains_of_not_isAscii areAscii_closers notAscii
      have noQuote := contains_of_not_isAscii areAscii_quotes notAscii
      rw [contains_openers] at noOpener
      rw [contains_closers] at noCloser
      rw [contains_quotes] at noQuote
      have opensNothing : isQuote character = true → escaped = true := by
        rw [noQuote]
        exact fun isQuoting => absurd isQuoting Bool.false_ne_true
      rw [Reading.next_plain noOpener noCloser opensNothing, noBackslash]

/-- Whether a backslash precedes does not matter to a tracker. -/
theorem Follows.anew
    (follows : tracker.Follows reading)
    (escaped : Bool) :
    tracker.Follows { reading with escaped := escaped } :=
  ⟨follows.depth, follows.quote, follows.isAscii⟩

/-- A tracker that passes over a character beyond ASCII goes on following. -/
theorem Follows.beyond
    (follows : tracker.Follows reading)
    (notAscii : ¬ character.toNat < 128) :
    tracker.Follows (reading.next character) := by
  rw [follows.next_eq notAscii]
  exact follows.anew false

end Tracker

/-! ## Visits -/

/-- A byte on the way through a text, with its offset, its role, and the depth behind it. -/
structure Visit where
  offset : Nat
  byte : UInt8
  role : Role
  depth : Int
  deriving Repr, DecidableEq

/-- The visits of bytes at an offset, which a backslash precedes or not. -/
def visitsFrom (tracker : Tracker) (escaped : Bool) (offset : Nat) : Bytes → List Visit
  | [] => []
  | byte :: rest =>
      let next := tracker.next escaped byte
      ⟨offset, byte, tracker.role escaped byte, next.depth⟩ ::
        visitsFrom next (byte == Utf8.byteOf '\\') (offset + 1) rest

/-- Whether a backslash stands right in front of an offset. -/
def isEscapedAt (bytes : Bytes) (offset : Nat) : Bool :=
  offset != 0 && bytes[offset - 1]? == some (Utf8.byteOf '\\')

/-- The visits of the bytes from an offset on. -/
def visits (bytes : Bytes) (start : Nat) : List Visit :=
  visitsFrom {} (isEscapedAt bytes start) start (bytes.drop start)

/-- Whether a visit is one of a byte beyond ASCII, which is part of a literal or plain. -/
def Visit.IsIdle (visit : Visit) : Prop :=
  128 ≤ visit.byte.toNat ∧ visit.role ≠ .closer

variable {tracker : Tracker} {reading : Reading} {character : Char}

/-- Bytes beyond ASCII are visited in vain. -/
private theorem exists_idle
    (follows : tracker.Follows reading)
    (escaped : Bool)
    (offset : Nat)
    {beyond : Bytes}
    (areBeyond : ∀ byte ∈ beyond, 128 ≤ byte.toNat)
    (rest : Bytes) :
    ∃ idle, (∀ visit ∈ idle, visit.IsIdle) ∧
      visitsFrom tracker escaped offset (beyond ++ rest) =
        idle ++ visitsFrom tracker (escaped && beyond.isEmpty) (offset + beyond.length) rest := by
  induction beyond generalizing escaped offset with
  | nil =>
      refine ⟨[], List.forall_mem_nil _, ?_⟩
      rw [List.isEmpty_nil, Bool.and_true]
      rfl
  | cons byte later inductionHypothesis =>
      obtain ⟨isBeyond, areLater⟩ := List.forall_mem_cons.mp areBeyond
      have noBackslash : (byte == Utf8.byteOf '\\') = false :=
        beq_eq_false_iff_ne.mpr (Utf8.ne_byteOf_of_le isBeyond (by decide))
      obtain ⟨idle, areIdle, isWalk⟩ := inductionHypothesis false (offset + 1) areLater
      have isIdle : tracker.role escaped byte ≠ .closer := by
        rw [Tracker.role_of_le isBeyond]
        cases tracker.inLiteral <;> decide
      refine ⟨⟨offset, byte, tracker.role escaped byte, tracker.depth⟩ :: idle,
        List.forall_mem_cons.mpr ⟨⟨isBeyond, isIdle⟩, areIdle⟩, ?_⟩
      rw [List.cons_append, visitsFrom, follows.next_of_le isBeyond, noBackslash, isWalk]
      simp only [List.isEmpty_cons, Bool.and_false, Bool.false_and, List.length_cons,
        List.cons_append, Nat.add_assoc, Nat.add_comm 1]

/-- An ASCII character is visited like it is read. -/
private theorem visitsFrom_cons
    (follows : tracker.Follows reading)
    (isAscii : character.toNat < 128)
    (offset : Nat)
    (rest : Text) :
    visitsFrom tracker reading.escaped offset (Utf8.encode (character :: rest)) =
      ⟨offset, Utf8.byteOf character, reading.role character, (reading.next character).depth⟩ ::
        visitsFrom (tracker.next reading.escaped (Utf8.byteOf character))
          (reading.next character).escaped (offset + character.utf8Size) (Utf8.encode rest) := by
  rw [Utf8.encode_cons, Utf8.encodeCharacter_of_isAscii isAscii, List.singleton_append, visitsFrom,
    follows.role isAscii, (follows.next isAscii).depth, Utf8.beq_byteOf isAscii (by decide),
    Division.utf8Size_of_isAscii isAscii]
  rfl

/-- A character beyond ASCII is visited in vain. -/
private theorem exists_idle_cons
    (follows : tracker.Follows reading)
    (notAscii : ¬ character.toNat < 128)
    (offset : Nat)
    (rest : Text) :
    ∃ idle, (∀ visit ∈ idle, visit.IsIdle) ∧
      visitsFrom tracker reading.escaped offset (Utf8.encode (character :: rest)) =
        idle ++ visitsFrom tracker (reading.next character).escaped (offset + character.utf8Size)
          (Utf8.encode rest) := by
  obtain ⟨idle, areIdle, isWalk⟩ := exists_idle follows reading.escaped offset
    (fun byte => Utf8.le_of_mem_encodeCharacter notAscii) (Utf8.encode rest)
  refine ⟨idle, areIdle, ?_⟩
  rw [Utf8.encode_cons, isWalk, follows.next_eq notAscii, Utf8.length_encodeCharacter,
    List.isEmpty_eq_false_iff.mpr (Utf8.encodeCharacter_ne_nil character), Bool.and_false]

/-! ## Visits that count -/

/-- The visits of the characters of a text at an offset that count for something. -/
def placesWhere (holds : Reading → Char → Bool) : Reading → (offset : Nat) → Text → List Visit
  | _, _, [] => []
  | reading, offset, character :: rest =>
      let later :=
        placesWhere holds (reading.next character) (offset + character.utf8Size) rest
      if holds reading character then
        ⟨offset, Utf8.byteOf character, reading.role character, (reading.next character).depth⟩ ::
          later
      else
        later

/-- Whether what counts among visits is told by ASCII characters and the readings in front. -/
structure Tells (counts : Visit → Bool) (holds : Reading → Char → Bool) : Prop where
  ignores : ∀ visit, visit.IsIdle → counts visit = false
  isAscii : ∀ reading character, holds reading character = true → character.toNat < 128
  isSame : ∀ offset reading character, character.toNat < 128 →
    counts ⟨offset, Utf8.byteOf character, reading.role character,
      (reading.next character).depth⟩ = holds reading character

variable {counts : Visit → Bool} {holds : Reading → Char → Bool}

private theorem Tells.filter_idle
    (tells : Tells counts holds)
    {idle : List Visit}
    (areIdle : ∀ visit ∈ idle, visit.IsIdle)
    (others : List Visit) :
    (idle ++ others).filter counts = others.filter counts := by
  have countsNone : idle.filter counts = [] := by
    rw [List.filter_eq_nil_iff]
    intro visit member
    rw [tells.ignores visit (areIdle visit member)]
    exact Bool.false_ne_true
  rw [List.filter_append, countsNone, List.nil_append]

/-- Among the visits of the bytes of a text those of ASCII characters count. -/
theorem Tells.filter_visitsFrom
    (tells : Tells counts holds)
    (follows : tracker.Follows reading)
    (offset : Nat)
    (text : Text) :
    (visitsFrom tracker reading.escaped offset (Utf8.encode text)).filter counts =
      placesWhere holds reading offset text := by
  induction text generalizing tracker reading offset with
  | nil =>
      rfl
  | cons character rest inductionHypothesis =>
      rw [placesWhere]
      by_cases isAscii : character.toNat < 128
      · rw [visitsFrom_cons follows isAscii, List.filter_cons, tells.isSame _ _ _ isAscii,
          inductionHypothesis (follows.next isAscii)]
      · obtain ⟨idle, areIdle, isWalk⟩ := exists_idle_cons follows isAscii offset rest
        rw [isWalk, tells.filter_idle areIdle, inductionHypothesis (follows.beyond isAscii),
          if_neg fun isHeld => isAscii (tells.isAscii _ _ isHeld)]

/-! ## Where a walk starts -/

/-- What precedes a place in bytes is told by what precedes it in text. -/
theorem isEscapedAt_byteLength (before rest : Text) :
    isEscapedAt (Utf8.encode (before ++ rest)) before.byteLength =
      (Reading.behind before).escaped := by
  rcases Decidable.em (before = []) with rfl | notEmpty
  · rfl
  · have isBehind : (before.byteLength != 0) = true :=
      bne_iff_ne.mpr (Nat.ne_of_gt (Text.byteLength_pos notEmpty))
    rw [isEscapedAt, isBehind, Bool.true_and, Utf8.getElem?_encode_pred notEmpty, Reading.behind,
      Bool.eq_iff_iff, beq_iff_eq, beq_iff_eq, Utf8.getLast?_encode (by decide)]

/--
From any offset on stand the last bytes of a character that the offset cuts apart, and then the
text behind the offset.
-/
private theorem exists_tail
    (text : Text)
    (start : Nat) :
    ∃ tail, (∀ byte ∈ tail, 128 ≤ byte.toNat) ∧
      (Utf8.encode text).drop start = tail ++ Utf8.encode (text.cutAt start).2 ∧
        ((text.cutAt start).2 ≠ [] →
          start + tail.length = (text.cutAt start).1.byteLength ∧
            (isEscapedAt (Utf8.encode text) start && tail.isEmpty) =
              (Reading.behind (text.cutAt start).1).escaped) := by
  rcases Text.place_or_inside_or_beyond text start with
    ⟨before, rest, rfl, rfl⟩ |
      ⟨before, character, rest, inside, rfl, rfl, isPositive, isInside⟩ | isBeyond
  · rw [Text.cutAt_byteLength]
    refine ⟨[], List.forall_mem_nil _, Utf8.drop_encode before rest, fun _ => ⟨rfl, ?_⟩⟩
    rw [isEscapedAt_byteLength, List.isEmpty_nil, Bool.and_true]
  · have notAscii : ¬ character.toNat < 128 := by
      intro isAscii
      rw [Division.utf8Size_of_isAscii isAscii] at isInside
      omega
    have isShort : inside ≤ (Utf8.encodeCharacter character).length := by
      rw [Utf8.length_encodeCharacter]
      exact Nat.le_of_lt isInside
    rw [Text.cutAt_inside isPositive (Nat.le_of_lt isInside)]
    refine ⟨(Utf8.encodeCharacter character).drop inside, ?_, ?_, fun _ => ⟨?_, ?_⟩⟩
    · exact fun byte member => Utf8.le_of_mem_encodeCharacter notAscii (List.mem_of_mem_drop member)
    · rw [← List.drop_drop, Utf8.drop_encode, Utf8.encode_cons,
        List.drop_append_of_le_length isShort]
    · rw [List.length_drop, Utf8.length_encodeCharacter, Text.byteLength_append, Text.byteLength,
        Text.byteLength]
      omega
    · have notEmpty : ((Utf8.encodeCharacter character).drop inside).isEmpty = false := by
        rw [List.isEmpty_eq_false_iff, Ne, List.drop_eq_nil_iff, Utf8.length_encodeCharacter]
        exact Nat.not_le.mpr isInside
      have noBackslash : (some character == some '\\') = false := by
        rw [beq_eq_false_iff_ne]
        intro isSame
        rw [Option.some.inj isSame] at notAscii
        exact notAscii (by decide)
      rw [notEmpty, Bool.and_false, Reading.behind, List.getLast?_concat, noBackslash]
  · have isAfter : (Utf8.encode text).length ≤ start := by
      rw [Utf8.length_encode]
      exact Nat.le_of_lt isBeyond
    rw [Text.cutAt_of_le (Nat.le_of_lt isBeyond), List.drop_of_length_le isAfter]
    exact ⟨[], List.forall_mem_nil _, rfl, fun notEmpty => absurd rfl notEmpty⟩

/-- Wherever a walk starts, what counts is visited like the text behind the start is read. -/
theorem Tells.filter_visits
    (tells : Tells counts holds)
    (text : Text)
    (start : Nat) :
    (visits (Utf8.encode text) start).filter counts =
      placesWhere holds (Reading.behind (text.cutAt start).1) (text.cutAt start).1.byteLength
        (text.cutAt start).2 := by
  obtain ⟨tail, areBeyond, isTail, isPlaced⟩ := exists_tail text start
  obtain ⟨idle, areIdle, isWalk⟩ := exists_idle (Tracker.follows_start false)
    (isEscapedAt (Utf8.encode text) start) start areBeyond (Utf8.encode (text.cutAt start).2)
  rw [visits, isTail, isWalk, tells.filter_idle areIdle]
  rcases Decidable.em ((text.cutAt start).2 = []) with isEmpty | notEmpty
  · rw [isEmpty]
    rfl
  · obtain ⟨isOffset, isEscaped⟩ := isPlaced notEmpty
    rw [isOffset, isEscaped]
    exact tells.filter_visitsFrom (Tracker.follows_start _) _ _

end Bytewise

end ComponentPages
