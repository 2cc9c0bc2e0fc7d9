import ComponentPages.Source.Reading

namespace ComponentPages

/-!
# Division at the top level

A text is divided at the separators that stand outside literals at depth zero. A division keeps
each separator, so that the text can be put together again; its pieces also have places, given as
ranges of offsets.
-/

/-- A text divided at separators: the first piece, then each separator with the piece behind it. -/
structure Division where
  first : Text
  later : List (Char × Text)
  deriving Repr, DecidableEq

namespace Division

def pieces (division : Division) : List Text :=
  division.first :: division.later.map (·.2)

/-- The pieces and separators put together again. -/
def joined (division : Division) : Text :=
  division.first ++ division.later.flatMap fun (separator, piece) => separator :: piece

/-- The division with one more character in front of its first piece. -/
def push (character : Char) (division : Division) : Division :=
  { division with first := character :: division.first }

/-- The division with an empty piece and a separator in front. -/
def pushSeparator (separator : Char) (division : Division) : Division :=
  ⟨[], (separator, division.first) :: division.later⟩

/-- The division of the text that follows a reading. -/
def ofTextFrom (separates : Char → Bool) : Reading → Text → Division
  | _, [] => ⟨[], []⟩
  | reading, character :: rest =>
      let division := ofTextFrom separates (reading.next character) rest
      if reading.role character = .plain ∧ reading.depth = 0 ∧ separates character then
        pushSeparator character division
      else
        push character division

/-- The division of a text at its separators outside literals at depth zero. -/
def ofText (separates : Char → Bool) (text : Text) : Division :=
  ofTextFrom separates {} text

/-- The ranges of the pieces behind separators, the first of which stands at `offset`. -/
def laterSpans : Nat → List (Char × Text) → List (Nat × Nat)
  | _, [] => []
  | offset, (separator, piece) :: later =>
      let start := offset + separator.utf8Size
      let stop := start + piece.byteLength
      (start, stop) :: laterSpans stop later

def spans (division : Division) : List (Nat × Nat) :=
  (0, division.first.byteLength) :: laterSpans division.first.byteLength division.later

def segments (division : Division) : List Text :=
  (division.pieces.map Text.trim).filter (!·.isEmpty)

end Division

/-- The trimmed pieces of a text between its top-level separators, blank ones left out. -/
def topLevelSegments (separates : Char → Bool) (text : Text) : List Text :=
  (Division.ofText separates text).segments

/-! ## The first separator -/

/--
The text before and behind the first `needle` at depth zero outside literals. A closer that takes
the depth below zero ends the search.
-/
def breakTopLevelFrom? (needle : Char) : Reading → Text → Option (Text × Text)
  | _, [] => none
  | reading, character :: rest =>
      if reading.role character = .closer ∧ reading.depth ≤ 0 then
        none
      else if reading.role character = .plain ∧ reading.depth = 0 ∧ character = needle then
        some ([], rest)
      else
        (breakTopLevelFrom? needle (reading.next character) rest).map
          fun (before, after) => (character :: before, after)

/-- The reading that starts behind a text: only whether it ends in a backslash is remembered. -/
def Reading.behind (before : Text) : Reading :=
  { escaped := before.getLast? == some '\\' }

/--
The offset of the first `needle` that stands, from an offset on, at depth zero outside literals.
-/
def findTopLevel? (text : Text) (offset : Nat) (needle : Char) : Option Nat :=
  let (before, after) := text.cutAt offset
  (breakTopLevelFrom? needle (Reading.behind before) after).map
    fun (skipped, _) => before.byteLength + skipped.byteLength

end ComponentPages
