import ComponentPages.Source.Reading

namespace ComponentPages

/-!
# Comments

Line comments and block comments that stand outside literals are taken out of source text. A line
comment goes up to its line break, which stays. A block comment becomes one blank, unless it
carries a default marker: such a comment stays as it is.
-/

namespace Comment

/-- What is left behind any number of comment openers. -/
def dropOpeners : Text → Text
  | '/' :: '*' :: rest => dropOpeners rest
  | text => text

/-- What is left, in reversed text, behind any number of reversed comment closers. -/
def dropReversedClosers : Text → Text
  | '/' :: '*' :: rest => dropReversedClosers rest
  | text => text

/-- What a block comment says, without its openers, closers, leading stars and outer blanks. -/
def body (comment : Text) : Text :=
  let opened := dropOpeners comment
  let closed := (dropReversedClosers opened.reverse).reverse
  Text.trim (Text.trimStartWhile (· == '*') closed)

/-- Whether a block comment carries a default marker. -/
def isDefaultMarker (comment : Text) : Bool :=
  "@default".toList.isPrefixOf (body comment)

/-- What stands for a block comment in the stripped text. -/
def residue (comment : Text) : Text :=
  if isDefaultMarker comment then comment else [' ']

/-- The part of a block comment behind its opener, closer included, and the text behind it. -/
def blockRest (text : Text) : Text × Text :=
  match text.breakOn? "*/".toList with
  | some (inside, after) => (inside ++ "*/".toList, after)
  | none => (text, [])

/-- What follows a block comment is no longer than the text behind its opener. -/
theorem blockRest_length
    (text : Text) :
    (blockRest text).2.length ≤ text.length := by
  unfold blockRest
  split
  · rename_i inside after found
    exact Text.breakOn?_length found
  · simp

/-- The stripped form of the text that follows a reading. -/
def stripFrom (reading : Reading) : Text → Text
  | [] => []
  | character :: rest =>
      if reading.inLiteral || character != '/' then
        character :: stripFrom (reading.next character) rest
      else
        match rest with
        | '/' :: inside =>
            stripFrom { reading with escaped := false } (inside.dropWhile (· != '\n'))
        | '*' :: inside =>
            residue ('/' :: '*' :: (blockRest inside).1) ++
              stripFrom { reading with escaped := false } (blockRest inside).2
        | other => character :: stripFrom (reading.next character) other
  termination_by text => text.length
  decreasing_by
    · simp
    · have shorter := (List.dropWhile_sublist (· != '\n') (l := inside)).length_le
      simp only [List.length_cons]
      omega
    · have shorter := blockRest_length inside
      simp only [List.length_cons]
      omega
    · simp

/-- Source text without its comments, default markers apart. -/
def strip (text : Text) : Text :=
  stripFrom {} text

end Comment

end ComponentPages
