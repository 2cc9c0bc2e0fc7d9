import ComponentPages.Text.LowerCase
import ComponentPages.Text.Pattern

namespace ComponentPages

/-!
# Component status

How mature a component is. A status annotation decides, else the annotations for deprecated and
experimental components do. The status annotation is read without regard to case, in which the
long s counts as a form of the letter s; the word itself then has to be one of the five in ASCII.
-/

/-- How mature a component is. -/
inductive Status where
  | stable
  | beta
  | alpha
  | deprecated
  | experimental
  deriving Repr, DecidableEq

namespace Status

def all : List Status :=
  [.stable, .beta, .alpha, .deprecated, .experimental]

def word : Status → Text
  | .stable => "stable".toList
  | .beta => "beta".toList
  | .alpha => "alpha".toList
  | .deprecated => "deprecated".toList
  | .experimental => "experimental".toList

/-- The status that a word stands for, without regard to the case of ASCII letters. -/
def ofWord? (word : Text) : Option Status :=
  all.find? fun status => status.word == word.toAsciiLowerCase

def unknownMessage (word : Text) : Text :=
  "unknown component status `".toList ++ word.toAsciiLowerCase ++ "`".toList

end Status

namespace Text

/-- A character with regard to letters only: the small form, the long s and the kelvin folded. -/
def foldCharacter (character : Char) : Char :=
  if character = '\u017F' then
    's'
  else if character = '\u212A' then
    'k'
  else
    character.toLower

/-- What follows a word that is read without regard to case. -/
def afterFolded? (text word : Text) : Option Text :=
  if (text.take word.length).map foldCharacter = word then
    some (text.drop word.length)
  else
    none

end Text

namespace Status

/-- The pattern of a status annotation; it captures the word as written. -/
def statusTag : Text.Pattern Text :=
  fun _ text => do
    let words ← (Text.afterFolded? text "@status".toList).bind Text.afterBlanks?
    let (status, rest) ← all.findSome? fun status =>
      (Text.afterFolded? words status.word).map fun rest => (status, rest)
    if Text.startsWithWord rest then
      none
    else
      return (words.take status.word.length, rest)

/-- The pattern of an annotation that is one whole word. -/
def wordTag (word : Text) : Text.Pattern Unit :=
  fun _ text => do
    let rest ← Text.after? text word
    if Text.startsWithWord rest then none else return ((), rest)

/-- The status that a source declares. -/
def ofSource (source : Text) : Status :=
  match (statusTag.first? source).bind ofWord? with
  | some status => status
  | none =>
      if (wordTag "@deprecated".toList).occursIn source then
        .deprecated
      else if (wordTag "@experimental".toList).occursIn source then
        .experimental
      else
        .stable

end Status

end ComponentPages
