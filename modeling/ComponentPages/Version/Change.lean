import ComponentPages.Version.Basic

namespace ComponentPages

/-!
# Changes of version

How far a version is from the one before it, and what that means for the documentation.
-/

/-- The kinds of change. Stored histories may hold a prerelease; no comparison finds one. -/
inductive Change where
  | major
  | minor
  | patch
  | prerelease
  deriving Repr, DecidableEq

/-- How urgent new documentation is. -/
inductive Priority where
  | critical
  | high
  | medium
  | low
  deriving Repr, DecidableEq

/-- How much work new documentation takes. -/
inductive Effort where
  | minimal
  | moderate
  | significant
  | major
  deriving Repr, DecidableEq

def Change.word : Change → Text
  | .major => "major".toList
  | .minor => "minor".toList
  | .patch => "patch".toList
  | .prerelease => "prerelease".toList

def Priority.word : Priority → Text
  | .critical => "critical".toList
  | .high => "high".toList
  | .medium => "medium".toList
  | .low => "low".toList

def Effort.word : Effort → Text
  | .minimal => "minimal".toList
  | .moderate => "moderate".toList
  | .significant => "significant".toList
  | .major => "major".toList

namespace Change

/-- The change between two versions: the first of the major and minor numbers that grew. -/
def between (before after : Version) : Change :=
  if after.major > before.major then
    .major
  else if after.minor > before.minor then
    .minor
  else
    .patch

/--
The change from a version text to another. There is none between equal texts; where a version is
missing or cannot be read the change is major.
-/
def classify : Option Text → Text → Option Change
  | none, _ => some .major
  | some previous, next =>
      if previous = next then
        none
      else
        match Version.read? previous, Version.read? next with
        | some before, some after => some (between before after)
        | _, _ => some .major

/-- The priority that a change gives the documentation. -/
def priority : Option Change → Priority
  | some .major => .critical
  | some .minor => .high
  | some .patch => .medium
  | some .prerelease => .low
  | none => .low

def effort : Option Change → Effort
  | some .major => .major
  | some .minor => .significant
  | some .patch => .moderate
  | some .prerelease => .minimal
  | none => .minimal

end Change

end ComponentPages
