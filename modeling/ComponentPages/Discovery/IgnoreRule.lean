import ComponentPages.Glob.Reader

namespace ComponentPages

/-!
# Ignore rules

An ignore file holds one rule a line. A rule is a glob for paths below the directory of the file;
it ignores what it matches, or keeps it if an exclamation mark stands in front. The last rule that
matches decides.
-/

/-- What a rule says of a path that it matches. -/
inductive Verdict where
  | ignored
  | kept
  deriving Repr, DecidableEq

/-- A rule of an ignore file. -/
structure IgnoreRule where
  glob : Glob
  verdict : Verdict
  /-- Whether the rule is for directories only. -/
  directoriesOnly : Bool
  deriving Repr

namespace IgnoreRule

/-! ## Lines -/

/-- Whether a line ends in a blank that a backslash protects. -/
def endsInEscapedBlank (line : Text) : Bool :=
  ['\\', ' '].isSuffixOf line

/-- A line without the blanks at its end that do not count. -/
def trimmed (line : Text) : Text :=
  if endsInEscapedBlank line then line else Text.trimEnd line

/-- A line's verdict and what follows the mark for it; a backslash takes the mark's meaning. -/
def splitMark (line : Text) : Verdict × Text :=
  match line with
  | '\\' :: '!' :: rest => (.ignored, '!' :: rest)
  | '\\' :: '#' :: rest => (.ignored, '#' :: rest)
  | '!' :: rest => (.kept, rest)
  | _ => (.ignored, line)

/-- Whether the mark of a line is protected by a backslash. -/
def isEscaped (line : Text) : Bool :=
  ['\\', '!'].isPrefixOf line || ['\\', '#'].isPrefixOf line

/-- A pattern without the separator in front, and whether it had one. -/
def splitRoot (pattern : Text) : Bool × Text :=
  match pattern with
  | '/' :: rest => (true, rest)
  | _ => (false, pattern)

/-- A pattern without the separator at its end, and whether it had one. -/
def splitEnd (pattern : Text) : Bool × Text :=
  if pattern.getLast? = some '/' then
    let shorter := pattern.dropLast
    (true, if shorter.getLast? = some '\\' then shorter.dropLast else shorter)
  else
    (false, pattern)

/-- A pattern without separators matches at every depth. -/
def atAnyDepth (rooted : Bool) (pattern : Text) : Text :=
  if rooted || pattern.contains ['/'] || pattern = ['*', '*'] then
    pattern
  else
    "**/".toList ++ pattern

/-- A pattern for everything inside a directory does not match the directory itself. -/
def insideOnly (pattern : Text) : Text :=
  if "/**".toList.isSuffixOf pattern then pattern ++ "/*".toList else pattern

/-- The rule of a line, if the line holds one. -/
def ofLine? (line : Text) : Option IgnoreRule :=
  let content := trimmed line
  if line.head? = some '#' || content.isEmpty then
    none
  else
    let (verdict, marked) := splitMark content
    let (rooted, pattern) := if isEscaped content then (false, marked) else splitRoot marked
    let (directoriesOnly, pattern) := splitEnd pattern
    match Glob.read true true (insideOnly (atAnyDepth rooted pattern)) with
    | .ok glob => some ⟨glob, verdict, directoriesOnly⟩
    | .error _ => none

/-! ## Files -/

/-- The lines of bytes, and whether each ends in a line break. -/
def linesOf : Bytes → List (Bytes × Bool)
  | [] => []
  | byte :: rest =>
      if byte = 0x0A then
        ([], true) :: linesOf rest
      else
        match linesOf rest with
        | [] => [([byte], false)]
        | (line, ended) :: later => (byte :: line, ended) :: later

/-- A line without the carriage return of its line break. -/
def withoutReturn (line : Bytes) (ended : Bool) : Bytes :=
  if ended && line.getLast? == some 0x0D then line.dropLast else line

/-- The lines up to the first that is no text. -/
def textsOf : List (Bytes × Bool) → List Text
  | [] => []
  | (line, ended) :: later =>
      match Utf8.decode? (withoutReturn line ended) with
      | some text => text :: textsOf later
      | none => []

/-- Lines with the byte order mark at the start left out. -/
def withoutMark : List Text → List Text
  | [] => []
  | line :: later => Text.trimStartWhile (· == '\uFEFF') line :: later

def ofBytes (bytes : Bytes) : List IgnoreRule :=
  (withoutMark (textsOf (linesOf bytes))).filterMap ofLine?

/-! ## Verdicts -/

/-- Whether a rule is for a path below its directory. -/
def applies (rule : IgnoreRule) (path : Text) (isDirectory : Bool) : Bool :=
  rule.glob.isMatch path && (isDirectory || !rule.directoriesOnly)

/-- The verdict of the last rule that is for a path. -/
def decide? (rules : List IgnoreRule) (path : Text) (isDirectory : Bool) : Option Verdict :=
  (rules.reverse.find? fun rule => rule.applies path isDirectory).map (·.verdict)

end IgnoreRule

end ComponentPages
