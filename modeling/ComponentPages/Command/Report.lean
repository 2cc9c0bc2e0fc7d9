import ComponentPages.Command.Invocation
import ComponentPages.Generator.Batch
import ComponentPages.Json.Printer
import ComponentPages.Number.Decimal

namespace ComponentPages

/-!
# Reports

What the commands print. Paths are shown as seen from the root of the project.
-/

/-- What a command leaves: its exit code and what it prints. -/
structure CommandResult where
  code : Nat
  output : Text
  errors : Text
  deriving Repr, DecidableEq

namespace Report

/-- Lines of text, each with a line break. -/
def lines (texts : List Text) : Text :=
  texts.flatMap fun text => text ++ ['\n']

/-- A text with blanks at its end up to a width. -/
def padded (width : Nat) (text : Text) : Text :=
  text ++ List.replicate (width - text.length) ' '

/-- A word with a capital letter. -/
def capitalized (word : Text) : Text :=
  match word with
  | [] => []
  | first :: rest => first.toUpper :: rest

/-- A path as seen from a root. -/
def shown (root path : Path) : Text :=
  (path.relativeTo root).text

/-! ## Outcomes -/

/-- The line for a problem; none if a page was written. -/
def problemLine? (root : Path) : Outcome → Option Text
  | .generated _ => none
  | .skipped path =>
      some ("warning: skipped ".toList ++ shown root path ++ " (".toList ++ Outcome.skipReason ++
        ")".toList)
  | .failed path error =>
      some ("error: ".toList ++ shown root path ++ ": ".toList ++ error.message)

/-- The lines for the problems among outcomes. -/
def problemLines (root : Path) (outcomes : List Outcome) : Text :=
  lines (outcomes.filterMap (problemLine? root))

def pageLine? (root : Path) : Outcome → Option Text
  | .generated written =>
      some ("  ".toList ++ written.identity ++ " -> ".toList ++ shown root written.page)
  | _ => none

/-- The line that counts the outcomes of a batch. -/
def summaryLine (batch : Batch) : Text :=
  "Processed ".toList ++ Text.ofNat batch.processed ++ " component(s): ".toList ++
    Text.ofNat batch.updated ++ " updated, ".toList ++ Text.ofNat batch.skipped ++
    " skipped, ".toList ++ Text.ofNat batch.errors ++ " failed.".toList

def batchText (root : Path) (verbose : Bool) (batch : Batch) : Text :=
  lines ((if verbose then batch.outcomes.filterMap (pageLine? root) else []) ++
    [summaryLine batch])

/-! ## Comparisons -/

/-- The line for a component that needs a page. -/
def pendingLine (comparison : Comparison) : Text :=
  let change :=
    match comparison.change with
    | some change => ", ".toList ++ change.word
    | none => []
  "  ".toList ++ padded 24 comparison.identity ++ ' ' :: comparison.reason.word ++
    " (documented ".toList ++ comparison.documented.getD "none".toList ++ ", current ".toList ++
    comparison.current ++ change ++ "; priority ".toList ++
    capitalized comparison.priority.word ++ ", effort ".toList ++
    capitalized comparison.effort.word ++ ")".toList

def toText (report : Report) : Text :=
  let number := Text.ofNat report.results.length
  if report.pending.isEmpty then
    lines ["Compare passed: ".toList ++ number ++
      " component(s) documented and up to date.".toList]
  else
    lines (["Components needing documentation updates:".toList] ++
      report.pending.map pendingLine ++
      [[], Text.ofNat report.pending.length ++ " of ".toList ++ number ++
        " component(s) need updates. Run \x60compdoc generate --outdated\x60 or ".toList ++
        "\x60compdoc generate --all\x60.".toList])

def comparisonJson (comparison : Comparison) : JsonValue :=
  .ofFields [
    ("estimatedEffort", .ofText comparison.effort.word),
    ("identity", .ofText comparison.identity),
    ("needsUpdate", .boolean comparison.needsUpdate),
    ("priority", .ofText comparison.priority.word),
    ("reason", .ofText comparison.reason.word),
    ("versionDiff", .ofFields [
      ("changeKind", .ofOption (comparison.change.map fun change => .ofText change.word)),
      ("current", .ofText comparison.current),
      ("documented", .ofOption (comparison.documented.map .ofText))])]

/-- A problem in JSON; none if a page was written. -/
def problemJson? (root : Path) : Outcome → Option JsonValue
  | .generated _ => none
  | .skipped path => some (.ofFields [
      ("file", .ofText (shown root path)), ("skipped", .ofText Outcome.skipReason)])
  | .failed path error => some (.ofFields [
      ("error", .ofText error.message), ("file", .ofText (shown root path))])

def toJson (root : Path) (report : Report) : JsonValue :=
  .ofFields [
    ("ok", .boolean !report.needsUpdate),
    ("problems", .list (report.problems.filterMap (problemJson? root))),
    ("results", .list (report.results.map comparisonJson))]

/-! ## Statistics -/

def labelled (label : String) (value : Text) : Text :=
  padded 16 label.toList ++ ' ' :: value

def statisticsText (statistics : Statistics) : Text :=
  lines [
    "compdoc stats".toList,
    [],
    labelled "Components" (Text.ofNat statistics.total),
    labelled "Documented" (Text.ofNat statistics.documented),
    labelled "Outdated" (Text.ofNat statistics.outdated),
    labelled "Coverage" (Decimal.fixed 1 statistics.coverage ++ ['%'])]

/-- A number in JSON, with a place behind the point even if it is whole. -/
def numberJson (number : Binary64) : JsonValue :=
  let written := Decimal.ofNumber number
  .number (if written.contains ['.'] then written else written ++ ".0".toList)

def statisticsJson (statistics : Statistics) : JsonValue :=
  .ofFields [
    ("total", .ofNat statistics.total),
    ("documented", .ofNat statistics.documented),
    ("outdated", .ofNat statistics.outdated),
    ("coveragePercent", numberJson statistics.coverage)]

end Report

namespace Refusal

/-- What is printed instead of running a command. -/
def message : Refusal → Text
  | .version => "compdoc_cli 0.3.0\n".toList
  | .help => Report.lines [
      "Generate component documentation from source and keep it in sync.".toList,
      [],
      "Usage: compdoc [-p PATH] [-v] [--no-color] COMMAND".toList,
      [],
      "  generate FILE         Make the page of one source".toList,
      "  generate --all        Make the pages of all sources".toList,
      "  generate --outdated   Make the pages that are out of date".toList,
      "  compare               Report components whose pages are out of date".toList,
      "  stats                 Show how much is documented".toList]
  | .usage => Report.lines [
      "error: the arguments make no sense".toList,
      [],
      "For more information, try '--help'.".toList]

def code : Refusal → Nat
  | .usage => 2
  | _ => 0

end Refusal

end ComponentPages
