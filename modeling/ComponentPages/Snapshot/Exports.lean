import ComponentPages.Text.Pattern

namespace ComponentPages

/-!
# Exports

The names that a source exports, by declarations and by lists, in the order in which they first
stand there.
-/

namespace Exports

/-- The keywords of declarations that bind a name. -/
def keywords : List Text :=
  ["function*".toList, "function".toList, "const".toList, "let".toList, "var".toList,
   "class".toList, "interface".toList, "type".toList, "enum".toList]

/-- The pattern of an exported declaration; it captures the name. -/
def declaration : Text.Pattern Text :=
  fun previous text => do
    let afterExport ← (Text.afterWord? "export".toList previous text).bind Text.afterBlanks?
    let afterDefault := Text.skipWordAndBlanks "default".toList afterExport
    let afterDeclare := Text.skipWordAndBlanks "declare".toList afterDefault
    let afterAsync := Text.skipWordAndBlanks "async".toList afterDeclare
    let (_, afterKeyword) ← Text.oneOf? keywords afterAsync
    (Text.afterBlanks? afterKeyword).bind Text.identifier?

/-- The pattern of an export list; it captures what stands between the braces. -/
def list : Text.Pattern Text :=
  fun previous text => do
    let afterExport ← (Text.afterWord? "export".toList previous text).bind Text.afterBlanks?
    let inside ← Text.after? (Text.skipWordAndBlanks "type".toList afterExport) ['\x7b']
    match inside.dropWhile (· != '\x7d') with
    | [] => none
    | _ :: rest => return (inside.takeWhile (· != '\x7d'), rest)

/-- What follows the last occurrence of ` as `, or the whole item. -/
def afterLastAs (item : Text) : Text :=
  match Text.breakOn? item.reverse " as ".toList.reverse with
  | some (last, _) => last.reverse
  | none => item

/-- The name that an item of a list exports; empty if it exports none. -/
def itemName (item : Text) : Text :=
  let trimmed := Text.trim item
  let plain := Text.trim ((Text.after? trimmed "type ".toList).getD trimmed)
  Text.trim (afterLastAs plain)

/-- The names that a list exports. -/
def listNames (items : Text) : List Text :=
  ((Text.pieces (· == ',') items).map itemName).filter (!·.isEmpty)

/-- The names without those that stand in front already. -/
def distinct : List Text → List Text → List Text
  | _, [] => []
  | seen, name :: later =>
      if name ∈ seen then distinct seen later else name :: distinct (name :: seen) later

/-- The names that a source exports. -/
def ofSource (source : Text) : List Text :=
  let declared := (declaration.occurrences source).map fun found =>
    (found.stop - found.captured.byteLength, found.captured)
  let listed := (list.occurrences source).flatMap fun found =>
    (listNames found.captured).map fun name =>
      (found.stop - 1 - found.captured.byteLength, name)
  let ordered := (declared ++ listed).mergeSort fun earlier later => earlier.1 ≤ later.1
  distinct [] (ordered.map (·.2))

end Exports

end ComponentPages
