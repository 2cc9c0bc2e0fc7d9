import ComponentPages.Text.Utf8

namespace ComponentPages

/-!
# Globs

A glob describes paths. This module holds its parts and which paths they match.

A path is matched byte by byte. A part that has been read leaves a rest of the path, and often
there are several ways to read it, so that a part goes from a list of rests to a list of rests.
The glob matches a path if one of the rests in the end is empty.
-/

/-- A part of a glob. -/
inductive GlobPart where
  /-- The character itself. -/
  | literal (character : Char)
  /-- Any one byte. -/
  | any
  /-- Any bytes. -/
  | star
  /-- Any directories at the start. -/
  | anyLeading
  /-- Anything inside the directory before it. -/
  | anyInside
  /-- Any directories between two separators. -/
  | anyBetween
  /-- One byte of a class, or one byte outside it. -/
  | oneOf (negated : Bool) (ranges : List (Char × Char))
  /-- One of several globs. -/
  | alternates (branches : List (List GlobPart))
  deriving Repr

namespace GlobPart

/-! ## Single bytes -/

def separator : UInt8 := 0x2F

/--
The ranges of bytes that a range of characters stands for. A character of several bytes counts as
so many members of the class; of a range only the bytes where the two characters meet form one.
-/
def byteRanges (first last : Char) : List (UInt8 × UInt8) :=
  let single := (Utf8.encode [first]).map fun byte => (byte, byte)
  if first = last then
    single
  else
    let others := (Utf8.encode [last]).map fun byte => (byte, byte)
    match single.getLast?, others with
    | some (low, _), (high, _) :: later => single.dropLast ++ (low, high) :: later
    | _, _ => []

def isMember (ranges : List (Char × Char)) (byte : UInt8) : Bool :=
  ranges.any fun (first, last) =>
    (byteRanges first last).any fun (low, high) => low ≤ byte && byte ≤ high

def afterByte (belongs : UInt8 → Bool) : Bytes → List Bytes
  | [] => []
  | byte :: rest => if belongs byte then [rest] else []

/-- The rests behind any number of bytes of a kind. -/
def afterRun (belongs : UInt8 → Bool) : Bytes → List Bytes
  | [] => [[]]
  | byte :: rest => (byte :: rest) :: (if belongs byte then afterRun belongs rest else [])

def afterSeparators : Bytes → List Bytes
  | [] => []
  | byte :: rest => (if byte = separator then [rest] else []) ++ afterSeparators rest

def afterBytes : (expected path : Bytes) → List Bytes
  | [], path => [path]
  | _ :: _, [] => []
  | byte :: expected, first :: rest => if byte = first then afterBytes expected rest else []

/-! ## Whole parts -/

mutual

/-- Whether a part is a group that holds nothing. -/
def isVacuous : GlobPart → Bool
  | .alternates branches => areVacuous branches
  | _ => false

/-- Whether all parts of a glob are vacuous. -/
def isEmptyGlob : List GlobPart → Bool
  | [] => true
  | part :: later => isVacuous part && isEmptyGlob later

/-- Whether all branches of a group are vacuous. -/
def areVacuous : List (List GlobPart) → Bool
  | [] => true
  | branch :: later => isEmptyGlob branch && areVacuous later

end

mutual

/--
The rests behind a part. With `confined`, a star and a question mark stay inside one component.
-/
def rests (confined : Bool) : GlobPart → Bytes → List Bytes
  | .literal character, path => afterBytes (Utf8.encode [character]) path
  | .any, path => afterByte (fun byte => !(confined && byte == separator)) path
  | .star, path => afterRun (fun byte => !(confined && byte == separator)) path
  | .anyLeading, path => path :: afterSeparators path
  | .anyInside, path =>
      (afterByte (· == separator) path).flatMap (afterRun fun _ => true)
  | .anyBetween, path =>
      (afterByte (· == separator) path).flatMap fun rest => rest :: afterSeparators rest
  | .oneOf negated ranges, path => afterByte (fun byte => isMember ranges byte != negated) path
  | .alternates branches, path =>
      if areVacuous branches then [path] else restsOfBranches confined branches path

/-- The rests behind parts that follow each other. -/
def restsOfAll (confined : Bool) : List GlobPart → List Bytes → List Bytes
  | [], paths => paths
  | part :: later, paths =>
      restsOfAll confined later (paths.flatMap (rests confined part)).eraseDups

/-- The rests behind the branches that hold something. -/
def restsOfBranches (confined : Bool) : List (List GlobPart) → Bytes → List Bytes
  | [], _ => []
  | branch :: later, path =>
      (if isEmptyGlob branch then [] else restsOfAll confined branch [path]) ++
        restsOfBranches confined later path

end

end GlobPart

/-- A glob: its parts, and whether a star stays inside one component. -/
structure Glob where
  parts : List GlobPart
  confined : Bool
  deriving Repr

namespace Glob

/-- The characters of parts that are literals only. -/
def literals? : List GlobPart → Option Text
  | [] => some []
  | .literal character :: later => (literals? later).map (character :: ·)
  | _ :: _ => none

/-- Whether the parts are literals that stay inside one component. -/
def isFileName (parts : List GlobPart) : Bool :=
  match literals? parts with
  | some name => !name.isEmpty && name.all (· != '/')
  | none => false

/--
Whether the glob asks for nothing but how the path ends: any directories or any bytes, then
literals that are more than a file name or an extension.
-/
def asksForEnding (glob : Glob) : Bool :=
  match glob.parts with
  | .anyLeading :: .star :: ending =>
      !glob.confined && (literals? ending).isSome && (literals? ending) != some ['.']
  | .anyLeading :: ending => (literals? ending).isSome && !isFileName ending
  | .star :: ending =>
      !glob.confined && (literals? ending).isSome && (literals? ending) != some ['.']
  | parts => (literals? parts).isSome

/--
Whether a path that ends in a dot is out of reach. Such a path has no file name, and a glob that
ends in a dot is decided by the file name unless it asks for the ending only.
-/
def needsFileName (glob : Glob) : Bool :=
  match glob.parts.getLast? with
  | some (.literal '.') => !glob.asksForEnding
  | _ => false

/-- Whether the glob is the one that matches every path. -/
def isUniversal : List GlobPart → Bool
  | [.anyLeading] => true
  | _ => false

def isMatch (glob : Glob) (path : Text) : Bool :=
  if isUniversal glob.parts then
    true
  else if glob.needsFileName then
    false
  else
    (GlobPart.restsOfAll glob.confined glob.parts [Utf8.encode path]).contains []

end Glob

end ComponentPages
