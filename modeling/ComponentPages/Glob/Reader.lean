import ComponentPages.Error
import ComponentPages.Glob.Basic

namespace ComponentPages

/-!
# Reading globs

A glob is read from left to right. Groups of alternates may be nested; the groups that are still
open form a stack, with the innermost on top.
-/

namespace Glob

/-- A group of alternates that is being read. Branches and parts are in reverse order. -/
structure Group where
  /-- The branches before the last comma. -/
  finished : List (List GlobPart)
  /-- The parts of the branch that is being read. -/
  current : List GlobPart
  deriving Repr

namespace Group

def empty : Group := ⟨[], []⟩

/-- The group with a part at the end of its current branch. -/
def push (group : Group) (part : GlobPart) : Group :=
  { group with current := part :: group.current }

def nextBranch (group : Group) : Group :=
  ⟨group.current :: group.finished, []⟩

/-- The part that the group becomes once it is closed. -/
def close (group : Group) : GlobPart :=
  .alternates ((group.current :: group.finished).map List.reverse).reverse

end Group

/-- How far a glob has been read. -/
structure Progress where
  /-- The innermost group, or the glob itself if no group is open. -/
  innermost : Group
  /-- The groups around it. -/
  around : List Group
  /-- Whether an opening bracket was found that is never closed. -/
  bracketsAreLiteral : Bool
  deriving Repr

namespace Progress

def start : Progress := ⟨.empty, [], false⟩

def push (progress : Progress) (part : GlobPart) : Progress :=
  { progress with innermost := progress.innermost.push part }

/-- Whether a group is open. -/
def inGroup (progress : Progress) : Bool :=
  !progress.around.isEmpty

def openGroup (progress : Progress) : Progress :=
  { progress with innermost := .empty, around := progress.innermost :: progress.around }

def closeGroup? (progress : Progress) : Option Progress :=
  match progress.around with
  | [] => none
  | outer :: around =>
      some { progress with innermost := outer.push progress.innermost.close, around := around }

def comma (progress : Progress) : Progress :=
  if progress.inGroup then
    { progress with innermost := progress.innermost.nextBranch }
  else
    progress.push (.literal ',')

/-- Two stars read that stand for no directories. -/
def twoStars (progress : Progress) : Progress :=
  (progress.push .star).push .star

/-- Two stars read that take the place of the separator before them. -/
def directories (progress : Progress) (part : GlobPart) : Progress :=
  match progress.innermost.current with
  | .anyLeading :: _ => progress
  | .anyInside :: _ => progress
  | _ :: earlier =>
      { progress with innermost := { progress.innermost with current := part :: earlier } }
  | [] => progress.push part

/--
Two stars read, behind `previous` and before `rest`; also the number of characters of `rest` that
belong to them.
-/
def doubleStar (progress : Progress) (previous : Option Char) (rest : Text) : Progress × Nat :=
  if progress.innermost.current.isEmpty then
    match rest with
    | [] => (progress.push .anyLeading, 0)
    | '/' :: _ => (progress.push .anyLeading, 1)
    | _ => (progress.twoStars, 0)
  else if previous != some '/' &&
      !(progress.inGroup && (previous == some ',' || previous == some '\x7b')) then
    (progress.twoStars, 0)
  else
    match rest with
    | [] => (progress.directories .anyInside, 0)
    | '/' :: _ => (progress.directories .anyBetween, 1)
    | next :: _ =>
        if progress.inGroup && (next == ',' || next == '\x7d') then
          (progress.directories .anyInside, 0)
        else
          (progress.twoStars, 0)

end Progress

/-! ## Classes -/

/-- The ranges of a class so far, the latest at the front, with its last character moved. -/
def extendRange (ranges : List (Char × Char)) (last : Char) :
    Except GlobFault (List (Char × Char)) :=
  match ranges with
  | [] => .ok [(last, last)]
  | (first, _) :: earlier =>
      if last < first then .error (.invalidRange first last) else .ok ((first, last) :: earlier)

/--
The ranges of a class and the number of characters up to its closing bracket. `ranges` are those
before the text, the latest at the front, and none at the start; `inRange` tells whether a dash
waits for the end of its range.
-/
def readRanges
    (ranges : List (Char × Char))
    (inRange : Bool)
    (taken : Nat) :
    Text → Except GlobFault (List (Char × Char) × Nat)
  | [] => .error .unclosedClass
  | character :: rest =>
      if character = ']' && !ranges.isEmpty then
        .ok ((if inRange then ('-', '-') :: ranges else ranges).reverse, taken + 1)
      else if character = '-' && !ranges.isEmpty && !inRange then
        readRanges ranges true (taken + 1) rest
      else if inRange then do
        readRanges (← extendRange ranges character) false (taken + 1) rest
      else
        readRanges ((character, character) :: ranges) false (taken + 1) rest

/-- The class behind an opening bracket, and the number of its characters. -/
def readClass (text : Text) : Except GlobFault (GlobPart × Nat) :=
  match text with
  | '!' :: rest => (readRanges [] false 1 rest).map fun (ranges, taken) =>
      (.oneOf true ranges, taken)
  | '^' :: rest => (readRanges [] false 1 rest).map fun (ranges, taken) =>
      (.oneOf true ranges, taken)
  | _ => (readRanges [] false 0 text).map fun (ranges, taken) => (.oneOf false ranges, taken)

/-- The progress after an opening bracket, and the number of characters that belong to it. -/
def bracket
    (lenient : Bool)
    (progress : Progress)
    (rest : Text) :
    Except GlobFault (Progress × Nat) :=
  match readClass rest with
  | .ok (part, taken) => .ok (progress.push part, taken)
  | .error .unclosedClass =>
      if lenient then
        .ok ({ progress with bracketsAreLiteral := true }.push (.literal '['), 0)
      else
        .error .unclosedClass
  | .error fault => .error fault

/-! ## Whole globs -/

/-- The progress after a character, and the number of characters behind it that belong to it. -/
def step
    (lenient : Bool)
    (progress : Progress)
    (previous : Option Char)
    (character : Char)
    (rest : Text) :
    Except GlobFault (Progress × Nat) :=
  match character with
  | '?' => .ok (progress.push .any, 0)
  | '*' =>
      match rest with
      | '*' :: later =>
          let (next, taken) := progress.doubleStar previous later
          .ok (next, taken + 1)
      | _ => .ok (progress.push .star, 0)
  | '[' =>
      if progress.bracketsAreLiteral then
        .ok (progress.push (.literal '['), 0)
      else
        bracket lenient progress rest
  | '\x7b' => .ok (progress.openGroup, 0)
  | '\x7d' =>
      match progress.closeGroup? with
      | some next => .ok (next, 0)
      | none => .error .unopenedAlternates
  | ',' => .ok (progress.comma, 0)
  | '\\' =>
      match rest with
      | escaped :: _ => .ok (progress.push (.literal escaped), 1)
      | [] => .error .danglingEscape
  | other => .ok (progress.push (.literal other), 0)

/--
The parts of a glob of which some was read. The first `passing` characters belong to the part
that was read last.
-/
def readFrom
    (lenient : Bool)
    (progress : Progress)
    (previous : Option Char) :
    (passing : Nat) → Text → Except GlobFault (List GlobPart)
  | _, [] =>
      if progress.inGroup then
        .error .unclosedAlternates
      else
        .ok progress.innermost.current.reverse
  | passing + 1, character :: rest => readFrom lenient progress (some character) passing rest
  | 0, character :: rest => do
      let (next, taken) ← step lenient progress previous character rest
      readFrom lenient next (some character) taken rest

/--
The glob that a text stands for. With `lenient`, a bracket that is never closed stands for itself.
-/
def read (confined lenient : Bool) (text : Text) : Except GlobFault Glob :=
  (readFrom lenient .start none 0 text).map fun parts => ⟨parts, confined⟩

end Glob

end ComponentPages
