import Std.Time.DateTime.Timestamp
import ComponentPages.Clock.Moment
import ComponentPages.Command.Run

namespace ComponentPages

/-!
# The command

The outer layer: files of the system, the clock, and printing. What the command does is decided in
the modules that this one imports.
-/

namespace Host

/-- The number of the system for a failure, which may be given with the opposite sign. -/
def numberOf? : IO.Error → Option UInt32
  | .alreadyExists _ number _ => some number
  | .otherError number _ => some number
  | .resourceBusy number _ => some number
  | .resourceVanished number _ => some number
  | .unsupportedOperation number _ => some number
  | .hardwareFault number _ => some number
  | .unsatisfiedConstraints number _ => some number
  | .illegalOperation number _ => some number
  | .protocolError number _ => some number
  | .timeExpired number _ => some number
  | .interrupted _ number _ => some number
  | .noFileOrDirectory _ number _ => some number
  | .invalidArgument _ number _ => some number
  | .permissionDenied _ number _ => some number
  | .resourceExhausted _ number _ => some number
  | .inappropriateType _ number _ => some number
  | .noSuchThing _ number _ => some number
  | .unexpectedEof => none
  | .userError _ => none

/-- The fault that a failure of the system stands for. -/
def faultOf (failure : IO.Error) : FileFault :=
  match (numberOf? failure).map fun number => min number.toNat (-number).toNat with
  | some 2 => .notFound
  | some 16 => .busy
  | some 17 => .alreadyExists
  | some 20 => .notADirectory
  | some 21 => .isADirectory
  | some 36 => .nameTooLong
  | _ => .other (toString failure).toList

def nameOf (path : Path) : String :=
  String.ofList path.text

/-- An operation of the system with its failure as a fault. -/
def attempt {α : Type} (path : Path) (action : IO α) : IO (Except FileFault α) := do
  if path.text.contains ['\x00'] then
    return .error .nulInPath
  else
    try
      return .ok (← action)
    catch failure =>
      return .error (faultOf failure)

/-- Everything below a directory; links are not followed. -/
partial def walk (directory : String) (names : List Text) : IO (List Found) := do
  let entries ←
    try
      (← IO.FS.realPath directory).readDir
    catch _ =>
      pure #[]
  let mut found := []
  for entry in entries do
    let names := names ++ [entry.fileName.toList]
    let kind : Option IO.FS.FileType ←
      try
        pure (some (← entry.path.symlinkMetadata).type)
      catch _ =>
        pure none
    match kind with
    | some .dir => found := found ++ ⟨names, true⟩ :: (← walk entry.path.toString names)
    | some .file => found := found ++ [⟨names, false⟩]
    | _ => pure ()
  return found

instance : Storage IO where
  workingDirectory := return ⟨(← IO.currentDir).toString.toList⟩
  locate path := attempt path do
    let place ← IO.FS.realPath (nameOf path)
    return (Text.pieces Path.isSeparator place.toString.toList).filter (!·.isEmpty)
  isFile path := do
    try
      return (← ((← IO.currentDir) / nameOf path).metadata).type == .file
    catch _ =>
      return false
  contents directory := walk (nameOf directory.path) []
  read path := attempt path do
    return (← IO.FS.readBinFile (nameOf path)).toList
  write path bytes := attempt path do
    IO.FS.writeBinFile (nameOf path) ⟨bytes.toArray⟩
  makeDirectories path := attempt path do
    IO.FS.createDirAll (nameOf path)
  rename source target := attempt target do
    IO.FS.rename (nameOf source) (nameOf target)
  remove path := attempt path do
    IO.FS.removeFile (nameOf path)
  temporaryMark := return (toString (← IO.monoNanosNow)).toList

def now : IO Text := do
  let nanoseconds := (← Std.Time.Timestamp.now).toNanosecondsSinceUnixEpoch.val.toNat
  return Moment.toText ⟨nanoseconds / 1000000000, nanoseconds % 1000000000⟩

def print (result : CommandResult) : IO Unit := do
  (← IO.getStderr).putStr (String.ofList result.errors)
  (← IO.getStdout).putStr (String.ofList result.output)
  (← IO.getStdout).flush

/-- The sources of a project with the times at which they last changed. -/
def changesOf (project : Project) : IO (List (Path × Int × Nat)) := do
  match ← Discovery.sources project.root project.configuration.sources with
  | .error _ => return []
  | .ok paths => paths.filterMapM fun path => do
      try
        let time := (← ((← IO.currentDir) / nameOf path).metadata).modified
        return some (path, time.sec, time.nsec.toNat)
      catch _ =>
        return none

/-- Make the pages of sources anew whenever they change. -/
partial def watch (project : Project) (verbose : Bool) (generator : Generator)
    (known : List (Path × Int × Nat)) : IO Unit := do
  IO.sleep 200
  let current ← changesOf project
  let changed := (current.filter (!known.contains ·)).map (·.1)
  if changed.isEmpty then
    watch project verbose generator current
  else
    IO.println "\nFile change detected, regenerating..."
    let (after, result) ← Command.generatePaths (← now) project verbose generator changed
    print result
    watch project verbose after current

def watchProject (invocation : Invocation) : IO Unit := do
  if let .ok project ← Command.projectAt (← Command.rootOf invocation) then
    if let .ok generator ← Generator.load project.options then
      IO.println "\nWatching for file changes... (press Ctrl+C to stop)"
      watch project invocation.verbose generator (← changesOf project)

/-- Do what the arguments ask for, and answer the exit code. -/
def perform (arguments : List String) : IO UInt32 := do
  match Invocation.read (arguments.map String.toList) with
  | .error refusal =>
      let stream ← if refusal = .usage then IO.getStderr else IO.getStdout
      stream.putStr (String.ofList refusal.message)
      return UInt32.ofNat refusal.code
  | .ok invocation =>
      let result ← invocation.run (← now)
      print result
      if invocation.command = some (.generate .all true) && result.code < 2 then
        watchProject invocation
      return UInt32.ofNat result.code

end Host

end ComponentPages

def main (arguments : List String) : IO UInt32 :=
  ComponentPages.Host.perform arguments
