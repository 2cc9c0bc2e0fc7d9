import ComponentPages.Project.Path

namespace ComponentPages

/-!
# Invocations

The arguments of the command, read from left to right. Options of every command may stand before
the command's name and behind it, and what stands behind counts. No flag or option is given twice
at one place, and the first argument that has no meaning is refused.
-/

/-- How results are printed. -/
inductive Format where
  | text
  | json
  deriving Repr, DecidableEq

/-- What pages are made for. -/
inductive Target where
  /-- One source. -/
  | file (path : Path)
  /-- All sources. -/
  | all
  /-- The components that are outdated. -/
  | outdated
  deriving Repr, DecidableEq

/-- What is to be done. -/
inductive Command where
  /-- Make pages, and with `watch` go on as sources change. -/
  | generate (target : Target) (watch : Bool)
  /-- Compare sources with the registry. -/
  | compare (format : Format)
  /-- Show how much is documented. -/
  | stats (format : Format)
  deriving Repr, DecidableEq

/-- What the arguments ask for. -/
structure Invocation where
  /-- The root of the project, if it is not the working directory. -/
  root : Option Path
  verbose : Bool
  command : Option Command
  deriving Repr, DecidableEq

/-- Why the arguments ask for no command. -/
inductive Refusal where
  /-- They make no sense. -/
  | usage
  /-- They ask for help. -/
  | help
  /-- They ask for the version. -/
  | version
  deriving Repr, DecidableEq

namespace Invocation

/-- The place of an argument: before the name of the command, or behind it. -/
inductive Level where
  | top
  /-- Behind the word for help; `named` tells whether it was said with what. -/
  | help (named : Bool)
  | generate
  | compare
  | stats
  deriving Repr, DecidableEq

/-- The flags. -/
inductive Flag where
  | verbose
  | noColor
  | all
  | outdated
  | watch
  deriving Repr, DecidableEq

/-- The options with a value. -/
inductive Choice where
  | path
  | format
  deriving Repr, DecidableEq

/-- What an option can be. -/
inductive Known where
  | flag (flag : Flag)
  | choice (choice : Choice)
  | help
  | version
  deriving Repr, DecidableEq

/-- What was given at one level. -/
structure Given where
  flags : List Flag := []
  path : Option Path := none
  format : Option Format := none
  file : Option Path := none
  deriving Repr, DecidableEq

/-- Arguments of which some were read. -/
structure Progress where
  /-- What was given before the name of the command, once the name was read. -/
  outer : Given
  level : Level
  given : Given
  /-- The option that waits for its value. -/
  waiting : Option Choice
  /-- Whether all that follows are plain values. -/
  plain : Bool
  deriving Repr, DecidableEq

/-- No argument read. -/
def Progress.start : Progress :=
  ⟨{}, .top, {}, none, false⟩

/-! ## Names -/

/-- The option of a long name at a level. -/
def long? (level : Level) (name : Text) : Option Known :=
  let everywhere : List (String × Known) :=
    [("path", .choice .path), ("verbose", .flag .verbose), ("no-color", .flag .noColor),
      ("help", .help)]
  let here : List (String × Known) :=
    match level with
    | .top => [("version", .version)]
    | .help _ => []
    | .generate => [("all", .flag .all), ("outdated", .flag .outdated), ("watch", .flag .watch)]
    | .compare => [("format", .choice .format)]
    | .stats => [("format", .choice .format)]
  ((everywhere ++ here).find? fun (known, _) => known.toList == name).map (·.2)

/-- The option of a letter at a level. -/
def short? (level : Level) (letter : Char) : Option Known :=
  match letter with
  | 'p' => some (.choice .path)
  | 'v' => some (.flag .verbose)
  | 'h' => some .help
  | 'V' => if level = .top then some .version else none
  | _ => none

/-- The command of a name. -/
def level? (name : Text) : Option Level :=
  if name = "help".toList then
    some (.help false)
  else if name = "generate".toList then
    some .generate
  else if name = "compare".toList then
    some .compare
  else if name = "stats".toList then
    some .stats
  else
    none

def format? (name : Text) : Option Format :=
  if name = "text".toList then
    some .text
  else if name = "json".toList then
    some .json
  else
    none

/-! ## Steps -/

/-- A flag given. -/
def addFlag (progress : Progress) (flag : Flag) : Except Refusal Progress :=
  if progress.given.flags.contains flag then
    .error .usage
  else
    .ok { progress with
      given := { progress.given with flags := flag :: progress.given.flags } }

def addChoice (progress : Progress) (choice : Choice) (value : Text) : Except Refusal Progress :=
  match choice with
  | .path =>
      if value.isEmpty || progress.given.path.isSome then
        .error .usage
      else
        .ok { progress with given := { progress.given with path := some ⟨value⟩ }, waiting := none }
  | .format =>
      match format? value, progress.given.format with
      | some format, none =>
          .ok { progress with
            given := { progress.given with format := some format }, waiting := none }
      | _, _ => .error .usage

def addPlain (progress : Progress) (value : Text) : Except Refusal Progress :=
  if progress.level = .generate && !value.isEmpty && progress.given.file.isNone then
    .ok { progress with given := { progress.given with file := some ⟨value⟩ } }
  else
    .error .usage

/-- An option by its long name, with the value attached to it if there is one. -/
def addLong (progress : Progress) (name : Text) (attached : Option Text) :
    Except Refusal Progress :=
  match long? progress.level name, attached with
  | some (.flag flag), none => addFlag progress flag
  | some (.choice choice), some value => addChoice progress choice value
  | some (.choice choice), none => .ok { progress with waiting := some choice }
  | some .help, none => .error .help
  | some .version, none => .error .version
  | _, _ => .error .usage

/-- Options by their letters, of which one with a value takes the rest. -/
def addShort (progress : Progress) : (letters : Text) → Except Refusal Progress
  | [] => .ok progress
  | letter :: rest =>
      match short? progress.level letter with
      | some (.flag flag) => do addShort (← addFlag progress flag) rest
      | some (.choice choice) =>
          match rest with
          | [] => .ok { progress with waiting := some choice }
          | '=' :: value => addChoice progress choice value
          | value => addChoice progress choice value
      | some .help => .error .help
      | some .version => .error .version
      | none => .error .usage

/-- A long option split at the first equals sign. -/
def splitLong (argument : Text) : Text × Option Text :=
  match argument.dropWhile (· != '=') with
  | [] => (argument, none)
  | _ :: value => (argument.takeWhile (· != '='), some value)

/-- The name of a command, or a plain value. -/
def addWord (progress : Progress) (word : Text) : Except Refusal Progress :=
  if progress.level = .top then
    match level? word with
    | some level => .ok { progress with outer := progress.given, level := level, given := {} }
    | none => .error .usage
  else
    addPlain progress word

def addTopic (progress : Progress) (named : Bool) (topic : Text) : Except Refusal Progress :=
  if !named && (level? topic).isSome then
    .ok { progress with level := .help true }
  else
    .error .usage

/-- One argument more. -/
def step (progress : Progress) (argument : Text) : Except Refusal Progress :=
  match progress.level with
  | .help named => addTopic progress named argument
  | _ =>
      if progress.plain then
        addPlain progress argument
      else
        match argument, progress.waiting with
        | '-' :: _ :: _, some _ => .error .usage
        | value, some choice => addChoice progress choice value
        | ['-', '-'], none => .ok { progress with plain := true }
        | '-' :: '-' :: option, none =>
            let (name, attached) := splitLong option
            addLong progress name attached
        | '-' :: letter :: letters, none => addShort progress (letter :: letters)
        | word, none => addWord progress word

/-! ## Whole invocations -/

/-- The one target that was given. -/
def target? (given : Given) : Option Target :=
  match given.file, given.flags.contains .all, given.flags.contains .outdated with
  | some path, false, false => some (.file path)
  | none, true, false => some .all
  | none, false, true => some .outdated
  | _, _, _ => none

def commandAt (level : Level) (given : Given) : Except Refusal (Option Command) :=
  match level with
  | .top => .ok none
  | .help _ => .error .help
  | .generate =>
      match target? given with
      | some target => .ok (some (.generate target (given.flags.contains .watch)))
      | none => .error .usage
  | .compare => .ok (some (.compare (given.format.getD .text)))
  | .stats => .ok (some (.stats (given.format.getD .text)))

/-- The invocation that all arguments make. -/
def finish (progress : Progress) : Except Refusal Invocation :=
  if progress.waiting.isSome then
    .error .usage
  else do
    return {
      root := progress.given.path.or progress.outer.path
      verbose := (progress.given.flags ++ progress.outer.flags).contains .verbose
      command := ← commandAt progress.level progress.given
    }

def read (arguments : List Text) : Except Refusal Invocation := do
  finish (← arguments.foldlM step .start)

end Invocation

end ComponentPages
