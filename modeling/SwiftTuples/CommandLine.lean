import SwiftTuples.Path
/-!
# The command line

Options, switches and paths in any order. The value of an option is the next argument or follows
an equals sign; after a bare double dash every argument is a path. What was read last is pending
until the next option or switch shows that it is complete, so an unknown name is reported before a
value that is no good.
-/

namespace SwiftTuples

/-- The form of a report. -/
inductive Format where
  | text
  | json
deriving DecidableEq, Repr

/-- Why arguments make no run. -/
inductive UsageError where
  | unknownArgument
  /-- An option without its value, or with one that is no good. -/
  | invalidValue
  /-- A switch with a value. -/
  | tooManyValues
  /-- An option or a switch that is there twice. -/
  | conflict
  | helpAsked
  | versionAsked
deriving DecidableEq, Repr

/-- What arguments ask for. -/
structure CommandLine where
  paths : List Path := []
  format : Option Format := none
  /-- The file of settings. -/
  settingsFile : Option Path := none
  /-- Warnings fail the run too. -/
  strict : Bool := false
  verbose : Bool := false
deriving DecidableEq, Repr

namespace CommandLine

/-- An option, which takes a value. -/
inductive Setting where
  | format
  | settingsFile
deriving DecidableEq, Repr

/-- A switch, which takes none. -/
inductive Switch where
  | strict
  | verbose
  | help
  | version
deriving DecidableEq, Repr

/-- What may be incomplete. -/
inductive Pending where
  | nothing
  | setting (s : Setting) (value : Option Text)
  | paths (texts : List Text)
deriving DecidableEq, Repr

/-- The option of a long name. -/
def Setting.ofName? (name : Text) : Option Setting :=
  if name = "format".toList then some .format
  else if name = "config".toList then some .settingsFile
  else none

/-- The switch of a long name. -/
def Switch.ofName? (name : Text) : Option Switch :=
  if name = "strict".toList then some .strict
  else if name = "verbose".toList then some .verbose
  else if name = "help".toList then some .help
  else if name = "version".toList then some .version
  else none

/-- The switch of a letter. -/
def Switch.ofLetter? : Char → Option Switch
  | 'v' => some .verbose
  | 'h' => some .help
  | 'V' => some .version
  | _ => none

/-- The format of a name. -/
def formatOf (name : Text) : Except UsageError Format :=
  if name = "text".toList then .ok .text
  else if name = "json".toList then .ok .json
  else .error .invalidValue

/-- A path, which has to say something. -/
def pathOf (text : Text) : Except UsageError Path :=
  if text.isEmpty then .error .invalidValue else .ok ⟨text⟩

/-- Gives an option its value. -/
def give (l : CommandLine) (s : Setting) (value : Text) : Except UsageError CommandLine :=
  match s with
  | .format =>
    if l.format.isSome then .error .conflict
    else do return { l with format := some (← formatOf value) }
  | .settingsFile =>
    if l.settingsFile.isSome then .error .conflict
    else do return { l with settingsFile := some (← pathOf value) }

/-- Turns a switch on. -/
def turnOn (l : CommandLine) : Switch → Except UsageError CommandLine
  | .strict => if l.strict then .error .conflict else .ok { l with strict := true }
  | .verbose => if l.verbose then .error .conflict else .ok { l with verbose := true }
  | .help => .error .helpAsked
  | .version => .error .versionAsked

/-- Takes over what was pending. -/
def settle (l : CommandLine) : Pending → Except UsageError CommandLine
  | .nothing => .ok l
  | .setting _ none => .error .invalidValue
  | .setting s (some value) => l.give s value
  | .paths texts => do return { l with paths := l.paths ++ (← texts.mapM pathOf) }

/-- Adds a path to what is pending. -/
def addPath (l : CommandLine) (pending : Pending) (text : Text) :
    Except UsageError (CommandLine × Pending) :=
  match pending with
  | .paths texts => .ok (l, .paths (texts ++ [text]))
  | _ => do return (← l.settle pending, .paths [text])

/-- Reads the letters after a single dash. -/
def readLetters (l : CommandLine) (pending : Pending) : Text → Except UsageError CommandLine
  | [] => l.settle pending
  | c :: rest =>
    match Switch.ofLetter? c with
    | none => .error .unknownArgument
    | some s => do (← (← l.settle pending).turnOn s).readLetters .nothing rest

/-- Reads a long name and the value that is attached to it, if there is one. -/
def readName (l : CommandLine) (pending : Pending) (name : Text) (value : Option Text) :
    Except UsageError (CommandLine × Pending) :=
  match Setting.ofName? name, Switch.ofName? name with
  | some s, _ => do
    let l ← l.settle pending
    match value with
    | some v => return (← l.give s v, .nothing)
    | none => return (l, .setting s none)
  | none, some s =>
    if value.isSome then .error .tooManyValues
    else do return (← (← l.settle pending).turnOn s, .nothing)
  | none, none => .error .unknownArgument

/-- A long argument as its name and what stands behind the first equals sign. -/
def splitName (text : Text) : Text × Option Text :=
  match text.dropWhile (· != '=') with
  | [] => (text, none)
  | _ :: value => (text.takeWhile (· != '='), some value)

/-- Reads arguments all of which are paths. -/
def readPaths (l : CommandLine) (pending : Pending) : List Text → Except UsageError CommandLine
  | [] => l.settle pending
  | text :: rest => do
    let (l, pending) ← l.addPath pending text
    l.readPaths pending rest

/-- Reads arguments. -/
def readArguments (l : CommandLine) (pending : Pending) :
    List Text → Except UsageError CommandLine
  | [] => l.settle pending
  | ['-', '-'] :: rest => l.readPaths pending rest
  | ('-' :: '-' :: long) :: rest => do
    let (l, pending) ← l.readName pending (splitName long).1 (splitName long).2
    l.readArguments pending rest
  | ('-' :: c :: letters) :: rest => do
    (← l.readLetters pending (c :: letters)).readArguments .nothing rest
  | text :: rest =>
    match pending with
    | .setting s none => l.readArguments (.setting s (some text)) rest
    | _ => do
      let (l, pending) ← l.addPath pending text
      l.readArguments pending rest

/-- What the arguments ask for. -/
def parse (arguments : List Text) : Except UsageError CommandLine :=
  ({} : CommandLine).readArguments .nothing arguments

end CommandLine

end SwiftTuples
