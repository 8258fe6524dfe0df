import UrclDebugger.Log

/-!
# Command line options

The command line names the sources to load, in order, and may set the interval between steps of a
run, a log file and a log level. Arguments are read from left to right. An option takes its value
from behind an equals sign or from the next argument, and a value from the next argument is
checked only when the argument after it has been recognised. After `--` every argument is a file.
-/

namespace UrclDebugger

/-- What the command line asks for. -/
structure Options where
  /-- The sources to load, in order. -/
  files : List String := []
  /-- Milliseconds between the steps of a run, as they were given. -/
  interval : Nat := 100
  logFile : Option String := none
  logLevel : Log.Level := .info
  deriving DecidableEq, Repr

/-- Milliseconds between the steps of a run: at least one. -/
def Options.stepInterval (options : Options) : Nat := max options.interval 1

/-- Why a command line is not followed. -/
inductive OptionsError where
  | unknownArgument
  /-- A value is missing, empty or none of the possible ones. -/
  | invalidValue
  /-- A value is no number in range. -/
  | valueValidation
  /-- An option is given twice. -/
  | argumentConflict
  /-- A value is given to something that takes none. -/
  | tooManyValues
  /-- The help text is asked for. -/
  | displayHelp
  /-- The version is asked for. -/
  | displayVersion
  deriving DecidableEq, Repr

namespace Options

/-- The options that take a value. -/
inductive Key where
  | interval
  | logFile
  | logLevel
  deriving DecidableEq, Repr

/-- The option with the given long name. -/
def Key.ofName? : String → Option Key
  | "interval-ms" => some .interval
  | "log-file" => some .logFile
  | "log-level" => some .logLevel
  | _ => none

/-- What has been read but not yet checked. -/
inductive Pending where
  | nothing
  /-- An option and its value, if that has been read. -/
  | option (key : Key) (value : Option String)
  | files (paths : List String)
  deriving DecidableEq, Repr

/-- The state between two arguments. -/
structure Reading where
  options : Options := {}
  /-- The options that have been given. -/
  given : List Key := []
  pending : Pending := .nothing
  /-- Whether `--` has been read. -/
  onlyFiles : Bool := false

/-- A natural number below two to the power of sixty-four; a plus sign may stand before it. -/
def natural? (text : String) : Option Nat :=
  let digits :=
    match text.toList with
    | '+' :: digits => digits
    | digits => digits
  if digits.isEmpty || !digits.all Char.isDigit then none
  else
    let value := digits.foldl (fun value c => value * 10 + (c.toNat - '0'.toNat)) 0
    if value < UInt64.size then some value else none

/-- A path, which is not empty. -/
def path (text : String) : Except OptionsError String :=
  if text.isEmpty then .error .invalidValue else .ok text

/-- The options with one of them set. -/
def set (options : Options) (key : Key) (value : String) : Except OptionsError Options :=
  match key with
  | .interval =>
    match natural? value with
    | some interval => .ok { options with interval := interval }
    | none => .error .valueValidation
  | .logFile => (path value).map fun file => { options with logFile := some file }
  | .logLevel =>
    match Log.Level.all.find? (·.name == value) with
    | some level => .ok { options with logLevel := level }
    | none => .error .invalidValue

namespace Reading

/-- Checks and takes over the value of an option. -/
def accept (reading : Reading) (key : Key) (value : String) : Except OptionsError Reading :=
  if reading.given.contains key then .error .argumentConflict
  else
    (reading.options.set key value).map fun options =>
      { reading with options := options, given := key :: reading.given }

/-- Checks and takes over what is pending. -/
def settle (reading : Reading) : Except OptionsError Reading :=
  let settled := { reading with pending := .nothing }
  match reading.pending with
  | .nothing => .ok settled
  | .option _ none => .error .invalidValue
  | .option key (some value) => settled.accept key value
  | .files paths =>
    (paths.mapM path).map fun paths =>
      { settled with options.files := settled.options.files ++ paths }

/-- Reads an argument that names a file. -/
def file (reading : Reading) (argument : String) : Except OptionsError Reading :=
  match reading.pending with
  | .files paths => .ok { reading with pending := .files (paths ++ [argument]) }
  | _ => reading.settle.map fun settled => { settled with pending := .files [argument] }

/-- Reads an argument that starts with two dashes and goes on. -/
def long (reading : Reading) (argument : String) : Except OptionsError Reading := do
  let name := String.ofList (argument.toList.takeWhile (· ≠ '='))
  let attached :=
    match argument.toList.dropWhile (· ≠ '=') with
    | [] => none
    | _ :: value => some (String.ofList value)
  match Key.ofName? name, attached with
  | some key, some value => (← reading.settle).accept key value
  | some key, none => return { ← reading.settle with pending := .option key none }
  | none, attached =>
    let request ←
      if name = "help" then pure OptionsError.displayHelp
      else if name = "version" then pure OptionsError.displayVersion
      else throw .unknownArgument
    if attached.isSome then throw .tooManyValues
    let _ ← reading.settle
    throw request

/-- Reads an argument that starts with one dash and goes on. -/
def short (reading : Reading) (letter : Char) : Except OptionsError Reading := do
  let request ←
    if letter = 'h' then pure OptionsError.displayHelp
    else if letter = 'V' then pure OptionsError.displayVersion
    else throw .unknownArgument
  let _ ← reading.settle
  throw request

/-- Reads one argument. -/
def argument (reading : Reading) (text : String) : Except OptionsError Reading :=
  if reading.onlyFiles then reading.file text
  else
    match text.toList with
    | ['-', '-'] => .ok { reading with onlyFiles := true }
    | '-' :: '-' :: rest => reading.long (String.ofList rest)
    | '-' :: letter :: _ => reading.short letter
    | _ =>
      match reading.pending with
      | .option key none => .ok { reading with pending := .option key (some text) }
      | _ => reading.file text

/-- Reads arguments to the end. -/
def arguments (reading : Reading) : List String → Except OptionsError Options
  | [] => reading.settle.map Reading.options
  | text :: rest => do (← reading.argument text).arguments rest

end Reading

/-- The options that a command line asks for. -/
def parse (arguments : List String) : Except OptionsError Options :=
  Reading.arguments {} arguments

end Options

end UrclDebugger
