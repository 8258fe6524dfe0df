import UrclDebugger.App.Loop
import UrclDebugger.Log.File
import UrclDebugger.Options.Help
import UrclDebugger.Terminal.Input
import UrclDebugger.Terminal.Output
import UrclDebugger.Urcl

/-!
# The program

Reads the command line and runs the application on the terminal that the program is attached to.
Everything that it decides is decided by the modules it imports; here are only the reading of bytes
and files, the clock, and the writing of text.
-/

namespace UrclDebugger.Terminal

/-- The terminal that the program is attached to. -/
structure Device where
  input : IO.FS.Stream
  output : IO.FS.Stream
  /-- Bytes that have arrived and stand for no key yet. -/
  arrived : IO.Ref (List UInt8)
  /-- A read that has been started. -/
  reading : IO.Ref (Option (Task (Except IO.Error ByteArray)))
  /-- Whether the input has ended. -/
  ended : IO.Ref Bool
  /-- The text that shows the present screen. -/
  shown : IO.Ref String

/-- The terminal of standard input and output. -/
def Device.open : IO Device := do
  return { input := ← IO.getStdin
           output := ← IO.getStdout
           arrived := ← IO.mkRef []
           reading := ← IO.mkRef none
           ended := ← IO.mkRef false
           shown := ← IO.mkRef "" }

/-- Writes text at once. -/
def Device.write (device : Device) (text : String) : IO Unit := do
  device.output.putStr text
  device.output.flush

/-- The read that has been started, or a new one. -/
def Device.startReading (device : Device) : IO (Task (Except IO.Error ByteArray)) := do
  match ← device.reading.get with
  | some task => return task
  | none =>
    let task ← IO.asTask (device.input.read 1) Task.Priority.dedicated
    device.reading.set (some task)
    return task

/-- Takes over what a finished read has brought; nothing means the end of the input. -/
def Device.finishReading (device : Device) (task : Task (Except IO.Error ByteArray)) : IO Unit := do
  device.reading.set none
  match task.get with
  | .ok bytes =>
    if bytes.isEmpty then device.ended.set true
    else device.arrived.modify (· ++ bytes.toList)
  | .error _ => device.ended.set true

/-- Waits for the next byte until the given time; whether it has arrived. -/
partial def Device.await (device : Device) (deadline : Nat) : IO Bool := do
  if ← device.ended.get then return false
  let task ← device.startReading
  if ← IO.hasFinished task then
    device.finishReading task
    return !(← device.ended.get)
  if deadline ≤ (← IO.monoMsNow) then return false
  IO.sleep 2
  device.await deadline

/-- The next key, if one comes until the given time. -/
partial def Device.readKey (device : Device) (deadline : Nat) : IO (Option Key) := do
  match decode? false (← device.arrived.get) with
  | some (key, rest) =>
    device.arrived.set rest
    if key.isSome then return key
    device.readKey deadline
  | none =>
    if ← device.await deadline then device.readKey deadline
    else
      match decode? true (← device.arrived.get) with
      | some (key, rest) =>
        device.arrived.set rest
        return key
      | none => return none

/-- Shows a screen, unless it is shown already; whether the input goes on. -/
def Device.present (device : Device) (screen : Screen) : IO Bool := do
  let text := screen.paint
  if text ≠ (← device.shown.get) then
    device.write text
    device.shown.set text
  return !(← device.ended.get)

/-- The number in a variable of the environment, or another one. -/
def numberIn (name : String) (otherwise : Nat) : IO Nat := do
  return ((← IO.getEnv name).bind String.toNat?).getD otherwise

/-- The display of the terminal. -/
def Device.display (device : Device) : Display IO where
  size := return (← numberIn "COLUMNS" 80, ← numberIn "LINES" 24)
  present := device.present
  readKey wait := do device.readKey ((← IO.monoMsNow) + wait)
  now := IO.monoMsNow

end UrclDebugger.Terminal

namespace UrclDebugger

/-- The reason that the system gives for a failure. -/
def FileError.ofSystem (error : IO.Error) : FileError :=
  match error with
  | .noFileOrDirectory .. => .notFound
  | .inappropriateType _ 20 _ => .notDirectory
  | .inappropriateType _ 21 _ => .isDirectory
  | .permissionDenied _ code details => .other details code.toNat
  | .resourceExhausted _ code details => .other details code.toNat
  | unnamed => .other (toString unnamed) 5

/-- The text of a file. -/
def textOfFile (path : String) : IO (Except FileError String) := do
  try
    let bytes ← (← IO.FS.Handle.mk path .read).readBinToEnd
    match String.fromUTF8? bytes with
    | some text => return .ok text
    | none => return .error .notText
  catch error => return .error (.ofSystem error)

/-- What writes records to a log file, or to nowhere without one. -/
def openLog (options : Options) : IO (Except Log.OpenError (Log.Record → IO Unit)) := do
  match options.logFile with
  | none => return .ok fun _ => return
  | some path =>
    try
      let file ← IO.FS.Handle.mk path .append
      return .ok fun record => do
        if options.logLevel.admits record then
          file.putStrLn record.line
          file.flush
    catch error => return .error ⟨.ofSystem error⟩

/-- Asks what to do about a source until there is a decision. -/
partial def askUser (display : Display IO) (backdrop : Screen) (source : Source)
    (error : LoadError) : IO Decision := do
  match ← LoadPrompt.askOnce display backdrop source error with
  | some decision => return decision
  | none => askUser display backdrop source error

/-- The console of a terminal. -/
def Terminal.Device.console (device : Terminal.Device) (log : Log.Record → IO Unit) : Console IO :=
  { device.display with
    environment := fun backdrop =>
      { fileText := textOfFile
        ask := askUser device.display backdrop
        log := log } }

/-- Goes round until the application has ended. -/
partial def goRound (console : Console IO) (app : App Scope) : IO AppExit := do
  match ← app.round console with
  | (some ended, _) => return ended
  | (none, app) => goRound console app

/-- Runs the application that a command line asks for. -/
def runApp (options : Options) (log : Log.Record → IO Unit) : IO AppExit := do
  log ⟨.info, "starting with " ++ toString options.files.length ++
    " module(s), step interval " ++ toString options.stepInterval ++ "ms"⟩
  let device ← Terminal.Device.open
  let console := device.console log
  device.write Terminal.enter
  try
    match ← (App.new options.stepInterval).begin console options.files with
    | (some ended, _) => return ended
    | (none, app) => goRound console app
  finally device.write Terminal.leave

end UrclDebugger

open UrclDebugger in
/-- Runs the debugger; zero if it was left by the user's wish. -/
def main (arguments : List String) : IO UInt32 := do
  match Options.parse arguments with
  | .error error =>
    if error.isRequest then
      IO.println error.message
      return 0
    IO.eprintln ("error: " ++ error.message ++ "\n\n" ++ Options.help)
    return 2
  | .ok options =>
    match ← openLog options with
    | .error failure =>
      IO.eprintln ("Error: " ++ failure.message)
      return 1
    | .ok log =>
      match ← runApp options log with
      | .quit => return 0
      | .startupAborted =>
        IO.eprintln "Startup aborted: a module failed to load"
        return 1
      | .closed =>
        IO.eprintln "Error: the input has ended"
        return 1
