import UrclDebugger.Log
import UrclDebugger.Machine.Error
import UrclDebugger.Scope
import UrclDebugger.Script.Run
import UrclDebugger.Assembly.Program
import UrclDebugger.Source

/-!
# Engines

The debugger does not run programs itself. It works on scopes through an engine, which loads
sources into a scope, reads and binds variables, evaluates expressions and takes steps. An engine
is expected to keep the machine's state in the variables of `UrclDebugger.Variable`.
-/

namespace UrclDebugger

/-- Why a file can not be read or written. -/
inductive FileError where
  | notFound
  | notDirectory
  | isDirectory
  | exists
  /-- A segment of the path is longer than a file system takes. -/
  | nameTooLong
  /-- The path holds the null character. -/
  | nullInPath
  /-- The file's bytes are no text. -/
  | notText
  /-- Anything else, in the words and with the number that the system has for it. -/
  | other (text : String) (code : Nat)
  deriving DecidableEq, Repr

/-- The wording of a file error. -/
def FileError.message : FileError → String
  | .notFound => "No such file or directory (os error 2)"
  | .exists => "File exists (os error 17)"
  | .notDirectory => "Not a directory (os error 20)"
  | .isDirectory => "Is a directory (os error 21)"
  | .nameTooLong => "File name too long (os error 36)"
  | .nullInPath => "file name contained an unexpected NUL byte"
  | .notText => "stream did not contain valid UTF-8"
  | .other text code => text ++ " (os error " ++ toString code ++ ")"

/-- Why a source can not be loaded. -/
inductive LoadError where
  | unreadable (path : String) (error : FileError)
  | assembly (error : AssemblyError)
  | script (error : ScriptError)
  /-- The source's extension names no kind of module. -/
  | unsupported
  deriving DecidableEq

/-- The wording of a load error. -/
def LoadError.message : LoadError → String
  | .unreadable path error => path ++ ": " ++ error.message
  | .assembly error => error.message
  | .script error => error.message
  | .unsupported => "File format is not supported."

/-- What loading a source leaves: the scope with every binding made, the reason why the source is
not loaded completely, if there is one, and what is to be logged. -/
structure Loading (σ : Type) where
  scope : σ
  failure : Option LoadError
  log : List Log.Record

/-- What takes care of the scopes of type `σ`. -/
class Engine (σ : Type) where
  /-- A scope without variables. -/
  fresh : σ
  /-- Loads a source into a scope. -/
  load : σ → Source → Loading σ
  /-- The value of a variable. -/
  read : σ → String → Option Value
  /-- The names of the variables, each once. -/
  names : σ → List String
  /-- Binds a variable. -/
  bind : σ → String → Value → σ
  /-- The value of the expression that a text is. -/
  evaluate : σ → String → Except EvalError Value
  /-- Takes one step; a failed step leaves what it has changed. -/
  step : σ → Except ExecError Unit × σ

end UrclDebugger
