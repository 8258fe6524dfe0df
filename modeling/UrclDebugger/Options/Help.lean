import UrclDebugger.Options

/-!
# Help on the command line
-/

namespace UrclDebugger

/-- The name and the version of the program. -/
def Options.version : String := "urcl-debugger 0.1.0"

/-- What the command line can ask for. -/
def Options.help : String :=
  "Step through URCL programs and watch registers, stack and memory change

Usage: urcl-debugger [OPTIONS] [FILE]...

Arguments:
  [FILE]...  Sources to load at the start, in order (.urcl programs, .urs scripts)

Options:
      --interval-ms <MS>   Milliseconds between the steps of a run [default: 100]
      --log-file <PATH>    Write a log to this file
      --log-level <LEVEL>  Least weight of what is logged [default: info]
                           [possible values: error, warn, info, debug, trace]
  -h, --help               Print help
  -V, --version            Print version

The terminal has to hand over keys as they are pressed (stty raw -echo). The screen is as large as
the variables COLUMNS and LINES say, and 80 by 24 cells without them."

/-- The wording of a rejected command line. -/
def OptionsError.message : OptionsError → String
  | .unknownArgument => "an argument is unknown"
  | .invalidValue => "a value is missing or none of the possible ones"
  | .valueValidation => "a value is no number in range"
  | .argumentConflict => "an option is given twice"
  | .tooManyValues => "a value is given to an option that takes none"
  | .displayHelp => Options.help
  | .displayVersion => Options.version

/-- Whether a rejected command line asked for a text and got it. -/
def OptionsError.isRequest : OptionsError → Bool
  | .displayHelp | .displayVersion => true
  | _ => false

end UrclDebugger
