import Gatehouse.Application
import Gatehouse.Options

/-! # What the command line prints

The texts that the options `--help` and `--version` ask for, the complaints about
options that cannot be followed with their exit codes, and what the server says
when it starts and stops.
-/

namespace Gatehouse

namespace Usage

/-- The name of the program. -/
def program : String := "execgate-server"

/-- The program's version. -/
def version : String := "0.1.0"

/-- The text for those who ask for help. -/
def help : String :=
  String.intercalate "\n" [
    "Governed agent execution and write gateway",
    "",
    "Usage: " ++ program ++ " [OPTIONS]",
    "",
    "Options:",
    "      --config <PATH>      Path to a TOML config file. Defaults to `execgate.toml` or " ++
      "`config/execgate.toml`",
    "      --log-level <LEVEL>",
    "  -h, --help               Print help",
    "  -V, --version            Print version"]

end Usage

namespace OptionError

/-- What is printed when options are not followed. -/
def message : OptionError → String
  | .unknownArgument => "error: unexpected argument found"
  | .invalidValue => "error: a value is required or is not accepted"
  | .argumentConflict => "error: an argument cannot be used multiple times"
  | .tooManyValues => "error: unexpected value for an argument found; no more were expected"
  | .displayHelp => Usage.help
  | .displayVersion => Usage.program ++ " " ++ Usage.version

/-- Printing is all that was asked for. -/
def isRequest : OptionError → Bool
  | .displayHelp | .displayVersion => true
  | .unknownArgument | .invalidValue | .argumentConflict | .tooManyValues => false

/-- The exit code. -/
def exitCode (e : OptionError) : UInt32 :=
  if e.isRequest then 0 else 2

end OptionError

namespace Application

/-- What the server says when it starts. -/
def greeting (a : Application) : String :=
  Usage.program ++ " started: " ++ toString a.workshop.router.names.length ++ " agents, " ++
    toString a.workshop.gateway.handlers.size ++ " handlers"

/-- What the server says when it stops. -/
def farewell (a : Application) : String :=
  Usage.program ++ " stopping: " ++ toString a.workshop.queue.tally.queued ++ " jobs queued, " ++
    toString a.approvals.pendingCount ++ " approvals pending"

end Application

end Gatehouse
