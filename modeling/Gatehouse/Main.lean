import Gatehouse.Config.Load
import Gatehouse.Usage

/-! # The server

The outermost layer of the program. It reads the options, the file of settings
and the variables these refer to, makes the application, and runs until its
input ends. What any of that means is decided in the modules it calls.
-/

namespace Gatehouse.Server

/-- What stands at a path. -/
def look (path : String) : IO FileContent := do
  try
    let bytes ← IO.FS.readBinFile path
    return match String.fromUTF8? bytes with
      | some text => .readable text
      | none => .unreadable
  catch
    | .noFileOrDirectory .. => return .missing
    | _ => return .unreadable

/-- The environment, as far as it is about the given variables. -/
def environment (names : List String) : IO Environment := do
  let looked ← names.mapM fun name => return (name, ← IO.getEnv name)
  return .ofList (looked.filterMap fun (name, value) => value.map fun v => (name, v))

/-- Loads the settings. -/
def settings (options : LoadOptions) : IO (Except ConfigError Config) := do
  let found ← options.candidates.mapM fun path => return (path, ← look path)
  let referred := found.flatMap fun (_, content) =>
    match content with
    | .readable text => Interpolation.references text
    | .missing | .unreadable => []
  let env ← environment (ConfigOverrides.variableNames ++ referred)
  return Config.load (fun path => (found.lookup path).getD .missing) env options

/-- What a clock shows that never goes back. -/
def now : IO Moment := do
  return .ofNanos (← IO.monoNanosNow)

/-- Serves until the input ends. -/
def serve (application : Application) : IO Unit := do
  IO.println application.greeting
  let input ← IO.getStdin
  let _ ← input.getLine
  IO.println application.farewell

/-- Runs with options. -/
def run (options : Options) : IO UInt32 := do
  match ← settings options.toLoadOptions with
  | .error e =>
    IO.eprintln e.message
    return 1
  | .ok config =>
    match Application.ofConfig config (← now) with
    | .error rule =>
      IO.eprintln (ConfigError.broken rule).message
      return 1
    | .ok application =>
      serve application
      return 0

end Gatehouse.Server

open Gatehouse in
/-- Runs the server with the arguments of the command line. -/
def main (arguments : List String) : IO UInt32 := do
  match Options.ofArguments (Usage.program :: arguments) with
  | .ok options => Server.run options
  | .error e =>
    if e.isRequest then IO.println e.message else IO.eprintln e.message
    return e.exitCode
