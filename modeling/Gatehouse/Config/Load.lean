import Gatehouse.Config.Document
import Gatehouse.Config.Interpolation
import Gatehouse.Config.Overrides
import Gatehouse.Config.Validation
import Gatehouse.Toml.Reader

/-! # Loading settings

Settings come from four sources: the defaults, a file, the environment and the
caller, each replacing what it speaks of. The file is the one asked for or the
first of two usual places; only a file that is required has to be there. The
settings are checked once, when all sources have spoken.
-/

namespace Gatehouse

/-- What is found at a path. -/
inductive FileContent where
  | missing
  | unreadable
  | readable (text : String)
  deriving DecidableEq

/-- How settings are to be loaded. -/
structure LoadOptions where
  path : Option String
  requireFile : Bool
  overrides : ConfigPatch
  deriving DecidableEq

namespace LoadOptions

/-- Where the file is looked for when nobody says where it is. -/
def usualPaths : List String :=
  ["execgate.toml", "config/execgate.toml"]

/-- The paths that are tried. -/
def candidates (o : LoadOptions) : List String :=
  match o.path with
  | some path => [path]
  | none => usualPaths

end LoadOptions

namespace Config

/-- The first path where something is. -/
def findFile (files : String → FileContent) (paths : List String) : Option String :=
  paths.find? fun path => decide (files path ≠ .missing)

/-- What the file at a path says about the settings. -/
def patchOf (env : Environment) (path : String) :
    FileContent → Except ConfigError ConfigPatch
  | .missing | .unreadable => .error (.unreadable path)
  | .readable text => do
    let filled ← (Interpolation.interpolate env text).mapError .interpolation
    match (Toml.Reader.read filled).bind ConfigDocument.patch with
    | some patch => .ok patch
    | none => .error (.unparsable path)

/-- What the file says about the settings; nothing, if there is none and none is required. -/
def filePatch (files : String → FileContent) (env : Environment) (o : LoadOptions) :
    Except ConfigError ConfigPatch :=
  match findFile files o.candidates with
  | some path => patchOf env path (files path)
  | none =>
    if o.requireFile then .error (.missingFile (o.path.getD "execgate.toml")) else .ok {}

/-- Loads settings. -/
def load (files : String → FileContent) (env : Environment) (o : LoadOptions) :
    Except ConfigError Config := do
  let fromFile ← filePatch files env o
  let fromEnvironment ← ConfigOverrides.patch env
  let config := ((standard.patched fromFile).patched fromEnvironment).patched o.overrides
  config.validate.mapError .broken
  .ok config

end Config

end Gatehouse
