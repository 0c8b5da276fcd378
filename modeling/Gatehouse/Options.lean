import Gatehouse.Config.Load

/-! # Command line options

The options of the server: where its settings are, how much it logs, and the
usual two that only print something. A value stands behind an equals sign or is
the next argument, unless that starts with a hyphen. An option is taken in when
the next one begins or the arguments end; only then its value is judged.
-/

namespace Gatehouse

/-- Why the options are not followed. -/
inductive OptionError where
  | unknownArgument
  | invalidValue
  | argumentConflict
  | tooManyValues
  | displayHelp
  | displayVersion
  deriving DecidableEq, Repr

/-- The options that take a value. -/
inductive ValueOption where
  | config
  | logLevel
  deriving DecidableEq, Repr

/-- What the options say. -/
structure Options where
  config : Option String
  logLevel : Option String
  deriving DecidableEq

namespace Options

/-- No options. -/
def none : Options := ⟨.none, .none⟩

/-- Takes in an option with its value. A second time is a conflict, and a path must not be empty. -/
def take (o : Options) : ValueOption → Option String → Except OptionError Options
  | _, .none => .error .invalidValue
  | .config, some value =>
    if o.config.isSome then .error .argumentConflict
    else if value = "" then .error .invalidValue
    else .ok { o with config := some value }
  | .logLevel, some value =>
    if o.logLevel.isSome then .error .argumentConflict
    else .ok { o with logLevel := some value }

/-- The option that was begun last, with the value it has so far. -/
abbrev Begun := Option (ValueOption × Option String)

/-- Takes in the option that was begun, if there is one. -/
def settle (o : Options) : Begun → Except OptionError Options
  | .none => .ok o
  | some (option, value) => o.take option value

/-- What an argument is. -/
inductive Argument where
  | escape
  | value (text : String)
  | begins (option : ValueOption)
  | complete (option : ValueOption) (value : String)
  | shows (what : OptionError)
  | showsWithValue
  | unknown
  deriving DecidableEq

/-- An argument behind two hyphens, cut at its first equals sign. -/
def longArgument (cs : List Char) : Argument :=
  let name := String.ofList (cs.takeWhile (· ≠ '='))
  match name, cs.dropWhile (· ≠ '=') with
  | "config", [] => .begins .config
  | "config", _ :: value => .complete .config (String.ofList value)
  | "log-level", [] => .begins .logLevel
  | "log-level", _ :: value => .complete .logLevel (String.ofList value)
  | "help", [] => .shows .displayHelp
  | "version", [] => .shows .displayVersion
  | "help", _ :: _ | "version", _ :: _ => .showsWithValue
  | _, _ => .unknown

/-- What an argument is, by its hyphens. -/
def classify (argument : String) : Argument :=
  match argument.toList with
  | ['-', '-'] => .escape
  | '-' :: '-' :: cs => longArgument cs
  | '-' :: 'h' :: _ => .shows .displayHelp
  | '-' :: 'V' :: _ => .shows .displayVersion
  | '-' :: _ :: _ => .unknown
  | _ => .value argument

/-- Reads arguments one after the other. -/
def read : List String → Options → Begun → Except OptionError Options
  | [], o, begun => o.settle begun
  | argument :: rest, o, begun =>
    match classify argument with
    | .escape => if rest.isEmpty then o.settle begun else .error .unknownArgument
    | .value text =>
      match begun with
      | some (option, .none) => read rest o (some (option, some text))
      | some (_, some _) | .none => .error .unknownArgument
    | .begins option => do
      let o ← o.settle begun
      read rest o (some (option, .none))
    | .complete option value => do
      let o ← o.settle begun
      let o ← o.take option (some value)
      read rest o .none
    | .shows what => do
      let _ ← o.settle begun
      .error what
    | .showsWithValue => .error .tooManyValues
    | .unknown => .error .unknownArgument

/-- Reads the arguments of a program, the first of which is its name. -/
def ofArguments (arguments : List String) : Except OptionError Options :=
  read arguments.tail none .none

/-- How settings are loaded with these options; a file that is named is required. -/
def toLoadOptions (o : Options) : LoadOptions where
  path := o.config
  requireFile := o.config.isSome
  overrides := { logLevel := o.logLevel }

end Options

end Gatehouse
