import Gatehouse.Environment
import Gatehouse.Fault
import Gatehouse.Text.Blank

/-! # Executor bindings

Where an agent's executor is found: a literal target, or `ENV:` and the name of
the environment variable that holds the target at the moment of use.
-/

namespace Gatehouse

/-- What a binding says: a target, or the variable that holds it. -/
inductive Binding where
  | literal (target : String)
  | variableNamed (name : String)
  deriving DecidableEq

namespace Binding

/-- Reads a binding; blanks around it and around the name of a variable do not count. -/
def parse (s : String) : Binding :=
  match Text.trimChars s.toList with
  | 'E' :: 'N' :: 'V' :: ':' :: name => .variableNamed (String.ofList (Text.trimChars name))
  | target => .literal (String.ofList target)

/-- The target of a binding. A variable that is unset or blank leaves it unresolved. -/
def target (env : Environment) : Binding → Except Fault String
  | .literal target => .ok target
  | .variableNamed name =>
    match (env.get? name).map Text.trim with
    | some value =>
      if value = "" then .error (unresolved name) else .ok value
    | none => .error (unresolved name)
where
  unresolved (name : String) : Fault :=
    ⟨"BindingUnresolved", "environment variable `" ++ name ++ "` is not set"⟩

/-- The target that a binding text stands for at the moment. -/
def resolve (env : Environment) (s : String) : Except Fault String :=
  (parse s).target env

end Binding

end Gatehouse
