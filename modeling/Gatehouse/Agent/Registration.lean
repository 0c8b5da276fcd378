import Gatehouse.Agent.Fleet
import Gatehouse.Text.Quoted

/-! # Registered agents

What the router knows about an agent it may send work to, and the view of an
agent that joins this with the books of the fleet.
-/

namespace Gatehouse

/-- The name under which the transport to an agent's executor is known. -/
structure AdapterId where
  index : Nat
  deriving DecidableEq

/-- An agent as it was registered. -/
structure Registration where
  name : String
  capabilities : List String
  executor : String
  maxConcurrency : Option Nat
  adapter : AdapterId
  deriving DecidableEq

namespace Registration

/-- The agent lists the command among its capabilities. -/
def handles (r : Registration) (command : String) : Bool :=
  r.capabilities.contains command

/-- Adds one capability behind the others. -/
def withCapability (r : Registration) (capability : String) : Registration :=
  { r with capabilities := r.capabilities ++ [capability] }

/-- A registration on one line, without its adapter. -/
def describe (r : Registration) : String :=
  let ceiling := match r.maxConcurrency with
    | some n => "Some(" ++ toString n ++ ")"
    | none => "None"
  "AgentRegistration \x7b name: " ++ Text.quoted r.name ++
    ", capabilities: " ++ Text.quotedList r.capabilities ++
    ", executor: " ++ Text.quoted r.executor ++
    ", max_concurrency: " ++ ceiling ++ ", .. \x7d"

end Registration

/-- A registered agent together with what the fleet knows about it. -/
structure RoutedAgent where
  capabilities : List String
  executor : String
  state : AgentSnapshot
  deriving DecidableEq

namespace RoutedAgent

/-- The fields of the registration. -/
def record : Record (List String × String) :=
  Prod.mk
    <$> .field "capabilities" .texts
    <*> .field "executor" .text

/-- Decodes an object that holds the fields of the registration and those of the snapshot. -/
def decode : Decoder RoutedAgent
  | .obj fields => do
    let (capabilities, executor) ← record.decode "struct RoutedAgentSnapshot" .direct (.obj fields)
    let state ←
      (AgentSnapshot.record .setAside).decode "struct AgentStateSnapshot" .setAside (.obj fields)
    .ok ⟨capabilities, executor, state⟩
  | j => .error (.wrongType j "struct RoutedAgentSnapshot")

/-- Encodes both parts as the fields of one object. -/
def toJson (a : RoutedAgent) : Json :=
  .ofFields (
    ("capabilities", .arr (a.capabilities.map .str)) ::
    ("executor", .str a.executor) ::
    a.state.toFields)

end RoutedAgent

end Gatehouse
