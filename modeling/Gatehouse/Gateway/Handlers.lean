import Gatehouse.Table

/-! # Write handlers

Which handler carries out which command. Commands are compared as they are, and
a later registration replaces an earlier one for the same command.
-/

namespace Gatehouse

/-- The name under which a handler is known. -/
structure HandlerId where
  index : Nat
  deriving DecidableEq

/-- The handlers by command. -/
structure HandlerTable where
  handlers : Table String HandlerId
  deriving DecidableEq

namespace HandlerTable

/-- The table without handlers. -/
def empty : HandlerTable := ⟨.empty⟩

/-- Binds a command to a handler. -/
def register (t : HandlerTable) (command : String) (handler : HandlerId) : HandlerTable :=
  ⟨t.handlers.put command handler⟩

/-- The handler of a command. -/
def get? (t : HandlerTable) (command : String) : Option HandlerId :=
  t.handlers.get? command

/-- The commands that have a handler, sorted. -/
def commands (t : HandlerTable) : List String :=
  t.handlers.keys.mergeSort fun a b => decide (a ≤ b)

/-- The number of commands that have a handler. -/
def size (t : HandlerTable) : Nat :=
  t.handlers.size

theorem get?_register (t : HandlerTable) (command other : String) (handler : HandlerId) :
    (t.register command handler).get? other =
      if other = command then some handler else t.get? other :=
  Table.get?_put ..

end HandlerTable

end Gatehouse
