import Rail18.Json.Node
import Rail18.Malformed

/-! # Failures of a compilation

Everything that may go wrong between a definition and what is drawn from it. Only a malformed
definition and data that cannot be read end a compilation; a reference or a name that leads nowhere
is reported and passed over. -/

namespace Rail18

inductive CompileError where
  | malformed (cause : Malformed)
  | unresolved (kind reference : String)
  | unknown (kind token : String)
  | unreadable (fault : Json.Fault)
deriving DecidableEq, Repr

namespace CompileError

/-- The message of a failure. What exactly is wrong with unreadable data is not told. -/
def message : CompileError → String
  | malformed cause => cause.message
  | unresolved kind reference => "unresolved " ++ kind ++ " reference '" ++ reference ++ "'"
  | unknown kind token => "unknown " ++ kind ++ " '" ++ token ++ "'"
  | unreadable _ => "failed to decode definition"

end CompileError

/-- A result whose only failures are malformed definitions. -/
def orMalformed {α : Type} (result : Except Malformed α) : Except CompileError α :=
  result.mapError .malformed

end Rail18
