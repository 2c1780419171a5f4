import Rail18.Json.Value

/-! # JSON as written

The tree of a JSON text that keeps the faults of the text at their places. A text is turned into
such a tree whatever it holds; whether a fault matters is decided by the reader that walks the tree
from left to right, since a reader that passes over a part forgives some faults in it. -/

namespace Rail18.Json

/-- Why a text cannot be read: it is not JSON, it ends too early, or it does not fit what is asked
for. -/
inductive Fault where
  | malformed
  | truncated
  | mismatch
deriving DecidableEq, Repr

/-- How a list of items or members ends: with its closing bracket, where a comma or the bracket is
missing, or after a comma. The faults are that of a reader that keeps and one that passes over. -/
inductive Ending where
  | closed
  | missing (kept skipped : Fault)
  | dangling (kept skipped : Fault)
deriving DecidableEq, Repr

/-- A JSON text as a tree. A number out of range and a string that stands for no text are faults
only where the value is kept; a broken token is one everywhere. After a broken part nothing
follows. -/
inductive Node where
  | null
  | bool (value : Bool)
  | number (value : Except Fault Number)
  | string (text : Except Fault String)
  | array (items : List Node) (ending : Ending)
  | object (members : List (Except Fault String × Node)) (ending : Ending)
  | broken (kept skipped : Fault)

/-- A JSON text: its value, and whether anything but blanks follows it. -/
structure Document where
  root : Node
  trailing : Bool

mutual

def Value.node : Value → Node
  | .null => .null
  | .bool value => .bool value
  | .number value => .number (.ok value)
  | .string text => .string (.ok text)
  | .array items => .array (nodes items) .closed
  | .object members => .object (memberNodes members) .closed

def nodes : List Value → List Node
  | [] => []
  | value :: rest => value.node :: nodes rest

def memberNodes : List (String × Value) → List (Except Fault String × Node)
  | [] => []
  | (name, value) :: rest => (.ok name, value.node) :: memberNodes rest

end

/-- Walks a list of items that is passed over. -/
def Ending.skip : Ending → Except Fault Unit
  | .closed => .ok ()
  | .missing _ skipped => .error skipped
  | .dangling _ skipped => .error skipped

/-- Walks the end of a list that is kept. -/
def Ending.keep : Ending → Except Fault Unit
  | .closed => .ok ()
  | .missing kept _ => .error kept
  | .dangling kept _ => .error kept

mutual

/-- Passes over a value: only broken tokens and brackets count. -/
def Node.skip : Node → Except Fault Unit
  | .array items ending => do skipItems items; ending.skip
  | .object members ending => do skipMembers members; ending.skip
  | .broken _ skipped => .error skipped
  | _ => .ok ()

def skipItems : List Node → Except Fault Unit
  | [] => .ok ()
  | node :: rest => do node.skip; skipItems rest

def skipMembers : List (Except Fault String × Node) → Except Fault Unit
  | [] => .ok ()
  | (_, node) :: rest => do node.skip; skipMembers rest

end

/-- The fault met where a value of another kind is asked for. Containers are not looked into. -/
def Node.unfit : Node → Fault
  | .number (.error fault) => fault
  | .string (.error fault) => fault
  | .broken kept _ => kept
  | _ => .mismatch

end Rail18.Json
