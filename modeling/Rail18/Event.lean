/-! # Events

What a compilation reports beside its result. Events are values: functions that compute something
have a companion that lists what happens on the way. -/

namespace Rail18

/-- How much an event matters. -/
inductive Level where
  | debug
  | info
  | warn
deriving DecidableEq, Repr

/-- Something that happened, with the details by name. -/
structure Event where
  level : Level
  message : String
  details : List (String × String) := []
deriving DecidableEq, Repr

def Level.name : Level → String
  | debug => "DEBUG"
  | info => "INFO"
  | warn => "WARN"

/-- The names of the details of an event, with that of its message. -/
def Event.fields (event : Event) : List String := "message" :: event.details.map (·.1)

def Event.line (event : Event) : String :=
  s!"{event.level.name} {event.message}" ++
    String.join (event.details.map fun (name, value) => s!" {name}={value}") ++ "\n"

end Rail18
