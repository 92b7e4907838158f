/-!
# Events of a run

What discovery, resolution and planning report while they work.  A computation that reports is a
value together with its events in order; nothing is written anywhere.
-/

namespace RecordConversion

/-- How much an event matters. -/
inductive Level where
  | debug
  | info
  | warn
  deriving DecidableEq, Repr

namespace Level

/-- The word for a level. -/
def text : Level → String
  | debug => "DEBUG"
  | info => "INFO"
  | warn => "WARN"

end Level

/-- A message with named details. -/
structure Event where
  level : Level
  message : String
  details : List (String × String)
  deriving DecidableEq, Repr

namespace Event

/-- An event for those who look closely. -/
def debug
    (message : String) (details : List (String × String)) : Event :=
  ⟨.debug, message, details⟩

/-- A warning. -/
def warning (message : String) : Event :=
  ⟨.warn, message, []⟩

/-- The event on one line. -/
def text (event : Event) : String :=
  event.level.text ++ " " ++ event.message ++
    String.join (event.details.map fun (name, value) => " " ++ name ++ "=" ++ value)

end Event

/-- A value and the events on the way to it. -/
structure Logged (α : Type) where
  value : α
  events : List Event
  deriving Repr

namespace Logged

variable {α β : Type}

/-- A value without events. -/
def quiet (value : α) : Logged α := ⟨value, []⟩

/-- The value with events that came before its own. -/
def after
    (events : List Event) (result : Logged α) : Logged α :=
  ⟨result.value, events ++ result.events⟩

/-- The value changed, the events kept. -/
def map
    (f : α → β) (result : Logged α) : Logged β :=
  ⟨f result.value, result.events⟩

/-- The messages of the warnings, in order. -/
def warnings (result : Logged α) : List String :=
  (result.events.filter fun event => event.level = .warn).map (·.message)

end Logged
end RecordConversion
