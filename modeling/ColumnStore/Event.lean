/-!
# Log events

What the library reports while it works: a level, a message and named details. A log keeps the
events at or above its threshold, oldest first.
-/

set_option autoImplicit false

namespace ColumnStore

/-- How much an event matters. -/
inductive Level where
  | debug
  | info
  | warning
  deriving DecidableEq, Repr

/-- The place of a level in the order of levels. -/
def Level.rank : Level → Nat
  | .debug => 0
  | .info => 1
  | .warning => 2

/-- Something reported. -/
structure Event where
  level : Level
  message : String
  details : List (String × String)
  deriving DecidableEq, Repr

/-- The events that are kept. -/
structure Log where
  threshold : Level
  /-- The kept events, newest first. -/
  newestFirst : List Event
  deriving Repr

namespace Log

/-- A log without events. -/
def empty (threshold : Level) : Log := ⟨threshold, []⟩

/-- The kept events, oldest first. -/
def events (log : Log) : List Event := log.newestFirst.reverse

/-- Keeps an event if it matters enough. -/
def add (log : Log) (event : Event) : Log :=
  if log.threshold.rank ≤ event.level.rank then { log with newestFirst := event :: log.newestFirst }
  else log

/-- Keeps events, the first one first. -/
def addAll (log : Log) (events : List Event) : Log :=
  events.foldl add log

end Log

/-- An optional detail, for a diagnostic. -/
def Event.optional (detail : Option String) : String :=
  match detail with
  | some text => "Some(" ++ text ++ ")"
  | none => "None"

end ColumnStore
