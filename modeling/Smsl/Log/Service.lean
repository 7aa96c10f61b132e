import Smsl.Log.Event

namespace Smsl.Log

/-!
# Logging services

A service passes the events that are grave enough on to a memory, which answers
questions about what it holds.
-/

/-- A level filter in front of the events that it let through. -/
structure Service where
  minimum : Level
  events : List Event
  deriving Repr, DecidableEq

namespace Service

/-- A service that has seen nothing. -/
def empty (minimum : Level) : Service where
  minimum := minimum
  events := []

/-- Events of a level pass the filter. -/
def shouldLog
    (service : Service)
    (level : Level) :
    Bool :=
  level.passes service.minimum

/-- Take an event if it passes the filter. -/
def log
    (service : Service)
    (event : Event) :
    Service :=
  if service.shouldLog event.level then
    { service with events := service.events ++ [event] }
  else
    service

/-- Forget all events. -/
def clear (service : Service) : Service :=
  { service with events := [] }

/-- The service holds an event with a code. -/
def hasEvent
    (service : Service)
    (code : Code) :
    Bool :=
  service.events.any fun event => event.code = code

/-- The service holds an error with a code. -/
def hasError
    (service : Service)
    (code : Code) :
    Bool :=
  service.events.any fun event => event.isError && event.code = code

end Service

end Smsl.Log
