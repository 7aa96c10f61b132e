import Smsl.Log.Event

namespace Smsl.Log

/-!
# Journals

A journal holds the events of a run and the unit that is being worked on.  While
a unit is set, recorded events are tagged with its name.  Work inside a scope is
tagged with the scope's unit; leaving a scope leaves no unit set.
-/

/-- The events of a run so far, and the unit that tags the next ones. -/
structure Journal where
  tagsUnits : Bool
  unit : Option String
  events : Array Event
  deriving Repr, DecidableEq

namespace Journal

/-- A journal without events and without a unit. -/
def empty (tagsUnits : Bool) : Journal where
  tagsUnits := tagsUnits
  unit := none
  events := #[]

/-- The name under which events tell their unit. -/
def unitName : String := "source"

/-- An event as the journal keeps it: tagged if a unit is set and tags are wanted. -/
def tag
    (journal : Journal)
    (event : Event) :
    Event :=
  match journal.tagsUnits, journal.unit with
  | true, some unit =>
      event.withValue unitName unit
  | _, _ =>
      event

/-- Keep an event as it is. -/
def keep
    (journal : Journal)
    (event : Event) :
    Journal :=
  { journal with events := journal.events.push event }

/-- Record an event under the current unit. -/
def record
    (journal : Journal)
    (event : Event) :
    Journal :=
  journal.keep (journal.tag event)

/-- Set the unit. -/
def setUnit
    (journal : Journal)
    (unit : String) :
    Journal :=
  { journal with unit := some unit }

/-- Unset the unit. -/
def clearUnit (journal : Journal) : Journal :=
  { journal with unit := none }

/-- Work inside the scope of a unit; afterwards no unit is set. -/
def within
    (unit : String)
    (work : Journal → α × Journal)
    (journal : Journal) :
    α × Journal :=
  let worked := work (journal.setUnit unit)
  (worked.1, worked.2.clearUnit)

end Journal

/-- One step of a logging script. -/
inductive Step where
  | setUnit (unit : String)
  | clearUnit
  | record (event : Event)
  | keep (event : Event)
  | within (unit : String) (steps : List Step)

/-- What a step of a script shows: the events it added and the unit afterwards. -/
structure Observation where
  events : List Event
  unit : Option String
  deriving Repr, DecidableEq

namespace Step

/-- What a change of the journal shows. -/
def observe
    (before after : Journal) :
    Observation where
  events := after.events.toList.drop before.events.size
  unit := after.unit

mutual

/-- Perform a step, giving the observations of its inner steps and then its own. -/
def perform
    (journal : Journal) :
    Step → List Observation × Journal
  | .setUnit unit =>
      let after := journal.setUnit unit
      ([observe journal after], after)
  | .clearUnit =>
      let after := journal.clearUnit
      ([observe journal after], after)
  | .record event =>
      let after := journal.record event
      ([observe journal after], after)
  | .keep event =>
      let after := journal.keep event
      ([observe journal after], after)
  | .within unit steps =>
      let inner := Journal.within unit (fun entered => performAll entered steps) journal
      (inner.1 ++ [{ events := [], unit := inner.2.unit }], inner.2)

/-- Perform the steps of a script in order. -/
def performAll
    (journal : Journal) :
    List Step → List Observation × Journal
  | [] =>
      ([], journal)
  | step :: rest =>
      let first := perform journal step
      let others := performAll first.2 rest
      (first.1 ++ others.1, others.2)

end

end Step

end Smsl.Log
