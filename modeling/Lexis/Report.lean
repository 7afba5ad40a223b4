import Lexis.Failure
import Lexis.Log.Event

/-!
# Reports

What a command does is a report: the events and the writes in their order, and the result. A
report does not depend on who takes the writes. Delivering it to a writer gives the bytes that
arrive, and a writer without room for all of them turns the result into a failure.
-/

namespace Lexis

/-- One action of a command. -/
inductive Action where
  /-- Something is told to the log. -/
  | log (event : Event)
  /-- A text is written; `onFull` is the failure if the writer has no room for it. -/
  | write (text : String) (onFull : Failure)

/-- The actions of a command in their order, and its result. -/
structure Report (α : Type) where
  /-- The actions, first to last. -/
  actions : List Action
  /-- The result, if all actions can be carried out. -/
  result : Except Failure α

/-- What comes of a report that is delivered to a writer. -/
structure Delivery (α : Type) where
  /-- The bytes that the writer took. -/
  output : List UInt8
  /-- The events that were told. -/
  log : List Event
  /-- The result. -/
  result : Except Failure α

/-- The bytes of a text in UTF-8. -/
def utf8 (text : String) : List UInt8 :=
  text.toUTF8.data.toList

namespace Report

/-- The report that carries out other actions first. -/
def after {α : Type} (actions : List Action) (report : Report α) : Report α :=
  { report with actions := actions ++ report.actions }

/-- The report that only tells events before its result. -/
def ofEvents {α : Type} (events : List Event) (result : Except Failure α) : Report α where
  actions := events.map .log
  result := result

/-- Carries out actions with a writer that has room for `room` more bytes, or for any number of
them. A write without enough room fills the writer, fails, and ends the report. -/
def deliverActions {α : Type} (result : Except Failure α) :
    Option Nat → List Action → Delivery α
  | _, [] => { output := [], log := [], result := result }
  | room, .log event :: later =>
    let d := deliverActions result room later
    { d with log := event :: d.log }
  | none, .write text _ :: later =>
    let d := deliverActions result none later
    { d with output := utf8 text ++ d.output }
  | some room, .write text onFull :: later =>
    let bytes := utf8 text
    if bytes.length ≤ room then
      let d := deliverActions result (some (room - bytes.length)) later
      { d with output := bytes ++ d.output }
    else { output := bytes.take room, log := [], result := .error onFull }

/-- Delivers a report to a writer with the given room; without a bound it takes everything. -/
def deliver {α : Type} (room : Option Nat) (report : Report α) : Delivery α :=
  deliverActions report.result room report.actions

end Report

end Lexis
