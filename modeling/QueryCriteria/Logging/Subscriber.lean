import QueryCriteria.Config.Basic
import QueryCriteria.Json.Lookup
import QueryCriteria.Logging.Filter

/-!
Writing of events. There is one subscriber at most; it is installed once, with the filter of the
environment, or of the configuration, or with the filter for informations.
-/
namespace QueryCriteria.Logging

/-- A line for one event, without its time. -/
inductive Line where
  | record (fields : Record)
  | plain (text : String)

def Line.toJson : Line → Json
  | .record fields => .object fields
  | .plain text => .text text

structure Subscriber where
  format : LogFormat
  filter : Filter

/-- The first filter that can be read: of the environment, of the configuration, or a fixed one. -/
def chooseFilter (inherited : Option String) (configured : String) : Filter :=
  ((inherited.bind Filter.parse?).or (Filter.parse? configured)).getD
    [.global (.upTo .info)]

namespace Subscriber

/-- The line of an event. -/
def write (subscriber : Subscriber) (event : Event) : Line :=
  match subscriber.format with
  | .json =>
    let fields := ("message", event.message) :: event.fields
    .record (Entries.ofList [("level", .text event.level.label), ("target", .text event.target),
      ("fields", .ofFields (fields.map fun field => (field.1, .text field.2)))])
  | .pretty =>
    .plain (event.level.label ++ " " ++ event.target ++ ": " ++ event.message
      ++ String.join (event.fields.map fun field => " " ++ field.1 ++ "=" ++ field.2))

/-- The lines of events that pass the filter. -/
def log (subscriber : Subscriber) (events : List Event) : List Line :=
  (events.filter subscriber.filter.admits).map subscriber.write

end Subscriber

/-- The name of a format in the message of the start. -/
def formatName : LogFormat → String
  | .json => "Json"
  | .pretty => "Pretty"

/-- The event at the installation. -/
def startEvent (config : LoggingConfig) : Event :=
  ⟨.info, "acton_criteria::observability", "Tracing initialized",
    [("level", config.level), ("format", formatName config.format)]⟩

/-- The error of a second installation. -/
def installError : String :=
  "Tracing error: a global default trace dispatcher has already been set"

/-- Installs a subscriber, and logs that it did so; there must not be one yet. -/
def install (config : LoggingConfig) (inherited : Option String) :
    Option Subscriber → Except String (Subscriber × List Line)
  | some _ => .error installError
  | none =>
    let subscriber := ⟨config.format, chooseFilter inherited config.level⟩
    .ok (subscriber, subscriber.log [startEvent config])

end QueryCriteria.Logging
