/-!
# Log events

What the manager reports while it works, in order. An event has a level, the place that reports it,
a message and named values.
-/

namespace AspiManager

namespace Log

/-- How grave an event is, the gravest first. -/
inductive Level where
  | error
  | warn
  | info
  | debug
  | trace
  deriving DecidableEq, Repr

namespace Level

def text : Level → String
  | error => "ERROR"
  | warn => "WARN"
  | info => "INFO"
  | debug => "DEBUG"
  | trace => "TRACE"

/-- One for the gravest level, then upwards. -/
def rank : Level → Nat
  | error => 1
  | warn => 2
  | info => 3
  | debug => 4
  | trace => 5

end Level

/-- A part of the program that reports events. -/
inductive Source where
  | manager
  | delivery
  | posting
  | verdict
  | dump
  | registry
  | exchange
  | program
  deriving DecidableEq, Repr

/-- The name under which a part reports, by which events are filtered. -/
def Source.target : Source → String
  | manager => "aspi_sg::engine::aspi"
  | delivery => "aspi_sg::engine::decoder"
  | posting => "aspi_sg::engine::notifier"
  | verdict => "aspi_sg::engine::status"
  | dump => "aspi_sg::engine::trace"
  | registry => "aspi_sg::device::registry"
  | exchange => "aspi_sg::device::transport"
  | program => "aspi_inquiry"

/-- The value of a field. -/
inductive Value where
  | int (n : Int)
  | bool (b : Bool)
  | text (s : String)
  deriving DecidableEq, Repr

/-- A reported event. -/
structure Event where
  level : Level
  source : Source
  message : String
  fields : List (String × Value) := []
  deriving DecidableEq, Repr

end Log

end AspiManager
