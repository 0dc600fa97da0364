import FieldTypes.Log.Settings
import FieldTypes.Text.Json

namespace FieldTypes.Log

open Text

/-! An event has a target, a message, and fields that are counts or texts. -/

inductive Value where
  | count (number : Nat)
  | text (content : String)
deriving DecidableEq, Repr

structure Event where
  target : String
  level : Level
  message : String
  fields : List (String × Value)
deriving DecidableEq, Repr

namespace Event

def valueText : Value → String
  | .count number => number.repr
  | .text content => content

def valueJson : Value → Json
  | .count number => .number number
  | .text content => .text content

/-- The level with spaces before it, so that all levels take up the same room. -/
def alignedBanner (level : Level) : String :=
  String.ofList (List.replicate (5 - level.banner.length) ' ') ++ level.banner

def line (time : String) (event : Event) : String :=
  time ++ " " ++ alignedBanner event.level ++ " " ++ event.target ++ ": " ++
    " ".intercalate
      (event.message :: event.fields.map fun (name, value) => name ++ "=" ++ valueText value)

def json (time : String) (event : Event) : Json :=
  .object
    [ ("timestamp", .text time),
      ("level", .text event.level.banner),
      ("fields", .object
        (("message", .text event.message) ::
          event.fields.map fun (name, value) => (name, valueJson value))),
      ("target", .text event.target) ]

/-- An event in the form that the settings ask for, as a line of its own. -/
def written (settings : Settings) (time : String) (event : Event) : String :=
  (if settings.json then (event.json time).compact else event.line time) ++ "\n"

end Event

/-- What is logged of a run of events, in their order. -/
def report (settings : Settings) (environment? : Option String) (time : String)
    (events : List Event) : String :=
  if settings.stderr then
    String.join ((events.filter fun event =>
      (settings.filter environment?).allows event.target event.level).map
        (Event.written settings time))
  else ""

end FieldTypes.Log
