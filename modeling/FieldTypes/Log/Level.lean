import FieldTypes.Text.Blank

namespace FieldTypes.Log

/-! How much is logged.  Each level lets through what the levels before it let
through, and the first one lets nothing through. -/

inductive Level where
  | off
  | error
  | warn
  | info
  | debug
  | trace
deriving DecidableEq, Repr

namespace Level

def all : List Level :=
  [.off, .error, .warn, .info, .debug, .trace]

def word : Level → String
  | .off => "off"
  | .error => "error"
  | .warn => "warn"
  | .info => "info"
  | .debug => "debug"
  | .trace => "trace"

/-- The level in a line of the log. -/
def banner : Level → String
  | .off => "OFF"
  | .error => "ERROR"
  | .warn => "WARN"
  | .info => "INFO"
  | .debug => "DEBUG"
  | .trace => "TRACE"

def rank (level : Level) : Nat :=
  all.idxOf level

/-- Whether a limit lets an event of the other level through. -/
def allows (limit event : Level) : Bool :=
  event.rank ≤ limit.rank

def lowerCase (text : List Char) : List Char :=
  text.map Char.toLower

/-- A number in decimal digits, perhaps after a plus sign. -/
def readRank? (text : List Char) : Option Nat :=
  let digits := match text with
    | '+' :: rest => rest
    | _ => text
  if digits.isEmpty || !digits.all Char.isDigit then none
  else some (digits.foldl (fun value digit => 10 * value + (digit.toNat - '0'.toNat)) 0)

/-- A level is written as its rank or as its word in any case. -/
def read? (text : List Char) : Option Level :=
  match readRank? text with
  | some rank => all[rank]?
  | none => all.find? fun level => level.word.toList == lowerCase text

end Level

end FieldTypes.Log
