import FieldTypes.Toml.Text
import FieldTypes.Number.Binary64

namespace FieldTypes.Toml

open Reader

/-! Numbers.  Underscores may stand between digits. -/

/-- Whether every underscore stands between two digits. -/
def wellSeparated : List Char → Bool
  | [] => false
  | [last] => last != '_'
  | first :: second :: rest =>
      (first != '_' || second != '_') && wellSeparated (second :: rest)

/-- Digits of one kind with single underscores between some of them. -/
def digitRun (isDigit : Char → Bool) : Reader (List Char) := do
  let found ← run fun character => isDigit character || character == '_'
  if found.head? != some '_' && wellSeparated found then
    return found.filter (· != '_')
  else failure

/-- Whole digits with nothing in front: a zero stands alone. -/
def wholeDigits : Reader (List Char) := fun text =>
  match text with
  | '0' :: rest => some (['0'], rest)
  | _ => digitRun Char.isDigit text

/-- Whether a minus sign comes first. -/
def sign : Reader Bool := do
  let found ← option (one fun character => character == '+' || character == '-')
  return found == some '-'

/-- Whether the number fits into 64 bits with a sign. -/
def inRange (number : Int) : Bool :=
  -0x8000000000000000 ≤ number && number < 0x8000000000000000

def bounded (number : Int) : Reader Int :=
  if inRange number then pure number else failure

def based (letter : Char) (base : Nat) (isDigit : Char → Bool) : Reader Int := do
  word ['0', letter]
  bounded (numberInBase base (← digitRun isDigit))

def integer : Reader Int :=
  based 'x' 16 isHexadecimal <|>
    based 'o' 8 (fun character => '0' ≤ character && character ≤ '7') <|>
    based 'b' 2 (fun character => character == '0' || character == '1') <|> do
      let negative ← sign
      let number : Int := numberInBase 10 (← wholeDigits)
      bounded (if negative then -number else number)

def fraction : Reader (List Char) := do
  symbol '.'
  digitRun Char.isDigit

def exponent : Reader Int := do
  discard (one fun character => character == 'e' || character == 'E')
  let negative ← sign
  let number : Int := numberInBase 10 (← digitRun Char.isDigit)
  return if negative then -number else number

/-- A number with a fraction, an exponent or both.  One that is too great is
refused, but one that is too far below zero is not. -/
def pointed : Reader Binary64 := do
  let negative ← sign
  let whole ← wholeDigits
  let places ← option fraction
  let power ← option exponent
  if places.isNone && power.isNone then failure
  let after := places.getD []
  let number := Binary64.ofDecimal negative (numberInBase 10 (whole ++ after))
    (power.getD 0 - after.length)
  if number = .infinite false then failure
  return number

def special : Reader Binary64 := do
  let negative ← sign
  (do word ['i', 'n', 'f']; return .infinite negative) <|>
    (do word ['n', 'a', 'n']; return .notANumber)

def decimal : Reader Binary64 :=
  pointed <|> special

end FieldTypes.Toml
