import FieldTypes.Toml.Reader

namespace FieldTypes.Toml

open Reader

/-! Dates and times of day. -/

def isLeapYear (year : Nat) : Bool :=
  year % 4 == 0 && (year % 100 != 0 || year % 400 == 0)

def daysInMonth (year month : Nat) : Nat :=
  if month = 2 then if isLeapYear year then 29 else 28
  else if month = 4 || month = 6 || month = 9 || month = 11 then 30
  else 31

/-- Two digits whose value lies between two bounds. -/
def twoDigits (least greatest : Nat) : Reader Nat := do
  let number ← digits 2
  if least ≤ number && number ≤ greatest then return number else failure

def date : Reader Unit := do
  let year ← digits 4
  symbol '-'
  let month ← twoDigits 1 12
  symbol '-'
  discard (twoDigits 1 (daysInMonth year month))

/-- A time of day.  The second number 60 is for leap seconds. -/
def time : Reader Unit := do
  discard (twoDigits 0 23)
  symbol ':'
  discard (twoDigits 0 59)
  symbol ':'
  discard (twoDigits 0 60)
  discard (option do
    symbol '.'
    discard (one Char.isDigit)
    run Char.isDigit)

/-- The distance from universal time. -/
def offset : Reader Unit :=
  discard (one fun character => character == 'Z' || character == 'z') <|> do
    discard (one fun character => character == '+' || character == '-')
    discard (twoDigits 0 23)
    symbol ':'
    discard (twoDigits 0 59)

def dateWithTime : Reader Unit := do
  date
  discard (option do
    discard (one fun character => character == 'T' || character == 't' || character == ' ')
    time
    discard (option offset))

def moment : Reader String :=
  String.ofList <$> captured (dateWithTime <|> time)

end FieldTypes.Toml
