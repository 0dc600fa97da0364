import FieldTypes.Toml.Reader

namespace FieldTypes.Toml

open Reader

/-! Strings.  Double quotes allow escapes and single quotes allow none.  Three
quotes on each side let a string go over several lines. -/

def isHexadecimal (character : Char) : Bool :=
  character.isDigit || ('a' ≤ character && character ≤ 'f') ||
    ('A' ≤ character && character ≤ 'F')

def hexadecimalDigit (character : Char) : Nat :=
  if character.isDigit then character.toNat - '0'.toNat
  else character.toLower.toNat - 'a'.toNat + 10

/-- The value of digits in a base up to sixteen. -/
def numberInBase (base : Nat) (digits : List Char) : Nat :=
  digits.foldl (fun value digit => base * value + hexadecimalDigit digit) 0

/-- A character given by its number, which must be one that characters have. -/
def numbered (length : Nat) : Reader (List Char) := do
  let digits ← (List.range length).mapM fun _ => one isHexadecimal
  let number := numberInBase 16 digits
  if number.isValidChar then return [Char.ofNat number] else failure

/-- The letters that may follow a backslash, and what they stand for. -/
def shortEscapes : List (Char × Char) :=
  [ ('b', '\x08'), ('f', '\x0c'), ('n', '\n'), ('r', '\r'), ('t', '\t'), ('"', '"'),
    ('\\', '\\') ]

def escape : Reader (List Char) := do
  symbol '\\'
  let letter ← one fun _ => true
  match shortEscapes.lookup letter with
  | some meaning => return [meaning]
  | none =>
      if letter = 'u' then numbered 4
      else if letter = 'U' then numbered 8
      else failure

def isBasic (character : Char) : Bool :=
  isPrintable character && character != '"' && character != '\\'

def isLiteral (character : Char) : Bool :=
  isPrintable character && character != '\''

/-- What stands for itself between double quotes. -/
def basicCharacters : Reader (List Char) :=
  runOfSome isBasic

def literalCharacters : Reader (List Char) :=
  runOfSome isLiteral

def basicText : Reader (List Char) := do
  symbol '"'
  let content ← many (basicCharacters <|> escape)
  symbol '"'
  return content.flatten

def literalText : Reader (List Char) := do
  symbol '\''
  let content ← run isLiteral
  symbol '\''
  return content

/-! In a string over several lines, a line end counts as a line feed, and one or
two quotes in a row may stand for themselves. -/

def lineBreak : Reader (List Char) := do
  newLine
  return ['\n']

/-- A backslash at the end of a line hides the white space up to the next text. -/
def hiddenBreak : Reader (List Char) := do
  symbol '\\'
  spaces
  newLine
  discard (many (discard (one isSpace) <|> newLine))
  return []

/-- One or two quotes with something else after them. -/
def innerQuotes (quote : Char) : Reader (List Char) :=
  fun text =>
    match text.takeWhile (· == quote), text.dropWhile (· == quote) with
    | [first], next :: rest => some ([first], next :: rest)
    | [first, second], next :: rest => some ([first, second], next :: rest)
    | _, _ => none

/-- The last three quotes close the string.  Up to two before them belong to it. -/
def closingQuotes (quote : Char) : Reader (List Char) := do
  let quotes ← run (· == quote)
  if 3 ≤ quotes.length && quotes.length ≤ 5 then return quotes.drop 3 else failure

def severalLines (quote : Char) (characters : Reader (List Char)) : Reader (List Char) := do
  word [quote, quote, quote]
  discard (option newLine)
  let content ← many (characters <|> lineBreak <|> innerQuotes quote)
  let last ← closingQuotes quote
  return content.flatten ++ last

def anyText : Reader (List Char) :=
  severalLines '"' (basicCharacters <|> hiddenBreak <|> escape) <|> basicText <|>
    severalLines '\'' literalCharacters <|> literalText

/-! Keys.  A key is bare or quoted, and dots lead from a table to one within it. -/

def isBare (character : Char) : Bool :=
  character.isAlphanum || character == '-' || character == '_'

def bareKey : Reader (List Char) :=
  runOfSome isBare

def key : Reader String := do
  spaces
  let name ← basicText <|> literalText <|> bareKey
  spaces
  return String.ofList name

/-- Tables and lists can be nested in each other less often than this. -/
def nestingLimit : Nat := 80

/-- The keys of the tables on the way, and the last key. -/
def path : Reader (List String × String) := do
  let first ← key
  let others ← many (do symbol '.'; key)
  if others.length + 1 < nestingLimit then
    return ((first :: others).dropLast, (first :: others).getLast (by simp))
  else failure

end FieldTypes.Toml
