namespace FieldTypes.Toml

/-! A reader takes a value from the front of a text, or refuses the text.  After
a refusal the next alternative starts again at the same place. -/

abbrev Reader := StateT (List Char) Option

namespace Reader

/-- Takes one character that the test accepts. -/
def one (accepts : Char → Bool) : Reader Char
  | [] => none
  | character :: rest => if accepts character then some (character, rest) else none

def symbol (expected : Char) : Reader Unit :=
  discard (one (· == expected))

def word : List Char → Reader Unit
  | [] => pure ()
  | expected :: later => do
      symbol expected
      word later

/-- Takes every character up to the first one that the test refuses. -/
def run (accepts : Char → Bool) : Reader (List Char) :=
  fun text => some (text.takeWhile accepts, text.dropWhile accepts)

def atEnd : Reader Unit
  | [] => some ((), [])
  | _ :: _ => none

/-- Takes nothing, and refuses the end of the text. -/
def notAtEnd : Reader Unit
  | [] => none
  | text => some ((), text)

def option {α : Type} (item : Reader α) : Reader (Option α) :=
  (some <$> item) <|> pure none

/-- At least one character that the test accepts, and all that follow it. -/
def runOfSome (accepts : Char → Bool) : Reader (List Char) := do
  let first ← one accepts
  let others ← run accepts
  return first :: others

/-- The items that can be read one after the other, up to a number of them. -/
def collect {α : Type} (item : Reader α) : Nat → List Char → List α × List Char
  | 0, text => ([], text)
  | remaining + 1, text =>
      match item text with
      | none => ([], text)
      | some (value, rest) =>
          let (values, last) := collect item remaining rest
          (value :: values, last)

/-- As many items as there are.  Each of them must take a character, and so there
are no more of them than characters. -/
def many {α : Type} (item : Reader α) : Reader (List α) :=
  fun text => some (collect item text.length text)

/-- One item or more, with a separator between any two. -/
def separated {α : Type} (separator : Reader Unit) (item : Reader α) : Reader (List α) := do
  let first ← item
  let others ← many (do separator; item)
  return first :: others

/-- The characters that the reader takes. -/
def captured {α : Type} (reader : Reader α) : Reader (List Char) :=
  fun text =>
    match reader text with
    | none => none
    | some (_, rest) => some (text.take (text.length - rest.length), rest)

/-- A given number of decimal digits, as a number. -/
def digits (count : Nat) : Reader Nat := do
  let found ← (List.range count).mapM fun _ => one Char.isDigit
  return Nat.ofDigitChars 10 found 0

end Reader

/-! White space within a line is made of spaces and tabs.  Lines end with a line
feed, which may have a carriage return before it. -/

def isSpace (character : Char) : Bool :=
  character == ' ' || character == '\t'

/-- Everything but the control characters.  A tab may stand in any text. -/
def isPrintable (character : Char) : Bool :=
  character == '\t' || (32 ≤ character.toNat && character.toNat != 127)

def spaces : Reader Unit :=
  discard (Reader.run isSpace)

def newLine : Reader Unit :=
  Reader.symbol '\n' <|> Reader.word ['\r', '\n']

def comment : Reader Unit := do
  Reader.symbol '#'
  discard (Reader.run isPrintable)

/-- The end of a line, with nothing before it but white space and a comment. -/
def lineEnd : Reader Unit := do
  spaces
  discard (Reader.option comment)
  newLine <|> Reader.atEnd

/-- White space, comments and line ends, as they may stand between the items of a
list. -/
def gap : Reader Unit := do
  discard (Reader.many do
    spaces
    discard (Reader.option comment)
    newLine)
  spaces

end FieldTypes.Toml
