import FieldTypes.Toml.Text
import FieldTypes.Toml.Number
import FieldTypes.Toml.Moment
import FieldTypes.Toml.Draft

namespace FieldTypes.Toml

open Reader

/-! Values.  A list may go over several lines and end with a comma, but a table in
braces may not. -/

def boolean : Reader Bool :=
  (do word ['t', 'r', 'u', 'e']; return true) <|>
    (do word ['f', 'a', 'l', 's', 'e']; return false)

def scalar : Reader Value :=
  (do return .text (String.ofList (← anyText))) <|>
    .boolean <$> boolean <|> .moment <$> moment <|> .decimal <$> decimal <|>
    .integer <$> integer

def listItem (item : Reader Value) : Reader Value := do
  gap
  let value ← item
  gap
  return value

def list (item : Reader Value) : Reader Value := do
  symbol '['
  let items ← option do
    let items ← separated (symbol ',') (listItem item)
    discard (option (symbol ','))
    return items
  gap
  symbol ']'
  return .list (items.getD [])

def assignment (item : Reader Value) : Reader ((List String × String) × Value) := do
  let target ← path
  symbol '='
  spaces
  let value ← item
  spaces
  return (target, value)

def bracedTable (item : Reader Value) : Reader Value := do
  symbol '\x7b'
  let assignments ← option (separated (symbol ',') (assignment item))
  spaces
  symbol '\x7d'
  match Entries.ofAssignments? (assignments.getD []) with
  | none => failure
  | some entries => return .table (entryValues entries)

/-- A value with no more than the given number of lists and tables around any part
of it. -/
def valueWithin : Nat → Reader Value
  | 0 => scalar
  | levels + 1 =>
      list (valueWithin levels) <|> bracedTable (valueWithin levels) <|> scalar

def value : Reader Value :=
  valueWithin (nestingLimit - 1)

/-! Lines.  Nothing but white space and a comment may follow what a line says. -/

def header (opening closing : List Char) : Reader (List String × String) := do
  word opening
  let target ← path
  word closing
  return target

def statement : Reader (Option Line) :=
  (do
    let (path, key) ← header ['[', '['] [']', ']']
    return some (.element path key)) <|>
  (do
    let (path, key) ← header ['['] [']']
    return some (.table path key)) <|>
  (do
    let ((path, key), value) ← assignment value
    return some (.assignment path key value)) <|>
  pure none

def line : Reader (Option Line) := do
  notAtEnd
  spaces
  let found ← statement
  lineEnd
  return found

/-- A mark at the very beginning that tells how the text is encoded. -/
def isByteOrderMark (character : Char) : Bool :=
  character.toNat == 0xFEFF

def lines : Reader (List Line) := do
  discard (option (one isByteOrderMark))
  let found ← many line
  atEnd
  return found.filterMap id

/-- The entries of the table that a document stands for. -/
def read? (text : String) : Option (List (String × Value)) :=
  match lines text.toList with
  | none => none
  | some (found, _) => (Draft.ofLines? found).map fun draft => entryValues draft.root

end FieldTypes.Toml
