import FieldTypes.Text.Quoted

namespace FieldTypes.Text

/-! Values in the notation of JSON.  An object keeps its fields in the order in
which they were given, so that the same value always has the same text. -/

inductive Json where
  | null
  | boolean (value : Bool)
  | number (value : Nat)
  | text (value : String)
  | list (items : List Json)
  | object (fields : List (String × Json))

namespace Json

/-- Two hexadecimal digits, for a character below the space. -/
def controlEscape (character : Char) : List Char :=
  let digits := hexadecimal character.toNat
  ['\\', 'u'] ++ List.replicate (4 - digits.length) '0' ++ digits

/-- A character as it stands in a string literal. -/
def literalCharacter (character : Char) : List Char :=
  if character = '"' then ['\\', '"']
  else if character = '\\' then ['\\', '\\']
  else if character = '\x08' then ['\\', 'b']
  else if character = '\x0c' then ['\\', 'f']
  else if character = '\n' then ['\\', 'n']
  else if character = '\r' then ['\\', 'r']
  else if character = '\t' then ['\\', 't']
  else if character.toNat < 32 then controlEscape character
  else [character]

def literal (text : String) : String :=
  String.ofList ('"' :: text.toList.flatMap literalCharacter ++ ['"'])

def leaf : Json → String
  | .null => "null"
  | .boolean true => "true"
  | .boolean false => "false"
  | .number value => value.repr
  | .text value => literal value
  | .list _ => "[]"
  | .object _ => "\x7b\x7d"

/-! The compact form has no white space. -/

mutual
def compact : Json → String
  | .list items => "[" ++ ",".intercalate (compactItems items) ++ "]"
  | .object fields => "\x7b" ++ ",".intercalate (compactFields fields) ++ "\x7d"
  | .null => leaf .null
  | .boolean value => leaf (.boolean value)
  | .number value => leaf (.number value)
  | .text value => leaf (.text value)

def compactItems : List Json → List String
  | [] => []
  | item :: rest => item.compact :: compactItems rest

def compactFields : List (String × Json) → List String
  | [] => []
  | (name, value) :: rest =>
      (literal name ++ ":" ++ value.compact) :: compactFields rest
end

/-! The indented form puts each item on a line of its own, two spaces further in
than the bracket that opened the list. -/

def newLine (depth : Nat) : String :=
  String.ofList ('\n' :: List.replicate (2 * depth) ' ')

/-- Lines between brackets.  Without lines the brackets stay together. -/
def enclosed (depth : Nat) (opening closing : String) (lines : List String) : String :=
  match lines with
  | [] => opening ++ closing
  | _ =>
      opening ++ newLine (depth + 1) ++ ("," ++ newLine (depth + 1)).intercalate lines ++
        newLine depth ++ closing

mutual
def indented (depth : Nat) : Json → String
  | .list items => enclosed depth "[" "]" (indentedItems (depth + 1) items)
  | .object fields => enclosed depth "\x7b" "\x7d" (indentedFields (depth + 1) fields)
  | .null => leaf .null
  | .boolean value => leaf (.boolean value)
  | .number value => leaf (.number value)
  | .text value => leaf (.text value)

def indentedItems (depth : Nat) : List Json → List String
  | [] => []
  | item :: rest => item.indented depth :: indentedItems depth rest

def indentedFields (depth : Nat) : List (String × Json) → List String
  | [] => []
  | (name, value) :: rest =>
      (literal name ++ ": " ++ value.indented depth) :: indentedFields depth rest
end

/-- The indented text of a whole document. -/
def pretty (value : Json) : String :=
  value.indented 0

end Json

end FieldTypes.Text
