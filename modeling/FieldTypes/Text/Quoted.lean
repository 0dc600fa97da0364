import FieldTypes.Text.Concealed

namespace FieldTypes.Text

/-! Text between double quotes, in which nothing is hidden: the quote and the
backslash are escaped, and so is each character that shows nothing by itself. -/

def hexadecimal (number : Nat) : List Char :=
  Nat.toDigits 16 number

/-- A character as it stands between the quotes. -/
def quotedCharacter (character : Char) : List Char :=
  if character = '\x00' then ['\\', '0']
  else if character = '\t' then ['\\', 't']
  else if character = '\n' then ['\\', 'n']
  else if character = '\r' then ['\\', 'r']
  else if character = '"' then ['\\', '"']
  else if character = '\\' then ['\\', '\\']
  else if isConcealed character then
    ['\\', 'u', '{'] ++ hexadecimal character.toNat ++ ['}']
  else [character]

def quoted (text : String) : String :=
  String.ofList ('"' :: text.toList.flatMap quotedCharacter ++ ['"'])

end FieldTypes.Text
