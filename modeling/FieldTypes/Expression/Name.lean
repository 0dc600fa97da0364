import FieldTypes.Text.Alphabetic
import FieldTypes.Text.Numeric
import FieldTypes.Expression.Failure

namespace FieldTypes.Expression

open Text

/-! Dotted names.  Each segment starts with a letter, an underscore or a dollar
sign, and goes on with these or with digits. -/

def startsSegment (character : Char) : Bool :=
  isAlphabetic character || character == '_' || character == '$'

def continuesSegment (character : Char) : Bool :=
  isAlphabetic character || isNumeric character || character == '_' || character == '$'

def belongsToName (segmentStarts : Bool) (character : Char) : Bool :=
  if segmentStarts then startsSegment character
  else continuesSegment character || character == '.'

/-- Splits a text where its name ends.  A segment starts at the beginning and
after each dot. -/
def splitName (segmentStarts : Bool) : List Char → List Char × List Char
  | [] => ([], [])
  | character :: later =>
      if belongsToName segmentStarts character then
        let (taken, rest) := splitName (character == '.') later
        (character :: taken, rest)
      else ([], character :: later)

theorem splitName_append : ∀ (segmentStarts : Bool) (text : List Char),
    (splitName segmentStarts text).1 ++ (splitName segmentStarts text).2 = text
  | _, [] => rfl
  | segmentStarts, character :: later => by
      rw [splitName]
      split
      · exact congrArg (character :: ·) (splitName_append _ later)
      · rfl

/-- Reads a name that is neither empty nor cut off after a dot. -/
def readName (text : List Char) : Except Failure (Read String text.length) :=
  match split : splitName true text with
  | ([], rest) => .error (.unexpected rest)
  | (first :: taken, rest) =>
      if (first :: taken).getLast? = some '.' then .error (.unexpected rest)
      else .ok ⟨String.ofList (first :: taken), rest, by
        have whole := splitName_append true text
        rw [split] at whole
        have lengths := congrArg List.length whole
        simp only [List.cons_append, List.length_cons, List.length_append] at lengths
        omega⟩

end FieldTypes.Expression
