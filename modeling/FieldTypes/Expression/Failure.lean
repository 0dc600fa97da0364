import FieldTypes.Types.Primitive
import FieldTypes.Text.Reading

namespace FieldTypes.Expression

open Text

/-! Why a type expression cannot be read. -/

inductive Cause where
  | unexpectedEnd
  | unexpectedCharacter (character : Char)
  | unknownType (name : String)
  | primitiveArgument (kind : Primitive)
  | argumentsOnVariable (name : String)
  | argumentsOnPrimitive (kind : Primitive)
  | emptyArguments
  | trailingInput
  | tooDeep
deriving DecidableEq, Repr

/-- The greatest depth of a type expression. -/
def maximalDepth : Nat := 255

def Cause.message : Cause → String
  | .unexpectedEnd => "unexpected end of type expression"
  | .unexpectedCharacter character => s!"unexpected character `{character}`"
  | .unknownType name => s!"unknown type `{name}`"
  | .primitiveArgument kind => s!"primitive `{kind.keyword}` cannot be a type argument"
  | .argumentsOnVariable name => s!"type variable `{name}` cannot take type arguments"
  | .argumentsOnPrimitive kind => s!"primitive `{kind.keyword}` cannot take type arguments"
  | .emptyArguments => "empty type argument list"
  | .trailingInput => "trailing input"
  | .tooDeep => s!"type is nested more than {maximalDepth} levels deep"

/-- A cause, and the part of the text that was unread at the place it names. -/
structure Failure where
  rest : List Char
  cause : Cause
deriving DecidableEq, Repr

/-- What stands where something else was needed. -/
def Failure.unexpected (rest : List Char) : Failure :=
  match rest with
  | [] => ⟨[], .unexpectedEnd⟩
  | character :: later => ⟨character :: later, .unexpectedCharacter character⟩

/-- A failure as callers see it, with its place counted in bytes. -/
structure Error where
  offset : Nat
  cause : Cause
deriving DecidableEq, Repr

def Error.message (error : Error) : String :=
  s!"{error.cause.message} at offset {error.offset}"

def Failure.inText (text : List Char) (failure : Failure) : Error :=
  ⟨byteOffset text failure.rest, failure.cause⟩

end FieldTypes.Expression
