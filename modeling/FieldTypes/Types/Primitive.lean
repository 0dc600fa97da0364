namespace FieldTypes

/-! The eight primitive types, in the order in which the language lists them. -/

inductive Primitive where
  | boolean
  | byte
  | short
  | char
  | int
  | long
  | float
  | double
deriving DecidableEq, Repr

namespace Primitive

def all : List Primitive :=
  [.boolean, .byte, .short, .char, .int, .long, .float, .double]

def keyword : Primitive → String
  | .boolean => "boolean"
  | .byte => "byte"
  | .short => "short"
  | .char => "char"
  | .int => "int"
  | .long => "long"
  | .float => "float"
  | .double => "double"

/-- The capitalised name used by diagnostics. -/
def label : Primitive → String
  | .boolean => "Boolean"
  | .byte => "Byte"
  | .short => "Short"
  | .char => "Char"
  | .int => "Int"
  | .long => "Long"
  | .float => "Float"
  | .double => "Double"

def ofKeyword? (word : String) : Option Primitive :=
  all.find? (·.keyword == word)

/-- The place of a primitive in the language's list. -/
def rank (kind : Primitive) : Nat :=
  all.idxOf kind

theorem mem_all (kind : Primitive) : kind ∈ all := by
  cases kind <;> decide

theorem keyword_injective {left right : Primitive}
    (equal : left.keyword = right.keyword) : left = right := by
  cases left <;> cases right <;> first | rfl | (revert equal; decide)

theorem ofKeyword?_eq_some_iff {word : String} {kind : Primitive} :
    ofKeyword? word = some kind ↔ kind.keyword = word := by
  constructor
  · intro found
    simpa using List.find?_some found
  · intro equal
    subst equal
    cases kind <;> decide

end Primitive

end FieldTypes
