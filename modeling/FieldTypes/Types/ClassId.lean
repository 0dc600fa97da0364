namespace FieldTypes

/-! A class is referred to by its place in one registry.  The same number means
another class in another registry. -/

@[ext]
structure ClassId where
  index : Nat
deriving DecidableEq, Repr

namespace ClassId

/-- How diagnostics show a class that has no name. -/
def diagnostic (id : ClassId) : String :=
  s!"ClassId({id.index})"

end ClassId

end FieldTypes
