import FieldTypes.Log.Settings

namespace FieldTypes

/-! A manifest declares classes by text alone: names, type parameters, and fields
with their types as source text.  It may also say how to log. -/

structure FieldEntry where
  name : String
  type : String
deriving DecidableEq, Repr

structure ClassEntry where
  name : String
  parameters : List String
  fields : List FieldEntry
deriving DecidableEq, Repr

structure Manifest where
  logging : Log.Settings
  classes : List ClassEntry
deriving DecidableEq, Repr

/-- The manifest of a workspace that has none. -/
def Manifest.empty : Manifest :=
  ⟨.defaults, []⟩

end FieldTypes
