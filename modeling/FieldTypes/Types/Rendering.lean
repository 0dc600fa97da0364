import FieldTypes.Types.Declared
import FieldTypes.Types.Resolved
import FieldTypes.Registry.Basic

namespace FieldTypes

/-! Types as source text.  Classes appear under their full names, arguments have
a comma and a space between them, and a pair of brackets follows an array. -/

def commaSeparated : List String → String
  | [] => ""
  | [text] => text
  | text :: next :: rest => text ++ ", " ++ commaSeparated (next :: rest)

mutual
/-- A declared type, with type variables replaced by texts of their own. -/
def DeclaredType.textUnder (nameOf : ClassId → String) (variableText : String → String) :
    DeclaredType → String
  | .primitive kind => kind.keyword
  | .plain id => nameOf id
  | .parameterized raw arguments =>
      nameOf raw ++ "<" ++
        commaSeparated (DeclaredType.textsUnder nameOf variableText arguments) ++ ">"
  | .array component => component.textUnder nameOf variableText ++ "[]"
  | .typeVariable name => variableText name
  | .anyWildcard => "?"
  | .extendsWildcard bound => "? extends " ++ bound.textUnder nameOf variableText
  | .superWildcard bound => "? super " ++ bound.textUnder nameOf variableText

def DeclaredType.textsUnder (nameOf : ClassId → String) (variableText : String → String) :
    List DeclaredType → List String
  | [] => []
  | type :: rest =>
      type.textUnder nameOf variableText ::
        DeclaredType.textsUnder nameOf variableText rest
end

mutual
def ResolvedType.textUnder (nameOf : ClassId → String) : ResolvedType → String
  | .primitive kind => kind.keyword
  | .plain id => nameOf id
  | .parameterized raw arguments =>
      nameOf raw ++ "<" ++ commaSeparated (ResolvedType.textsUnder nameOf arguments) ++ ">"
  | .array component => component.textUnder nameOf ++ "[]"

def ResolvedType.textsUnder (nameOf : ClassId → String) :
    List ResolvedType → List String
  | [] => []
  | type :: rest => type.textUnder nameOf :: ResolvedType.textsUnder nameOf rest
end

theorem DeclaredType.textsUnder_eq_map (nameOf : ClassId → String)
    (variableText : String → String) (types : List DeclaredType) :
    DeclaredType.textsUnder nameOf variableText types =
      types.map (·.textUnder nameOf variableText) := by
  induction types with
  | nil => rfl
  | cons type rest induction => rw [DeclaredType.textsUnder, induction, List.map_cons]

theorem ResolvedType.textsUnder_eq_map (nameOf : ClassId → String) (types : List ResolvedType) :
    ResolvedType.textsUnder nameOf types = types.map (·.textUnder nameOf) := by
  induction types with
  | nil => rfl
  | cons type rest induction => rw [ResolvedType.textsUnder, induction, List.map_cons]

namespace Registry

/-- A declared type as source text, with type variables under their own names. -/
def declaredText (registry : Registry) (type : DeclaredType) : String :=
  type.textUnder registry.displayName id

def resolvedText (registry : Registry) (type : ResolvedType) : String :=
  type.textUnder registry.displayName

end Registry

/-! The diagnostic form spells out how a resolved type is built. -/

mutual
def ResolvedType.diagnostic : ResolvedType → String
  | .primitive kind => "Concrete(Primitive(" ++ kind.label ++ "))"
  | .plain id => "Concrete(Class(" ++ id.diagnostic ++ "))"
  | .parameterized raw arguments =>
      "Parameterized(ParameterizedType \x7b raw_type: " ++ raw.diagnostic ++
        ", type_arguments: [" ++ commaSeparated (ResolvedType.diagnostics arguments) ++
        "] \x7d)"
  | .array component =>
      "Array(ArrayType \x7b component_type: " ++ component.diagnostic ++ " \x7d)"

def ResolvedType.diagnostics : List ResolvedType → List String
  | [] => []
  | type :: rest => type.diagnostic :: ResolvedType.diagnostics rest
end

end FieldTypes
