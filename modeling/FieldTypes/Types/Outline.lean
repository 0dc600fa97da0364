import FieldTypes.Types.Rendering
import FieldTypes.Text.Json

namespace FieldTypes

/-! A resolved type with names in the place of class ids, for readers who do not
have the registry. -/

inductive Outline where
  | primitive (name : String)
  | plain (name : String)
  | parameterized (rawType : String) (arguments : List Outline)
  | array (component : Outline)

namespace Outline

/-- The name of a class in outlines. -/
def nameIn (registry : Registry) (id : ClassId) : String :=
  (registry.nameOf? id).getD "<unknown>"

mutual
def ofResolved (nameOf : ClassId → String) : ResolvedType → Outline
  | .primitive kind => .primitive kind.keyword
  | .plain id => .plain (nameOf id)
  | .parameterized raw arguments => .parameterized (nameOf raw) (ofAllResolved nameOf arguments)
  | .array component => .array (ofResolved nameOf component)

def ofAllResolved (nameOf : ClassId → String) : List ResolvedType → List Outline
  | [] => []
  | type :: rest => ofResolved nameOf type :: ofAllResolved nameOf rest
end

/-- The outline of a type of a registry. -/
def inRegistry (registry : Registry) (type : ResolvedType) : Outline :=
  ofResolved (nameIn registry) type

mutual
/-- The outline as source text. -/
def text : Outline → String
  | .primitive name => name
  | .plain name => name
  | .parameterized rawType arguments =>
      rawType ++ "<" ++ commaSeparated (texts arguments) ++ ">"
  | .array component => component.text ++ "[]"

def texts : List Outline → List String
  | [] => []
  | outline :: rest => outline.text :: texts rest
end

mutual
def json : Outline → Text.Json
  | .primitive name => .object [("kind", .text "primitive"), ("name", .text name)]
  | .plain name => .object [("kind", .text "class"), ("name", .text name)]
  | .parameterized rawType arguments =>
      .object
        [ ("kind", .text "parameterized"),
          ("raw_type", .text rawType),
          ("type_arguments", .list (jsons arguments)) ]
  | .array component =>
      .object [("kind", .text "array"), ("component_type", component.json)]

def jsons : List Outline → List Text.Json
  | [] => []
  | outline :: rest => outline.json :: jsons rest
end

end Outline

end FieldTypes
