import FieldTypes.Types.Resolved
import FieldTypes.Registry.Basic

namespace FieldTypes

/-! Why a declared type has no resolved type. -/

/-- Where a type that cannot be resolved was found. -/
inductive Place where
  | field (owner field : String)
  | typeArgument
deriving DecidableEq, Repr

def Place.text : Place → String
  | .field owner fieldName => s!"field `{owner}.{fieldName}`"
  | .typeArgument => "type argument"

inductive ResolutionError where
  | arityMismatch (owner : String) (expected found : Nat)
  | foreignField (field fieldOwner owner : String)
  | wildcard (place : Place)
  | unknownClass (id : ClassId)
  | unknownField (owner field : String)
  | unboundVariable (name : String)
deriving DecidableEq, Repr

def ResolutionError.message : ResolutionError → String
  | .arityMismatch owner expected found =>
      "actualTypeArguments must be same length as class' type parameters " ++
        s!"(`{owner}` declares {expected}, got {found})"
  | .foreignField field fieldOwner owner =>
      "cannot resolve fields from other classes " ++
        s!"(`{fieldOwner}.{field}` is not declared on `{owner}`)"
  | .wildcard place => s!"Wildcard types are not supported (found in {place.text})"
  | .unknownClass id => s!"class {id.diagnostic} is not defined"
  | .unknownField owner field => s!"`{owner}` declares no field named `{field}`"
  | .unboundVariable name => s!"type variable `{name}` is not bound"

namespace Registry

/-! Substitution puts a resolved type in the place of each type variable.  A
parameterized type is checked before its arguments, and these from left to right. -/

mutual
def substitute (registry : Registry) (bound? : String → Option ResolvedType)
    (place : Place) : DeclaredType → Except ResolutionError ResolvedType
  | .primitive kind => .ok (.primitive kind)
  | .plain id => .ok (.plain id)
  | .typeVariable name =>
      match bound? name with
      | some type => .ok type
      | none => .error (.unboundVariable name)
  | .parameterized raw arguments =>
      match registry.definition? raw with
      | none => .error (.unknownClass raw)
      | some definition =>
          if definition.parameters.length = arguments.length then
            (registry.substituteAll bound? place arguments).map (.parameterized raw)
          else
            .error (.arityMismatch definition.name definition.parameters.length
              arguments.length)
  | .array component => (registry.substitute bound? place component).map .array
  | .anyWildcard | .extendsWildcard _ | .superWildcard _ => .error (.wildcard place)

def substituteAll (registry : Registry) (bound? : String → Option ResolvedType)
    (place : Place) : List DeclaredType → Except ResolutionError (List ResolvedType)
  | [] => .ok []
  | type :: rest =>
      match registry.substitute bound? place type with
      | .error error => .error error
      | .ok first => (registry.substituteAll bound? place rest).map (first :: ·)
end

/-- Resolves a type that must not mention any type variable. -/
def concretize (registry : Registry) (type : DeclaredType) :
    Except ResolutionError ResolvedType :=
  registry.substitute (fun _ => none) .typeArgument type

end Registry

end FieldTypes
