import FieldTypes.Resolution.Substitution
import FieldTypes.Types.Rendering
import FieldTypes.Text.Quoted

namespace FieldTypes

/-! A resolver is a class of a registry with one type argument for each of its
type parameters. -/

structure Resolver where
  registry : Registry
  definition : ClassDefinition
  arguments : List ResolvedType
  arity : arguments.length = definition.parameters.length

/-- Binds arguments to the type parameters of a class. -/
def Registry.resolver (registry : Registry) (id : ClassId) (arguments : List ResolvedType) :
    Except ResolutionError Resolver :=
  match registry.definition? id with
  | none => .error (.unknownClass id)
  | some definition =>
      if arity : arguments.length = definition.parameters.length then
        .ok ⟨registry, definition, arguments, arity⟩
      else
        .error (.arityMismatch definition.name definition.parameters.length
          arguments.length)

namespace Resolver

/-- The class itself under this binding. -/
def classType (resolver : Resolver) : ResolvedType :=
  if resolver.definition.isGeneric then
    .parameterized resolver.definition.id resolver.arguments
  else .plain resolver.definition.id

/-- The argument at the place of the parameter of this name. -/
def bound? (resolver : Resolver) (name : String) : Option ResolvedType :=
  (resolver.definition.parameterPlace? name).bind (resolver.arguments[·]?)

/-- Resolves a field, which must be one of the class and of its registry. -/
def resolve (resolver : Resolver) (field : FieldDefinition) :
    Except ResolutionError ResolvedType :=
  if field.isDeclaredOn resolver.definition then
    resolver.registry.substitute resolver.bound?
      (.field resolver.definition.name field.name) field.type
  else
    .error (.foreignField field.name field.ownerName resolver.definition.name)

def resolveNamed (resolver : Resolver) (name : String) :
    Except ResolutionError ResolvedType :=
  match resolver.definition.field? name with
  | none => .error (.unknownField resolver.definition.name name)
  | some field => resolver.resolve field

def resolveFields (resolver : Resolver) :
    List FieldDefinition → Except ResolutionError (List (FieldDefinition × ResolvedType))
  | [] => .ok []
  | field :: rest =>
      match resolver.resolve field with
      | .error error => .error error
      | .ok type => (resolver.resolveFields rest).map ((field, type) :: ·)

/-- Every declared field in order, or the first failure. -/
def resolveAll (resolver : Resolver) :
    Except ResolutionError (List (FieldDefinition × ResolvedType)) :=
  resolver.resolveFields resolver.definition.fields

def diagnostic (resolver : Resolver) : String :=
  "Resolver \x7b class: " ++ Text.quoted resolver.definition.name ++
    ", binding: Binding \x7b args: [" ++
    commaSeparated (ResolvedType.diagnostics resolver.arguments) ++ "] \x7d, .. \x7d"

end Resolver

end FieldTypes
