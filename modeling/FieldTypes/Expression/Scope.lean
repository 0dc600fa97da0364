import FieldTypes.Registry.Basic

namespace FieldTypes.Expression

/-! The names that a field type may use: the type parameters of its class, the
class itself, and whatever the registry finds. -/

structure Scope where
  parameters : List String
  ownClass? : Option (String × ClassId)
deriving Repr

/-- What a name stands for. -/
inductive Meaning where
  | primitive (kind : Primitive)
  | typeVariable (name : String)
  | classNamed (id : ClassId)
deriving DecidableEq, Repr

namespace Scope

/-- No type variables and no class of its own. -/
def empty : Scope :=
  ⟨[], none⟩

/-- The part of a dotted name after its last dot. -/
def simpleName (name : List Char) : List Char :=
  (name.reverse.takeWhile (· != '.')).reverse

/-- The class itself goes by its full name and by its simple name. -/
def own? (scope : Scope) (name : String) : Option ClassId :=
  match scope.ownClass? with
  | none => none
  | some (full, id) =>
      if name = full || name.toList = simpleName full.toList then some id else none

/-- A keyword hides a type parameter, that hides the class itself, and that hides
the other classes. -/
def meaning? (scope : Scope) (registry : Registry) (name : String) : Option Meaning :=
  match Primitive.ofKeyword? name with
  | some kind => some (.primitive kind)
  | none =>
      if scope.parameters.contains name then some (.typeVariable name)
      else match scope.own? name with
        | some id => some (.classNamed id)
        | none => (registry.lookup? name).map .classNamed

end Scope

end FieldTypes.Expression
