import FieldTypes.Types.Declared

namespace FieldTypes

/-! Every registry has an identity of its own.  Definitions carry it, because a
class id says nothing about the registry that it belongs to. -/

structure RegistryId where
  number : Nat
deriving DecidableEq, Repr

structure FieldDefinition where
  registry : RegistryId
  owner : ClassId
  ownerName : String
  name : String
  type : DeclaredType
deriving DecidableEq, Repr

structure ClassDefinition where
  registry : RegistryId
  id : ClassId
  name : String
  parameters : List String
  fields : List FieldDefinition
deriving DecidableEq, Repr

/-- Whether the field was declared on the class, in the same registry. -/
def FieldDefinition.isDeclaredOn (field : FieldDefinition) (owner : ClassDefinition) : Bool :=
  field.registry == owner.registry && field.owner == owner.id

namespace ClassDefinition

def parameterPlace? (definition : ClassDefinition) (name : String) : Option Nat :=
  definition.parameters.findIdx? (· == name)

def isGeneric (definition : ClassDefinition) : Bool :=
  !definition.parameters.isEmpty

def field? (definition : ClassDefinition) (name : String) : Option FieldDefinition :=
  definition.fields.find? (·.name == name)

/-- The same class as a definition of another registry. -/
def moveTo (identity : RegistryId) (definition : ClassDefinition) : ClassDefinition :=
  { definition with
    registry := identity
    fields := definition.fields.map fun field => { field with registry := identity } }

end ClassDefinition

/-! A registry is a row of slots.  The place of a slot is the id of its class;
a slot without a definition holds a name that has only been mentioned.  An index
beside the slots leads from a name to its place. -/

structure Slot where
  name : String
  definition? : Option ClassDefinition
deriving DecidableEq, Repr

structure Registry where
  identity : RegistryId
  slots : List Slot
  places : List (String × ClassId)
deriving DecidableEq, Repr

namespace Registry

def empty (identity : RegistryId) : Registry :=
  ⟨identity, [], []⟩

def nameOf? (registry : Registry) (id : ClassId) : Option String :=
  registry.slots[id.index]?.map (·.name)

def definition? (registry : Registry) (id : ClassId) : Option ClassDefinition :=
  registry.slots[id.index]?.bind (·.definition?)

def isDefined (registry : Registry) (id : ClassId) : Bool :=
  (registry.definition? id).isSome

/-- The id of exactly this name, whether its class is defined or not. -/
def idOf? (registry : Registry) (name : String) : Option ClassId :=
  registry.places.lookup name

/-- The defined classes in the order of their ids. -/
def definitions (registry : Registry) : List ClassDefinition :=
  registry.slots.filterMap (·.definition?)

def size (registry : Registry) : Nat :=
  registry.definitions.length

/-- The id of a name, with a new slot at the end for a name not seen before. -/
def intern (registry : Registry) (name : String) : Registry × ClassId :=
  match registry.idOf? name with
  | some id => (registry, id)
  | none =>
      ({ registry with
          slots := registry.slots ++ [⟨name, none⟩]
          places := (name, ⟨registry.slots.length⟩) :: registry.places },
        ⟨registry.slots.length⟩)

/-! A name is looked up as source text means it: the exact name first, then the
package that every file imports, then a simple name that only one class has. -/

def hasSimpleName (simple : String) (slot : Slot) : Bool :=
  ('.' :: simple.toList).isSuffixOf slot.name.toList

def onlySimple? (registry : Registry) (simple : String) : Option ClassId :=
  match registry.slots.zipIdx.filter fun place => hasSimpleName simple place.1 with
  | [(_, index)] => some ⟨index⟩
  | _ => none

def lookup? (registry : Registry) (name : String) : Option ClassId :=
  match registry.idOf? name with
  | some id => some id
  | none =>
      if name.toList.contains '.' then none
      else match registry.idOf? ("java.lang." ++ name) with
        | some id => some id
        | none => registry.onlySimple? name

/-! A copy has the same names and classes under an identity of its own, so that
its fields are foreign to the registry that was copied. -/

def copy (identity : RegistryId) (registry : Registry) : Registry where
  identity := identity
  slots := registry.slots.map fun slot =>
    { slot with definition? := slot.definition?.map (·.moveTo identity) }
  places := registry.places

/-! Names for people. -/

/-- The name of a class in rendered types. -/
def displayName (registry : Registry) (id : ClassId) : String :=
  (registry.nameOf? id).getD s!"<unknown class #{id.index}>"

/-- The name of a class in messages about definitions. -/
def diagnosticName (registry : Registry) (id : ClassId) : String :=
  (registry.nameOf? id).getD id.diagnostic

end Registry

end FieldTypes
