import FieldTypes.Registry.Basic

namespace FieldTypes

/-! Classes are declared in batches, so that they may refer to each other.  A
batch is checked as a whole and then stored as a whole. -/

structure FieldDeclaration where
  name : String
  type : DeclaredType
deriving DecidableEq, Repr

structure ClassDeclaration where
  name : String
  parameters : List String
  fields : List FieldDeclaration
deriving DecidableEq, Repr

inductive DefinitionError where
  | duplicateClass (name : String)
  | duplicateParameter (owner parameter : String)
  | duplicateField (owner field : String)
  | unknownClass (owner field referenced : String)
  | undeclaredVariable (owner field variableName : String)
  | arityMismatch (owner field raw : String) (expected found : Nat)
deriving DecidableEq, Repr

def DefinitionError.message : DefinitionError → String
  | .duplicateClass name => s!"class `{name}` is already defined"
  | .duplicateParameter owner parameter =>
      s!"class `{owner}` declares type parameter `{parameter}` more than once"
  | .duplicateField owner field =>
      s!"class `{owner}` declares field `{field}` more than once"
  | .unknownClass owner field referenced =>
      s!"field `{owner}.{field}` references class `{referenced}`, which is not defined"
  | .undeclaredVariable owner field variableName =>
      s!"field `{owner}.{field}` uses type variable `{variableName}`, " ++
        s!"which `{owner}` does not declare"
  | .arityMismatch owner field raw expected found =>
      s!"field `{owner}.{field}` applies {found} type argument(s) to `{raw}`, " ++
        s!"which declares {expected}"

/-- The first name that stands earlier in the list as well. -/
def firstRepeat? (seen : List String) : List String → Option String
  | [] => none
  | name :: rest =>
      if seen.contains name then some name else firstRepeat? (name :: seen) rest

namespace Registry

/-! The ids of a batch are planned before any name is interned: a known name
keeps its id, and new names take the next free places in their order. -/

def planFrom (registry : Registry) (seen : List String) (next : Nat) :
    List ClassDeclaration → Except DefinitionError (List ClassId)
  | [] => .ok []
  | declaration :: rest =>
      if seen.contains declaration.name then
        .error (.duplicateClass declaration.name)
      else match registry.idOf? declaration.name with
        | some id =>
            if registry.isDefined id then .error (.duplicateClass declaration.name)
            else (registry.planFrom (declaration.name :: seen) next rest).map (id :: ·)
        | none =>
            (registry.planFrom (declaration.name :: seen) (next + 1) rest).map
              (⟨next⟩ :: ·)

def plan (registry : Registry) (batch : List ClassDeclaration) :
    Except DefinitionError (List ClassId) :=
  registry.planFrom [] registry.slots.length batch

/-- How many type parameters a class has, in the batch or in the registry. -/
def parameterCount? (registry : Registry) (batch : List (ClassId × ClassDeclaration))
    (id : ClassId) : Option Nat :=
  match batch.lookup id with
  | some declaration => some declaration.parameters.length
  | none => (registry.definition? id).map (·.parameters.length)

/-! The nodes of a field type are checked from the outside in, and arguments
from left to right.  The bounds of wildcards are checked like all else. -/

mutual
def checkType (registry : Registry) (batch : List (ClassId × ClassDeclaration))
    (owner : ClassDeclaration) (field : String) :
    DeclaredType → Except DefinitionError Unit
  | .primitive _ | .anyWildcard => .ok ()
  | .plain id =>
      match registry.parameterCount? batch id with
      | some _ => .ok ()
      | none =>
          .error (.unknownClass owner.name field (registry.diagnosticName id))
  | .parameterized raw arguments =>
      match registry.parameterCount? batch raw with
      | none =>
          .error (.unknownClass owner.name field (registry.diagnosticName raw))
      | some expected =>
          if expected = arguments.length then
            registry.checkTypes batch owner field arguments
          else
            .error (.arityMismatch owner.name field (registry.diagnosticName raw)
              expected arguments.length)
  | .array component => registry.checkType batch owner field component
  | .typeVariable name =>
      if owner.parameters.contains name then .ok ()
      else .error (.undeclaredVariable owner.name field name)
  | .extendsWildcard bound | .superWildcard bound =>
      registry.checkType batch owner field bound

def checkTypes (registry : Registry) (batch : List (ClassId × ClassDeclaration))
    (owner : ClassDeclaration) (field : String) :
    List DeclaredType → Except DefinitionError Unit
  | [] => .ok ()
  | type :: rest =>
      match registry.checkType batch owner field type with
      | .error error => .error error
      | .ok () => registry.checkTypes batch owner field rest
end

def checkFields (registry : Registry) (batch : List (ClassId × ClassDeclaration))
    (owner : ClassDeclaration) : List FieldDeclaration → Except DefinitionError Unit
  | [] => .ok ()
  | field :: rest =>
      match registry.checkType batch owner field.name field.type with
      | .error error => .error error
      | .ok () => registry.checkFields batch owner rest

/-- Repeated names come before any fault in a field type. -/
def checkClass (registry : Registry) (batch : List (ClassId × ClassDeclaration))
    (declaration : ClassDeclaration) : Except DefinitionError Unit :=
  match firstRepeat? [] declaration.parameters with
  | some parameter => .error (.duplicateParameter declaration.name parameter)
  | none =>
      match firstRepeat? [] (declaration.fields.map (·.name)) with
      | some field => .error (.duplicateField declaration.name field)
      | none => registry.checkFields batch declaration declaration.fields

def checkClasses (registry : Registry) (batch : List (ClassId × ClassDeclaration)) :
    List ClassDeclaration → Except DefinitionError Unit
  | [] => .ok ()
  | declaration :: rest =>
      match registry.checkClass batch declaration with
      | .error error => .error error
      | .ok () => registry.checkClasses batch rest

/-- The definition that a declaration becomes in a registry. -/
def definitionOf (identity : RegistryId) (id : ClassId) (declaration : ClassDeclaration) :
    ClassDefinition where
  registry := identity
  id := id
  name := declaration.name
  parameters := declaration.parameters
  fields := declaration.fields.map fun field =>
    { registry := identity
      owner := id
      ownerName := declaration.name
      name := field.name
      type := field.type }

def store (registry : Registry) (declaration : ClassDeclaration) : Registry :=
  let (grown, id) := registry.intern declaration.name
  { grown with
    slots := grown.slots.modify id.index fun slot =>
      { slot with definition? := some (definitionOf grown.identity id declaration) } }

/-- Defines a whole batch, or nothing at all when some declaration has a fault. -/
def define (registry : Registry) (batch : List ClassDeclaration) :
    Except DefinitionError (Registry × List ClassId) :=
  match registry.plan batch with
  | .error error => .error error
  | .ok ids =>
      match registry.checkClasses (ids.zip batch) batch with
      | .error error => .error error
      | .ok () => .ok (batch.foldl store registry, ids)

theorem length_of_planFrom {registry : Registry} {seen : List String} {next : Nat}
    {batch : List ClassDeclaration} {ids : List ClassId}
    (planned : registry.planFrom seen next batch = .ok ids) : ids.length = batch.length := by
  induction batch generalizing seen next ids with
  | nil =>
      cases planned
      rfl
  | cons declaration rest induction =>
      have later : ∀ {following : Nat} {id : ClassId},
          (registry.planFrom (declaration.name :: seen) following rest).map (id :: ·) =
            .ok ids → ids.length = rest.length + 1 := by
        intro following id mapped
        cases others : registry.planFrom (declaration.name :: seen) following rest with
        | error error =>
            rw [others] at mapped
            cases mapped
        | ok found =>
            rw [others] at mapped
            cases mapped
            rw [List.length_cons, induction others]
      rw [planFrom] at planned
      split at planned
      · cases planned
      · split at planned
        · split at planned
          · cases planned
          · exact later planned
        · exact later planned

/-- There is one id for each class of a batch. -/
theorem length_of_define {registry grown : Registry} {batch : List ClassDeclaration}
    {ids : List ClassId} (defined : registry.define batch = .ok (grown, ids)) :
    ids.length = batch.length := by
  rw [define] at defined
  split at defined
  · cases defined
  · next planned =>
      split at defined
      · cases defined
      · cases defined
        exact length_of_planFrom planned

/-- Defines a class by itself, so that its fields may mention no other class that is new. -/
def defineClass (registry : Registry) (declaration : ClassDeclaration) :
    Except DefinitionError (Registry × ClassId) :=
  match defined : registry.define [declaration] with
  | .error error => .error error
  | .ok (grown, ids) =>
      .ok (grown, ids.head (List.ne_nil_of_length_eq_add_one (length_of_define defined)))

theorem defineClass_eq_ok_iff {registry grown : Registry} {declaration : ClassDeclaration}
    {id : ClassId} :
    registry.defineClass declaration = .ok (grown, id) ↔
      registry.define [declaration] = .ok (grown, [id]) := by
  rw [defineClass]
  split
  · next failed => simp [failed]
  · next stored ids defined =>
      rcases List.length_eq_one_iff.mp (length_of_define defined) with ⟨only, rfl⟩
      simp [defined]

end Registry

end FieldTypes
