import FieldTypes.Proofs.Registry.Admission
import FieldTypes.Types.Rendering

/-! The same types and classes under other ids.  A change of ids leaves the shape of
a type as it is, so whatever looks at ids only through their names or their type
parameters sees no difference. -/

namespace FieldTypes

variable (change : ClassId → ClassId)

namespace DeclaredType

mutual
def renumber : DeclaredType → DeclaredType
  | .primitive kind => .primitive kind
  | .plain id => .plain (change id)
  | .parameterized raw arguments => .parameterized (change raw) (renumberAll arguments)
  | .array component => .array (renumber component)
  | .typeVariable name => .typeVariable name
  | .anyWildcard => .anyWildcard
  | .extendsWildcard bound => .extendsWildcard (renumber bound)
  | .superWildcard bound => .superWildcard (renumber bound)

def renumberAll : List DeclaredType → List DeclaredType
  | [] => []
  | type :: rest => renumber type :: renumberAll rest
end

theorem renumberAll_eq_map (types : List DeclaredType) :
    renumberAll change types = types.map (·.renumber change) := by
  induction types with
  | nil => rfl
  | cons type rest induction => rw [renumberAll, induction, List.map_cons]

mutual
@[simp] theorem depth_renumber : ∀ type : DeclaredType,
    (type.renumber change).depth = type.depth
  | .primitive _ | .plain _ | .typeVariable _ | .anyWildcard => rfl
  | .parameterized _ arguments => by
      rw [renumber, depth, depth, greatestDepth_renumberAll arguments]
  | .array component => by rw [renumber, depth, depth, depth_renumber component]
  | .extendsWildcard bound | .superWildcard bound => by
      rw [renumber, depth, depth, depth_renumber bound]

theorem greatestDepth_renumberAll : ∀ types : List DeclaredType,
    greatestDepth (renumberAll change types) = greatestDepth types
  | [] => rfl
  | type :: rest => by
      rw [renumberAll, greatestDepth, greatestDepth, depth_renumber type,
        greatestDepth_renumberAll rest]
end

mutual
@[simp] theorem containsWildcard_renumber : ∀ type : DeclaredType,
    (type.renumber change).containsWildcard = type.containsWildcard
  | .primitive _ | .plain _ | .typeVariable _ | .anyWildcard | .extendsWildcard _
  | .superWildcard _ => rfl
  | .parameterized _ arguments => by
      rw [renumber, containsWildcard, containsWildcard, anyContainsWildcard_renumberAll arguments]
  | .array component => by
      rw [renumber, containsWildcard, containsWildcard, containsWildcard_renumber component]

theorem anyContainsWildcard_renumberAll : ∀ types : List DeclaredType,
    anyContainsWildcard (renumberAll change types) = anyContainsWildcard types
  | [] => rfl
  | type :: rest => by
      rw [renumberAll, anyContainsWildcard, anyContainsWildcard, containsWildcard_renumber type,
        anyContainsWildcard_renumberAll rest]
end

section

variable (nameOf : ClassId → String) (variableText : String → String)

mutual
/-- New ids with new names read like the old ids under the names of the new ones. -/
theorem textUnder_renumber : ∀ type : DeclaredType,
    (type.renumber change).textUnder nameOf variableText =
      type.textUnder (fun id => nameOf (change id)) variableText
  | .primitive _ | .plain _ | .typeVariable _ | .anyWildcard => rfl
  | .parameterized _ arguments => by
      rw [renumber, textUnder, textUnder, textsUnder_renumberAll arguments]
  | .array component => by rw [renumber, textUnder, textUnder, textUnder_renumber component]
  | .extendsWildcard bound | .superWildcard bound => by
      rw [renumber, textUnder, textUnder, textUnder_renumber bound]

theorem textsUnder_renumberAll : ∀ types : List DeclaredType,
    textsUnder nameOf variableText (renumberAll change types) =
      textsUnder (fun id => nameOf (change id)) variableText types
  | [] => rfl
  | type :: rest => by
      rw [renumberAll, textsUnder, textsUnder, textUnder_renumber type,
        textsUnder_renumberAll rest]
end

end

/-- Whether a type fits depends on its ids only through their type parameters. -/
theorem fits_renumber {arity? : ClassId → Option Nat} {parameters : List String}
    {type : DeclaredType} :
    (type.renumber change).Fits arity? parameters ↔
      type.Fits (fun id => arity? (change id)) parameters := by
  induction type with
  | primitive kind => simp [renumber]
  | plain id => simp [renumber]
  | typeVariable name => simp [renumber]
  | anyWildcard => simp [renumber]
  | array component induction => rw [renumber, fits_array, fits_array, induction]
  | extendsWildcard bound induction =>
      rw [renumber, fits_extendsWildcard, fits_extendsWildcard, induction]
  | superWildcard bound induction =>
      rw [renumber, fits_superWildcard, fits_superWildcard, induction]
  | parameterized raw arguments induction =>
      rw [renumber, renumberAll_eq_map, fits_parameterized, fits_parameterized,
        List.length_map, List.forall_mem_map]
      exact and_congr_right fun _ => forall₂_congr induction

end DeclaredType

namespace ResolvedType

mutual
def renumber : ResolvedType → ResolvedType
  | .primitive kind => .primitive kind
  | .plain id => .plain (change id)
  | .parameterized raw arguments => .parameterized (change raw) (renumberAll arguments)
  | .array component => .array (renumber component)

def renumberAll : List ResolvedType → List ResolvedType
  | [] => []
  | type :: rest => renumber type :: renumberAll rest
end

theorem renumberAll_eq_map (types : List ResolvedType) :
    renumberAll change types = types.map (·.renumber change) := by
  induction types with
  | nil => rfl
  | cons type rest induction => rw [renumberAll, induction, List.map_cons]

mutual
theorem textUnder_renumber (nameOf : ClassId → String) : ∀ type : ResolvedType,
    (type.renumber change).textUnder nameOf = type.textUnder fun id => nameOf (change id)
  | .primitive _ | .plain _ => rfl
  | .parameterized _ arguments => by
      rw [renumber, textUnder, textUnder, textsUnder_renumberAll nameOf arguments]
  | .array component => by
      rw [renumber, textUnder, textUnder, textUnder_renumber nameOf component]

theorem textsUnder_renumberAll (nameOf : ClassId → String) : ∀ types : List ResolvedType,
    textsUnder nameOf (renumberAll change types) =
      textsUnder (fun id => nameOf (change id)) types
  | [] => rfl
  | type :: rest => by
      rw [renumberAll, textsUnder, textsUnder, textUnder_renumber nameOf type,
        textsUnder_renumberAll nameOf rest]
end

end ResolvedType

/-! ## Declarations and definitions -/

def FieldDeclaration.renumber (field : FieldDeclaration) : FieldDeclaration :=
  { field with type := field.type.renumber change }

def ClassDeclaration.renumber (declaration : ClassDeclaration) : ClassDeclaration :=
  { declaration with fields := declaration.fields.map (·.renumber change) }

/-- The field as it stands in a registry of other ids. -/
def FieldDefinition.renumber (identity : RegistryId) (field : FieldDefinition) :
    FieldDefinition :=
  { field with
    registry := identity
    owner := change field.owner
    type := field.type.renumber change }

/-- The class as it stands in a registry of other ids. -/
def ClassDefinition.renumber (identity : RegistryId) (definition : ClassDefinition) :
    ClassDefinition :=
  { definition with
    registry := identity
    id := change definition.id
    fields := definition.fields.map (·.renumber change identity) }

theorem ClassDeclaration.fits_renumber {arity? : ClassId → Option Nat}
    {declaration : ClassDeclaration} :
    (declaration.renumber change).Fits arity? ↔
      declaration.Fits fun id => arity? (change id) := by
  have names : (declaration.renumber change).fields.map (·.name) =
      declaration.fields.map (·.name) := by
    rw [ClassDeclaration.renumber, List.map_map]
    rfl
  have types : (∀ field ∈ (declaration.renumber change).fields,
        field.type.Fits arity? declaration.parameters) ↔
      ∀ field ∈ declaration.fields,
        field.type.Fits (fun id => arity? (change id)) declaration.parameters := by
    rw [ClassDeclaration.renumber, List.forall_mem_map]
    exact forall₂_congr fun _ _ => DeclaredType.fits_renumber change
  constructor
  · intro fits
    exact ⟨fits.parameters_nodup, names ▸ fits.fieldNames_nodup, types.mp fits.types_fit⟩
  · intro fits
    exact ⟨fits.parameters_nodup, names.symm ▸ fits.fieldNames_nodup, types.mpr fits.types_fit⟩

theorem Registry.renumber_definitionOf (identity other : RegistryId) (id : ClassId)
    (declaration : ClassDeclaration) :
    (definitionOf identity id declaration).renumber change other =
      definitionOf other (change id) (declaration.renumber change) := by
  rw [definitionOf, ClassDefinition.renumber, definitionOf, ClassDeclaration.renumber]
  simp only [List.map_map]
  rfl

end FieldTypes
