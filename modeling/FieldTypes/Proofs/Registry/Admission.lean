import FieldTypes.Registry.Definition

/-! Which declarations fit, said without the order in which they are checked.
What is in sight is given by a function that knows how many type parameters each
class has, so that the same words serve for a batch that is still to be stored
and for a registry that holds it. -/

namespace FieldTypes

namespace DeclaredType

variable {arity? : ClassId → Option Nat} {parameters : List String}

/-- What one node asks of the classes and the type parameters in sight. -/
def NodeFits (arity? : ClassId → Option Nat) (parameters : List String) :
    DeclaredType → Prop
  | .plain id => (arity? id).isSome = true
  | .parameterized raw arguments => arity? raw = some arguments.length
  | .typeVariable name => name ∈ parameters
  | .primitive _ | .array _ | .anyWildcard | .extendsWildcard _ | .superWildcard _ => True

/-- Every node fits, those inside arguments and bounds included. -/
def Fits (arity? : ClassId → Option Nat) (parameters : List String)
    (type : DeclaredType) : Prop :=
  ∀ node ∈ type.nodes, node.NodeFits arity? parameters

@[simp] theorem fits_primitive (kind : Primitive) :
    (primitive kind).Fits arity? parameters := by
  simp [Fits, nodes, NodeFits]

@[simp] theorem fits_anyWildcard : anyWildcard.Fits arity? parameters := by
  simp [Fits, nodes, NodeFits]

@[simp] theorem fits_plain (id : ClassId) :
    (plain id).Fits arity? parameters ↔ (arity? id).isSome = true := by
  simp [Fits, nodes, NodeFits]

@[simp] theorem fits_typeVariable (name : String) :
    (typeVariable name).Fits arity? parameters ↔ name ∈ parameters := by
  simp [Fits, nodes, NodeFits]

@[simp] theorem fits_array (component : DeclaredType) :
    (array component).Fits arity? parameters ↔ component.Fits arity? parameters := by
  simp [Fits, nodes, NodeFits]

@[simp] theorem fits_extendsWildcard (bound : DeclaredType) :
    (extendsWildcard bound).Fits arity? parameters ↔ bound.Fits arity? parameters := by
  simp [Fits, nodes, NodeFits]

@[simp] theorem fits_superWildcard (bound : DeclaredType) :
    (superWildcard bound).Fits arity? parameters ↔ bound.Fits arity? parameters := by
  simp [Fits, nodes, NodeFits]

@[simp] theorem fits_parameterized (raw : ClassId) (arguments : List DeclaredType) :
    (parameterized raw arguments).Fits arity? parameters ↔
      arity? raw = some arguments.length ∧
        ∀ argument ∈ arguments, argument.Fits arity? parameters := by
  simp only [Fits, nodes, allNodes_eq_flatMap, List.forall_mem_cons, NodeFits,
    List.forall_mem_flatMap]

/-- More classes in sight do no harm, as long as none changes its parameters. -/
theorem Fits.mono {larger? : ClassId → Option Nat} {type : DeclaredType}
    (fits : type.Fits arity? parameters)
    (extends' : ∀ id count, arity? id = some count → larger? id = some count) :
    type.Fits larger? parameters := by
  intro node member
  have nodeFits := fits node member
  cases node with
  | plain id =>
      rcases Option.isSome_iff_exists.mp nodeFits with ⟨count, known⟩
      exact Option.isSome_of_eq_some (extends' id count known)
  | parameterized raw arguments => exact extends' raw _ nodeFits
  | typeVariable name => exact nodeFits
  | primitive _ | array _ | anyWildcard | extendsWildcard _ | superWildcard _ => trivial

end DeclaredType

/-- A declaration without repeated names whose field types all fit. -/
structure ClassDeclaration.Fits (arity? : ClassId → Option Nat)
    (declaration : ClassDeclaration) : Prop where
  parameters_nodup : declaration.parameters.Nodup
  fieldNames_nodup : (declaration.fields.map (·.name)).Nodup
  types_fit : ∀ field ∈ declaration.fields,
    field.type.Fits arity? declaration.parameters

theorem ClassDeclaration.Fits.mono {arity? larger? : ClassId → Option Nat}
    {declaration : ClassDeclaration} (fits : declaration.Fits arity?)
    (extends' : ∀ id count, arity? id = some count → larger? id = some count) :
    declaration.Fits larger? where
  parameters_nodup := fits.parameters_nodup
  fieldNames_nodup := fits.fieldNames_nodup
  types_fit field member := (fits.types_fit field member).mono extends'

end FieldTypes
