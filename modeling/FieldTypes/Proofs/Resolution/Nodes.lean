import FieldTypes.Proofs.Resolution.Outcome

/-! What a resolved type consists of.  Each node of a declared type leaves one node in the
resolved type, except that a variable leaves all the nodes of the type that it is bound to.
So what is asked of every node of a resolved type can be asked of its declared type and of
the bound types instead. -/

namespace FieldTypes

/-- What a node of a resolved type says by itself, apart from the nodes below it. -/
inductive Head where
  | primitive (kind : Primitive)
  | plain (id : ClassId)
  | applied (raw : ClassId) (count : Nat)
  | array
deriving DecidableEq, Repr

namespace ResolvedType

mutual
/-- Every node of a resolved type, outermost first. -/
def nodes : ResolvedType → List ResolvedType
  | .primitive kind => [.primitive kind]
  | .plain id => [.plain id]
  | .parameterized raw arguments => .parameterized raw arguments :: allNodes arguments
  | .array component => .array component :: component.nodes

def allNodes : List ResolvedType → List ResolvedType
  | [] => []
  | argument :: rest => argument.nodes ++ allNodes rest
end

theorem allNodes_eq_flatMap (types : List ResolvedType) :
    allNodes types = types.flatMap nodes := by
  induction types with
  | nil => rfl
  | cons type rest induction => rw [allNodes, induction, List.flatMap_cons]

def head : ResolvedType → Head
  | .primitive kind => .primitive kind
  | .plain id => .plain id
  | .parameterized raw arguments => .applied raw arguments.length
  | .array _ => .array

def heads (type : ResolvedType) : List Head :=
  type.nodes.map head

theorem forall_mem_heads_iff {holds : Head → Prop} {type : ResolvedType} :
    (∀ head ∈ type.heads, holds head) ↔ ∀ node ∈ type.nodes, holds node.head :=
  List.forall_mem_map

@[simp] theorem heads_primitive (kind : Primitive) :
    (primitive kind).heads = [.primitive kind] := by
  simp [heads, nodes, head]

@[simp] theorem heads_plain (id : ClassId) : (plain id).heads = [.plain id] := by
  simp [heads, nodes, head]

@[simp] theorem heads_array (component : ResolvedType) :
    (array component).heads = .array :: component.heads := by
  simp [heads, nodes, head]

@[simp] theorem heads_parameterized (raw : ClassId) (arguments : List ResolvedType) :
    (parameterized raw arguments).heads =
      .applied raw arguments.length :: arguments.flatMap heads := by
  simp only [heads, nodes, head, List.map_cons, allNodes_eq_flatMap, List.map_flatMap]
  rfl

end ResolvedType

/-- What a node of a declared type leaves in the resolved type. -/
def DeclaredType.headsUnder (bound? : String → Option ResolvedType) : DeclaredType → List Head
  | .primitive kind => [.primitive kind]
  | .plain id => [.plain id]
  | .parameterized raw arguments => [.applied raw arguments.length]
  | .array _ => [.array]
  | .typeVariable name => ((bound? name).map ResolvedType.heads).getD []
  | .anyWildcard | .extendsWildcard _ | .superWildcard _ => []

/-- A variable leaves all that its type consists of. -/
theorem DeclaredType.forall_headsUnder_typeVariable {bound? : String → Option ResolvedType}
    {name : String} {holds : Head → Prop} :
    (∀ head ∈ (typeVariable name).headsUnder bound?, holds head) ↔
      ∀ argument, bound? name = some argument → ∀ node ∈ argument.nodes, holds node.head := by
  rw [headsUnder]
  cases bound? name with
  | none => simp
  | some argument => simp [← ResolvedType.forall_mem_heads_iff]

namespace Registry

variable {registry : Registry} {bound? : String → Option ResolvedType} {place : Place}
  {type : DeclaredType} {result : ResolvedType}

theorem heads_of_substitute (passed : registry.substitute bound? place type = .ok result) :
    result.heads = type.nodes.flatMap (·.headsUnder bound?) := by
  induction type generalizing result with
  | primitive kind =>
      cases passed
      simp [DeclaredType.nodes, DeclaredType.headsUnder]
  | plain id =>
      cases passed
      simp [DeclaredType.nodes, DeclaredType.headsUnder]
  | typeVariable name =>
      rw [substitute_typeVariable_eq_ok_iff] at passed
      simp [DeclaredType.nodes, DeclaredType.headsUnder, passed]
  | array component induction =>
      rcases substitute_array_eq_ok_iff.mp passed with ⟨inner, found, rfl⟩
      simp [DeclaredType.nodes, DeclaredType.headsUnder, induction found]
  | parameterized raw arguments induction =>
      rcases substitute_parameterized_eq_ok_iff.mp passed with ⟨-, inner, each, rfl⟩
      have below : inner.flatMap ResolvedType.heads =
          arguments.flatMap fun argument => argument.nodes.flatMap (·.headsUnder bound?) := by
        rw [List.flatMap_def, List.flatMap_def]
        refine congrArg List.flatten (map_eq_map_iff_forall₂.mpr ?_)
        exact (forall₂_imp_of_mem (fun argument member _ => induction argument member) each).flip
      rw [ResolvedType.heads_parameterized, below, DeclaredType.nodes, List.flatMap_cons,
        DeclaredType.allNodes_eq_flatMap, List.flatMap_assoc, ← each.length_eq]
      rfl
  | anyWildcard | extendsWildcard _ _ | superWildcard _ _ => cases passed

/-- The nodes of a result and those of its declared type, seen through the bound types. -/
theorem forall_nodes_of_substitute (passed : registry.substitute bound? place type = .ok result)
    {holds : Head → Prop} :
    (∀ node ∈ result.nodes, holds node.head) ↔
      ∀ node ∈ type.nodes, ∀ head ∈ node.headsUnder bound?, holds head := by
  rw [← ResolvedType.forall_mem_heads_iff, heads_of_substitute passed, List.forall_mem_flatMap]

/-- Wherever a class stands with arguments, substitution has counted them. -/
theorem arity?_of_substitute (passed : registry.substitute bound? place type = .ok result)
    {raw : ClassId} {arguments : List DeclaredType}
    (member : .parameterized raw arguments ∈ type.nodes) :
    registry.arity? raw = some arguments.length := by
  induction type generalizing result with
  | primitive kind => simp [DeclaredType.nodes] at member
  | plain id => simp [DeclaredType.nodes] at member
  | typeVariable name => simp [DeclaredType.nodes] at member
  | array component induction =>
      rcases substitute_array_eq_ok_iff.mp passed with ⟨inner, found, -⟩
      exact induction found (by simpa [DeclaredType.nodes] using member)
  | parameterized outerRaw outerArguments induction =>
      rcases substitute_parameterized_eq_ok_iff.mp passed with ⟨arity, inner, each, -⟩
      rw [DeclaredType.nodes, List.mem_cons, DeclaredType.allNodes_eq_flatMap,
        List.mem_flatMap] at member
      rcases member with here | ⟨argument, within, below⟩
      · cases here
        exact arity
      · rcases exists_mem_of_forall₂ each within with ⟨argumentResult, -, found⟩
        exact induction argument within found below
  | anyWildcard | extendsWildcard _ _ | superWildcard _ _ => cases passed

end Registry

end FieldTypes
