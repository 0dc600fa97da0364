import FieldTypes.Proofs.Expression.Acceptance
import FieldTypes.Proofs.Registry.Index

/-! Where the classes and the variables of a type that was read come from.  Each is the
meaning of some name, at whatever depth it stands and in the bounds of wildcards as well,
so a type has only classes that have names and only variables of its scope. -/

namespace FieldTypes

/-- What one node takes from the classes and the variables. -/
def DeclaredType.NodeWithin (classes : ClassId → Prop) (variableNames : String → Prop) :
    DeclaredType → Prop
  | .plain id | .parameterized id _ => classes id
  | .typeVariable name => variableNames name
  | .primitive _ | .array _ | .anyWildcard | .extendsWildcard _ | .superWildcard _ => True

/-- A type over no other classes and variables. -/
def DeclaredType.Within (classes : ClassId → Prop) (variableNames : String → Prop)
    (type : DeclaredType) : Prop :=
  ∀ node ∈ type.nodes, node.NodeWithin classes variableNames

theorem DeclaredType.Within.mono {classes others : ClassId → Prop}
    {variableNames names : String → Prop} {type : DeclaredType}
    (within : type.Within classes variableNames) (classesToo : ∀ id, classes id → others id)
    (namesToo : ∀ name, variableNames name → names name) : type.Within others names := by
  intro node member
  have here := within node member
  cases node with
  | plain id => exact classesToo id here
  | parameterized raw arguments => exact classesToo raw here
  | typeVariable name => exact namesToo name here
  | primitive _ | array _ | anyWildcard | extendsWildcard _ | superWildcard _ => trivial

namespace Expression

/-- The nodes of all types in a phrase. -/
def Phrase.nodes : Phrase → List DeclaredType
  | .type written | .argument written => written.nodes
  | .arguments written => DeclaredType.allNodes written

theorem nodes_bareType (meaning : Meaning) : meaning.bareType.nodes = [meaning.bareType] := by
  cases meaning <;> rfl

/-- What holds of each node that a rule of the grammar makes holds throughout a phrase. -/
theorem Derives.forall_nodes {names : String → Meaning → Prop} {holds : DeclaredType → Prop}
    (bare : ∀ {name meaning}, names name meaning → holds meaning.bareType)
    (applied : ∀ {name id arguments}, names name (.classNamed id) → arguments ≠ [] →
      holds (.parameterized id arguments))
    (array : ∀ component, holds (.array component)) (unbounded : holds .anyWildcard)
    (extendsBound : ∀ bound, holds (.extendsWildcard bound))
    (superBound : ∀ bound, holds (.superWildcard bound)) {phrase : Phrase}
    {text rest : List Char} (derived : Derives names phrase text rest) :
    ∀ node ∈ phrase.nodes, holds node := by
  induction derived with
  | @bare _ _ _ _ meaning _ _ named =>
      rw [Phrase.nodes, nodes_bareType]
      exact List.forall_mem_singleton.mpr (bare named)
  | applied _ _ named _ inner _ inside =>
      exact List.forall_mem_cons.mpr ⟨applied named inner.arguments_ne_nil, inside⟩
  | array _ _ _ component => exact List.forall_mem_cons.mpr ⟨array _, component⟩
  | reference _ _ type => exact type
  | unbounded _ => exact List.forall_mem_singleton.mpr unbounded
  | extendsBound _ _ _ _ _ bound => exact List.forall_mem_cons.mpr ⟨extendsBound _, bound⟩
  | superBound _ _ _ _ _ bound => exact List.forall_mem_cons.mpr ⟨superBound _, bound⟩
  | last _ argument =>
      rw [Phrase.nodes, DeclaredType.allNodes, DeclaredType.allNodes, List.append_nil]
      exact argument
  | more _ _ _ argument arguments =>
      rw [Phrase.nodes, DeclaredType.allNodes]
      exact List.forall_mem_append.mpr ⟨argument, arguments⟩

theorem Derives.within {names : String → Meaning → Prop} {phrase : Phrase}
    {text rest : List Char} (derived : Derives names phrase text rest) :
    ∀ node ∈ phrase.nodes, node.NodeWithin (fun id => ∃ name, names name (.classNamed id))
      fun variableName => ∃ name, names name (.typeVariable variableName) := by
  refine derived.forall_nodes ?_ (fun named _ => ⟨_, named⟩) (fun _ => trivial) trivial
    (fun _ => trivial) fun _ => trivial
  intro name meaning named
  cases meaning with
  | primitive kind => trivial
  | typeVariable variableName => exact ⟨name, named⟩
  | classNamed id => exact ⟨name, named⟩

section

variable {registry : Registry} {scope : Scope} {name : String}

theorem Scope.mem_parameters_of_names {variableName : String}
    (named : scope.Names registry name (.typeVariable variableName)) :
    variableName ∈ scope.parameters := by
  cases named with
  | parameter _ declared => exact declared

/-- A class that a scope has a name for is in the registry, if the own class is. -/
theorem Scope.isSome_nameOf?_of_names (indexed : registry.Indexed)
    (own : ∀ full id, scope.ownClass? = some (full, id) → (registry.nameOf? id).isSome = true)
    {id : ClassId} (named : scope.Names registry name (.classNamed id)) :
    (registry.nameOf? id).isSome = true := by
  cases named with
  | own _ _ isOwn =>
      rcases isOwn with ⟨full, known, -⟩
      exact own full id known
  | other _ _ _ found => exact indexed.isSome_nameOf?_of_lookup? found

/-- A text is read as a type over named classes and the type parameters of the scope. -/
theorem within_of_parse (indexed : registry.Indexed)
    (own : ∀ full id, scope.ownClass? = some (full, id) → (registry.nameOf? id).isSome = true)
    {text : String} {type : DeclaredType} (read : parse registry scope text = .ok type) :
    type.Within (fun id => (registry.nameOf? id).isSome = true) (· ∈ scope.parameters) := by
  rcases parse_eq_ok_iff.mp read with ⟨⟨rest, derived, -⟩, -⟩
  have meant : type.Within (fun id => ∃ name, scope.Names registry name (.classNamed id))
      fun variableName => ∃ name, scope.Names registry name (.typeVariable variableName) :=
    derived.within
  refine meant.mono ?_ ?_
  · rintro id ⟨name, named⟩
    exact Scope.isSome_nameOf?_of_names indexed own named
  · rintro variableName ⟨name, named⟩
    exact Scope.mem_parameters_of_names named

end

end Expression

end FieldTypes
