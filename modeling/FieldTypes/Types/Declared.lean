import FieldTypes.Types.Primitive
import FieldTypes.Types.ClassId

namespace FieldTypes

/-! The type of a field as its class declares it.  It may mention the type
variables of that class, and it may hold wildcards. -/

inductive DeclaredType where
  | primitive (kind : Primitive)
  | plain (id : ClassId)
  | parameterized (raw : ClassId) (arguments : List DeclaredType)
  | array (component : DeclaredType)
  | typeVariable (name : String)
  | anyWildcard
  | extendsWildcard (bound : DeclaredType)
  | superWildcard (bound : DeclaredType)
deriving Repr

namespace DeclaredType

@[elab_as_elim, induction_eliminator]
theorem induction {motive : DeclaredType → Prop}
    (primitive : ∀ kind, motive (.primitive kind))
    (plain : ∀ id, motive (.plain id))
    (parameterized : ∀ raw arguments,
      (∀ argument ∈ arguments, motive argument) → motive (.parameterized raw arguments))
    (array : ∀ component, motive component → motive (.array component))
    (typeVariable : ∀ name, motive (.typeVariable name))
    (anyWildcard : motive .anyWildcard)
    (extendsWildcard : ∀ bound, motive bound → motive (.extendsWildcard bound))
    (superWildcard : ∀ bound, motive bound → motive (.superWildcard bound)) :
    ∀ type, motive type
  | .primitive kind => primitive kind
  | .plain id => plain id
  | .parameterized raw arguments =>
      parameterized raw arguments fun argument _ =>
        induction primitive plain parameterized array typeVariable anyWildcard
          extendsWildcard superWildcard argument
  | .array component =>
      array component
        (induction primitive plain parameterized array typeVariable anyWildcard
          extendsWildcard superWildcard component)
  | .typeVariable name => typeVariable name
  | .anyWildcard => anyWildcard
  | .extendsWildcard bound =>
      extendsWildcard bound
        (induction primitive plain parameterized array typeVariable anyWildcard
          extendsWildcard superWildcard bound)
  | .superWildcard bound =>
      superWildcard bound
        (induction primitive plain parameterized array typeVariable anyWildcard
          extendsWildcard superWildcard bound)

/-! Equality is decided by walking both trees. -/

mutual
def same : DeclaredType → DeclaredType → Bool
  | .primitive left, .primitive right => left == right
  | .plain left, .plain right => left == right
  | .parameterized leftRaw left, .parameterized rightRaw right =>
      leftRaw == rightRaw && sameAll left right
  | .array left, .array right => same left right
  | .typeVariable left, .typeVariable right => left == right
  | .anyWildcard, .anyWildcard => true
  | .extendsWildcard left, .extendsWildcard right => same left right
  | .superWildcard left, .superWildcard right => same left right
  | _, _ => false

def sameAll : List DeclaredType → List DeclaredType → Bool
  | [], [] => true
  | left :: lefts, right :: rights => same left right && sameAll lefts rights
  | _, _ => false
end

mutual
theorem same_iff : ∀ left right : DeclaredType, same left right = true ↔ left = right
  | .primitive _, right => by cases right <;> simp [same]
  | .plain _, right => by cases right <;> simp [same]
  | .parameterized _ arguments, right => by
      cases right <;> simp [same, sameAll_iff arguments]
  | .array component, right => by cases right <;> simp [same, same_iff component]
  | .typeVariable _, right => by cases right <;> simp [same]
  | .anyWildcard, right => by cases right <;> simp [same]
  | .extendsWildcard bound, right => by cases right <;> simp [same, same_iff bound]
  | .superWildcard bound, right => by cases right <;> simp [same, same_iff bound]

theorem sameAll_iff : ∀ left right : List DeclaredType,
    sameAll left right = true ↔ left = right
  | [], right => by cases right <;> simp [sameAll]
  | left :: lefts, right => by
      cases right <;> simp [sameAll, same_iff left, sameAll_iff lefts]
end

instance : DecidableEq DeclaredType := fun left right =>
  decidable_of_iff _ (same_iff left right)

/-! Levels of nesting: a leaf has one, and each type argument, array dimension
or wildcard bound adds one to what it holds. -/

mutual
def depth : DeclaredType → Nat
  | .primitive _ | .plain _ | .typeVariable _ | .anyWildcard => 1
  | .parameterized _ arguments => greatestDepth arguments + 1
  | .array component => component.depth + 1
  | .extendsWildcard bound | .superWildcard bound => bound.depth + 1

def greatestDepth : List DeclaredType → Nat
  | [] => 0
  | argument :: rest => max argument.depth (greatestDepth rest)
end

/-! Every node of a type expression, outermost first. -/

mutual
def nodes : DeclaredType → List DeclaredType
  | .primitive kind => [.primitive kind]
  | .plain id => [.plain id]
  | .parameterized raw arguments => .parameterized raw arguments :: allNodes arguments
  | .array component => .array component :: component.nodes
  | .typeVariable name => [.typeVariable name]
  | .anyWildcard => [.anyWildcard]
  | .extendsWildcard bound => .extendsWildcard bound :: bound.nodes
  | .superWildcard bound => .superWildcard bound :: bound.nodes

def allNodes : List DeclaredType → List DeclaredType
  | [] => []
  | argument :: rest => argument.nodes ++ allNodes rest
end

/-! A concrete type leaves nothing to substitute. -/

mutual
def isConcrete : DeclaredType → Bool
  | .primitive _ | .plain _ => true
  | .parameterized _ arguments => areConcrete arguments
  | .array component => component.isConcrete
  | .typeVariable _ | .anyWildcard | .extendsWildcard _ | .superWildcard _ => false

def areConcrete : List DeclaredType → Bool
  | [] => true
  | argument :: rest => argument.isConcrete && areConcrete rest
end

mutual
def containsWildcard : DeclaredType → Bool
  | .anyWildcard | .extendsWildcard _ | .superWildcard _ => true
  | .parameterized _ arguments => anyContainsWildcard arguments
  | .array component => component.containsWildcard
  | .primitive _ | .plain _ | .typeVariable _ => false

def anyContainsWildcard : List DeclaredType → Bool
  | [] => false
  | argument :: rest => argument.containsWildcard || anyContainsWildcard rest
end

theorem areConcrete_eq_all : ∀ types : List DeclaredType,
    areConcrete types = types.all isConcrete
  | [] => rfl
  | type :: rest => by rw [areConcrete, areConcrete_eq_all rest, List.all_cons]

theorem anyContainsWildcard_eq_any : ∀ types : List DeclaredType,
    anyContainsWildcard types = types.any containsWildcard
  | [] => rfl
  | type :: rest => by
      rw [anyContainsWildcard, anyContainsWildcard_eq_any rest, List.any_cons]

theorem allNodes_eq_flatMap : ∀ types : List DeclaredType,
    allNodes types = types.flatMap nodes
  | [] => rfl
  | type :: rest => by rw [allNodes, allNodes_eq_flatMap rest, List.flatMap_cons]

theorem one_le_depth (type : DeclaredType) : 1 ≤ type.depth := by
  cases type <;> simp [depth]

end DeclaredType

end FieldTypes
