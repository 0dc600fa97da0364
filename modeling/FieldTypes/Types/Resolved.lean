import FieldTypes.Types.Primitive
import FieldTypes.Types.ClassId

namespace FieldTypes

/-! The type of a field once every type variable has been replaced.  Two such
types are equal when their trees are, so they can serve as keys. -/

inductive ResolvedType where
  | primitive (kind : Primitive)
  | plain (id : ClassId)
  | parameterized (raw : ClassId) (arguments : List ResolvedType)
  | array (component : ResolvedType)
deriving Repr

namespace ResolvedType

@[elab_as_elim, induction_eliminator]
theorem induction {motive : ResolvedType → Prop}
    (primitive : ∀ kind, motive (.primitive kind))
    (plain : ∀ id, motive (.plain id))
    (parameterized : ∀ raw arguments,
      (∀ argument ∈ arguments, motive argument) → motive (.parameterized raw arguments))
    (array : ∀ component, motive component → motive (.array component)) :
    ∀ type, motive type
  | .primitive kind => primitive kind
  | .plain id => plain id
  | .parameterized raw arguments =>
      parameterized raw arguments fun argument _ =>
        induction primitive plain parameterized array argument
  | .array component =>
      array component (induction primitive plain parameterized array component)

/-! Equality is decided by walking both trees. -/

mutual
def same : ResolvedType → ResolvedType → Bool
  | .primitive left, .primitive right => left == right
  | .plain left, .plain right => left == right
  | .parameterized leftRaw left, .parameterized rightRaw right =>
      leftRaw == rightRaw && sameAll left right
  | .array left, .array right => same left right
  | _, _ => false

def sameAll : List ResolvedType → List ResolvedType → Bool
  | [], [] => true
  | left :: lefts, right :: rights => same left right && sameAll lefts rights
  | _, _ => false
end

mutual
theorem same_iff : ∀ left right : ResolvedType, same left right = true ↔ left = right
  | .primitive _, right => by cases right <;> simp [same]
  | .plain _, right => by cases right <;> simp [same]
  | .parameterized _ arguments, right => by
      cases right <;> simp [same, sameAll_iff arguments]
  | .array component, right => by cases right <;> simp [same, same_iff component]

theorem sameAll_iff : ∀ left right : List ResolvedType,
    sameAll left right = true ↔ left = right
  | [], right => by cases right <;> simp [sameAll]
  | left :: lefts, right => by
      cases right <;> simp [sameAll, same_iff left, sameAll_iff lefts]
end

instance : DecidableEq ResolvedType := fun left right =>
  decidable_of_iff _ (same_iff left right)

/-- The class that values of this type are instances of, if there is one. -/
def rawClass? : ResolvedType → Option ClassId
  | .plain id | .parameterized id _ => some id
  | .primitive _ | .array _ => none

def arguments : ResolvedType → List ResolvedType
  | .parameterized _ arguments => arguments
  | .primitive _ | .plain _ | .array _ => []

def component? : ResolvedType → Option ResolvedType
  | .array component => some component
  | .primitive _ | .plain _ | .parameterized .. => none

def isPrimitive : ResolvedType → Bool
  | .primitive _ => true
  | .plain _ | .parameterized .. | .array _ => false

/-- Orders the types without parts: primitives by rank, then classes by place. -/
def compareSimple? : ResolvedType → ResolvedType → Option Ordering
  | .primitive left, .primitive right => some (compare left.rank right.rank)
  | .primitive _, .plain _ => some .lt
  | .plain _, .primitive _ => some .gt
  | .plain left, .plain right => some (compare left.index right.index)
  | _, _ => none

mutual
def depth : ResolvedType → Nat
  | .primitive _ | .plain _ => 1
  | .parameterized _ arguments => greatestDepth arguments + 1
  | .array component => component.depth + 1

def greatestDepth : List ResolvedType → Nat
  | [] => 0
  | argument :: rest => max argument.depth (greatestDepth rest)
end

end ResolvedType

end FieldTypes
