import FieldTypes.Proofs.Expression.Acceptance
import FieldTypes.Proofs.Registry.Mirror

/-! A text means the same in two registries with the same names.  The grammar sees
ids only as the meanings of names, so a derivation goes over to the other ids rule
by rule. -/

namespace FieldTypes.Expression

variable (change : ClassId → ClassId)

def Meaning.renumber : Meaning → Meaning
  | .primitive kind => .primitive kind
  | .typeVariable name => .typeVariable name
  | .classNamed id => .classNamed (change id)

def Phrase.renumber : Phrase → Phrase
  | .type written => .type (written.renumber change)
  | .argument written => .argument (written.renumber change)
  | .arguments written => .arguments (written.map (·.renumber change))

def Scope.renumber (scope : Scope) : Scope :=
  { scope with ownClass? := scope.ownClass?.map fun own => (own.1, change own.2) }

variable {change} {left right : Registry}

theorem bareType_renumber (meaning : Meaning) :
    (meaning.renumber change).bareType = meaning.bareType.renumber change := by
  cases meaning <;> rfl

theorem renumber_ne_primitive {type : DeclaredType} (different : ∀ kind, type ≠ .primitive kind)
    (kind : Primitive) : type.renumber change ≠ .primitive kind := by
  cases type with
  | primitive other => exact absurd rfl (different other)
  | plain _ | parameterized _ _ | array _ | typeVariable _ | anyWildcard | extendsWildcard _
  | superWildcard _ => exact fun equal => by cases equal

theorem Derives.renumber {names others : String → Meaning → Prop}
    (agree : ∀ name meaning, names name meaning → others name (meaning.renumber change))
    {phrase : Phrase} {text rest : List Char} (derived : Derives names phrase text rest) :
    Derives others (phrase.renumber change) text rest := by
  induction derived with
  | bare skips here named =>
      rw [Phrase.renumber, ← bareType_renumber]
      exact .bare skips here (agree _ _ named)
  | applied skips here named opened _ closed inside =>
      rw [Phrase.renumber, DeclaredType.renumber, DeclaredType.renumberAll_eq_map]
      exact .applied skips here (agree _ _ named) opened inside closed
  | array _ opened closed component => exact .array component opened closed
  | reference _ different type => exact .reference type (renumber_ne_primitive different)
  | unbounded mark => exact .unbounded mark
  | extendsBound mark word blank _ different bound =>
      exact .extendsBound mark word blank bound (renumber_ne_primitive different)
  | superBound mark word blank _ different bound =>
      exact .superBound mark word blank bound (renumber_ne_primitive different)
  | last _ argument => exact .last argument
  | more _ comma _ argument arguments => exact .more argument comma arguments

/-! ## Scopes -/

@[simp] theorem renumber_empty : Scope.empty.renumber change = .empty :=
  rfl

theorem own?_renumber (scope : Scope) (name : String) :
    (scope.renumber change).own? name = (scope.own? name).map change := by
  rw [Scope.own?, Scope.own?, Scope.renumber]
  cases scope.ownClass? with
  | none => rfl
  | some own =>
      rw [Option.map_some]
      dsimp only
      split <;> rfl

variable (same : Registry.SameNames change left right)

include same

theorem meaning?_renumber (scope : Scope) (name : String) :
    (scope.renumber change).meaning? right name =
      (scope.meaning? left name).map (·.renumber change) := by
  rw [Scope.meaning?, Scope.meaning?, own?_renumber, same.lookup?_eq]
  cases Primitive.ofKeyword? name with
  | some kind => rfl
  | none =>
      dsimp only
      rw [Scope.renumber]
      split
      · rfl
      · cases scope.own? name with
        | some id => rfl
        | none =>
            dsimp only [Option.map_none]
            rw [Option.map_map, Option.map_map]
            rfl

/-- A text that is read in the one registry is read in the other as the same type,
with the ids of the other. -/
theorem parse_renumber {scope : Scope} {text : String} {type : DeclaredType}
    (read : parse left scope text = .ok type) :
    parse right (scope.renumber change) text = .ok (type.renumber change) := by
  rcases parse_eq_ok_iff.mp read with ⟨⟨rest, derived, skips⟩, shallow⟩
  rw [parse_eq_ok_iff, DeclaredType.depth_renumber]
  refine ⟨⟨rest, ?_, skips⟩, shallow⟩
  apply derived.renumber
  intro name meaning named
  rw [Scope.names_iff, meaning?_renumber same, Scope.names_iff.mp named, Option.map_some]

end FieldTypes.Expression
