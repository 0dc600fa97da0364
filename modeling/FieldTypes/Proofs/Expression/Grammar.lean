import FieldTypes.Types.Declared
import FieldTypes.Expression.Name
import FieldTypes.Expression.Scope

/-! The language of type expressions, apart from any way to read it.  A phrase
stands at the front of a text and leaves a rest. -/

namespace FieldTypes.Expression

open Text

/-- White space, possibly none, and then the rest. -/
def Skips (text rest : List Char) : Prop :=
  ∃ blank, (∀ character ∈ blank, isBlank character = true) ∧ text = blank ++ rest

/-! ## Names -/

def Segment (text : List Char) : Prop :=
  ∃ first later, text = first :: later ∧ startsSegment first = true ∧
    ∀ character ∈ later, continuesSegment character = true

inductive DottedName : List Char → Prop
  | segment {only : List Char} : Segment only → DottedName only
  | dotted {first later : List Char} :
      Segment first → DottedName later → DottedName (first ++ '.' :: later)

/-- The longest dotted name at the front of a text, and what comes after it. -/
structure NameAt (text name rest : List Char) : Prop where
  split : text = name ++ rest
  dotted : DottedName name
  longest : ∀ longer, longer <+: text → DottedName longer → longer.length ≤ name.length

namespace Scope

/-- The full name of the own class, or what follows the last dot in it. -/
def IsOwnName (scope : Scope) (name : String) (id : ClassId) : Prop :=
  ∃ full, scope.ownClass? = some (full, id) ∧
    (name = full ∨
      '.' ∉ name.toList ∧ ∃ front, full.toList = front ++ '.' :: name.toList)

/-- What a name stands for.  Each rule yields to those before it. -/
inductive Names (scope : Scope) (registry : Registry) (name : String) : Meaning → Prop
  | keyword {kind : Primitive} : kind.keyword = name → Names scope registry name (.primitive kind)
  | parameter : (∀ kind : Primitive, kind.keyword ≠ name) → name ∈ scope.parameters →
      Names scope registry name (.typeVariable name)
  | own {id : ClassId} : (∀ kind : Primitive, kind.keyword ≠ name) →
      name ∉ scope.parameters → scope.IsOwnName name id →
      Names scope registry name (.classNamed id)
  | other {id : ClassId} : (∀ kind : Primitive, kind.keyword ≠ name) →
      name ∉ scope.parameters → (∀ own, ¬ scope.IsOwnName name own) →
      registry.lookup? name = some id → Names scope registry name (.classNamed id)

end Scope

/-! ## Phrases -/

/-- The type that a name makes when no arguments follow it. -/
def Meaning.bareType : Meaning → DeclaredType
  | .primitive kind => .primitive kind
  | .typeVariable name => .typeVariable name
  | .classNamed id => .plain id

inductive Phrase where
  | type (type : DeclaredType)
  | argument (argument : DeclaredType)
  | arguments (arguments : List DeclaredType)

/-- A phrase at the front of a text.  Only classes take arguments, and nothing but
a bare primitive is refused as an argument or as a bound. -/
inductive Derives (names : String → Meaning → Prop) :
    Phrase → List Char → List Char → Prop
  | bare {text start name rest : List Char} {meaning : Meaning} :
      Skips text start → NameAt start name rest → names (String.ofList name) meaning →
      Derives names (.type meaning.bareType) text rest
  | applied {text start name afterName inside afterArguments rest : List Char}
      {id : ClassId} {arguments : List DeclaredType} :
      Skips text start → NameAt start name afterName →
      names (String.ofList name) (.classNamed id) →
      Skips afterName ('<' :: inside) →
      Derives names (.arguments arguments) inside afterArguments →
      Skips afterArguments ('>' :: rest) →
      Derives names (.type (.parameterized id arguments)) text rest
  | array {text afterComponent inside rest : List Char} {component : DeclaredType} :
      Derives names (.type component) text afterComponent →
      Skips afterComponent ('[' :: inside) → Skips inside (']' :: rest) →
      Derives names (.type (.array component)) text rest
  | reference {text rest : List Char} {type : DeclaredType} :
      Derives names (.type type) text rest → (∀ kind, type ≠ .primitive kind) →
      Derives names (.argument type) text rest
  | unbounded {text rest : List Char} :
      Skips text ('?' :: rest) → Derives names (.argument .anyWildcard) text rest
  | extendsBound {text mark start rest : List Char} {space : Char} {bound : DeclaredType} :
      Skips text ('?' :: mark) → Skips mark ("extends".toList ++ space :: start) →
      isBlank space = true → Derives names (.type bound) start rest →
      (∀ kind, bound ≠ .primitive kind) →
      Derives names (.argument (.extendsWildcard bound)) text rest
  | superBound {text mark start rest : List Char} {space : Char} {bound : DeclaredType} :
      Skips text ('?' :: mark) → Skips mark ("super".toList ++ space :: start) →
      isBlank space = true → Derives names (.type bound) start rest →
      (∀ kind, bound ≠ .primitive kind) →
      Derives names (.argument (.superWildcard bound)) text rest
  | last {text rest : List Char} {argument : DeclaredType} :
      Derives names (.argument argument) text rest →
      Derives names (.arguments [argument]) text rest
  | more {text afterArgument next rest : List Char} {argument : DeclaredType}
      {arguments : List DeclaredType} :
      Derives names (.argument argument) text afterArgument →
      Skips afterArgument (',' :: next) → Derives names (.arguments arguments) next rest →
      Derives names (.arguments (argument :: arguments)) text rest

/-- There is no phrase for an empty list of arguments. -/
theorem Derives.arguments_ne_nil {names : String → Meaning → Prop} {text rest : List Char}
    {arguments : List DeclaredType} (derived : Derives names (.arguments arguments) text rest) :
    arguments ≠ [] := by
  cases derived with
  | last | more => exact List.cons_ne_nil _ _

/-- A whole text that is one type. -/
def DerivesWhole (names : String → Meaning → Prop) (text : List Char)
    (type : DeclaredType) : Prop :=
  ∃ rest, Derives names (.type type) text rest ∧ Skips rest []

end FieldTypes.Expression
