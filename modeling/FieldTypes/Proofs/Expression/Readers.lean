import FieldTypes.Proofs.Expression.Tokens

/-! What each reader makes of its text, given what its parts make of theirs.  The
proofs of progress play no role here, so results are compared without them. -/

namespace FieldTypes.Expression

open Text

variable {text rest : List Char}

section Outcomes

variable {α : Type} {limit wider : Nat} {result : Except Failure (Read α limit)}
  {value : α} {failure : Failure}

/-- The value and the rest of a result. -/
def outcome (result : Except Failure (Read α limit)) : Except Failure (α × List Char) :=
  result.map fun read => (read.value, read.rest)

theorem outcome_eq_ok_iff :
    outcome result = .ok (value, rest) ↔ ∃ within, result = .ok ⟨value, rest, within⟩ := by
  cases result with
  | error other => simp [outcome, Except.map]
  | ok read =>
      simp only [outcome, Except.map, Except.ok.injEq, Prod.mk.injEq]
      constructor
      · intro parts
        rcases parts with ⟨rfl, rfl⟩
        exact ⟨read.within, rfl⟩
      · intro parts
        rcases parts with ⟨within, rfl⟩
        exact ⟨rfl, rfl⟩

theorem outcome_eq_error_iff : outcome result = .error failure ↔ result = .error failure := by
  cases result <;> simp [outcome, Except.map]

end Outcomes

/-! ## Arguments -/

section

variable {inner : Reader DeclaredType} {failure : Failure}

theorem outcome_reference {type : DeclaredType} (found : outcome (inner text) = .ok (type, rest))
    (notPrimitive : ∀ kind, type ≠ .primitive kind) :
    outcome (reference inner text) = .ok (type, rest) := by
  rcases outcome_eq_ok_iff.mp found with ⟨within, found⟩
  unfold reference
  rw [found]
  cases type with
  | primitive kind => exact absurd rfl (notPrimitive kind)
  | plain | parameterized | array | typeVariable | anyWildcard | extendsWildcard
    | superWildcard => rfl

theorem outcome_reference_of_error (failed : outcome (inner text) = .error failure) :
    outcome (reference inner text) = .error failure := by
  unfold reference
  rw [outcome_eq_error_iff.mp failed]
  rfl

theorem argument_of_ne_question (noMark : ∀ rest, skipBlank text ≠ '?' :: rest) :
    argument inner text = reference inner text := by
  unfold argument
  rw [symbol?_eq_none noMark]

theorem outcome_argument_unbounded {mark : List Char}
    (question : skipBlank text = '?' :: mark)
    (noUpper : keyword? "extends".toList (skipBlank mark) = none)
    (noLower : keyword? "super".toList (skipBlank mark) = none) :
    outcome (argument inner text) = .ok (.anyWildcard, skipBlank mark) := by
  rcases symbol?_of_skipBlank question with ⟨within, found⟩
  unfold argument
  rw [found]
  dsimp only
  split
  · next _ upper =>
      rw [noUpper] at upper
      cases upper
  · split
    · next _ lower =>
        rw [noLower] at lower
        cases lower
    · rfl

/-- The outcome of a bound once its reference has been read. -/
def bounded (wildcard : DeclaredType → DeclaredType) :
    Except Failure (DeclaredType × List Char) → Except Failure (DeclaredType × List Char)
  | .error failure => .error failure
  | .ok (bound, rest) =>
      if maximalDepth < (wildcard bound).depth then .error ⟨rest, .tooDeep⟩
      else .ok (wildcard bound, rest)

theorem outcome_boundedBy (wildcard : DeclaredType → DeclaredType) {limit : Nat}
    (bound : Read DeclaredType limit) :
    outcome (boundedBy wildcard bound) = bounded wildcard (.ok (bound.value, bound.rest)) := by
  unfold boundedBy
  rw [bounded]
  split <;> rfl

theorem outcome_argument_extends {mark start : List Char}
    (question : skipBlank text = '?' :: mark)
    (upper : keyword? "extends".toList (skipBlank mark) = some start) :
    outcome (argument inner text) =
      bounded .extendsWildcard (outcome (reference inner start)) := by
  rcases symbol?_of_skipBlank question with ⟨within, found⟩
  unfold argument
  rw [found]
  dsimp only
  split
  · next _ same =>
      cases same.symm.trans upper
      cases reference inner start with
      | error failure => rfl
      | ok bound => exact outcome_boundedBy _ _
  · next none =>
      rw [none] at upper
      cases upper

theorem outcome_argument_super {mark start : List Char}
    (question : skipBlank text = '?' :: mark)
    (noUpper : keyword? "extends".toList (skipBlank mark) = none)
    (lower : keyword? "super".toList (skipBlank mark) = some start) :
    outcome (argument inner text) = bounded .superWildcard (outcome (reference inner start)) := by
  rcases symbol?_of_skipBlank question with ⟨within, found⟩
  unfold argument
  rw [found]
  dsimp only
  split
  · next _ upper =>
      rw [noUpper] at upper
      cases upper
  · split
    · next _ same =>
        cases same.symm.trans lower
        cases reference inner start with
        | error failure => rfl
        | ok bound => exact outcome_boundedBy _ _
    · next none =>
        rw [none] at lower
        cases lower

theorem outcome_arguments_of_error (failed : outcome (argument inner text) = .error failure) :
    outcome (arguments inner text) = .error failure := by
  rw [arguments, outcome_eq_error_iff.mp failed]
  rfl

theorem outcome_arguments_last {first : DeclaredType} {afterFirst : List Char}
    (found : outcome (argument inner text) = .ok (first, afterFirst))
    (closed : skipBlank afterFirst = '>' :: rest) :
    outcome (arguments inner text) = .ok ([first], rest) := by
  rcases outcome_eq_ok_iff.mp found with ⟨within, found⟩
  have noComma : symbol? ',' afterFirst = none := symbol?_eq_none (by simp [closed])
  rcases symbol?_of_skipBlank closed with ⟨closeWithin, close⟩
  rw [arguments, found]
  dsimp only
  rw [noComma, close]
  rfl

/-- The outcome of arguments once those behind the comma have been read. -/
def preceded (first : DeclaredType) :
    Except Failure (List DeclaredType × List Char) →
      Except Failure (List DeclaredType × List Char)
  | .error failure => .error failure
  | .ok (others, rest) => .ok (first :: others, rest)

theorem outcome_arguments_more {first : DeclaredType} {afterFirst next : List Char}
    (found : outcome (argument inner text) = .ok (first, afterFirst))
    (separated : skipBlank afterFirst = ',' :: next) :
    outcome (arguments inner text) = preceded first (outcome (arguments inner next)) := by
  rcases outcome_eq_ok_iff.mp found with ⟨within, found⟩
  rcases symbol?_of_skipBlank separated with ⟨commaWithin, comma⟩
  rw [arguments, found]
  dsimp only
  rw [comma]
  dsimp only
  cases arguments inner next <;> rfl

end

/-! ## Elements -/

section

variable {inner? : Option (Reader DeclaredType)} {inner : Reader DeclaredType}
  {failure : Failure}

theorem outcome_typeArguments_none (unopened : ∀ inside, skipBlank text ≠ '<' :: inside) :
    outcome (typeArguments inner? text) = .ok (none, text) := by
  unfold typeArguments
  rw [symbol?_eq_none unopened]
  rfl

theorem outcome_typeArguments_innermost {inside : List Char}
    (opened : skipBlank text = '<' :: inside) :
    outcome (typeArguments none text) = .error ⟨inside, .tooDeep⟩ := by
  rcases symbol?_of_skipBlank opened with ⟨within, found⟩
  unfold typeArguments
  rw [found]
  rfl

/-- The outcome of bracketed arguments once they have been read. -/
def bracketed :
    Except Failure (List DeclaredType × List Char) →
      Except Failure (Option (List DeclaredType) × List Char)
  | .error failure => .error failure
  | .ok (arguments, rest) =>
      if maximalDepth < DeclaredType.greatestDepth arguments + 1 then .error ⟨rest, .tooDeep⟩
      else .ok (some arguments, rest)

theorem outcome_typeArguments_some {inside : List Char}
    (opened : skipBlank text = '<' :: inside)
    (notEmpty : ∀ after, skipBlank inside ≠ '>' :: after) :
    outcome (typeArguments (some inner) text) = bracketed (outcome (arguments inner inside)) := by
  rcases symbol?_of_skipBlank opened with ⟨within, found⟩
  unfold typeArguments
  rw [found]
  dsimp only
  rw [symbol?_eq_none notEmpty]
  dsimp only
  cases arguments inner inside with
  | error failure => rfl
  | ok read =>
      dsimp only
      split
      · next deep => exact (if_pos deep).symm
      · next shallow => exact (if_neg shallow).symm

variable {meaning? : String → Option Meaning} {name afterName : List Char}

theorem readName_of_skipBlank (named : skipBlank text = name ++ afterName)
    (dotted : DottedName name) (ends : NameEnds afterName) :
    ∃ within, readName (skipBlank text) = .ok ⟨String.ofList name, afterName, within⟩ := by
  rw [named]
  exact readName_of_dotted dotted ends

theorem outcome_element_of_error (named : skipBlank text = name ++ afterName)
    (dotted : DottedName name) (ends : NameEnds afterName)
    (failed : outcome (typeArguments inner? afterName) = .error failure) :
    outcome (element meaning? inner? text) = .error failure := by
  rcases readName_of_skipBlank named dotted ends with ⟨within, read⟩
  unfold element
  rw [read]
  dsimp only
  rw [outcome_eq_error_iff.mp failed]
  rfl

theorem outcome_element {arguments : Option (List DeclaredType)} {type : DeclaredType}
    (named : skipBlank text = name ++ afterName)
    (dotted : DottedName name) (ends : NameEnds afterName)
    (found : outcome (typeArguments inner? afterName) = .ok (arguments, rest))
    (made : applied (String.ofList name) (meaning? (String.ofList name)) arguments = .ok type) :
    outcome (element meaning? inner? text) = .ok (type, rest) := by
  rcases readName_of_skipBlank named dotted ends with ⟨within, read⟩
  rcases outcome_eq_ok_iff.mp found with ⟨argumentsWithin, found⟩
  unfold element
  rw [read]
  dsimp only
  rw [found]
  dsimp only
  split
  · next failed =>
      rw [made] at failed
      cases failed
  · next other same =>
      cases made.symm.trans same
      rfl

end

/-! ## Dimensions -/

theorem outcome_dimensions_done {type : DeclaredType}
    (unopened : ∀ inside, skipBlank text ≠ '[' :: inside) :
    outcome (dimensions type text) = .ok (type, skipBlank text) := by
  rw [dimensions, symbol?_eq_none unopened]
  rfl

theorem outcome_dimensions_next {type : DeclaredType} {inside : List Char}
    (opened : skipBlank text = '[' :: inside) (closed : skipBlank inside = ']' :: rest) :
    outcome (dimensions type text) =
      if maximalDepth < type.depth + 1 then .error ⟨rest, .tooDeep⟩
      else outcome (dimensions (.array type) rest) := by
  rcases symbol?_of_skipBlank opened with ⟨openWithin, opening⟩
  rcases symbol?_of_skipBlank closed with ⟨closeWithin, closing⟩
  rw [dimensions, opening]
  dsimp only
  rw [closing]
  dsimp only
  split
  · rfl
  · cases dimensions (.array type) rest <;> rfl

section

variable {base : Reader DeclaredType}

theorem outcome_withDimensions {type : DeclaredType}
    (found : outcome (base text) = .ok (type, rest)) :
    outcome (withDimensions base text) = outcome (dimensions type rest) := by
  rcases outcome_eq_ok_iff.mp found with ⟨within, found⟩
  unfold withDimensions
  rw [found]
  dsimp only
  cases dimensions type rest <;> rfl

theorem outcome_withDimensions_of_error {failure : Failure}
    (failed : outcome (base text) = .error failure) :
    outcome (withDimensions base text) = .error failure := by
  unfold withDimensions
  rw [outcome_eq_error_iff.mp failed]
  rfl

end

/-- The reader for what may stand one bracket further in. -/
def oneFurther (meaning? : String → Option Meaning) : Nat → Option (Reader DeclaredType)
  | 0 => none
  | levels + 1 => some (typeWithin meaning? levels)

theorem typeWithin_eq (meaning? : String → Option Meaning) (levels : Nat) :
    typeWithin meaning? levels =
      withDimensions (element meaning? (oneFurther meaning? levels)) := by
  cases levels <;> rfl

end FieldTypes.Expression
