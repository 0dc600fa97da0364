import FieldTypes.Types.Declared
import FieldTypes.Expression.Name
import FieldTypes.Expression.Scope

namespace FieldTypes.Expression

open Text

/-! Type expressions such as `Map<String, ? extends List<T[]>>[]`.  A reader for
a type is built from the reader for the types one angle bracket further in, and
so the number of brackets that may still open is all that the recursion needs. -/

abbrev Reader (α : Type) :=
  (text : List Char) → Except Failure (Read α text.length)

/-- Whether the keyword comes next and does not run on as a longer word. -/
def keyword? (word : List Char) (text : List Char) : Option (List Char) :=
  match word, text with
  | [], [] => some []
  | [], next :: rest => if continuesSegment next then none else some (next :: rest)
  | _ :: _, [] => none
  | expected :: word, next :: rest =>
      if next = expected then keyword? word rest else none

theorem length_of_keyword? : ∀ {word text rest : List Char},
    keyword? word text = some rest → rest.length ≤ text.length
  | [], [], rest, found => by
      simp only [keyword?, Option.some.injEq] at found
      subst found
      exact Nat.le_refl _
  | [], next :: later, rest, found => by
      simp only [keyword?] at found
      split at found
      · cases found
      · have equal := Option.some.inj found
        subst equal
        exact Nat.le_refl _
  | _ :: _, [], rest, found => by simp [keyword?] at found
  | expected :: word, next :: later, rest, found => by
      simp only [keyword?] at found
      split at found
      · exact Nat.le_succ_of_le (length_of_keyword? found)
      · cases found

/-- A type argument may be an array of primitives but never a bare primitive. -/
def reference (inner : Reader DeclaredType) : Reader DeclaredType := fun text =>
  match inner text with
  | .error failure => .error failure
  | .ok ⟨.primitive kind, _, _⟩ => .error ⟨skipBlank text, .primitiveArgument kind⟩
  | .ok read => .ok read

/-- Puts a wildcard around a bound, unless that makes it too deep. -/
def boundedBy (wildcard : DeclaredType → DeclaredType) {limit : Nat}
    (bound : Read DeclaredType limit) : Except Failure (Read DeclaredType limit) :=
  if maximalDepth < (wildcard bound.value).depth then .error ⟨bound.rest, .tooDeep⟩
  else .ok (bound.map wildcard)

/-- A wildcard, or a reference type. -/
def argument (inner : Reader DeclaredType) : Reader DeclaredType := fun text =>
  match symbol? '?' text with
  | none => reference inner text
  | some mark =>
      have afterMark : (skipBlank mark.rest).length < text.length :=
        Nat.lt_of_le_of_lt (length_skipBlank_le _) mark.within
      match upper : keyword? "extends".toList (skipBlank mark.rest) with
      | some rest =>
          have shorter := Nat.le_of_lt
            (Nat.lt_of_le_of_lt (length_of_keyword? upper) afterMark)
          match reference inner rest with
          | .error failure => .error failure
          | .ok bound => boundedBy .extendsWildcard (bound.widen shorter)
      | none =>
          match lower : keyword? "super".toList (skipBlank mark.rest) with
          | some rest =>
              have shorter := Nat.le_of_lt
                (Nat.lt_of_le_of_lt (length_of_keyword? lower) afterMark)
              match reference inner rest with
              | .error failure => .error failure
              | .ok bound => boundedBy .superWildcard (bound.widen shorter)
          | none => .ok ⟨.anyWildcard, skipBlank mark.rest, afterMark⟩

/-- Arguments with commas between them, up to the closing bracket. -/
def arguments (inner : Reader DeclaredType) (text : List Char) :
    Except Failure (Read (List DeclaredType) text.length) :=
  match argument inner text with
  | .error failure => .error failure
  | .ok first =>
      match symbol? ',' first.rest with
      | some comma =>
          have shorter := Nat.lt_trans comma.within first.within
          match arguments inner comma.rest with
          | .error failure => .error failure
          | .ok others =>
              .ok ⟨first.value :: others.value, others.rest,
                Nat.lt_trans others.within shorter⟩
      | none =>
          match symbol? '>' first.rest with
          | some close => .ok ⟨[first.value], close.rest,
              Nat.lt_trans close.within first.within⟩
          | none => .error (.unexpected (skipBlank first.rest))
termination_by text.length

/-- The arguments in angle brackets, if a bracket opens.  There is no reader for
the types inside when no further bracket may open. -/
def typeArguments (inner? : Option (Reader DeclaredType)) (text : List Char) :
    Except Failure (Read (Option (List DeclaredType)) (text.length + 1)) :=
  match symbol? '<' text with
  | none => .ok ⟨none, text, Nat.lt_succ_self _⟩
  | some opened =>
      match inner? with
      | none => .error ⟨opened.rest, .tooDeep⟩
      | some inner =>
          match symbol? '>' opened.rest with
          | some closed => .error ⟨closed.rest, .emptyArguments⟩
          | none =>
              match arguments inner opened.rest with
              | .error failure => .error failure
              | .ok read =>
                  if maximalDepth < DeclaredType.greatestDepth read.value + 1 then
                    .error ⟨read.rest, .tooDeep⟩
                  else
                    .ok ⟨some read.value, read.rest,
                      Nat.lt_succ_of_lt (Nat.lt_trans read.within opened.within)⟩

/-- The type that a name makes with the arguments that follow it. -/
def applied (name : String) :
    Option Meaning → Option (List DeclaredType) → Except Cause DeclaredType
  | none, _ => .error (.unknownType name)
  | some (.primitive kind), none => .ok (.primitive kind)
  | some (.primitive kind), some _ => .error (.argumentsOnPrimitive kind)
  | some (.typeVariable variableName), none => .ok (.typeVariable variableName)
  | some (.typeVariable variableName), some _ => .error (.argumentsOnVariable variableName)
  | some (.classNamed id), none => .ok (.plain id)
  | some (.classNamed id), some arguments => .ok (.parameterized id arguments)

/-- A name with its type arguments.  The arguments are read before the name is
looked up, so that a fault inside them comes first. -/
def element (meaning? : String → Option Meaning) (inner? : Option (Reader DeclaredType)) :
    Reader DeclaredType := fun text =>
  match readName (skipBlank text) with
  | .error failure => .error failure
  | .ok name =>
      match typeArguments inner? name.rest with
      | .error failure => .error failure
      | .ok arguments =>
          match applied name.value (meaning? name.value) arguments.value with
          | .error cause => .error ⟨skipBlank text, cause⟩
          | .ok type => .ok ⟨type, arguments.rest, by
              have nameWithin := name.within
              have argumentsWithin := arguments.within
              have blank := length_skipBlank_le text
              omega⟩

/-- Wraps a type in as many array dimensions as follow it. -/
def dimensions (type : DeclaredType) (text : List Char) :
    Except Failure (Read DeclaredType (text.length + 1)) :=
  match symbol? '[' text with
  | none => .ok ⟨type, skipBlank text, Nat.lt_succ_of_le (length_skipBlank_le text)⟩
  | some opened =>
      match symbol? ']' opened.rest with
      | none => .error (.unexpected (skipBlank opened.rest))
      | some closed =>
          if maximalDepth < type.depth + 1 then .error ⟨closed.rest, .tooDeep⟩
          else
            have shorter := Nat.lt_trans closed.within opened.within
            match dimensions (.array type) closed.rest with
            | .error failure => .error failure
            | .ok read => .ok (read.widen (Nat.succ_le_succ (Nat.le_of_lt shorter)))
termination_by text.length

def withDimensions (base : Reader DeclaredType) : Reader DeclaredType := fun text =>
  match base text with
  | .error failure => .error failure
  | .ok read =>
      match dimensions read.value read.rest with
      | .error failure => .error failure
      | .ok whole => .ok (whole.widen read.within)

/-- Reads a type in which at most the given number of angle brackets are open at
one time. -/
def typeWithin (meaning? : String → Option Meaning) : Nat → Reader DeclaredType
  | 0 => withDimensions (element meaning? none)
  | levels + 1 => withDimensions (element meaning? (some (typeWithin meaning? levels)))

/-- Reads a whole text as one type. -/
def readWhole (meaning? : String → Option Meaning) (text : List Char) :
    Except Failure DeclaredType :=
  match typeWithin meaning? maximalDepth text with
  | .error failure => .error failure
  | .ok read =>
      match skipBlank read.rest with
      | [] => .ok read.value
      | next :: later => .error ⟨next :: later, .trailingInput⟩

/-- Reads a field type with the names of a scope and of a registry. -/
def parse (registry : Registry) (scope : Scope) (text : String) :
    Except Error DeclaredType :=
  (readWhole (scope.meaning? registry) text.toList).mapError (·.inText text.toList)

end FieldTypes.Expression
