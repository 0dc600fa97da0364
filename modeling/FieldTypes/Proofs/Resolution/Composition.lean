import FieldTypes.Proofs.Resolution.Outcome

/-! Chained resolution.  Wherever a resolved field holds a class with arguments,
these arguments make a resolver for that class.  Its fields resolve as though they
had been written in the first class, with the declared arguments in the place of
the type variables: two resolvers in a row compose like the substitutions that they
stand for, even where both classes use the same names for their parameters. -/

namespace FieldTypes

/-- A step into a type, to one of its arguments or to the component of an array.
No step leads to the bound of a wildcard. -/
inductive Step where
  | argument (place : Nat)
  | component
deriving DecidableEq, Repr

namespace DeclaredType

def part? : Step → DeclaredType → Option DeclaredType
  | .argument place, .parameterized _ arguments => arguments[place]?
  | .component, .array component => some component
  | _, _ => none

/-- The part of a type that a path ends at. -/
def at? : DeclaredType → List Step → Option DeclaredType
  | type, [] => some type
  | type, step :: path => (part? step type).bind (·.at? path)

mutual
/-- The type with other declared types in the place of its type variables. -/
def instantiate (value : String → DeclaredType) : DeclaredType → DeclaredType
  | .primitive kind => .primitive kind
  | .plain id => .plain id
  | .parameterized raw arguments => .parameterized raw (instantiateAll value arguments)
  | .array component => .array (component.instantiate value)
  | .typeVariable name => value name
  | .anyWildcard => .anyWildcard
  | .extendsWildcard bound => .extendsWildcard (bound.instantiate value)
  | .superWildcard bound => .superWildcard (bound.instantiate value)

def instantiateAll (value : String → DeclaredType) : List DeclaredType → List DeclaredType
  | [] => []
  | type :: rest => type.instantiate value :: instantiateAll value rest
end

theorem instantiateAll_eq_map (value : String → DeclaredType) (types : List DeclaredType) :
    instantiateAll value types = types.map (·.instantiate value) := by
  induction types with
  | nil => rfl
  | cons type rest induction => rw [instantiateAll, induction, List.map_cons]

/-- The argument at the place where the name stands among the parameters. -/
def argumentFor (parameters : List String) (arguments : List DeclaredType)
    (name : String) : DeclaredType :=
  arguments[parameters.idxOf name]?.getD (.typeVariable name)

end DeclaredType

namespace ResolvedType

def part? : Step → ResolvedType → Option ResolvedType
  | .argument place, .parameterized _ arguments => arguments[place]?
  | .component, .array component => some component
  | _, _ => none

def at? : ResolvedType → List Step → Option ResolvedType
  | type, [] => some type
  | type, step :: path => (part? step type).bind (·.at? path)

end ResolvedType

namespace Registry

variable {registry : Registry} {bound? : String → Option ResolvedType} {place : Place}
  {type part : DeclaredType} {result : ResolvedType}

/-! ## Parts of a resolved type -/

theorem substitute_part? (passed : registry.substitute bound? place type = .ok result)
    {step : Step} (found : type.part? step = some part) :
    ∃ partResult, result.part? step = some partResult ∧
      registry.substitute bound? place part = .ok partResult := by
  cases type with
  | array component =>
      cases step with
      | argument => cases found
      | component =>
          cases found
          rcases substitute_array_eq_ok_iff.mp passed with ⟨inner, innerPassed, rfl⟩
          exact ⟨inner, rfl, innerPassed⟩
  | parameterized raw arguments =>
      cases step with
      | component => cases found
      | argument index =>
          rcases substitute_parameterized_eq_ok_iff.mp passed with ⟨-, inner, each, rfl⟩
          rcases List.getElem?_eq_some_iff.mp found with ⟨within, rfl⟩
          have innerWithin : index < inner.length := each.length_eq ▸ within
          exact ⟨inner[index], List.getElem?_eq_getElem innerWithin,
            each.get within innerWithin⟩
  | primitive _ | plain _ | typeVariable _ | anyWildcard | extendsWildcard _
  | superWildcard _ => cases step <;> cases found

/-- A part of a type becomes the part of the resolved type at the same place. -/
theorem substitute_at? {path : List Step}
    (passed : registry.substitute bound? place type = .ok result)
    (found : type.at? path = some part) :
    ∃ partResult, result.at? path = some partResult ∧
      registry.substitute bound? place part = .ok partResult := by
  induction path generalizing type result with
  | nil =>
      cases found
      exact ⟨result, rfl, passed⟩
  | cons step path induction =>
      rcases Option.bind_eq_some_iff.mp found with ⟨next, stepped, later⟩
      rcases substitute_part? passed stepped with ⟨nextResult, nextStepped, nextPassed⟩
      rcases induction nextPassed later with ⟨partResult, partFound, partPassed⟩
      refine ⟨partResult, ?_, partPassed⟩
      rw [ResolvedType.at?, nextStepped, Option.bind_some, partFound]

/-! ## Two substitutions in a row -/

/-- To replace the variables by declared types and to resolve is to resolve with
what these types become. -/
theorem substitute_instantiate {inner? : String → Option ResolvedType}
    {value : String → DeclaredType} {parameters : List String}
    (agree : ∀ name ∈ parameters, ∃ argument,
      registry.substitute bound? place (value name) = .ok argument ∧
        inner? name = some argument)
    (fits : type.Fits registry.arity? parameters) :
    registry.substitute bound? place (type.instantiate value) =
      registry.substitute inner? place type := by
  induction type with
  | primitive kind => rfl
  | plain id => rfl
  | typeVariable name =>
      rcases agree name (by simpa using fits) with ⟨argument, passed, bound⟩
      rw [DeclaredType.instantiate, passed, substitute, bound]
  | array component induction =>
      rw [DeclaredType.instantiate, substitute, substitute, induction (by simpa using fits)]
  | parameterized raw arguments induction =>
      rcases (DeclaredType.fits_parameterized raw arguments).mp fits with ⟨-, argumentsFit⟩
      have each := (collects_substituteAll registry inner? place).map_eq
        (collects_substituteAll registry bound? place)
        fun argument member => induction argument member (argumentsFit argument member)
      rw [DeclaredType.instantiate, DeclaredType.instantiateAll_eq_map, substitute, substitute,
        each, List.length_map]
  | anyWildcard => rfl
  | extendsWildcard bound _ => rfl
  | superWildcard bound _ => rfl

end Registry

namespace Resolver

/-- A resolver made of what some declared types become agrees with these types on
every type parameter. -/
theorem bound?_eq_substitute_argumentFor (resolver : Resolver) {registry : Registry}
    {bound? : String → Option ResolvedType} {place : Place} {arguments : List DeclaredType}
    (each : List.Forall₂ (fun type result => registry.substitute bound? place type = .ok result)
      arguments resolver.arguments)
    {name : String} (declared : name ∈ resolver.definition.parameters) :
    ∃ argument,
      registry.substitute bound? place
          (DeclaredType.argumentFor resolver.definition.parameters arguments name) =
        .ok argument ∧
      resolver.bound? name = some argument := by
  have within : resolver.definition.parameters.idxOf name < resolver.arguments.length := by
    rw [resolver.arity]
    exact List.idxOf_lt_length_of_mem declared
  have writtenWithin := each.length_eq ▸ within
  refine ⟨resolver.arguments[resolver.definition.parameters.idxOf name], ?_, ?_⟩
  · rw [DeclaredType.argumentFor, List.getElem?_eq_getElem writtenWithin, Option.getD_some]
    exact each.get writtenWithin within
  · have found : resolver.definition.parameterPlace? name =
        some (resolver.definition.parameters.idxOf name) :=
      List.findIdx?_eq_some_iff_findIdx_eq.mpr ⟨List.idxOf_lt_length_of_mem declared, rfl⟩
    rw [Resolver.bound?, found, Option.bind_some, List.getElem?_eq_getElem within]

end Resolver

namespace Registry

variable {registry : Registry} {id : ClassId} {definition : ClassDefinition}

/-- Where a field was resolved to a class with arguments, these make a resolver of
that class.  Each of its fields then has the same outcome as its type has in the
first class once the declared arguments stand in the place of the variables. -/
theorem Reachable.resolves_in_a_row (reachable : registry.Reachable)
    (defined : registry.definition? id = some definition)
    {arguments : List ResolvedType} (arity : arguments.length = definition.parameters.length)
    {field : FieldDefinition} (own : field ∈ definition.fields)
    {path : List Step} {raw : ClassId} {written : List DeclaredType}
    (applied : field.type.at? path = some (.parameterized raw written)) :
    ∃ outer, registry.resolver id arguments = .ok outer ∧
      ∀ type, outer.resolve field = .ok type →
        ∃ resolved inner, type.at? path = some (.parameterized raw resolved) ∧
          registry.resolver raw resolved = .ok inner ∧
          registry.definition? raw = some inner.definition ∧
          ∀ next ∈ inner.definition.fields, ∀ place,
            let inlined := next.type.instantiate
              (DeclaredType.argumentFor inner.definition.parameters written)
            (∃ result, inner.resolve next = .ok result ∧
              registry.substitute outer.bound? place inlined = .ok result) ∨
            (inner.resolve next =
                .error (.wildcard (.field inner.definition.name next.name)) ∧
              registry.substitute outer.bound? place inlined = .error (.wildcard place)) := by
  have wellFormed := reachable.wellFormed
  have holds := wellFormed.holds defined
  refine ⟨⟨registry, definition, arguments, arity⟩,
    (resolver_eq_ok_iff defined).mpr ⟨rfl, rfl, rfl, arity⟩, ?_⟩
  intro type outcome
  rw [Resolver.resolve_eq_substitute _ (by rw [holds.id_eq]; exact holds) own] at outcome
  rcases substitute_at? outcome applied with ⟨part, found, passed⟩
  rcases substitute_parameterized_eq_ok_iff.mp passed with ⟨known, resolved, each, rfl⟩
  rcases arity?_eq_some_iff.mp known with ⟨target, targetDefined, count⟩
  have targetHolds := wellFormed.holds targetDefined
  have targetArity : resolved.length = target.parameters.length :=
    each.length_eq.symm.trans count.symm
  refine ⟨resolved, ⟨registry, target, resolved, targetArity⟩, found,
    (resolver_eq_ok_iff targetDefined).mpr ⟨rfl, rfl, rfl, targetArity⟩, targetDefined, ?_⟩
  intro next member place
  have fits := targetHolds.types_fit next member
  dsimp only
  rw [Resolver.resolve_eq_substitute _ (by rw [targetHolds.id_eq]; exact targetHolds) member,
    substitute_instantiate (fun name declared =>
      Resolver.bound?_eq_substitute_argumentFor ⟨registry, target, resolved, targetArity⟩
        (each.imp fun _ _ => substitute_elsewhere place) declared) fits]
  apply substitute_agree_of_fits fits
  intro name declared
  exact Resolver.bound?_eq_some ⟨registry, target, resolved, targetArity⟩ declared

/-! Two classes that give the same names to parameters in another order. -/

def pair : ClassDeclaration where
  name := "pair.Pair"
  parameters := ["A", "B"]
  fields := [⟨"first", .typeVariable "A"⟩, ⟨"others", .parameterized ⟨12⟩ [.typeVariable "B"]⟩,
    ⟨"any", .parameterized ⟨12⟩ [.anyWildcard]⟩]

def swap : ClassDeclaration where
  name := "pair.Swap"
  parameters := ["A", "B"]
  fields := [⟨"turned", .array (.parameterized ⟨17⟩
    [.array (.typeVariable "B"), .typeVariable "A"])⟩]

def pairs : Registry :=
  (withBuiltIns ⟨0⟩).change (.define [pair, swap])

def turned : FieldDefinition where
  registry := ⟨0⟩
  owner := ⟨18⟩
  ownerName := "pair.Swap"
  name := "turned"
  type := .array (.parameterized ⟨17⟩ [.array (.typeVariable "B"), .typeVariable "A"])

/-- What `A` and `B` stand for changes on the way from one class to the other. -/
theorem resolves_in_a_row_of_pairs :
    pairs.Reachable ∧ pairs.definition? ⟨18⟩ = some (definitionOf ⟨0⟩ ⟨18⟩ swap) ∧
      turned ∈ (definitionOf ⟨0⟩ ⟨18⟩ swap).fields ∧
      ((pairs.resolver ⟨18⟩ [.plain ⟨0⟩, .plain ⟨1⟩]).bind (·.resolve turned)).toOption =
        some (.array (.parameterized ⟨17⟩ [.array (.plain ⟨1⟩), .plain ⟨0⟩])) ∧
      ∃ outer, pairs.resolver ⟨18⟩ [.plain ⟨0⟩, .plain ⟨1⟩] = .ok outer ∧
        ∀ type, outer.resolve turned = .ok type →
          ∃ resolved inner, type.at? [.component] = some (.parameterized ⟨17⟩ resolved) ∧
            pairs.resolver ⟨17⟩ resolved = .ok inner ∧
            pairs.definition? ⟨17⟩ = some inner.definition ∧
            ∀ next ∈ inner.definition.fields, ∀ place,
              let inlined := next.type.instantiate
                (DeclaredType.argumentFor inner.definition.parameters
                  [.array (.typeVariable "B"), .typeVariable "A"])
              (∃ result, inner.resolve next = .ok result ∧
                pairs.substitute outer.bound? place inlined = .ok result) ∨
              (inner.resolve next =
                  .error (.wildcard (.field inner.definition.name next.name)) ∧
                pairs.substitute outer.bound? place inlined = .error (.wildcard place)) :=
  have reachable : pairs.Reachable := .change _ (.withBuiltIns _)
  have defined : pairs.definition? ⟨18⟩ = some (definitionOf ⟨0⟩ ⟨18⟩ swap) := by
    decide +kernel
  ⟨reachable, defined, by decide, by decide +kernel,
    Reachable.resolves_in_a_row reachable defined rfl (by decide) rfl⟩

end Registry

end FieldTypes
