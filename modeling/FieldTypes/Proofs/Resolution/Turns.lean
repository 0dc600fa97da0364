import FieldTypes.Proofs.Resolution.Dependence
import Mathlib.Logic.Function.Iterate

/-! Classes with a field of their own type.  When such a field gives the class its own type
parameters for arguments, each place with some parameter, then to resolve the field and to
bind the class to the result is a turn that moves the arguments in the same way.  Turns never
fail, and any number of them moves the arguments as often. -/

namespace FieldTypes

namespace Resolver

/-- One turn: the field is resolved, and the class is bound to the arguments of its type. -/
def turn (field : FieldDefinition) (resolver : Resolver) : Except ResolutionError Resolver :=
  (resolver.resolve field).bind fun type =>
    resolver.registry.resolver resolver.definition.id type.arguments

def turns (field : FieldDefinition) (resolver : Resolver) : Nat → Except ResolutionError Resolver
  | 0 => .ok resolver
  | count + 1 => (resolver.turns field count).bind (turn field)

end Resolver

namespace Registry

variable {registry : Registry} {id : ClassId} {definition : ClassDefinition}

/-- The class with its own type parameters for arguments, as they are chosen. -/
def ownType (id : ClassId) (definition : ClassDefinition)
    (choice : Fin definition.parameters.length → Fin definition.parameters.length) :
    DeclaredType :=
  .parameterized id (List.ofFn fun place =>
    .typeVariable (definition.parameters.get (choice place)))

section

variable (wellFormed : registry.WellFormed)
  (defined : registry.definition? id = some definition)
  {choice : Fin definition.parameters.length → Fin definition.parameters.length}
  {field : FieldDefinition} (own : field ∈ definition.fields)
  (typed : field.type = ownType id definition choice)
  {arguments : Fin definition.parameters.length → ResolvedType} {resolver : Resolver}
  (made : registry.resolver id (List.ofFn arguments) = .ok resolver)

include wellFormed defined own typed made

theorem resolve_ownType :
    resolver.resolve field = .ok (.parameterized id (List.ofFn (arguments ∘ choice))) := by
  have holds := wellFormed.holds defined
  rcases (resolver_eq_ok_iff defined).mp made with ⟨rfl, rfl, bound, -⟩
  rw [resolver.resolve_eq_substitute (by rw [holds.id_eq]; exact holds) own, typed, ownType,
    substitute_parameterized_eq_ok_iff, List.length_ofFn]
  refine ⟨arity?_eq_some_iff.mpr ⟨_, defined, rfl⟩, _, forall₂_ofFn_iff.mpr ?_, rfl⟩
  intro place
  have parameter : resolver.definition.parameters[(choice place).val]? =
      some (resolver.definition.parameters.get (choice place)) :=
    List.getElem?_eq_getElem (choice place).isLt
  rw [substitute_typeVariable_eq_ok_iff,
    resolver.bound?_eq_getElem? holds.parameters_nodup parameter, bound, List.getElem?_ofFn,
    dif_pos (choice place).isLt]
  rfl

theorem turn_ownType :
    ∃ next, resolver.turn field = .ok next ∧
      registry.resolver id (List.ofFn (arguments ∘ choice)) = .ok next := by
  have resolved := resolve_ownType wellFormed defined own typed made
  have bound := resolver_of_arity defined (List.length_ofFn (f := arguments ∘ choice))
  rcases (resolver_eq_ok_iff defined).mp made with ⟨rfl, rfl, -, -⟩
  refine ⟨_, ?_, bound⟩
  rw [Resolver.turn, resolved, (wellFormed.holds defined).id_eq]
  exact bound

/-- Any number of turns can be made, and each moves the arguments once more. -/
theorem turns_ownType (count : Nat) :
    ∃ reached, resolver.turns field count = .ok reached ∧
      registry.resolver id (List.ofFn (arguments ∘ choice^[count])) = .ok reached := by
  -- What a turn needs to start from is only that the class is bound to some arguments, so this
  -- is what each turn has to hand on to the next.
  induction count with
  | zero => exact ⟨resolver, rfl, made⟩
  | succ count induction =>
      rcases induction with ⟨previous, turned, bound⟩
      rcases turn_ownType wellFormed defined own typed bound with ⟨next, turnedAgain, boundAgain⟩
      refine ⟨next, ?_, ?_⟩
      · rw [Resolver.turns, turned]
        exact turnedAgain
      · rw [Function.iterate_succ, ← Function.comp_assoc]
        exact boundAgain

end

/-- A field that gives its class the type parameters by choice resolves to the class with the
type arguments by the same choice.  The class can be bound to these and the field resolved
again, as often as one likes, and the arguments are then chosen as often.  Where each place
chooses itself, nothing ever changes: the field has the type of the class. -/
theorem Reachable.resolves_own_type_in_turns (reachable : registry.Reachable)
    (defined : registry.definition? id = some definition)
    (generic : 0 < definition.parameters.length)
    (choice : Fin definition.parameters.length → Fin definition.parameters.length)
    {field : FieldDefinition} (own : field ∈ definition.fields)
    (typed : field.type = ownType id definition choice)
    (arguments : Fin definition.parameters.length → ResolvedType) :
    ∃ start, registry.resolver id (List.ofFn arguments) = .ok start ∧
      start.resolve field = .ok (.parameterized id (List.ofFn (arguments ∘ choice))) ∧
      ∀ count, ∃ reached, start.turns field count = .ok reached ∧
        reached.definition = definition ∧
        reached.arguments = List.ofFn (arguments ∘ choice^[count]) ∧
        reached.resolve field =
          .ok (.parameterized id (List.ofFn (arguments ∘ choice^[count + 1]))) ∧
        ((∀ place, choice place = place) →
          reached.resolve field = .ok reached.classType ∧
            reached.classType = start.classType) := by
  have wellFormed := reachable.wellFormed
  have made := resolver_of_arity defined (List.length_ofFn (f := arguments))
  refine ⟨_, made, resolve_ownType wellFormed defined own typed made, ?_⟩
  intro count
  rcases turns_ownType wellFormed defined own typed made count with ⟨reached, turned, bound⟩
  have resolved := resolve_ownType wellFormed defined own typed bound
  rw [Function.comp_assoc, ← Function.iterate_succ] at resolved
  rcases (resolver_eq_ok_iff defined).mp bound with ⟨-, sameDefinition, sameArguments, -⟩
  refine ⟨reached, turned, sameDefinition, sameArguments, resolved, ?_⟩
  intro fixed
  have same : ∀ count, arguments ∘ choice^[count] = arguments := fun count =>
    funext fun place => congrArg arguments (Function.iterate_fixed (fixed place) count)
  have isGeneric : definition.isGeneric = true := by
    simpa [ClassDefinition.isGeneric] using List.ne_nil_of_length_pos generic
  rw [same] at resolved bound
  rw [wellFormed.classType_eq made, wellFormed.classType_eq bound, sameDefinition, if_pos isGeneric]
  exact ⟨resolved, rfl⟩

/-! A class of three type parameters that moves each of them one place on. -/

def ring : ClassDeclaration where
  name := "ring.Ring"
  parameters := ["A", "B", "C"]
  fields := [⟨"value", .typeVariable "A"⟩, ⟨"next", .parameterized ⟨17⟩
    [.typeVariable "B", .typeVariable "C", .typeVariable "A"]⟩]

def rings : Registry :=
  (withBuiltIns ⟨0⟩).change (.define [ring])

def ringNext : FieldDefinition where
  registry := ⟨0⟩
  owner := ⟨17⟩
  ownerName := "ring.Ring"
  name := "next"
  type := .parameterized ⟨17⟩ [.typeVariable "B", .typeVariable "C", .typeVariable "A"]

def ringArguments : Fin 3 → ResolvedType :=
  [.plain ⟨0⟩, .plain ⟨1⟩, .array (.primitive .int)].get

/-- After two turns the last argument is the first. -/
theorem resolves_own_type_in_turns_of_ring :
    let definition := definitionOf ⟨0⟩ ⟨17⟩ ring
    let forward : Fin 3 → Fin 3 := fun place => place + 1
    rings.Reachable ∧ rings.definition? ⟨17⟩ = some definition ∧
      0 < definition.parameters.length ∧ ringNext ∈ definition.fields ∧
      ringNext.type = ownType ⟨17⟩ definition forward ∧
      List.ofFn (ringArguments ∘ forward^[2]) =
        [.array (.primitive .int), .plain ⟨0⟩, .plain ⟨1⟩] ∧
      ∃ start, rings.resolver ⟨17⟩ (List.ofFn ringArguments) = .ok start ∧
        start.resolve ringNext =
          .ok (.parameterized ⟨17⟩ (List.ofFn (ringArguments ∘ forward))) ∧
        ∀ count, ∃ reached, start.turns ringNext count = .ok reached ∧
          reached.definition = definition ∧
          reached.arguments = List.ofFn (ringArguments ∘ forward^[count]) ∧
          reached.resolve ringNext =
            .ok (.parameterized ⟨17⟩ (List.ofFn (ringArguments ∘ forward^[count + 1]))) ∧
          ((∀ place, forward place = place) →
            reached.resolve ringNext = .ok reached.classType ∧
              reached.classType = start.classType) := by
  intro definition forward
  have reachable : rings.Reachable := .change _ (.withBuiltIns _)
  have defined : rings.definition? ⟨17⟩ = some definition := by decide +kernel
  have generic : 0 < definition.parameters.length := by decide
  have own : ringNext ∈ definition.fields := by decide
  have typed : ringNext.type = ownType ⟨17⟩ definition forward := by rfl
  exact ⟨reachable, defined, generic, own, typed, by decide,
    Reachable.resolves_own_type_in_turns reachable defined generic forward own typed
      ringArguments⟩

end Registry

end FieldTypes
