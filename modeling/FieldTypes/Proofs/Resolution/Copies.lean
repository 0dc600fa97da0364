import FieldTypes.Proofs.Registry.Answers
import FieldTypes.Proofs.Registry.Copy
import FieldTypes.Proofs.Registry.Growth

/-! A copy goes its own way, and as long as it is asked what its original is asked, it goes
the same way.  The identities differ all along, and show in one place alone: a field is at
home in one of the two registries and foreign to the other. -/

namespace FieldTypes

/-- The same field as a field of another registry. -/
def FieldDefinition.moveTo (identity : RegistryId) (field : FieldDefinition) : FieldDefinition :=
  { field with registry := identity }

/-- The resolver of the same class and arguments in a copy. -/
def Resolver.copy (identity : RegistryId) (resolver : Resolver) : Resolver where
  registry := resolver.registry.copy identity
  definition := resolver.definition.moveTo identity
  arguments := resolver.arguments
  arity := resolver.arity

namespace Registry

variable {registry copied owner home : Registry} {identity : RegistryId}

/-! ## Requests -/

theorem change_copy (identity : RegistryId) (registry : Registry) (request : Change) :
    (registry.copy identity).change request = (registry.change request).copy identity := by
  cases request with
  | intern name => rw [change, change, intern_copy]
  | define batch =>
      rw [change, change, define_copy]
      cases registry.define batch with
      | error error => rfl
      | ok outcome => rfl

theorem foldl_change_copy (identity : RegistryId) (registry : Registry)
    (requests : List Change) :
    requests.foldl change (registry.copy identity) =
      (requests.foldl change registry).copy identity :=
  List.foldl_hom (copy identity) (change_copy identity)

theorem answer_copy (identity : RegistryId) (registry : Registry) (request : Change) :
    (registry.copy identity).answer request = registry.answer request := by
  cases request with
  | intern name => rw [answer, answer, intern_copy]
  | define batch =>
      rw [answer, answer, define_copy]
      cases registry.define batch with
      | error error => rfl
      | ok outcome => rfl

theorem answers_copy (identity : RegistryId) (registry : Registry) (requests : List Change) :
    (registry.copy identity).answers requests = registry.answers requests := by
  induction requests generalizing registry with
  | nil => rfl
  | cons request rest induction => rw [answers, answer_copy, change_copy, induction, answers]

/-! ## Classes and their resolvers -/

@[simp] theorem identity_copy (identity : RegistryId) (registry : Registry) :
    (registry.copy identity).identity = identity :=
  rfl

theorem size_copy (identity : RegistryId) (registry : Registry) :
    (registry.copy identity).size = registry.size := by
  have moved : (registry.copy identity).definitions =
      registry.definitions.map (·.moveTo identity) := by
    rw [definitions, copy, List.filterMap_map, definitions, List.map_filterMap]
    rfl
  rw [size, moved, List.length_map, size]

/-- Substitution needs the names and the arities of classes. -/
theorem substitute_copy (identity : RegistryId) (registry : Registry)
    (bound? : String → Option ResolvedType) (place : Place) (type : DeclaredType) :
    (registry.copy identity).substitute bound? place type =
      registry.substitute bound? place type := by
  induction type with
  | primitive _ | plain _ | typeVariable _ | anyWildcard | extendsWildcard _ _
  | superWildcard _ _ => rfl
  | array component induction => rw [substitute, substitute, induction]
  | parameterized raw arguments induction =>
      have each := (collects_substituteAll registry bound? place).map_eq
        (collects_substituteAll (registry.copy identity) bound? place) induction
      rw [List.map_id'] at each
      rw [substitute, substitute, definition?_copy, each]
      cases registry.definition? raw with
      | none => rfl
      | some definition => rfl

theorem resolver_copy (identity : RegistryId) (registry : Registry) (id : ClassId)
    (arguments : List ResolvedType) :
    (registry.copy identity).resolver id arguments =
      (registry.resolver id arguments).map (·.copy identity) := by
  rw [resolver, resolver, definition?_copy]
  cases registry.definition? id with
  | none => rfl
  | some definition =>
      rw [Option.map_some]
      dsimp only
      by_cases arity : arguments.length = definition.parameters.length
      · rw [dif_pos arity]
        exact dif_pos arity
      · rw [dif_neg arity]
        exact dif_neg arity

end Registry

/-- What a resolver makes of a field of its registry, its copy makes of the copied field. -/
theorem Resolver.resolve_copy (identity : RegistryId) (resolver : Resolver)
    {field : FieldDefinition} (same : field.registry = resolver.definition.registry) :
    (resolver.copy identity).resolve (field.moveTo identity) = resolver.resolve field := by
  have declared : (field.moveTo identity).isDeclaredOn (resolver.definition.moveTo identity) =
      field.isDeclaredOn resolver.definition := by
    rw [FieldDefinition.isDeclaredOn, FieldDefinition.isDeclaredOn, same]
    simp only [FieldDefinition.moveTo, ClassDefinition.moveTo, beq_self_eq_true]
  rw [resolve, resolve, copy, declared, Registry.substitute_copy]
  rfl

namespace Registry

variable {registry copied owner home : Registry} {identity : RegistryId}

/-- No resolver of one registry takes a field of the other. -/
def ForeignTo (owner home : Registry) : Prop :=
  ∀ ownerId ownerClass, owner.definition? ownerId = some ownerClass →
    ∀ field ∈ ownerClass.fields, ∀ id arguments resolver,
      home.resolver id arguments = .ok resolver →
        resolver.resolve field =
          .error (.foreignField field.name field.ownerName resolver.definition.name)

theorem foreignTo_of_identity_ne (ownerFormed : owner.WellFormed) (homeFormed : home.WellFormed)
    (different : owner.identity ≠ home.identity) : owner.ForeignTo home := by
  intro ownerId ownerClass ownerDefined field member id arguments resolver made
  rw [Resolver.resolve, if_neg]
  intro declared
  exact different ((FieldDefinition.isDeclaredOn_iff (ownerFormed.holds ownerDefined)
    (homeFormed.holds (parts_of_resolver made).1) member).mp declared).1

/-- Two registries that differ in their identities alone, as far as they can be asked. -/
structure Alike (registry copied : Registry) : Prop where
  idOf?_eq : ∀ name, copied.idOf? name = registry.idOf? name
  nameOf?_eq : ∀ id, copied.nameOf? id = registry.nameOf? id
  lookup?_eq : ∀ name, copied.lookup? name = registry.lookup? name
  size_eq : copied.size = registry.size
  definition?_eq : ∀ id,
    copied.definition? id = (registry.definition? id).map (·.moveTo copied.identity)
  resolver_eq : ∀ id arguments, copied.resolver id arguments =
    (registry.resolver id arguments).map (·.copy copied.identity)
  resolve_eq : ∀ ownerId ownerClass, registry.definition? ownerId = some ownerClass →
    ∀ field ∈ ownerClass.fields, ∀ id arguments resolver,
      registry.resolver id arguments = .ok resolver →
        (resolver.copy copied.identity).resolve (field.moveTo copied.identity) =
          resolver.resolve field
  resolve_own_eq : ∀ id arguments resolver, registry.resolver id arguments = .ok resolver →
    (resolver.copy copied.identity).definition.fields.map
        (resolver.copy copied.identity).resolve =
      resolver.definition.fields.map resolver.resolve

theorem WellFormed.alike_copy (wellFormed : registry.WellFormed) (identity : RegistryId) :
    registry.Alike (registry.copy identity) where
  idOf?_eq := idOf?_copy identity registry
  nameOf?_eq := nameOf?_copy identity registry
  lookup?_eq := lookup?_copy identity registry
  size_eq := size_copy identity registry
  definition?_eq := definition?_copy identity registry
  resolver_eq := resolver_copy identity registry
  resolve_eq ownerId ownerClass ownerDefined field member id arguments resolver made := by
    apply resolver.resolve_copy
    rw [(wellFormed.holds ownerDefined).fieldRegistry_eq field member,
      (wellFormed.holds (parts_of_resolver made).1).registry_eq]
  resolve_own_eq id arguments resolver made := by
    have holds := wellFormed.holds (parts_of_resolver made).1
    have moved : (resolver.copy identity).definition.fields =
        resolver.definition.fields.map (·.moveTo identity) := rfl
    rw [identity_copy, moved, List.map_map]
    apply List.map_congr_left
    intro field own
    exact resolver.resolve_copy _ ((holds.fieldRegistry_eq field own).trans holds.registry_eq.symm)

/-- Two registries that are asked the same.  They give the same answers, are alike after each
of them, and do not take each other's fields, whichever has come further. -/
structure Twins (registry twin : Registry) (requests : List Change) : Prop where
  answers_eq : twin.answers requests = registry.answers requests
  alike : ∀ count, ((requests.take count).foldl change registry).Alike
    ((requests.take count).foldl change twin)
  foreign : ∀ count other, ((requests.take count).foldl change registry).ForeignTo
    ((requests.take other).foldl change twin)
  twin_foreign : ∀ count other, ((requests.take count).foldl change twin).ForeignTo
    ((requests.take other).foldl change registry)

theorem WellFormed.twins_copy (wellFormed : registry.WellFormed)
    (different : identity ≠ registry.identity) (requests : List Change) :
    registry.Twins (registry.copy identity) requests := by
  have formed := fun count => (wellFormed.foldl_change (requests.take count)).1
  have copyFormed := fun count =>
    ((wellFormed.copy identity).foldl_change (requests.take count)).1
  have apart : ∀ count other,
      ((requests.take count).foldl Registry.change registry).identity ≠
        ((requests.take other).foldl Registry.change (registry.copy identity)).identity := by
    intro count other
    rw [(wellFormed.foldl_change (requests.take count)).2.identity_eq, foldl_change_copy]
    exact different.symm
  exact
    { answers_eq := answers_copy identity registry requests
      alike := fun count => by
        rw [foldl_change_copy]
        exact (formed count).alike_copy identity
      foreign := fun count other =>
        foreignTo_of_identity_ne (formed count) (copyFormed other) (apart count other)
      twin_foreign := fun count other =>
        foreignTo_of_identity_ne (copyFormed count) (formed other) (apart other count).symm }

/-- A registry and its copy, which has an identity of its own, stay twins, however many names
and batches come after. -/
theorem Reachable.twins_of_copy (reachable : registry.Reachable)
    (different : identity ≠ registry.identity) (requests : List Change) :
    registry.Twins (registry.copy identity) requests :=
  reachable.wellFormed.twins_copy different requests

/-- The family and its copy both get a pet, after a batch that both refuse. -/
theorem twins_of_copied_family :
    family.Reachable ∧ (⟨1⟩ : RegistryId) ≠ family.identity ∧
      family.answers familyRequests =
        [.ok [⟨19⟩], .error (.duplicateClass "family.Child"), .ok [⟨19⟩]] ∧
      family.Twins (family.copy ⟨1⟩) familyRequests := by
  have different : (⟨1⟩ : RegistryId) ≠ family.identity := by decide +kernel
  exact ⟨family_reachable, different, by decide +kernel,
    Reachable.twins_of_copy family_reachable different familyRequests⟩

end Registry

namespace Chronicle

/-- What a program gets when it copies one of its registries is a twin. -/
theorem twins_of_perform_copy {requests : List Workspace.Request} {source : String}
    {registry : Registry}
    (stands : Workspace.registry? (after requests).workspace source = some registry)
    (target : String) (further : List Registry.Change) :
    ∃ twin, Workspace.registry? ((after requests).workspace.perform (.copy source target)) target =
        some twin ∧ registry.Twins twin further := by
  have sound := sound_after requests
  refine ⟨registry.copy ⟨(after requests).workspace.nextIdentity⟩, ?_, ?_⟩
  · rw [Workspace.perform, Workspace.copy, stands]
    dsimp only
    rw [Workspace.registry?_create, if_pos rfl]
  · apply (sound.wellFormed stands).twins_copy
    intro same
    have older := sound.identity_lt stands
    rw [← same] at older
    exact Nat.lt_irrefl _ older

end Chronicle

end FieldTypes
