import FieldTypes.Proofs.Registry.Ownership
import FieldTypes.Proofs.Resolution.Outcome

/-! Registries only grow.  Whatever is interned or defined later, and whether or not it is
refused, what a registry had stays in it, and whoever asks again gets the answer that was
given before. -/

namespace FieldTypes

/-- The resolver of the same class and arguments in another registry. -/
def Resolver.moveTo (registry : Registry) (resolver : Resolver) : Resolver :=
  { resolver with registry := registry }

namespace Registry

variable {registry grown : Registry} {id : ClassId} {definition : ClassDefinition}

/-! ## Names and classes -/

theorem GrowsTo.idOf?_eq (growth : registry.GrowsTo grown) (indexed : registry.Indexed)
    (grownIndexed : grown.Indexed) {name : String} (known : registry.idOf? name = some id) :
    grown.idOf? name = some id :=
  grownIndexed.idOf?_iff.mpr (growth.nameOf?_eq (indexed.idOf?_iff.mp known))

/-- New classes may come in between, but the old ones keep their order. -/
theorem GrowsTo.definitions_sublist (growth : registry.GrowsTo grown) :
    registry.definitions.Sublist grown.definitions := by
  refine filterMap_sublist_filterMap fun index definition defined => ?_
  have still : grown.definition? ⟨index⟩ = some definition := growth.definition?_eq defined
  exact still

theorem GrowsTo.size_le (growth : registry.GrowsTo grown) : registry.size ≤ grown.size :=
  growth.definitions_sublist.length_le

/-! ## Resolution -/

/-- A type that fits needs no class besides those that it fitted with. -/
theorem GrowsTo.substitute_eq (growth : registry.GrowsTo grown)
    {bound? : String → Option ResolvedType} {place : Place} {parameters : List String}
    {type : DeclaredType} (fits : type.Fits registry.arity? parameters)
    (bound : ∀ name ∈ parameters, ∃ argument, bound? name = some argument) :
    grown.substitute bound? place type = registry.substitute bound? place type := by
  have outcome := @substitute_of_fits registry bound? place _ _ fits bound
  split at outcome
  · next wild =>
      have grownFits := fits.mono fun _ _ => growth.arity?_eq
      have grownOutcome := @substitute_of_fits grown bound? place _ _ grownFits bound
      rw [if_pos wild] at grownOutcome
      rw [outcome, grownOutcome]
  · rcases outcome with ⟨result, passed⟩
    rw [passed]
    exact substitute_mono (fun _ _ => growth.arity?_eq) (fun _ _ found => found) place passed

theorem GrowsTo.resolver_eq (growth : registry.GrowsTo grown)
    (defined : registry.definition? id = some definition) (arguments : List ResolvedType) :
    grown.resolver id arguments = (registry.resolver id arguments).map (·.moveTo grown) := by
  rw [resolver, growth.definition?_eq defined, resolver, defined]
  dsimp only
  split <;> rfl

/-- A field that can be at hand: it was taken from a class of some registry, and if that
has the identity of this one, then it is this one at an earlier or a later time. -/
def Meets (registry : Registry) (field : FieldDefinition) : Prop :=
  ∃ owner : Registry, owner.WellFormed ∧
    (owner.identity = registry.identity → registry.GrowsTo owner ∨ owner.GrowsTo registry) ∧
    ∃ ownerId ownerClass, owner.definition? ownerId = some ownerClass ∧
      field ∈ ownerClass.fields

/-- A field that takes a class for its own is one of the fields of that class. -/
theorem Meets.mem_of_isDeclaredOn {field : FieldDefinition} (meets : registry.Meets field)
    (wellFormed : registry.WellFormed) (defined : registry.definition? id = some definition)
    (declared : field.isDeclaredOn definition = true) : field ∈ definition.fields := by
  rcases meets with ⟨owner, ownerFormed, stages, ownerId, ownerClass, ownerDefined, member⟩
  rcases (FieldDefinition.isDeclaredOn_iff (ownerFormed.holds ownerDefined)
    (wellFormed.holds defined) member).mp declared with ⟨sameIdentity, rfl⟩
  rcases stages sameIdentity with later | earlier
  · rw [later.definition?_eq defined] at ownerDefined
    cases ownerDefined
    exact member
  · rw [earlier.definition?_eq ownerDefined] at defined
    cases defined
    exact member

theorem GrowsTo.resolve_eq (growth : registry.GrowsTo grown) (wellFormed : registry.WellFormed)
    (grownFormed : grown.WellFormed) (defined : registry.definition? id = some definition)
    {arguments : List ResolvedType} {resolver : Resolver}
    (made : registry.resolver id arguments = .ok resolver) {field : FieldDefinition}
    (meets : registry.Meets field) :
    (resolver.moveTo grown).resolve field = resolver.resolve field := by
  rcases (resolver_eq_ok_iff defined).mp made with ⟨sameRegistry, sameDefinition, -, -⟩
  by_cases declared : field.isDeclaredOn definition = true
  · have own := meets.mem_of_isDeclaredOn wellFormed defined declared
    have holds := wellFormed.holds defined
    have grownHolds := grownFormed.holds (growth.definition?_eq defined)
    rw [← sameDefinition] at own holds grownHolds
    rw [← sameRegistry] at growth holds
    rw [resolver.resolve_eq_substitute (by rw [holds.id_eq]; exact holds) own,
      (resolver.moveTo grown).resolve_eq_substitute
        (by rw [Resolver.moveTo, holds.id_eq]; exact grownHolds) own]
    exact growth.substitute_eq (holds.types_fit field own) fun _ parameter =>
      resolver.bound?_eq_some parameter
  · -- The refusal names the class and the field and has nothing of the registry.
    rw [← sameDefinition] at declared
    rw [Resolver.resolve, Resolver.resolve]
    exact (if_neg declared).trans (if_neg declared).symm

/-! ## A registry and what it grows into -/

/-- What was there before is there still, and what was asked before has the same answer:
the names of ids and the ids of names, the definitions, the resolvers of defined classes or
the reasons why there are none, the outcome of every field, and the types that texts of
type arguments stand for. -/
structure Keeps (registry grown : Registry) : Prop where
  nameOf?_eq : ∀ id name, registry.nameOf? id = some name → grown.nameOf? id = some name
  idOf?_eq : ∀ name id, registry.idOf? name = some id → grown.idOf? name = some id
  definition?_eq : ∀ id definition, registry.definition? id = some definition →
    grown.definition? id = some definition
  size_le : registry.size ≤ grown.size
  resolver_eq : ∀ id, registry.isDefined id = true → ∀ arguments,
    grown.resolver id arguments = (registry.resolver id arguments).map (·.moveTo grown)
  resolve_eq : ∀ id, registry.isDefined id = true → ∀ arguments resolver,
    registry.resolver id arguments = .ok resolver → ∀ field, registry.Meets field →
      (resolver.moveTo grown).resolve field = resolver.resolve field
  concretize_eq : ∀ type result, registry.concretize type = .ok result →
    grown.concretize type = .ok result

theorem GrowsTo.keeps (growth : registry.GrowsTo grown) (wellFormed : registry.WellFormed)
    (grownFormed : grown.WellFormed) : registry.Keeps grown where
  nameOf?_eq _ _ := growth.nameOf?_eq
  idOf?_eq _ _ := growth.idOf?_eq wellFormed.indexed grownFormed.indexed
  definition?_eq _ _ := growth.definition?_eq
  size_le := growth.size_le
  resolver_eq id isDefined arguments := by
    rcases Option.isSome_iff_exists.mp isDefined with ⟨definition, defined⟩
    exact growth.resolver_eq defined arguments
  resolve_eq id isDefined arguments resolver made field meets := by
    rcases Option.isSome_iff_exists.mp isDefined with ⟨definition, defined⟩
    exact growth.resolve_eq wellFormed grownFormed defined made meets
  concretize_eq type result concrete :=
    substitute_mono (fun _ _ => growth.arity?_eq) (fun _ _ bound => bound) _ concrete

/-- However many names and batches come after, accepted or refused. -/
theorem Reachable.keeps_foldl_change (reachable : registry.Reachable)
    (requests : List Change) :
    registry.Keeps (requests.foldl Registry.change registry) := by
  rcases reachable.wellFormed.foldl_change requests with ⟨grownFormed, growth⟩
  exact growth.keeps reachable.wellFormed grownFormed

/-! The family goes on with a name, with a batch that is refused for its second class, and
with a batch that takes the name. -/

def familyPet : ClassDeclaration where
  name := "family.Pet"
  parameters := []
  fields := [⟨"owner", .parameterized ⟨18⟩ [.plain ⟨19⟩]⟩]

def familyRequests : List Change :=
  [.intern "family.Pet", .define [familyPet, familyChild], .define [familyPet]]

/-- Its own fields and those of its copy are at hand for the family. -/
theorem family_meets :
    (∀ field ∈ (definitionOf ⟨0⟩ ⟨17⟩ familyChild).fields, family.Meets field) ∧
      ∀ field ∈ (definitionOf ⟨1⟩ ⟨17⟩ familyChild).fields, family.Meets field := by
  have copied : (family.copy ⟨1⟩).definition? ⟨17⟩ =
      some (definitionOf ⟨1⟩ ⟨17⟩ familyChild) := by decide +kernel
  have different : (family.copy ⟨1⟩).identity ≠ family.identity := by decide +kernel
  exact ⟨fun field member => ⟨family, family_reachable.wellFormed,
      fun _ => .inl (.refl family), _, _, definition?_familyChild, member⟩,
    fun field member => ⟨family.copy ⟨1⟩, (family_reachable.copy ⟨1⟩).wellFormed,
      fun same => absurd same different, _, _, copied, member⟩⟩

theorem keeps_foldl_change_of_family :
    family.Reachable ∧ family.size = 19 ∧
      (familyRequests.foldl change family).size = 20 ∧
      (∀ field ∈ (definitionOf ⟨0⟩ ⟨17⟩ familyChild).fields, family.Meets field) ∧
      family.Keeps (familyRequests.foldl change family) :=
  ⟨family_reachable, by decide +kernel, by decide +kernel, family_meets.1,
    Reachable.keeps_foldl_change family_reachable familyRequests⟩

end Registry

namespace Chronicle

/-- Every field that a program takes from any of its registries, at whatever time, is at
hand for every other one in this sense. -/
theorem meets_after_take {requests : List Workspace.Request} {first second : Nat}
    {name other : String} {registry owner : Registry} {id : ClassId}
    {definition : ClassDefinition} {field : FieldDefinition}
    (stands : Workspace.registry? (after (requests.take first)).workspace name = some registry)
    (taken : Workspace.registry? (after (requests.take second)).workspace other = some owner)
    (defined : owner.definition? id = some definition) (member : field ∈ definition.fields) :
    registry.Meets field := by
  refine ⟨owner, (sound_after _).wellFormed taken, ?_, id, definition, defined, member⟩
  intro same
  have births := (identity_eq_iff_birth_eq taken stands).mp same
  rcases Nat.le_total first second with ordered | ordered
  · exact .inl ((follows_after_take requests ordered).growsTo stands taken births.symm)
  · exact .inr ((follows_after_take requests ordered).growsTo taken stands births)

end Chronicle

end FieldTypes
