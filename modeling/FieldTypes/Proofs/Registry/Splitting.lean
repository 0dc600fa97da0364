import FieldTypes.Proofs.Expression.Origins
import FieldTypes.Proofs.Registry.Growth
import FieldTypes.Proofs.Registry.Order

/-! A batch in two parts.  The second part finds the classes of the first one in the
registry, where the whole batch would find them in itself, and it comes to the same.  Only
what the first part wants of the second cannot be had before it. -/

namespace FieldTypes

/-! ## Classes that a declaration mentions -/

namespace DeclaredType

variable {arity? other? : ClassId → Option Nat} {parameters : List String} {type : DeclaredType}

/-- A type that fits mentions classes in sight and type parameters. -/
theorem Fits.within (fits : type.Fits arity? parameters) :
    type.Within (fun id => (arity? id).isSome = true) (· ∈ parameters) := by
  intro node member
  have nodeFits := fits node member
  cases node with
  | plain id => exact nodeFits
  | parameterized raw arguments => exact Option.isSome_of_eq_some nodeFits
  | typeVariable name => exact nodeFits
  | primitive _ | array _ | anyWildcard | extendsWildcard _ | superWildcard _ => trivial

/-- Whether a type fits depends on the classes that it mentions. -/
theorem Fits.of_within {classes : ClassId → Prop} {variableNames : String → Prop}
    (fits : type.Fits arity? parameters) (within : type.Within classes variableNames)
    (agree : ∀ id, classes id → other? id = arity? id) : type.Fits other? parameters := by
  intro node member
  have nodeFits := fits node member
  have nodeWithin := within node member
  cases node with
  | plain id => rwa [NodeFits, agree id nodeWithin]
  | parameterized raw arguments => rwa [NodeFits, agree raw nodeWithin]
  | typeVariable name => exact nodeFits
  | primitive _ | array _ | anyWildcard | extendsWildcard _ | superWildcard _ => trivial

end DeclaredType

/-- A declaration whose field types mention no other classes than these. -/
def ClassDeclaration.MentionsOnly (classes : ClassId → Prop)
    (declaration : ClassDeclaration) : Prop :=
  ∀ field ∈ declaration.fields, field.type.Within classes fun _ => True

theorem ClassDeclaration.Fits.of_mentionsOnly {arity? other? : ClassId → Option Nat}
    {classes : ClassId → Prop} {declaration : ClassDeclaration} (fits : declaration.Fits arity?)
    (mentions : declaration.MentionsOnly classes)
    (agree : ∀ id, classes id → other? id = arity? id) :
    declaration.Fits other? where
  parameters_nodup := fits.parameters_nodup
  fieldNames_nodup := fits.fieldNames_nodup
  types_fit field member := (fits.types_fit field member).of_within (mentions field member) agree

namespace Registry

variable {registry grown last : Registry} {first second batch : List ClassDeclaration}
  {ids : List ClassId} {id : ClassId}

/-! ## Fresh names -/

/-- The id that a fresh name has in the end was nobody's before. -/
theorem Fresh.undefined_of_growsTo (fresh : registry.Fresh batch) (indexed : registry.Indexed)
    (grownIndexed : grown.Indexed) (growth : registry.GrowsTo grown)
    {declaration : ClassDeclaration} (member : declaration ∈ batch)
    (known : grown.idOf? declaration.name = some id) : registry.definition? id = none := by
  rw [Option.eq_none_iff_forall_ne_some]
  intro definition defined
  rcases exists_nameOf?_of_definition? defined with ⟨name, named⟩
  rw [grownIndexed.idOf?_iff, growth.nameOf?_eq named, Option.some.injEq] at known
  rw [known, ← indexed.idOf?_iff] at named
  rw [fresh.undefined declaration member id named] at defined
  cases defined

theorem Fresh.of_append (fresh : registry.Fresh (first ++ second)) :
    registry.Fresh first ∧ registry.Fresh second ∧
      (first.map (·.name)).Disjoint (second.map (·.name)) := by
  have nodup := fresh.names_nodup
  rw [List.map_append, List.nodup_append'] at nodup
  exact ⟨⟨nodup.1, fun declaration member =>
      fresh.undefined declaration (List.mem_append_left _ member)⟩,
    ⟨nodup.2.1, fun declaration member =>
      fresh.undefined declaration (List.mem_append_right _ member)⟩,
    nodup.2.2⟩

/-- The names of the second part are still fresh when the first part is stored. -/
theorem Indexed.fresh_foldl_store (indexed : registry.Indexed) (fresh : registry.Fresh first)
    (others : registry.Fresh second)
    (disjoint : (first.map (·.name)).Disjoint (second.map (·.name))) :
    (first.foldl Registry.store registry).Fresh second where
  names_nodup := others.names_nodup
  undefined := by
    have growth := GrowsTo.foldl_store indexed fresh.storedIds_undefined
    have grownIndexed := indexed.foldl_store first
    intro declaration member id known
    rw [Option.eq_none_iff_forall_ne_some]
    intro definition defined
    rw [indexed.definition?_foldl_store_eq_some_iff fresh.names_nodup
      fresh.storedIds_undefined] at defined
    rcases defined with before | ⟨other, otherMember, otherKnown, -⟩
    · rw [others.undefined_of_growsTo indexed grownIndexed growth member known] at before
      cases before
    · rw [grownIndexed.idOf?_iff] at known otherKnown
      have same := Option.some.inj (otherKnown.symm.trans known)
      exact disjoint (List.mem_map_of_mem otherMember) (same ▸ List.mem_map_of_mem member)

/-- Names that are fresh once the first part is stored are not those of the first part. -/
theorem Indexed.fresh_append (indexed : registry.Indexed) (fresh : registry.Fresh first)
    (others : (first.foldl Registry.store registry).Fresh second) :
    registry.Fresh (first ++ second) where
  names_nodup := by
    rw [List.map_append, List.nodup_append']
    refine ⟨fresh.names_nodup, others.names_nodup, ?_⟩
    intro name inFirst inSecond
    have known := (isSome_idOf?_foldl_store first registry name).mpr (.inr inFirst)
    rcases Option.isSome_iff_exists.mp known with ⟨id, found⟩
    rcases List.mem_map.mp inFirst with ⟨declaration, member, rfl⟩
    rcases List.mem_map.mp inSecond with ⟨other, otherMember, same⟩
    have defined := (indexed.definition?_foldl_store_eq_some_iff fresh.names_nodup
      fresh.storedIds_undefined).mpr (.inr ⟨declaration, member, found, rfl⟩)
    rw [others.undefined other otherMember id (same ▸ found)] at defined
    cases defined
  undefined := by
    have growth := GrowsTo.foldl_store indexed fresh.storedIds_undefined
    intro declaration member id known
    rcases List.mem_append.mp member with inFirst | inSecond
    · exact fresh.undefined declaration inFirst id known
    · have undefined := others.undefined declaration inSecond id
        (growth.idOf?_eq indexed (indexed.foldl_store first) known)
      rw [Option.eq_none_iff_forall_ne_some] at undefined ⊢
      exact fun definition defined => undefined definition (growth.definition?_eq defined)

/-! ## Two batches in a row -/

/-- Classes that no declaration of a batch is stored under keep their type parameters. -/
theorem Indexed.arity?_foldl_store_of_unnamed (indexed : registry.Indexed)
    (unnamed : ∀ declaration ∈ batch,
      (batch.foldl Registry.store registry).idOf? declaration.name ≠ some id) :
    (batch.foldl Registry.store registry).arity? id = registry.arity? id := by
  have elsewhere : id ∉ registry.storedIds batch := by
    rw [indexed.mem_storedIds_iff]
    rintro ⟨declaration, member, known⟩
    exact unnamed declaration member known
  rw [arity?, indexed.definition?_foldl_store_of_not_mem elsewhere, arity?]

/-- A batch whose first part does without the second one can be defined in two parts, and two
batches that can be defined one after the other are one batch of this kind. -/
theorem Indexed.define_append_iff (indexed : registry.Indexed) :
    (registry.define (first ++ second) = .ok (last, ids) ∧
        ∀ declaration ∈ first, declaration.MentionsOnly fun id =>
          ∀ other ∈ second, last.idOf? other.name ≠ some id) ↔
      ∃ middle earlier later, registry.define first = .ok (middle, earlier) ∧
        middle.define second = .ok (last, later) ∧ earlier ++ later = ids := by
  have middleIndexed := indexed.foldl_store first
  constructor
  · rintro ⟨defined, apart⟩
    rcases indexed.define_eq_ok_iff.mp defined with ⟨fresh, fit, stored, rfl⟩
    rcases fresh.of_append with ⟨freshFirst, freshSecond, disjoint⟩
    rw [List.foldl_append] at stored
    have fitFirst : ∀ declaration ∈ first,
        declaration.Fits (first.foldl Registry.store registry).arity? := by
      intro declaration member
      have fits := fit declaration (List.mem_append_left _ member)
      subst stored
      exact fits.of_mentionsOnly (apart declaration member) fun id unnamed =>
        (middleIndexed.arity?_foldl_store_of_unnamed unnamed).symm
    refine ⟨_, _, _, indexed.define_eq_ok_iff.mpr ⟨freshFirst, fitFirst, rfl, rfl⟩,
      middleIndexed.define_eq_ok_iff.mpr ⟨?_, ?_, stored, rfl⟩,
      (storedIds_append registry first second).symm⟩
    · exact indexed.fresh_foldl_store freshFirst freshSecond disjoint
    · exact fun declaration member => fit declaration (List.mem_append_right _ member)
  · rintro ⟨middle, earlier, later, definedFirst, definedSecond, rfl⟩
    rcases indexed.define_eq_ok_iff.mp definedFirst with ⟨freshFirst, fitFirst, rfl, rfl⟩
    rcases middleIndexed.define_eq_ok_iff.mp definedSecond with
      ⟨freshSecond, fitSecond, rfl, rfl⟩
    have growth := GrowsTo.foldl_store middleIndexed freshSecond.storedIds_undefined
    constructor
    · rw [indexed.define_eq_ok_iff, List.foldl_append, storedIds_append, List.forall_mem_append]
      refine ⟨indexed.fresh_append freshFirst freshSecond, ⟨?_, fitSecond⟩, rfl, rfl⟩
      exact fun declaration member =>
        (fitFirst declaration member).mono fun _ _ => growth.arity?_eq
    · intro declaration member field inside
      refine ((fitFirst declaration member).types_fit field inside).within.mono ?_
        fun _ _ => trivial
      intro id known other otherMember found
      rw [arity?, freshSecond.undefined_of_growsTo middleIndexed
        (middleIndexed.foldl_store second) growth otherMember found] at known
      cases known

/-! ## One class after the other -/

/-- Defines classes one by one, up to the first that has a fault. -/
def defineEach (registry : Registry) :
    List ClassDeclaration → Except DefinitionError (Registry × List ClassId)
  | [] => .ok (registry, [])
  | declaration :: rest =>
      match registry.defineClass declaration with
      | .error error => .error error
      | .ok (grown, id) =>
          (grown.defineEach rest).map fun result => (result.1, id :: result.2)

theorem Indexed.define_of_defineEach (indexed : registry.Indexed)
    (passed : registry.defineEach batch = .ok (last, ids)) :
    registry.define batch = .ok (last, ids) := by
  induction batch generalizing registry ids with
  | nil => exact passed
  | cons declaration rest induction =>
      rw [defineEach] at passed
      split at passed
      · cases passed
      · next grown id defined =>
          rw [defineClass_eq_ok_iff] at defined
          have grownIndexed : grown.Indexed := by
            rcases indexed.define_eq_ok_iff.mp defined with ⟨-, -, rfl, -⟩
            exact indexed.foldl_store [declaration]
          cases others : grown.defineEach rest with
          | error error =>
              rw [others] at passed
              cases passed
          | ok result =>
              rw [others] at passed
              cases passed
              exact (indexed.define_append_iff.mpr
                ⟨grown, [id], result.2, defined, induction grownIndexed others, rfl⟩).1

/-- Two batches that are accepted one after the other are accepted as one, with the same ids
and the same registry in the end.  They can be told apart again as long as no field of the
first mentions a class of the second.  Classes that are accepted one by one are accepted
together. -/
theorem Reachable.define_in_parts (reachable : registry.Reachable) :
    (∀ first second last ids,
      (registry.define (first ++ second) = .ok (last, ids) ∧
          ∀ declaration ∈ first, declaration.MentionsOnly fun id =>
            ∀ other ∈ second, last.idOf? other.name ≠ some id) ↔
        ∃ middle earlier later, registry.define first = .ok (middle, earlier) ∧
          middle.define second = .ok (last, later) ∧ earlier ++ later = ids) ∧
      ∀ batch last ids, registry.defineEach batch = .ok (last, ids) →
        registry.define batch = .ok (last, ids) :=
  have indexed := reachable.wellFormed.indexed
  ⟨fun _ _ _ _ => indexed.define_append_iff, fun _ _ _ => indexed.define_of_defineEach⟩

def familyToy : ClassDeclaration where
  name := "family.Toy"
  parameters := []
  fields := [⟨"owner", .array (.plain ⟨19⟩)⟩]

/-- A pet comes into the family, and then its toy. -/
theorem define_in_parts_of_family :
    family.Reachable ∧
      (family.defineEach [familyPet, familyToy]).map (·.2) = .ok [⟨19⟩, ⟨20⟩] ∧
      (∀ first second last ids,
        (family.define (first ++ second) = .ok (last, ids) ∧
            ∀ declaration ∈ first, declaration.MentionsOnly fun id =>
              ∀ other ∈ second, last.idOf? other.name ≠ some id) ↔
          ∃ middle earlier later, family.define first = .ok (middle, earlier) ∧
            middle.define second = .ok (last, later) ∧ earlier ++ later = ids) ∧
      ∀ batch last ids, family.defineEach batch = .ok (last, ids) →
        family.define batch = .ok (last, ids) :=
  ⟨family_reachable, by decide +kernel, Reachable.define_in_parts family_reachable⟩

end Registry

end FieldTypes
