import FieldTypes.Proofs.Registry.Faults
import FieldTypes.Proofs.Registry.Mirror
import FieldTypes.Proofs.Sequences

/-! The order of a batch.  Once all names of a batch have their places, the order of
its declarations decides neither whether it is stored nor what is stored, and so two
registries that mirror each other still do after the same batch in any order. -/

namespace FieldTypes.Registry

variable {registry left right grown : Registry} {change : ClassId → ClassId}
  {batch others : List ClassDeclaration} {ids : List ClassId}

theorem define_eq_ok_iff_accepts :
    registry.define batch = .ok (grown, ids) ↔
      registry.Accepts batch ∧ batch.foldl store registry = grown ∧
        (registry.planned batch).map (·.1) = ids := by
  rw [define_eq_report, report_eq_ok_iff, faults_eq_nil_iff, Prod.mk.injEq]

/-- The references of a batch may be judged by the registry that holds it. -/
theorem Indexed.accepts_iff (indexed : registry.Indexed) :
    registry.Accepts batch ↔ registry.Fresh batch ∧
      ∀ declaration ∈ batch,
        declaration.Fits (batch.foldl Registry.store registry).arity? := by
  have arities : registry.Fresh batch →
      registry.arityWith? batch = (batch.foldl Registry.store registry).arity? := by
    intro fresh
    rw [← fresh.parameterCount?_planned,
      ← indexed.parameterCount?_plan (plan_eq_ok_iff.mpr ⟨fresh, rfl⟩)]
    exact congrArg registry.parameterCount?
      (List.zip_of_prod rfl (map_snd_planned registry batch))
  constructor
  · intro accepted
    exact ⟨accepted.fresh, arities accepted.fresh ▸ accepted.fit⟩
  · intro parts
    rcases parts with ⟨fresh, fit⟩
    exact ⟨fresh.names_nodup, fresh.undefined, (arities fresh).symm ▸ fit⟩

/-- What comes of a batch, in terms of storing alone. -/
theorem Indexed.define_eq_ok_iff (indexed : registry.Indexed) :
    registry.define batch = .ok (grown, ids) ↔
      registry.Fresh batch ∧ (∀ declaration ∈ batch, declaration.Fits grown.arity?) ∧
        batch.foldl Registry.store registry = grown ∧ registry.storedIds batch = ids := by
  rw [define_eq_ok_iff_accepts, indexed.accepts_iff]
  constructor
  · intro parts
    rcases parts with ⟨⟨fresh, fit⟩, rfl, rfl⟩
    exact ⟨fresh, fit, rfl, (plan_eq_storedIds (plan_eq_ok_iff.mpr ⟨fresh, rfl⟩)).symm⟩
  · intro parts
    rcases parts with ⟨fresh, fit, rfl, rfl⟩
    exact ⟨⟨fresh, fit⟩, rfl, plan_eq_storedIds (plan_eq_ok_iff.mpr ⟨fresh, rfl⟩)⟩

/-! ## Names -/

theorem isSome_idOf?_foldl_store (batch : List ClassDeclaration) (registry : Registry)
    (name : String) :
    ((batch.foldl store registry).idOf? name).isSome = true ↔
      (registry.idOf? name).isSome = true ∨ name ∈ batch.map (·.name) := by
  induction batch generalizing registry with
  | nil => simp
  | cons declaration rest induction =>
      rw [List.foldl_cons, induction, idOf?_store, isSome_idOf?_intern, List.map_cons,
        List.mem_cons, or_assoc]

section

variable (known : ∀ declaration ∈ batch, (registry.idOf? declaration.name).isSome = true)

include known

/-- Storing classes under known names leaves the index as it is. -/
theorem places_foldl_store_of_known : (batch.foldl store registry).places = registry.places := by
  induction batch generalizing registry with
  | nil => rfl
  | cons declaration rest induction =>
      rcases List.forall_mem_cons.mp known with ⟨first, later⟩
      rcases Option.isSome_iff_exists.mp first with ⟨id, found⟩
      have unchanged : (registry.store declaration).places = registry.places := by
        rw [store_eq, intern_of_known found]
      have sameIds : (registry.store declaration).idOf? = registry.idOf? :=
        funext fun name => congrArg (List.lookup name) unchanged
      rw [List.foldl_cons, induction (by rwa [sameIds]), unchanged]

theorem idOf?_foldl_store_of_known (name : String) :
    (batch.foldl store registry).idOf? name = registry.idOf? name :=
  congrArg (List.lookup name) (places_foldl_store_of_known known)

end

/-! ## The same batch in another order and in another registry -/

section

variable (perm : (batch.map (·.renumber change)).Perm others)

include perm

theorem exists_original_of_perm {declaration : ClassDeclaration} (member : declaration ∈ others) :
    ∃ original ∈ batch, original.renumber change = declaration :=
  List.mem_map.mp (perm.mem_iff.mpr member)

theorem Fresh.mirror (fresh : left.Fresh batch) (mirrors : Mirrors change left right) :
    right.Fresh others where
  names_nodup := by
    rw [← (perm.map (·.name)).nodup_iff, List.map_map]
    exact fresh.names_nodup
  undefined := by
    intro declaration member id known
    rcases exists_original_of_perm perm member with ⟨original, within, rfl⟩
    rcases Option.map_eq_some_iff.mp ((mirrors.idOf?_eq original.name).symm.trans known) with
      ⟨originalId, originalKnown, rfl⟩
    rw [mirrors.definition?_eq, fresh.undefined original within originalId originalKnown,
      Option.map_none]

variable (known : ∀ declaration ∈ batch, (left.idOf? declaration.name).isSome = true)

include known

theorem SameNames.foldl_store (same : SameNames change left right) :
    SameNames change (batch.foldl store left) (others.foldl store right) := by
  apply same.of_idOf?_eq (same.left_indexed.foldl_store batch)
    (same.right_indexed.foldl_store others) (idOf?_foldl_store_of_known known)
  apply idOf?_foldl_store_of_known
  intro declaration member
  rcases exists_original_of_perm perm member with ⟨original, within, rfl⟩
  exact (same.isSome_idOf? original.name).trans (known original within)

/-- What is stored in both registries differs in the ids alone. -/
theorem Mirrors.foldl_store (mirrors : Mirrors change left right) (fresh : left.Fresh batch) :
    Mirrors change (batch.foldl store left) (others.foldl store right) where
  toSameNames := mirrors.toSameNames.foldl_store perm known
  definition?_eq := by
    have same := mirrors.toSameNames.foldl_store perm known
    have otherFresh := fresh.mirror perm mirrors
    -- A definition is an old one or comes from a declaration, and each of the two kinds
    -- has its counterpart: the order of the declarations does not enter.
    intro id
    apply Option.ext
    intro definition
    rw [mirrors.right_indexed.definition?_foldl_store_eq_some_iff otherFresh.names_nodup
      otherFresh.storedIds_undefined, mirrors.definition?_eq, identity_foldl_store,
      Option.map_eq_some_iff, Option.map_eq_some_iff]
    simp only [mirrors.left_indexed.definition?_foldl_store_eq_some_iff fresh.names_nodup
      fresh.storedIds_undefined]
    constructor
    · intro parts
      rcases parts with ⟨original, earlier, rfl⟩ | ⟨declaration, member, found, rfl⟩
      · exact ⟨original, .inl earlier, rfl⟩
      · rcases exists_original_of_perm perm member with ⟨original, within, rfl⟩
        exact ⟨_, .inr ⟨original, within, same.idOf?_eq_change_iff.mp found, rfl⟩,
          renumber_definitionOf change left.identity right.identity id original⟩
    · intro parts
      rcases parts with ⟨_, earlier | ⟨original, within, found, rfl⟩, rfl⟩
      · exact .inl ⟨_, earlier, rfl⟩
      · exact .inr ⟨original.renumber change, perm.mem_iff.mp (List.mem_map_of_mem within),
          same.idOf?_eq_change_iff.mpr found,
          (renumber_definitionOf change left.identity right.identity id original).symm⟩

theorem Accepts.mirror (accepted : left.Accepts batch) (mirrors : Mirrors change left right) :
    right.Accepts others := by
  rcases mirrors.left_indexed.accepts_iff.mp accepted with ⟨fresh, fit⟩
  rw [mirrors.right_indexed.accepts_iff]
  refine ⟨fresh.mirror perm mirrors, ?_⟩
  intro declaration member
  rcases exists_original_of_perm perm member with ⟨original, within, rfl⟩
  rw [ClassDeclaration.fits_renumber,
    funext (mirrors.foldl_store perm known fresh).arity?_eq]
  exact fit original within

end

/-! ## The same batch in another order -/

section

variable (perm : batch.Perm others)

include perm

theorem Fresh.of_perm (fresh : registry.Fresh batch) : registry.Fresh others where
  names_nodup := (perm.map (·.name)).nodup_iff.mp fresh.names_nodup
  undefined declaration member := fresh.undefined declaration (perm.mem_iff.mpr member)

variable (known : ∀ declaration ∈ batch, (registry.idOf? declaration.name).isSome = true)

include known

/-- Each class is written to the slot that its name already has, and no two to the same. -/
theorem Indexed.foldl_store_perm (indexed : registry.Indexed) (fresh : registry.Fresh batch) :
    others.foldl Registry.store registry = batch.foldl Registry.store registry := by
  have otherKnown : ∀ declaration ∈ others,
      (registry.idOf? declaration.name).isSome = true :=
    fun declaration member => known declaration (perm.mem_iff.mpr member)
  have otherFresh := fresh.of_perm perm
  have batchIds := idOf?_foldl_store_of_known known
  have otherIds := idOf?_foldl_store_of_known otherKnown
  apply eq_of_lookups
  · rw [identity_foldl_store, identity_foldl_store]
  · rw [places_foldl_store_of_known known, places_foldl_store_of_known otherKnown]
  · intro id
    rw [indexed.nameOf?_eq (indexed.foldl_store batch) batchIds,
      indexed.nameOf?_eq (indexed.foldl_store others) otherIds]
  · intro id
    apply Option.ext
    intro definition
    rw [indexed.definition?_foldl_store_eq_some_iff otherFresh.names_nodup
      otherFresh.storedIds_undefined, indexed.definition?_foldl_store_eq_some_iff
      fresh.names_nodup fresh.storedIds_undefined]
    simp only [batchIds, otherIds, perm.mem_iff]

theorem Indexed.define_perm (indexed : registry.Indexed)
    (defined : registry.define batch = .ok (grown, ids)) :
    registry.define others = .ok (grown, registry.storedIds others) := by
  rw [indexed.define_eq_ok_iff] at defined ⊢
  rcases defined with ⟨fresh, fit, stored, -⟩
  exact ⟨fresh.of_perm perm, fun declaration member => fit declaration (perm.mem_iff.mpr member),
    (indexed.foldl_store_perm perm known fresh).trans stored, rfl⟩

omit perm in
/-- Every class gets the id that its name had before. -/
theorem Indexed.map_some_of_define (indexed : registry.Indexed)
    (defined : registry.define batch = .ok (grown, ids)) :
    ids.map some = batch.map fun declaration => registry.idOf? declaration.name := by
  rcases indexed.define_eq_ok_iff.mp defined with ⟨-, -, -, rfl⟩
  rw [indexed.map_some_storedIds]
  simp only [idOf?_foldl_store_of_known known]

end

/-- A batch whose names all have their ids is accepted in every order or in none.  The order
changes neither the registry that it leaves nor the id of any class. -/
theorem Reachable.define_in_any_order (reachable : registry.Reachable)
    (known : ∀ declaration ∈ batch, (registry.idOf? declaration.name).isSome = true)
    (perm : batch.Perm others) :
    ((∃ grown ids, registry.define batch = .ok (grown, ids)) ↔
        ∃ grown ids, registry.define others = .ok (grown, ids)) ∧
      ∀ grown ids otherGrown otherIds, registry.define batch = .ok (grown, ids) →
        registry.define others = .ok (otherGrown, otherIds) →
        grown = otherGrown ∧ (ids.zip batch).Perm (otherIds.zip others) ∧
          (ids.map some = batch.map fun declaration => registry.idOf? declaration.name) ∧
          otherIds.map some = others.map fun declaration => registry.idOf? declaration.name := by
  have indexed := reachable.wellFormed.indexed
  have otherKnown : ∀ declaration ∈ others,
      (registry.idOf? declaration.name).isSome = true :=
    fun declaration member => known declaration (perm.mem_iff.mpr member)
  refine ⟨⟨?_, ?_⟩, ?_⟩
  · rintro ⟨grown, ids, defined⟩
    exact ⟨grown, _, indexed.define_perm perm known defined⟩
  · rintro ⟨grown, ids, defined⟩
    exact ⟨grown, _, indexed.define_perm perm.symm otherKnown defined⟩
  · intro grown ids otherGrown otherIds defined otherDefined
    have same := (indexed.define_perm perm known defined).symm.trans otherDefined
    rw [Except.ok.injEq, Prod.mk.injEq] at same
    have here := indexed.map_some_of_define known defined
    have there := indexed.map_some_of_define otherKnown otherDefined
    exact ⟨same.1, zip_perm_of_map_some perm here there, here, there⟩

/-- The names of the family, before it has any classes. -/
def familyNames : Registry :=
  ((withBuiltIns ⟨0⟩).change (.intern "family.Child")).change (.intern "family.Parent")

/-- The two classes mention each other, and each may come first. -/
theorem define_in_any_order_of_family :
    familyNames.Reachable ∧
      (∀ declaration ∈ [familyParent, familyChild],
        (familyNames.idOf? declaration.name).isSome = true) ∧
      [familyParent, familyChild].Perm [familyChild, familyParent] ∧
      (familyNames.define [familyParent, familyChild]).map (·.2) = .ok [⟨18⟩, ⟨17⟩] ∧
      ((∃ grown ids, familyNames.define [familyParent, familyChild] = .ok (grown, ids)) ↔
        ∃ grown ids, familyNames.define [familyChild, familyParent] = .ok (grown, ids)) ∧
      ∀ grown ids otherGrown otherIds,
        familyNames.define [familyParent, familyChild] = .ok (grown, ids) →
        familyNames.define [familyChild, familyParent] = .ok (otherGrown, otherIds) →
        grown = otherGrown ∧
          (ids.zip [familyParent, familyChild]).Perm
            (otherIds.zip [familyChild, familyParent]) ∧
          (ids.map some = [familyParent, familyChild].map fun declaration =>
            familyNames.idOf? declaration.name) ∧
          otherIds.map some = [familyChild, familyParent].map fun declaration =>
            familyNames.idOf? declaration.name := by
  have reachable : familyNames.Reachable := .change _ (.change _ (.withBuiltIns _))
  have known : ∀ declaration ∈ [familyParent, familyChild],
      (familyNames.idOf? declaration.name).isSome = true := by decide +kernel
  have perm : [familyParent, familyChild].Perm [familyChild, familyParent] := .swap ..
  exact ⟨reachable, known, perm, by decide +kernel,
    Reachable.define_in_any_order reachable known perm⟩

end FieldTypes.Registry
