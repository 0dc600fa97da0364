import FieldTypes.Registry.Definition

/-! What interning a name and storing a class change, as the look-ups of a
registry see it.  Everything later is said in terms of `nameOf?`, `idOf?` and
`definition?` alone. -/

namespace FieldTypes.Registry

variable {registry : Registry} {name : String} {id : ClassId}

/-- The index and the slots are two sides of one numbering of the names. -/
structure Indexed (registry : Registry) : Prop where
  length_places : registry.places.length = registry.slots.length
  idOf?_iff : ∀ {name : String} {id : ClassId},
    registry.idOf? name = some id ↔ registry.nameOf? id = some name

theorem nameOf?_isSome_iff :
    (registry.nameOf? id).isSome = true ↔ id.index < registry.slots.length := by
  rw [nameOf?, Option.isSome_map, isSome_getElem?]

theorem index_lt_of_nameOf? (named : registry.nameOf? id = some name) :
    id.index < registry.slots.length :=
  nameOf?_isSome_iff.mp (Option.isSome_of_eq_some named)

theorem definition?_eq_none_of_le (beyond : registry.slots.length ≤ id.index) :
    registry.definition? id = none := by
  rw [definition?, List.getElem?_eq_none beyond, Option.bind_none]

theorem exists_nameOf?_of_definition? {definition : ClassDefinition}
    (defined : registry.definition? id = some definition) :
    ∃ name, registry.nameOf? id = some name := by
  rw [← Option.isSome_iff_exists, nameOf?_isSome_iff, ← Nat.not_le]
  intro beyond
  rw [definition?_eq_none_of_le beyond] at defined
  cases defined

theorem Indexed.index_lt (indexed : registry.Indexed)
    (known : registry.idOf? name = some id) : id.index < registry.slots.length :=
  index_lt_of_nameOf? (indexed.idOf?_iff.mp known)

/-- A name is never given to two classes. -/
theorem Indexed.eq_of_nameOf? (indexed : registry.Indexed) {other : ClassId}
    (named : registry.nameOf? id = some name) (otherNamed : registry.nameOf? other = some name) :
    id = other :=
  Option.some.inj
    ((indexed.idOf?_iff.mpr named).symm.trans (indexed.idOf?_iff.mpr otherNamed))

/-- There is nothing to a registry besides its identity, its index and what the look-ups
see. -/
theorem eq_of_lookups {left right : Registry} (identity : left.identity = right.identity)
    (places : left.places = right.places)
    (names : ∀ id, left.nameOf? id = right.nameOf? id)
    (definitions : ∀ id, left.definition? id = right.definition? id) : left = right := by
  have slots : left.slots = right.slots := by
    apply List.ext_getElem?
    intro index
    have name := names ⟨index⟩
    have definition := definitions ⟨index⟩
    rw [nameOf?, nameOf?] at name
    rw [definition?, definition?] at definition
    cases leftSlot : left.slots[index]? with
    | none =>
        rw [leftSlot, Option.map_none, eq_comm, Option.map_eq_none_iff] at name
        exact name.symm
    | some slot =>
        rw [leftSlot, Option.map_some, eq_comm, Option.map_eq_some_iff] at name
        rcases name with ⟨other, rightSlot, same⟩
        rw [leftSlot, rightSlot, Option.bind_some, Option.bind_some] at definition
        rw [rightSlot, Option.some.injEq, Slot.mk.injEq]
        exact ⟨same.symm, definition⟩
  cases left
  cases right
  rw [mk.injEq]
  exact ⟨identity, slots, places⟩

/-! ## Interning -/

theorem intern_of_known (known : registry.idOf? name = some id) :
    registry.intern name = (registry, id) := by
  simp only [intern, known]

theorem intern_of_unknown (unknown : registry.idOf? name = none) :
    registry.intern name =
      ({ registry with
          slots := registry.slots ++ [⟨name, none⟩]
          places := (name, ⟨registry.slots.length⟩) :: registry.places },
        ⟨registry.slots.length⟩) := by
  simp only [intern, unknown]

@[simp] theorem identity_intern (registry : Registry) (name : String) :
    (registry.intern name).1.identity = registry.identity := by
  cases known : registry.idOf? name with
  | some id => rw [intern_of_known known]
  | none => rw [intern_of_unknown known]

theorem idOf?_intern (registry : Registry) (name other : String) :
    (registry.intern name).1.idOf? other =
      if other = name then some (registry.intern name).2 else registry.idOf? other := by
  cases known : registry.idOf? name with
  | some id =>
      rw [intern_of_known known]
      split
      · next equal => rw [equal, known]
      · rfl
  | none =>
      rw [intern_of_unknown known]
      by_cases equal : other = name
      · rw [if_pos equal, equal]
        exact List.lookup_cons_self
      · rw [if_neg equal]
        simp only [idOf?, List.lookup_cons, beq_eq_false_iff_ne.mpr equal]

theorem isSome_idOf?_intern (registry : Registry) (name other : String) :
    ((registry.intern name).1.idOf? other).isSome = true ↔
      (registry.idOf? other).isSome = true ∨ other = name := by
  rw [idOf?_intern]
  split
  · next equal => simp [equal]
  · next different => simp [different]

theorem nameOf?_intern_of_unknown (unknown : registry.idOf? name = none) (id : ClassId) :
    (registry.intern name).1.nameOf? id =
      if id.index = registry.slots.length then some name else registry.nameOf? id := by
  rw [intern_of_unknown unknown]
  simp only [nameOf?, List.getElem?_append, List.getElem?_singleton]
  split
  · next within => rw [if_neg (Nat.ne_of_lt within)]
  · next beyond =>
      split
      · next first => rw [if_pos (by omega)]; rfl
      · next later =>
          rw [if_neg (by omega), List.getElem?_eq_none (Nat.le_of_not_lt beyond)]

theorem nameOf?_intern {other : String} (named : registry.nameOf? id = some other)
    (name : String) : (registry.intern name).1.nameOf? id = some other := by
  cases known : registry.idOf? name with
  | some found => rwa [intern_of_known known]
  | none =>
      rw [nameOf?_intern_of_unknown known,
        if_neg (Nat.ne_of_lt (index_lt_of_nameOf? named)), named]

@[simp] theorem definition?_intern (registry : Registry) (name : String) (id : ClassId) :
    (registry.intern name).1.definition? id = registry.definition? id := by
  cases known : registry.idOf? name with
  | some found => rw [intern_of_known known]
  | none =>
      rw [intern_of_unknown known]
      simp only [definition?, List.getElem?_append, List.getElem?_singleton]
      split
      · rfl
      · next beyond =>
          rw [List.getElem?_eq_none (Nat.le_of_not_lt beyond)]
          split <;> rfl

theorem Indexed.intern (indexed : registry.Indexed) (name : String) :
    (registry.intern name).1.Indexed := by
  cases known : registry.idOf? name with
  | some found => rwa [intern_of_known known]
  | none =>
      refine ⟨?_, ?_⟩
      · rw [intern_of_unknown known]
        simp only [List.length_cons, List.length_append, List.length_nil,
          indexed.length_places]
      · intro other id
        rw [idOf?_intern, nameOf?_intern_of_unknown known, intern_of_unknown known]
        by_cases equal : other = name
        · subst equal
          rw [if_pos rfl]
          constructor
          · intro new
            cases new
            rw [if_pos rfl]
          · intro named
            split at named
            · next last => exact congrArg some (ClassId.ext last.symm)
            · rw [indexed.idOf?_iff.mpr named] at known
              cases known
        · rw [if_neg equal, indexed.idOf?_iff]
          split
          · next last =>
              constructor
              · intro named
                exact absurd (index_lt_of_nameOf? named) (by omega)
              · intro named
                exact absurd (Option.some.inj named).symm equal
          · exact Iff.rfl

theorem Indexed.intern_index_lt (indexed : registry.Indexed) (name : String) :
    (registry.intern name).2.index < (registry.intern name).1.slots.length :=
  (indexed.intern name).index_lt (by rw [idOf?_intern, if_pos rfl])

/-! ## Storing -/

theorem store_eq (registry : Registry) (declaration : ClassDeclaration) :
    registry.store declaration =
      { (registry.intern declaration.name).1 with
        slots := (registry.intern declaration.name).1.slots.modify
          (registry.intern declaration.name).2.index fun slot =>
            { slot with definition? := some (definitionOf
                (registry.intern declaration.name).1.identity
                (registry.intern declaration.name).2 declaration) } } :=
  rfl

@[simp] theorem identity_store (registry : Registry) (declaration : ClassDeclaration) :
    (registry.store declaration).identity = registry.identity := by
  rw [store_eq]
  exact identity_intern registry declaration.name

@[simp] theorem length_slots_store (registry : Registry) (declaration : ClassDeclaration) :
    (registry.store declaration).slots.length =
      (registry.intern declaration.name).1.slots.length := by
  rw [store_eq]
  exact List.length_modify ..

@[simp] theorem idOf?_store (registry : Registry) (declaration : ClassDeclaration)
    (name : String) :
    (registry.store declaration).idOf? name =
      (registry.intern declaration.name).1.idOf? name :=
  rfl

@[simp] theorem nameOf?_store (registry : Registry) (declaration : ClassDeclaration)
    (id : ClassId) :
    (registry.store declaration).nameOf? id =
      (registry.intern declaration.name).1.nameOf? id := by
  rw [store_eq]
  simp only [nameOf?, List.getElem?_modify]
  cases (registry.intern declaration.name).1.slots[id.index]? with
  | none => rfl
  | some slot =>
      simp only [Option.map_eq_map, Option.map_some]
      split <;> rfl

theorem Indexed.store (indexed : registry.Indexed) (declaration : ClassDeclaration) :
    (registry.store declaration).Indexed where
  length_places := by
    rw [length_slots_store, ← (indexed.intern declaration.name).length_places]
    rfl
  idOf?_iff := by
    intro name id
    rw [idOf?_store, nameOf?_store]
    exact (indexed.intern declaration.name).idOf?_iff

/-- Storing writes the slot of the declared name and no other. -/
theorem Indexed.definition?_store (indexed : registry.Indexed)
    (declaration : ClassDeclaration) (id : ClassId) :
    (registry.store declaration).definition? id =
      if id = (registry.intern declaration.name).2 then
        some (definitionOf registry.identity id declaration)
      else registry.definition? id := by
  rw [← definition?_intern registry declaration.name, ← identity_intern registry
    declaration.name, store_eq]
  simp only [definition?, List.getElem?_modify]
  by_cases equal : id = (registry.intern declaration.name).2
  · subst equal
    rw [if_pos rfl, List.getElem?_eq_getElem (indexed.intern_index_lt declaration.name)]
    simp only [if_true, Option.map_eq_map, Option.map_some, Option.bind_some]
  · have elsewhere : (registry.intern declaration.name).2.index ≠ id.index :=
      fun same => equal (ClassId.ext same.symm)
    simp only [if_neg equal, if_neg elsewhere, Option.map_eq_map, Option.map_id']

/-! ## Looking up -/

theorem displayName_of_nameOf? (named : registry.nameOf? id = some name) :
    registry.displayName id = name := by
  rw [displayName, named, Option.getD_some]

theorem lookup?_of_nameOf? (indexed : registry.Indexed)
    (named : registry.nameOf? id = some name) : registry.lookup? name = some id := by
  rw [lookup?, indexed.idOf?_iff.mpr named]

theorem nameOf?_of_onlySimple? (found : registry.onlySimple? name = some id) :
    ∃ full front, registry.nameOf? id = some full ∧
      full.toList = front ++ '.' :: name.toList := by
  unfold onlySimple? at found
  split at found
  · next slot index only =>
      cases found
      have member : (slot, index) ∈ registry.slots.zipIdx.filter fun place =>
          hasSimpleName name place.1 := by simp [only]
      rcases List.mem_filter.mp member with ⟨inSlots, simple⟩
      rcases List.isSuffixOf_iff_suffix.mp simple with ⟨front, whole⟩
      refine ⟨slot.name, front, ?_, whole.symm⟩
      rw [nameOf?, List.mem_zipIdx_iff_getElem?.mp inSlots]
      rfl
  · cases found

/-- A class is found by its full name or by what follows a dot in it. -/
theorem Indexed.nameOf?_of_lookup? (indexed : registry.Indexed)
    (found : registry.lookup? name = some id) :
    registry.nameOf? id = some name ∨
      ∃ full front, registry.nameOf? id = some full ∧
        full.toList = front ++ '.' :: name.toList := by
  unfold lookup? at found
  split at found
  · next exact known =>
      cases found
      exact .inl (indexed.idOf?_iff.mp known)
  · split at found
    · cases found
    · split at found
      · next imported known =>
          cases found
          refine .inr ⟨_, "java.lang".toList, indexed.idOf?_iff.mp known, ?_⟩
          rw [String.toList_append]
          rfl
      · exact .inr (nameOf?_of_onlySimple? found)

theorem Indexed.isSome_nameOf?_of_lookup? (indexed : registry.Indexed)
    (found : registry.lookup? name = some id) : (registry.nameOf? id).isSome = true := by
  rcases indexed.nameOf?_of_lookup? found with named | ⟨full, front, named, -⟩
  · exact Option.isSome_of_eq_some named
  · exact Option.isSome_of_eq_some named

end FieldTypes.Registry
