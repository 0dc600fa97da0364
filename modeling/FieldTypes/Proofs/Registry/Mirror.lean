import FieldTypes.Proofs.Registry.Reachable
import FieldTypes.Proofs.Registry.Renumbering
import Mathlib.Data.List.Sigma

/-! Two registries that know the same names under different ids.  Whatever one of
them finds by name, the other finds under the id that corresponds to it; and if the
same classes are defined in both, then one mirrors the other. -/

namespace FieldTypes

theorem eq_singleton_iff_of_nodup {α : Type} {elements : List α} (nodup : elements.Nodup)
    (only : α) : elements = [only] ↔ ∀ element, element ∈ elements ↔ element = only := by
  rw [← List.perm_singleton, List.perm_ext_iff_of_nodup nodup (List.nodup_singleton only)]
  simp only [List.mem_singleton]

namespace Registry

variable {registry left right : Registry} {change : ClassId → ClassId} {name : String}
  {id : ClassId}

/-! ## Names -/

theorem nameOf?_eq_some_iff :
    registry.nameOf? id = some name ↔
      ∃ slot, registry.slots[id.index]? = some slot ∧ slot.name = name :=
  Option.map_eq_some_iff

theorem Indexed.nameOf?_eq {grown : Registry} (indexed : registry.Indexed)
    (grownIndexed : grown.Indexed) (same : ∀ name, grown.idOf? name = registry.idOf? name)
    (id : ClassId) : grown.nameOf? id = registry.nameOf? id := by
  apply Option.ext
  intro name
  rw [← grownIndexed.idOf?_iff, same, indexed.idOf?_iff]

theorem Indexed.mem_names_iff (indexed : registry.Indexed) :
    name ∈ registry.slots.map (·.name) ↔ (registry.idOf? name).isSome = true := by
  rw [Option.isSome_iff_exists, List.mem_map]
  constructor
  · intro parts
    rcases parts with ⟨slot, member, rfl⟩
    rcases List.mem_iff_getElem?.mp member with ⟨index, found⟩
    exact ⟨⟨index⟩, indexed.idOf?_iff.mpr (nameOf?_eq_some_iff.mpr ⟨slot, found, rfl⟩)⟩
  · intro parts
    rcases parts with ⟨id, known⟩
    rcases nameOf?_eq_some_iff.mp (indexed.idOf?_iff.mp known) with ⟨slot, found, named⟩
    exact ⟨slot, List.mem_of_getElem? found, named⟩

/-- As many slots are needed for the same names. -/
theorem Indexed.length_slots_eq (leftIndexed : left.Indexed) (rightIndexed : right.Indexed)
    (same : ∀ name, (right.idOf? name).isSome = (left.idOf? name).isSome) :
    right.slots.length = left.slots.length := by
  have names : (right.slots.map (·.name)).Perm (left.slots.map (·.name)) := by
    rw [List.perm_ext_iff_of_nodup rightIndexed.names_nodup leftIndexed.names_nodup]
    intro name
    rw [rightIndexed.mem_names_iff, leftIndexed.mem_names_iff, same]
  simpa using names.length_eq

/-- Whether the full name is something, a dot and the simple name. -/
def EndsIn (simple full : String) : Prop :=
  ('.' :: simple.toList) <:+ full.toList

/-- A simple name is found if it is the end of exactly one slot. -/
theorem onlySimple?_eq_some_iff {simple : String} :
    registry.onlySimple? simple = some id ↔
      ∃ slot, ∀ place : Slot × Nat,
        registry.slots[place.2]? = some place.1 ∧ EndsIn simple place.1.name ↔
          place = (slot, id.index) := by
  have nodup : (registry.slots.zipIdx.filter
      fun place => hasSimpleName simple place.1).Nodup :=
    (List.Nodup.of_map _ (List.nodup_zipIdx_map_snd registry.slots)).filter _
  have matching : ∀ place : Slot × Nat,
      place ∈ registry.slots.zipIdx.filter (fun place => hasSimpleName simple place.1) ↔
        registry.slots[place.2]? = some place.1 ∧ EndsIn simple place.1.name := by
    intro place
    rw [List.mem_filter, List.mem_zipIdx_iff_getElem?, hasSimpleName,
      List.isSuffixOf_iff_suffix, EndsIn]
  simp only [← matching, ← eq_singleton_iff_of_nodup nodup]
  unfold onlySimple?
  split
  · next slot index only =>
      rw [only, Option.some.injEq]
      constructor
      · intro equal
        subst equal
        exact ⟨slot, rfl⟩
      · intro parts
        rcases parts with ⟨other, equal⟩
        cases equal
        rfl
  · next different =>
      apply iff_of_false (by simp)
      intro parts
      rcases parts with ⟨slot, only⟩
      exact different slot id.index only

/-- The same in terms of names: no other name that is known ends in it. -/
theorem Indexed.onlySimple?_eq_some_iff (indexed : registry.Indexed) {simple : String} :
    registry.onlySimple? simple = some id ↔
      ∃ full, registry.idOf? full = some id ∧ EndsIn simple full ∧
        ∀ other, (registry.idOf? other).isSome = true → EndsIn simple other → other = full := by
  rw [Registry.onlySimple?_eq_some_iff]
  constructor
  · intro parts
    rcases parts with ⟨slot, only⟩
    rcases (only (slot, id.index)).mpr rfl with ⟨here, ends⟩
    refine ⟨slot.name, indexed.idOf?_iff.mpr (nameOf?_eq_some_iff.mpr ⟨slot, here, rfl⟩), ends, ?_⟩
    intro other known otherEnds
    rcases Option.isSome_iff_exists.mp known with ⟨otherId, otherKnown⟩
    rcases nameOf?_eq_some_iff.mp (indexed.idOf?_iff.mp otherKnown) with
      ⟨otherSlot, there, rfl⟩
    have same := (only (otherSlot, otherId.index)).mp ⟨there, otherEnds⟩
    exact congrArg (fun place : Slot × Nat => place.1.name) same
  · intro parts
    rcases parts with ⟨full, known, ends, alone⟩
    rcases nameOf?_eq_some_iff.mp (indexed.idOf?_iff.mp known) with ⟨slot, here, rfl⟩
    refine ⟨slot, fun place => ⟨?_, ?_⟩⟩
    · intro other
      have otherKnown : registry.idOf? place.1.name = some ⟨place.2⟩ :=
        indexed.idOf?_iff.mpr (nameOf?_eq_some_iff.mpr ⟨place.1, other.1, rfl⟩)
      rw [alone _ (Option.isSome_of_eq_some otherKnown) other.2, known] at otherKnown
      cases otherKnown
      rw [here] at other
      exact Prod.ext (Option.some.inj other.1).symm rfl
    · intro equal
      subst equal
      exact ⟨here, ends⟩

/-! ## The same names -/

/-- Two registries with the same names.  The change leads from the ids of the one to
those of the other, and it leaves numbers that are no ids alone. -/
structure SameNames (change : ClassId → ClassId) (left right : Registry) : Prop where
  left_indexed : left.Indexed
  right_indexed : right.Indexed
  idOf?_eq : ∀ name, right.idOf? name = (left.idOf? name).map change
  unnamed : ∀ {id}, left.nameOf? id = none → change id = id ∧ right.nameOf? id = none

/-- The id under which another registry has the class of this id. -/
def translation (left right : Registry) (id : ClassId) : ClassId :=
  ((left.nameOf? id).bind right.idOf?).getD id

theorem sameNames_translation (leftIndexed : left.Indexed) (rightIndexed : right.Indexed)
    (same : ∀ name, (right.idOf? name).isSome = (left.idOf? name).isSome) :
    SameNames (left.translation right) left right where
  left_indexed := leftIndexed
  right_indexed := rightIndexed
  idOf?_eq := by
    intro name
    have both := same name
    cases known : left.idOf? name with
    | none => simpa [known] using both
    | some id =>
        rw [known, Option.isSome_some, Option.isSome_iff_exists] at both
        rcases both with ⟨other, otherKnown⟩
        rw [otherKnown, Option.map_some, translation, leftIndexed.idOf?_iff.mp known,
          Option.bind_some, otherKnown, Option.getD_some]
  unnamed := by
    intro id unnamed
    refine ⟨by rw [translation, unnamed, Option.bind_none, Option.getD_none], ?_⟩
    rw [← Option.not_isSome_iff_eq_none, nameOf?_isSome_iff] at unnamed ⊢
    rwa [leftIndexed.length_slots_eq rightIndexed same]

namespace SameNames

variable (same : SameNames change left right)

include same

theorem isSome_idOf? (name : String) :
    (right.idOf? name).isSome = (left.idOf? name).isSome := by
  rw [same.idOf?_eq, Option.isSome_map]

@[simp] theorem nameOf?_eq (id : ClassId) : right.nameOf? (change id) = left.nameOf? id := by
  cases named : left.nameOf? id with
  | none =>
      rcases same.unnamed named with ⟨fixed, none⟩
      rw [fixed, none]
  | some name =>
      rw [← same.right_indexed.idOf?_iff, same.idOf?_eq, same.left_indexed.idOf?_iff.mpr named,
        Option.map_some]

theorem idOf?_eq_change_iff {name : String} {id : ClassId} :
    right.idOf? name = some (change id) ↔ left.idOf? name = some id := by
  rw [same.right_indexed.idOf?_iff, same.nameOf?_eq, same.left_indexed.idOf?_iff]

theorem displayName_eq (id : ClassId) : right.displayName (change id) = left.displayName id := by
  rw [displayName, displayName, same.nameOf?_eq]
  cases named : left.nameOf? id with
  | none => rw [(same.unnamed named).1]
  | some name => rfl

theorem declaredText_renumber (type : DeclaredType) :
    right.declaredText (type.renumber change) = left.declaredText type := by
  rw [declaredText, DeclaredType.textUnder_renumber, declaredText]
  exact congrArg (type.textUnder · _) (funext same.displayName_eq)

theorem resolvedText_renumber (type : ResolvedType) :
    right.resolvedText (type.renumber change) = left.resolvedText type := by
  rw [resolvedText, ResolvedType.textUnder_renumber, resolvedText]
  exact congrArg (type.textUnder ·) (funext same.displayName_eq)

theorem onlySimple?_eq (simple : String) :
    right.onlySimple? simple = (left.onlySimple? simple).map change := by
  apply Option.ext
  intro id
  simp only [same.right_indexed.onlySimple?_eq_some_iff, Option.map_eq_some_iff,
    same.left_indexed.onlySimple?_eq_some_iff, same.idOf?_eq, Option.isSome_map]
  constructor
  · intro parts
    rcases parts with ⟨full, ⟨original, known, rfl⟩, unique⟩
    exact ⟨original, ⟨full, known, unique⟩, rfl⟩
  · intro parts
    rcases parts with ⟨original, ⟨full, known, unique⟩, rfl⟩
    exact ⟨full, ⟨original, known, rfl⟩, unique⟩

/-- A name is found in both registries or in neither. -/
theorem lookup?_eq (name : String) : right.lookup? name = (left.lookup? name).map change := by
  rw [lookup?, lookup?, same.idOf?_eq name, same.idOf?_eq ("java.lang." ++ name),
    same.onlySimple?_eq]
  cases left.idOf? name with
  | some id => rfl
  | none =>
      rw [Option.map_none]
      dsimp only
      split
      · rfl
      · cases left.idOf? ("java.lang." ++ name) with
        | some id => rfl
        | none => rfl

/-- The names stay the same in registries that have no new ones. -/
theorem of_idOf?_eq {leftGrown rightGrown : Registry} (leftIndexed : leftGrown.Indexed)
    (rightIndexed : rightGrown.Indexed) (leftSame : ∀ name, leftGrown.idOf? name = left.idOf? name)
    (rightSame : ∀ name, rightGrown.idOf? name = right.idOf? name) :
    SameNames change leftGrown rightGrown where
  left_indexed := leftIndexed
  right_indexed := rightIndexed
  idOf?_eq name := by rw [leftSame, rightSame, same.idOf?_eq]
  unnamed := by
    intro id unnamed
    rw [same.left_indexed.nameOf?_eq leftIndexed leftSame] at unnamed
    rw [same.right_indexed.nameOf?_eq rightIndexed rightSame]
    exact same.unnamed unnamed

end SameNames

/-! ## The same classes -/

/-- Two registries with the same names and with the same classes under them. -/
structure Mirrors (change : ClassId → ClassId) (left right : Registry) : Prop
    extends SameNames change left right where
  definition?_eq : ∀ id, right.definition? (change id) =
    (left.definition? id).map (·.renumber change right.identity)

theorem Mirrors.arity?_eq (mirrors : Mirrors change left right) (id : ClassId) :
    right.arity? (change id) = left.arity? id := by
  rw [arity?, mirrors.definition?_eq, Option.map_map, arity?]
  rfl

/-- The classes of a registry are those of the declarations, each at the id of its
name. -/
structure Defines (registry : Registry) (declarations : List ClassDeclaration) : Prop where
  known : ∀ declaration ∈ declarations, (registry.idOf? declaration.name).isSome = true
  definition?_eq_some_iff : ∀ {id : ClassId} {definition : ClassDefinition},
    registry.definition? id = some definition ↔
      ∃ declaration ∈ declarations, registry.idOf? declaration.name = some id ∧
        definitionOf registry.identity id declaration = definition

variable {declarations batch : List ClassDeclaration} {definition : ClassDefinition}

/-- Registries that define the same classes mirror each other. -/
theorem Defines.mirrors {others : List ClassDeclaration} (defines : left.Defines declarations)
    (rightDefines : right.Defines others)
    (perm : (declarations.map (·.renumber change)).Perm others)
    (same : SameNames change left right) : Mirrors change left right where
  toSameNames := same
  definition?_eq := by
    intro id
    apply Option.ext
    intro definition
    rw [rightDefines.definition?_eq_some_iff, Option.map_eq_some_iff]
    constructor
    · intro parts
      rcases parts with ⟨other, member, known, rfl⟩
      rcases List.mem_map.mp (perm.mem_iff.mpr member) with ⟨declaration, original, rfl⟩
      refine ⟨_, defines.definition?_eq_some_iff.mpr ⟨declaration, original, ?_, rfl⟩,
        renumber_definitionOf change left.identity right.identity id declaration⟩
      exact same.idOf?_eq_change_iff.mp known
    · intro parts
      rcases parts with ⟨_, defined, rfl⟩
      rcases defines.definition?_eq_some_iff.mp defined with ⟨declaration, member, known, rfl⟩
      exact ⟨declaration.renumber change, perm.mem_iff.mp (List.mem_map_of_mem member),
        same.idOf?_eq_change_iff.mpr known,
        (renumber_definitionOf change left.identity right.identity id declaration).symm⟩

theorem idOf?_intern_of_isSome (known : (registry.idOf? name).isSome = true) (new : String) :
    (registry.intern new).1.idOf? name = registry.idOf? name := by
  rw [idOf?_intern]
  split
  · next equal =>
      rcases Option.isSome_iff_exists.mp known with ⟨id, found⟩
      rw [← equal, intern_of_known found, found]
  · rfl

theorem Defines.intern (defines : registry.Defines declarations) (name : String) :
    (registry.intern name).1.Defines declarations where
  known := by
    intro declaration member
    rw [idOf?_intern_of_isSome (defines.known declaration member)]
    exact defines.known declaration member
  definition?_eq_some_iff := by
    intro id definition
    rw [definition?_intern, identity_intern, defines.definition?_eq_some_iff]
    constructor
    · intro parts
      rcases parts with ⟨declaration, member, found⟩
      rw [← idOf?_intern_of_isSome (defines.known declaration member) name] at found
      exact ⟨declaration, member, found⟩
    · intro parts
      rcases parts with ⟨declaration, member, found⟩
      rw [idOf?_intern_of_isSome (defines.known declaration member)] at found
      exact ⟨declaration, member, found⟩

/-- After a batch there are the definitions from before and those of the batch. -/
theorem Indexed.definition?_foldl_store_eq_some_iff (indexed : registry.Indexed)
    (nodup : (batch.map (·.name)).Nodup)
    (undefined : ∀ id ∈ registry.storedIds batch, registry.definition? id = none) :
    (batch.foldl Registry.store registry).definition? id = some definition ↔
      registry.definition? id = some definition ∨
        ∃ declaration ∈ batch,
          (batch.foldl Registry.store registry).idOf? declaration.name = some id ∧
          definitionOf registry.identity id declaration = definition := by
  have named := fun entry member => (indexed.foldl_store batch).idOf?_iff.mpr
    (indexed.nameOf?_storedIds entry member)
  constructor
  · intro defined
    by_cases new : id ∈ registry.storedIds batch
    · rcases exists_declaration_of_mem_storedIds new with ⟨declaration, entry⟩
      rw [indexed.definition?_foldl_store nodup _ entry] at defined
      exact .inr ⟨declaration, (List.of_mem_zip entry).2, named _ entry, Option.some.inj defined⟩
    · rw [indexed.definition?_foldl_store_of_not_mem new] at defined
      exact .inl defined
  · intro parts
    rcases parts with earlier | ⟨declaration, member, known, rfl⟩
    · exact (GrowsTo.foldl_store indexed undefined).definition?_eq earlier
    · rcases exists_storedId_of_mem member registry with ⟨other, entry⟩
      have same := (named _ entry).symm.trans known
      cases same
      exact indexed.definition?_foldl_store nodup _ entry

theorem defines_withBuiltIns (identity : RegistryId) :
    (withBuiltIns identity).Defines builtIns := by
  have indexed := (wellFormed_empty identity).indexed
  have undefined : ∀ id, (empty identity).definition? id = none := by simp [empty, definition?]
  constructor
  · intro declaration member
    rcases exists_storedId_of_mem member (empty identity) with ⟨id, entry⟩
    exact Option.isSome_of_eq_some ((indexed.foldl_store builtIns).idOf?_iff.mpr
      (indexed.nameOf?_storedIds _ entry))
  · intro id definition
    rw [withBuiltIns, indexed.definition?_foldl_store_eq_some_iff builtIns_names_nodup
      fun id _ => undefined id, undefined, identity_foldl_store]
    simp

end Registry

end FieldTypes
