import FieldTypes.Proofs.Registry.Plan

/-! Storing a batch class by class.  The ids are those that interning hands out
on the way, and a plan foresees them: so what is checked against the plan is
checked against the registry that the batch leaves behind. -/

namespace FieldTypes.Registry

variable {registry : Registry} {name : String} {id : ClassId}
  {batch : List ClassDeclaration} {ids : List ClassId}

/-- The ids that the classes of a batch get when they are stored in order. -/
def storedIds (registry : Registry) : List ClassDeclaration → List ClassId
  | [] => []
  | declaration :: rest =>
      (registry.intern declaration.name).2 ::
        (registry.store declaration).storedIds rest

@[simp] theorem length_storedIds : ∀ (registry : Registry) (batch : List ClassDeclaration),
    (registry.storedIds batch).length = batch.length
  | _, [] => rfl
  | registry, declaration :: rest => by
      rw [storedIds, List.length_cons, List.length_cons, length_storedIds]

theorem exists_declaration_of_mem_storedIds (member : id ∈ registry.storedIds batch) :
    ∃ declaration, (id, declaration) ∈ (registry.storedIds batch).zip batch := by
  rw [← List.map_fst_zip (Nat.le_of_eq (length_storedIds registry batch))] at member
  rcases List.mem_map.mp member with ⟨entry, within, rfl⟩
  exact ⟨entry.2, within⟩

theorem exists_storedId_of_mem {declaration : ClassDeclaration} (member : declaration ∈ batch)
    (registry : Registry) : ∃ id, (id, declaration) ∈ (registry.storedIds batch).zip batch := by
  rw [← List.map_snd_zip (Nat.le_of_eq (length_storedIds registry batch).symm)] at member
  rcases List.mem_map.mp member with ⟨entry, within, rfl⟩
  exact ⟨entry.1, within⟩

theorem Indexed.foldl_store (indexed : registry.Indexed) (batch : List ClassDeclaration) :
    (batch.foldl Registry.store registry).Indexed := by
  induction batch generalizing registry with
  | nil => exact indexed
  | cons declaration rest induction => exact induction (indexed.store declaration)

@[simp] theorem identity_foldl_store (registry : Registry) (batch : List ClassDeclaration) :
    (batch.foldl Registry.store registry).identity = registry.identity := by
  induction batch generalizing registry with
  | nil => rfl
  | cons declaration rest induction =>
      rw [List.foldl_cons, induction, identity_store]

/-- A name that has a place keeps it. -/
theorem nameOf?_foldl_store (named : registry.nameOf? id = some name)
    (batch : List ClassDeclaration) :
    (batch.foldl Registry.store registry).nameOf? id = some name := by
  induction batch generalizing registry with
  | nil => exact named
  | cons declaration rest induction =>
      exact induction (by rw [nameOf?_store, nameOf?_intern named])

/-- Each declared name ends up at the id that its class was stored under. -/
theorem Indexed.nameOf?_storedIds (indexed : registry.Indexed) :
    ∀ entry ∈ (registry.storedIds batch).zip batch,
      (batch.foldl Registry.store registry).nameOf? entry.1 = some entry.2.name := by
  induction batch generalizing registry with
  | nil => intro entry member; cases member
  | cons declaration rest induction =>
      rw [storedIds, List.zip_cons_cons, List.forall_mem_cons]
      refine ⟨nameOf?_foldl_store ?_ rest, induction (indexed.store declaration)⟩
      rw [← (indexed.store declaration).idOf?_iff, idOf?_store, idOf?_intern, if_pos rfl]

theorem storedIds_append (registry : Registry) (first second : List ClassDeclaration) :
    registry.storedIds (first ++ second) =
      registry.storedIds first ++ (first.foldl Registry.store registry).storedIds second := by
  induction first generalizing registry with
  | nil => rfl
  | cons declaration rest induction =>
      rw [List.cons_append, storedIds, induction, storedIds, List.cons_append, List.foldl_cons]

/-- Each id is the one that its class is known by in the end. -/
theorem Indexed.map_some_storedIds (indexed : registry.Indexed) :
    (registry.storedIds batch).map some =
      batch.map fun declaration =>
        (batch.foldl Registry.store registry).idOf? declaration.name := by
  induction batch generalizing registry with
  | nil => rfl
  | cons declaration rest induction =>
      have stored := indexed.store declaration
      have named : (registry.store declaration).nameOf? (registry.intern declaration.name).2 =
          some declaration.name := by
        rw [← stored.idOf?_iff, idOf?_store, idOf?_intern, if_pos rfl]
      rw [storedIds, List.map_cons, List.map_cons, List.foldl_cons, induction stored,
        (stored.foldl_store rest).idOf?_iff.mpr (nameOf?_foldl_store named rest)]

theorem Indexed.mem_storedIds_iff (indexed : registry.Indexed) :
    id ∈ registry.storedIds batch ↔
      ∃ declaration ∈ batch,
        (batch.foldl Registry.store registry).idOf? declaration.name = some id := by
  rw [← List.mem_map, ← indexed.map_some_storedIds, List.mem_map]
  simp only [Option.some.injEq, exists_eq_right]

/-- Nothing is written at other ids. -/
theorem Indexed.definition?_foldl_store_of_not_mem (indexed : registry.Indexed)
    (elsewhere : id ∉ registry.storedIds batch) :
    (batch.foldl Registry.store registry).definition? id = registry.definition? id := by
  induction batch generalizing registry with
  | nil => rfl
  | cons declaration rest induction =>
      rw [storedIds, List.mem_cons, not_or] at elsewhere
      rw [List.foldl_cons, induction (indexed.store declaration) elsewhere.2,
        indexed.definition?_store, if_neg elsewhere.1]

/-- With distinct names no class of the batch is written over by a later one. -/
theorem Indexed.definition?_foldl_store (indexed : registry.Indexed)
    (nodup : (batch.map (·.name)).Nodup) :
    ∀ entry ∈ (registry.storedIds batch).zip batch,
      (batch.foldl Registry.store registry).definition? entry.1 =
        some (definitionOf registry.identity entry.1 entry.2) := by
  induction batch generalizing registry with
  | nil => intro entry member; cases member
  | cons declaration rest induction =>
      have stored := indexed.store declaration
      have parts := List.nodup_cons.mp nodup
      rw [storedIds, List.zip_cons_cons, List.forall_mem_cons]
      constructor
      · have notAgain : (registry.intern declaration.name).2 ∉
            (registry.store declaration).storedIds rest := by
          intro again
          rcases exists_declaration_of_mem_storedIds again with ⟨later, member⟩
          have laterName := stored.nameOf?_storedIds _ member
          have firstName : ((declaration :: rest).foldl Registry.store registry).nameOf?
              (registry.intern declaration.name).2 = some declaration.name :=
            indexed.nameOf?_storedIds ((registry.intern declaration.name).2, declaration)
              List.mem_cons_self
          have equal : declaration.name = later.name :=
            Option.some.inj (firstName.symm.trans laterName)
          exact parts.1 (List.mem_map.mpr ⟨later, (List.of_mem_zip member).2, equal.symm⟩)
        rw [List.foldl_cons, stored.definition?_foldl_store_of_not_mem notAgain,
          indexed.definition?_store, if_pos rfl]
      · rw [← identity_store registry declaration]
        exact induction stored parts.2

/-! ## Plans -/

/-- The plan foresees interning.  The registry of the plan stays as it is while the
current one grows; the two agree on every name that is still to come. -/
theorem storedIds_eq_idsFrom {seen : List String} {next : Nat} {current : Registry}
    (length : current.slots.length = next)
    (agree : ∀ name, name ∉ seen → current.idOf? name = registry.idOf? name)
    (nodup : (batch.map (·.name)).Nodup) (apart : ∀ declaration ∈ batch, declaration.name ∉ seen) :
    current.storedIds batch = registry.idsFrom next batch := by
  induction batch generalizing seen next current with
  | nil => rfl
  | cons declaration rest induction =>
      rcases List.nodup_cons.mp nodup with ⟨notAgain, restNodup⟩
      rcases List.forall_mem_cons.mp apart with ⟨fresh, restApart⟩
      have agreeLater : ∀ name, name ∉ declaration.name :: seen →
          (current.store declaration).idOf? name = registry.idOf? name := by
        intro name later
        rw [List.mem_cons, not_or] at later
        rw [idOf?_store, idOf?_intern, if_neg later.1, agree name later.2]
      have apartLater : ∀ other ∈ rest, other.name ∉ declaration.name :: seen := by
        intro other member
        rw [List.mem_cons, not_or]
        exact ⟨fun same => notAgain (List.mem_map.mpr ⟨other, member, same⟩),
          restApart other member⟩
      rw [storedIds, idsFrom_cons, induction rfl agreeLater restNodup apartLater,
        length_slots_store]
      cases known : registry.idOf? declaration.name with
      | some id =>
          have interned := intern_of_known ((agree _ fresh).trans known)
          rw [interned, length]
          rfl
      | none =>
          have interned := intern_of_unknown ((agree _ fresh).trans known)
          rw [interned, ← length]
          dsimp only
          rw [List.length_append]
          rfl

theorem plan_eq_storedIds (planned : registry.plan batch = .ok ids) :
    ids = registry.storedIds batch := by
  rcases plan_eq_ok_iff.mp planned with ⟨fresh, rfl⟩
  rw [storedIds_eq_idsFrom rfl (fun _ _ => rfl) fresh.names_nodup
    (fun _ _ => List.not_mem_nil), Registry.planned, List.map_map]
  rfl

/-- No class of a fresh batch takes the place of one that is defined. -/
theorem Fresh.storedIds_undefined (fresh : registry.Fresh batch) :
    ∀ id ∈ registry.storedIds batch, registry.definition? id = none := by
  rw [← plan_eq_storedIds (plan_eq_ok_iff.mpr ⟨fresh, rfl⟩), List.forall_mem_map]
  exact fresh.planned_undefined

end FieldTypes.Registry
