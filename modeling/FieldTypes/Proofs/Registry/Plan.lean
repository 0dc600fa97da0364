import FieldTypes.Proofs.Registry.Checks
import FieldTypes.Proofs.Registry.Index

/-! Plans of a batch.  A plan refuses repeated names and names of defined classes, and
gives every declaration an id before any name is interned: the one that its name has,
or the next free place. -/

namespace FieldTypes.Registry

variable {registry : Registry} {batch : List ClassDeclaration} {ids : List ClassId}

/-- The id of a declared class: the one that its name has, or else the next free
place after those of the new names before it. -/
def plannedId (registry : Registry) (earlier : List ClassDeclaration)
    (declaration : ClassDeclaration) : ClassId :=
  (registry.idOf? declaration.name).getD
    ⟨registry.slots.length + earlier.countP fun other => (registry.idOf? other.name).isNone⟩

def planned (registry : Registry) (batch : List ClassDeclaration) :
    List (ClassId × ClassDeclaration) :=
  (withEarlier batch).map fun part => (registry.plannedId part.1 part.2, part.2)

/-- Whether a class of this name is defined. -/
def hasClass (registry : Registry) (name : String) : Bool :=
  (registry.idOf? name).any registry.isDefined

/-- Declared names that stand earlier in the batch, or that a defined class has. -/
def duplicateClasses (registry : Registry) (batch : List ClassDeclaration) :
    List DefinitionError :=
  (withEarlier batch).filterMap fun part =>
    if part.2.name ∈ part.1.map (·.name) ∨ registry.hasClass part.2.name = true then
      some (.duplicateClass part.2.name)
    else none

/-- What is asked of the names of a batch. -/
structure Fresh (registry : Registry) (batch : List ClassDeclaration) : Prop where
  names_nodup : (batch.map (·.name)).Nodup
  undefined : ∀ declaration ∈ batch, ∀ id,
    registry.idOf? declaration.name = some id → registry.definition? id = none

/-! ## Going through a batch -/

/-- The duplicates of a batch that comes after classes of the names seen. -/
def duplicatesAfter (registry : Registry) (seen : List String)
    (batch : List ClassDeclaration) : List DefinitionError :=
  (withEarlier batch).filterMap fun part =>
    if part.2.name ∈ seen ∨ part.2.name ∈ part.1.map (·.name) ∨
        registry.hasClass part.2.name = true then
      some (.duplicateClass part.2.name)
    else none

/-- The planned ids of a batch when the next free place has moved on. -/
def idsFrom (registry : Registry) (next : Nat) (batch : List ClassDeclaration) :
    List ClassId :=
  (withEarlier batch).map fun part => (registry.idOf? part.2.name).getD
    ⟨next + part.1.countP fun other => (registry.idOf? other.name).isNone⟩

theorem duplicatesAfter_cons (seen : List String) (declaration : ClassDeclaration)
    (rest : List ClassDeclaration) :
    registry.duplicatesAfter seen (declaration :: rest) =
      (if declaration.name ∈ seen ∨ registry.hasClass declaration.name = true then
        [.duplicateClass declaration.name] else []) ++
      registry.duplicatesAfter (declaration.name :: seen) rest := by
  rw [duplicatesAfter, duplicatesAfter, withEarlier, List.filterMap_cons, List.filterMap_map]
  have later : (fun part : List ClassDeclaration × ClassDeclaration =>
        if part.2.name ∈ seen ∨ part.2.name ∈ (declaration :: part.1).map (·.name) ∨
            registry.hasClass part.2.name = true then
          some (DefinitionError.duplicateClass part.2.name)
        else none) =
      fun part => if part.2.name ∈ declaration.name :: seen ∨
            part.2.name ∈ part.1.map (·.name) ∨ registry.hasClass part.2.name = true then
          some (.duplicateClass part.2.name)
        else none := by
    funext part
    simp only [List.map_cons, List.mem_cons, or_assoc, or_left_comm]
  rw [Function.comp_def, later]
  simp only [List.map_nil, List.not_mem_nil, false_or]
  by_cases repeated : declaration.name ∈ seen ∨ registry.hasClass declaration.name = true
  · rw [if_pos repeated, if_pos repeated]
    rfl
  · rw [if_neg repeated, if_neg repeated]
    rfl

theorem idsFrom_cons (next : Nat) (declaration : ClassDeclaration)
    (rest : List ClassDeclaration) :
    registry.idsFrom next (declaration :: rest) =
      (registry.idOf? declaration.name).getD ⟨next⟩ ::
        registry.idsFrom
          (next + if (registry.idOf? declaration.name).isNone then 1 else 0) rest := by
  rw [idsFrom, idsFrom, withEarlier, List.map_cons, List.map_map]
  simp only [Function.comp_def, List.countP_cons, List.countP_nil, Nat.add_zero, Nat.add_assoc,
    Nat.add_comm]

theorem planFrom_eq_report {seen : List String} {next : Nat} :
    registry.planFrom seen next batch =
      report (registry.duplicatesAfter seen batch) (registry.idsFrom next batch) := by
  induction batch generalizing seen next with
  | nil => rfl
  | cons declaration rest induction =>
      rw [planFrom, duplicatesAfter_cons, idsFrom_cons, hasClass]
      by_cases repeated : declaration.name ∈ seen
      · simp [repeated]
      · cases known : registry.idOf? declaration.name with
        | some id =>
            by_cases defined : registry.isDefined id = true
            · simp [repeated, defined]
            · simp [repeated, defined, induction, map_report]
        | none => simp [repeated, induction, map_report]

theorem plan_eq_report :
    registry.plan batch =
      report (registry.duplicateClasses batch) ((registry.planned batch).map (·.1)) := by
  have ids : (registry.planned batch).map (·.1) =
      registry.idsFrom registry.slots.length batch := by
    rw [planned, List.map_map]
    rfl
  have duplicates : registry.duplicatesAfter [] batch = registry.duplicateClasses batch := by
    simp only [duplicatesAfter, duplicateClasses, List.not_mem_nil, false_or]
  rw [plan, planFrom_eq_report, ids, duplicates]

theorem map_snd_planned (registry : Registry) (batch : List ClassDeclaration) :
    (registry.planned batch).map (·.2) = batch := by
  rw [planned, List.map_map]
  exact map_snd_withEarlier batch

theorem duplicateClasses_eq_nil_iff :
    registry.duplicateClasses batch = [] ↔ registry.Fresh batch := by
  have undefined : (∀ part ∈ withEarlier batch, registry.hasClass part.2.name ≠ true) ↔
      ∀ declaration ∈ batch, ∀ id,
        registry.idOf? declaration.name = some id → registry.definition? id = none := by
    rw [forall_mem_withEarlier_iff batch fun declaration =>
      registry.hasClass declaration.name ≠ true]
    apply forall₂_congr
    intro declaration _
    rw [hasClass]
    cases registry.idOf? declaration.name with
    | none => simp
    | some id => simp [isDefined]
  have parts : registry.Fresh batch ↔ (batch.map (·.name)).Nodup ∧
      ∀ part ∈ withEarlier batch, registry.hasClass part.2.name ≠ true := by
    rw [undefined]
    exact ⟨fun fresh => ⟨fresh.names_nodup, fresh.undefined⟩, fun both => ⟨both.1, both.2⟩⟩
  rw [parts, duplicateClasses, List.filterMap_eq_nil_iff, nodup_map_iff_withEarlier]
  simp [not_or, imp_and, forall_and]

/-- A plan is made for a batch of fresh names, and always with the same ids. -/
theorem plan_eq_ok_iff :
    registry.plan batch = .ok ids ↔
      registry.Fresh batch ∧ (registry.planned batch).map (·.1) = ids := by
  rw [plan_eq_report, report_eq_ok_iff, duplicateClasses_eq_nil_iff]

/-- No planned id has a definition yet. -/
theorem Fresh.planned_undefined (fresh : registry.Fresh batch) :
    ∀ entry ∈ registry.planned batch, registry.definition? entry.1 = none := by
  have undefined := (forall_mem_withEarlier_iff batch _).mpr fresh.undefined
  rw [planned, List.forall_mem_map]
  intro part member
  rw [plannedId]
  cases known : registry.idOf? part.2.name with
  | some id => exact undefined part member id known
  | none => exact definition?_eq_none_of_le (Nat.le_add_right _ _)

end FieldTypes.Registry
