import FieldTypes.Proofs.Registry.Answers
import FieldTypes.Proofs.Registry.Names
import FieldTypes.Proofs.Registry.Order

/-! What a batch does to a registry, and what it leaves alone.  A batch is carried out on a
registry that is changed in place, where whatever is written stays written: so there must be
nothing left to go wrong when the first name is interned. -/

namespace FieldTypes

/-! ## In place -/

namespace Registry

/-- What can end a batch before its last class is stored: a fault of a declaration, or an id
that is another than the one planned. -/
inductive Interruption where
  | fault (error : DefinitionError)
  | unplanned (name : String) (planned given : ClassId)
deriving DecidableEq, Repr

/-- An interruption takes nothing back. -/
abbrev InPlace := ExceptT Interruption (StateM Registry)

namespace InPlace

variable {α : Type}

/-- Asks the registry as it stands. -/
def check (question : Registry → Except DefinitionError α) : InPlace α :=
  .mk do return (question (← get)).mapError .fault

def intern (name : String) : InPlace ClassId :=
  modifyGet fun registry => ((registry.intern name).2, (registry.intern name).1)

def write (id : ClassId) (declaration : ClassDeclaration) : InPlace Unit :=
  modify fun registry =>
    { registry with
      slots := registry.slots.modify id.index fun slot =>
        { slot with definition? := some (definitionOf registry.identity id declaration) } }

def store : List (ClassId × ClassDeclaration) → InPlace Unit
  | [] => pure ()
  | (planned, declaration) :: rest => do
      let id ← intern declaration.name
      if id ≠ planned then throw (.unplanned declaration.name planned id)
      write id declaration
      store rest

def define (batch : List ClassDeclaration) : InPlace (List ClassId) := do
  let ids ← check (·.plan batch)
  check (·.checkClasses (ids.zip batch) batch)
  store (ids.zip batch)
  pure ids

/-- What comes of a program, and the registry that it leaves. -/
def outcome (program : InPlace α) (registry : Registry) : Except Interruption α × Registry :=
  program.run.run registry

variable {β : Type} {program : InPlace α} {next : α → InPlace β} {registry last : Registry}

theorem outcome_bind_ok {value : α} (passed : outcome program registry = (.ok value, last)) :
    outcome (program >>= next) registry = outcome (next value) last := by
  rw [outcome] at passed
  simp only [outcome, ExceptT.run_bind, StateT.run_bind, passed]
  rfl

theorem outcome_bind_error {interruption : Interruption}
    (failed : outcome program registry = (.error interruption, last)) :
    outcome (program >>= next) registry = (.error interruption, last) := by
  rw [outcome] at failed
  simp only [outcome, ExceptT.run_bind, StateT.run_bind, failed]
  rfl

theorem outcome_check (question : Registry → Except DefinitionError α)
    {answer : Except DefinitionError α} (answered : question registry = answer) :
    outcome (check question) registry = (answer.mapError .fault, registry) :=
  answered ▸ rfl

theorem outcome_intern (name : String) (registry : Registry) :
    outcome (intern name) registry = (.ok (registry.intern name).2, (registry.intern name).1) :=
  rfl

theorem outcome_write (declaration : ClassDeclaration) (registry : Registry) :
    outcome (write (registry.intern declaration.name).2 declaration)
        (registry.intern declaration.name).1 =
      (.ok (), registry.store declaration) :=
  rfl

/-- As long as the ids are those of the plan, the classes are stored one after the other. -/
theorem outcome_store (registry : Registry) (batch : List ClassDeclaration) :
    outcome (store ((registry.storedIds batch).zip batch)) registry =
      (.ok (), batch.foldl Registry.store registry) := by
  induction batch generalizing registry with
  | nil => rfl
  | cons declaration rest induction =>
      rw [storedIds, List.zip_cons_cons, store, outcome_bind_ok (outcome_intern ..)]
      simp only [ne_eq, not_true_eq_false, if_false]
      rw [outcome_bind_ok (outcome_write ..), induction, List.foldl_cons]

/-- A batch that is carried out in place is stored whole or leaves no trace, and it is given
the ids that were planned for it. -/
theorem outcome_define (registry : Registry) (batch : List ClassDeclaration) :
    outcome (define batch) registry =
      match registry.define batch with
      | .error error => (.error (.fault error), registry)
      | .ok (grown, ids) => (.ok ids, grown) := by
  rw [define, Registry.define]
  cases planned : registry.plan batch with
  | error error => exact outcome_bind_error (outcome_check (·.plan batch) planned)
  | ok ids =>
      rw [outcome_bind_ok (outcome_check (·.plan batch) planned)]
      dsimp only
      cases checked : registry.checkClasses (ids.zip batch) batch with
      | error error =>
          exact outcome_bind_error (outcome_check (·.checkClasses (ids.zip batch) batch) checked)
      | ok _ =>
          rw [outcome_bind_ok (outcome_check (·.checkClasses (ids.zip batch) batch) checked),
            plan_eq_storedIds planned, outcome_bind_ok (outcome_store registry batch)]
          rfl

end InPlace

end Registry

/-! ## What a batch writes -/

def FieldDefinition.declaration (field : FieldDefinition) : FieldDeclaration :=
  ⟨field.name, field.type⟩

/-- A definition with exactly what was declared, of the class with this id. -/
structure ClassDefinition.Records (definition : ClassDefinition) (identity : RegistryId)
    (id : ClassId) (declaration : ClassDeclaration) : Prop where
  registry_eq : definition.registry = identity
  id_eq : definition.id = id
  name_eq : definition.name = declaration.name
  parameters_eq : definition.parameters = declaration.parameters
  fields_eq : definition.fields.map (·.declaration) = declaration.fields
  fieldRegistry_eq : ∀ field ∈ definition.fields, field.registry = identity
  owner_eq : ∀ field ∈ definition.fields, field.owner = id
  ownerName_eq : ∀ field ∈ definition.fields, field.ownerName = declaration.name

namespace Registry

variable {registry grown : Registry} {batch : List ClassDeclaration} {ids : List ClassId}
  {id : ClassId}

theorem records_definitionOf (identity : RegistryId) (id : ClassId)
    (declaration : ClassDeclaration) :
    (definitionOf identity id declaration).Records identity id declaration where
  registry_eq := rfl
  id_eq := rfl
  name_eq := rfl
  parameters_eq := rfl
  fields_eq := by
    rw [definitionOf, List.map_map]
    exact List.map_id _
  fieldRegistry_eq := by simp [definitionOf]
  owner_eq := by simp [definitionOf]
  ownerName_eq := by simp [definitionOf]

theorem nameOf?_intern_of_ne {name : String} (other : id ≠ (registry.intern name).2) :
    (registry.intern name).1.nameOf? id = registry.nameOf? id := by
  cases known : registry.idOf? name with
  | some found => rw [intern_of_known known]
  | none =>
      rw [nameOf?_intern_of_unknown known, if_neg]
      intro last
      apply other
      rw [intern_of_unknown known]
      exact ClassId.ext last

theorem nameOf?_foldl_store_of_not_mem (elsewhere : id ∉ registry.storedIds batch) :
    (batch.foldl Registry.store registry).nameOf? id = registry.nameOf? id := by
  induction batch generalizing registry with
  | nil => rfl
  | cons declaration rest induction =>
      rw [storedIds, List.mem_cons, not_or] at elsewhere
      rw [List.foldl_cons, induction elsewhere.2, nameOf?_store, nameOf?_intern_of_ne elsewhere.1]

/-- What a batch has done to a registry once it is stored: the ids are those that the plan
foresaw and by which the names are known in the end, each holds what was declared, new names
stand behind the old ones in the order of the batch, and no other id is touched. -/
structure Installs (registry : Registry) (batch : List ClassDeclaration) (grown : Registry)
    (ids : List ClassId) : Prop where
  identity_eq : grown.identity = registry.identity
  planned_eq : registry.plan batch = .ok ids
  known : List.Forall₂ (fun id declaration => grown.idOf? declaration.name = some id) ids batch
  defined : List.Forall₂ (fun id declaration => ∃ definition,
    grown.definition? id = some definition ∧
      definition.Records grown.identity id declaration) ids batch
  names_eq : grown.slots.map (·.name) = registry.slots.map (·.name) ++
    (batch.map (·.name)).filter (· ∉ registry.slots.map (·.name))
  elsewhere : ∀ id, id ∉ ids →
    grown.nameOf? id = registry.nameOf? id ∧ grown.definition? id = registry.definition? id

theorem forall₂_storedIds {relation : ClassId → ClassDeclaration → Prop}
    (each : ∀ entry ∈ (registry.storedIds batch).zip batch, relation entry.1 entry.2) :
    List.Forall₂ relation (registry.storedIds batch) batch :=
  List.forall₂_iff_zip.mpr ⟨length_storedIds registry batch, fun member => each _ member⟩

theorem Indexed.installs (indexed : registry.Indexed)
    (defined : registry.define batch = .ok (grown, ids)) : registry.Installs batch grown ids := by
  rcases indexed.define_eq_ok_iff.mp defined with ⟨fresh, -, rfl, rfl⟩
  have planned := plan_eq_ok_iff.mpr ⟨fresh, rfl⟩
  have stored := indexed.definition?_foldl_store fresh.names_nodup
  exact
    { identity_eq := identity_foldl_store registry batch
      planned_eq := plan_eq_storedIds planned ▸ planned
      known := forall₂_storedIds fun entry member =>
        (indexed.foldl_store batch).idOf?_iff.mpr (indexed.nameOf?_storedIds entry member)
      defined := forall₂_storedIds fun entry member => by
        rw [identity_foldl_store]
        exact ⟨_, stored entry member, records_definitionOf ..⟩
      names_eq := indexed.names_foldl Indexed.store names_store fresh.names_nodup
      elsewhere := fun _ apart => ⟨nameOf?_foldl_store_of_not_mem apart,
        indexed.definition?_foldl_store_of_not_mem apart⟩ }

/-- A batch is defined in place exactly if it is accepted, and otherwise nothing of the
registry is changed: so a run can do without the requests that are refused in it.  A batch
that is accepted has the effect that its declarations describe, and no other. -/
theorem Reachable.effect_of_define (reachable : registry.Reachable)
    (batch : List ClassDeclaration) :
    (∀ interruption last,
      InPlace.outcome (InPlace.define batch) registry = (.error interruption, last) →
        last = registry ∧
          ∃ error, interruption = .fault error ∧ registry.define batch = .error error) ∧
      (∀ ids grown, InPlace.outcome (InPlace.define batch) registry = (.ok ids, grown) →
        registry.define batch = .ok (grown, ids) ∧ registry.Installs batch grown ids) ∧
      ∀ (workspace : Workspace) requests,
        (workspace.granted requests).foldl Workspace.perform workspace =
            requests.foldl Workspace.perform workspace ∧
          workspace.answers (workspace.granted requests) =
            (workspace.answers requests).filter (!Workspace.isRefusal ·) := by
  rw [InPlace.outcome_define]
  refine ⟨?_, ?_, fun workspace requests =>
    ⟨workspace.foldl_perform_granted requests, workspace.answers_granted requests⟩⟩
  · intro interruption last outcome
    split at outcome
    · next error failed =>
        cases outcome
        exact ⟨rfl, error, rfl, failed⟩
    · cases outcome
  · intro ids grown outcome
    split at outcome
    · cases outcome
    · next defined =>
        cases outcome
        exact ⟨defined, reachable.wellFormed.indexed.installs defined⟩

/-- The name of a child, without a family. -/
def familyChildName : Registry :=
  (withBuiltIns ⟨0⟩).change (.intern "family.Child")

/-- The child is stored under the id that its name has, and the parent behind it under a new
one.  Without the child the parent is refused, and its name is not kept either. -/
theorem effect_of_define_of_family :
    familyChildName.Reachable ∧
      InPlace.outcome (InPlace.define [familyParent, familyChild]) familyChildName =
        (.ok [⟨18⟩, ⟨17⟩], family) ∧
      familyChildName.Installs [familyParent, familyChild] family [⟨18⟩, ⟨17⟩] ∧
      InPlace.outcome (InPlace.define [familyParent]) familyChildName =
        (.error (.fault (.unknownClass "family.Parent" "children" "family.Child")),
          familyChildName) ∧
      ∀ (workspace : Workspace) requests,
        (workspace.granted requests).foldl Workspace.perform workspace =
            requests.foldl Workspace.perform workspace ∧
          workspace.answers (workspace.granted requests) =
            (workspace.answers requests).filter (!Workspace.isRefusal ·) := by
  have reachable : familyChildName.Reachable := .change _ (.withBuiltIns _)
  have accepted : InPlace.outcome (InPlace.define [familyParent, familyChild]) familyChildName =
      (.ok [⟨18⟩, ⟨17⟩], family) := by decide +kernel
  have refused : (InPlace.outcome (InPlace.define [familyParent]) familyChildName).1 =
      .error (.fault (.unknownClass "family.Parent" "children" "family.Child")) := by
    decide +kernel
  have effect := Reachable.effect_of_define reachable [familyParent, familyChild]
  have noEffect := Reachable.effect_of_define reachable [familyParent]
  have left := (noEffect.1 _ _ (Prod.ext refused rfl)).1
  exact ⟨reachable, accepted, (effect.2.1 _ _ accepted).2, Prod.ext refused left, effect.2.2⟩

end Registry

end FieldTypes
