import FieldTypes.Manifest.Registration
import FieldTypes.Proofs.Registry.Order
import FieldTypes.Proofs.Sequences

/-! What building a registry comes to: places for the names of a manifest next to the
built-in classes, one declaration for each of its entries, and a batch that is in
order. -/

namespace FieldTypes

theorem Registry.Reachable.define {registry grown : Registry} (reachable : registry.Reachable)
    {batch : List ClassDeclaration} {ids : List ClassId}
    (defined : registry.define batch = .ok (grown, ids)) : grown.Reachable := by
  have changed := Reachable.change (.define batch) reachable
  rwa [Registry.change, defined] at changed

namespace Manifest

variable {identity : RegistryId} {manifest : Manifest} {registry : Registry}

/-! ## Names -/

/-- What holds of the built-in classes and outlasts interning holds of a registry
with the names of a manifest. -/
theorem named_induction {motive : Registry → Prop}
    (start : motive (.withBuiltIns identity))
    (intern : ∀ registry name, motive registry → motive (registry.intern name).1)
    (manifest : Manifest) : motive (named identity manifest) := by
  rw [named]
  generalize Registry.withBuiltIns identity = registry at start
  induction manifest.classes generalizing registry with
  | nil => exact start
  | cons entry rest induction => exact induction _ (intern registry entry.name start)

@[simp] theorem identity_named (identity : RegistryId) (manifest : Manifest) :
    (named identity manifest).identity = identity := by
  apply named_induction (motive := fun registry => registry.identity = identity)
    (Registry.identity_withBuiltIns identity)
  intro registry name same
  rw [Registry.identity_intern, same]

theorem named_reachable (identity : RegistryId) (manifest : Manifest) :
    (named identity manifest).Reachable := by
  apply named_induction (.withBuiltIns identity)
  intro registry name reachable
  exact .change (.intern name) reachable

theorem named_defines (identity : RegistryId) (manifest : Manifest) :
    (named identity manifest).Defines Registry.builtIns := by
  apply named_induction (motive := fun registry => registry.Defines Registry.builtIns)
    (Registry.defines_withBuiltIns identity)
  intro registry name defines
  exact defines.intern name

theorem isSome_idOf?_foldl_intern (entries : List ClassEntry) (registry : Registry)
    (name : String) :
    ((entries.foldl (fun registry entry => (registry.intern entry.name).1) registry).idOf?
        name).isSome = true ↔
      (registry.idOf? name).isSome = true ∨ name ∈ entries.map (·.name) := by
  induction entries generalizing registry with
  | nil => simp
  | cons entry rest induction =>
      rw [List.foldl_cons, induction, Registry.isSome_idOf?_intern, List.map_cons,
        List.mem_cons, or_assoc]

theorem isSome_idOf?_named (identity : RegistryId) (manifest : Manifest) (name : String) :
    ((named identity manifest).idOf? name).isSome = true ↔
      name ∈ Registry.builtIns.map (·.name) ∨ name ∈ manifest.classes.map (·.name) := by
  rw [named, isSome_idOf?_foldl_intern, Registry.withBuiltIns,
    Registry.isSome_idOf?_foldl_store]
  simp [Registry.empty, Registry.idOf?]

/-! ## Declarations -/

def declareField (registry : Registry) (scope : Expression.Scope) (owner : String)
    (entry : FieldEntry) : Except BuildError FieldDeclaration :=
  match Expression.parse registry scope entry.type with
  | .error error => .error (.fieldType owner entry.name error)
  | .ok type => .ok ⟨entry.name, type⟩

theorem collects_declareFields (registry : Registry) (scope : Expression.Scope)
    (owner : String) :
    Collects (declareField registry scope owner) (declareFields registry scope owner) where
  nil_eq := rfl
  cons_eq entry rest := by
    rw [declareFields, declareField]
    cases Expression.parse registry scope entry.type with
    | error error => rfl
    | ok type => rfl

theorem declareField_eq_ok_iff {scope : Expression.Scope} {owner : String} {entry : FieldEntry}
    {field : FieldDeclaration} :
    declareField registry scope owner entry = .ok field ↔
      ∃ type, Expression.parse registry scope entry.type = .ok type ∧
        field = ⟨entry.name, type⟩ := by
  rw [declareField]
  cases Expression.parse registry scope entry.type with
  | error error => simp
  | ok type => simp [eq_comm]

theorem declareFields_eq_ok_iff {scope : Expression.Scope} {owner : String}
    {entries : List FieldEntry} {fields : List FieldDeclaration} :
    declareFields registry scope owner entries = .ok fields ↔
      List.Forall₂ (fun entry field =>
        ∃ type, Expression.parse registry scope entry.type = .ok type ∧
          field = ⟨entry.name, type⟩) entries fields := by
  rw [(collects_declareFields registry scope owner).eq_ok_iff]
  simp only [declareField_eq_ok_iff]

theorem declareClass_eq_ok_iff {entry : ClassEntry} {declaration : ClassDeclaration} :
    declareClass registry entry = .ok declaration ↔
      ∃ fields, declareFields registry (scopeOf registry entry) entry.name entry.fields =
          .ok fields ∧
        declaration = ⟨entry.name, entry.parameters, fields⟩ := by
  rw [declareClass]
  cases declareFields registry (scopeOf registry entry) entry.name entry.fields with
  | error failure => simp [Except.map]
  | ok fields => simp [Except.map, eq_comm]

theorem collects_declareClasses (registry : Registry) :
    Collects (declareClass registry) (declareClasses registry) where
  nil_eq := rfl
  cons_eq entry rest := by
    rw [declareClasses]
    cases declareClass registry entry with
    | error failure => rfl
    | ok declaration => rfl

theorem declareClasses_eq_ok_iff {entries : List ClassEntry} {batch : List ClassDeclaration} :
    declareClasses registry entries = .ok batch ↔
      List.Forall₂ (fun entry declaration => declareClass registry entry = .ok declaration)
        entries batch :=
  (collects_declareClasses registry).eq_ok_iff

/-- A class cannot be declared only for one of its field types. -/
theorem fieldType_of_declareClass {entry : ClassEntry} {failure : BuildError}
    (failed : declareClass registry entry = .error failure) :
    ∃ field error, failure = .fieldType entry.name field error := by
  rcases (collects_declareFields registry _ _).exists_of_eq_error
    (map_eq_error_iff.mp failed) with ⟨field, -, fieldFailed⟩
  rw [declareField] at fieldFailed
  split at fieldFailed
  · cases fieldFailed
    exact ⟨_, _, rfl⟩
  · cases fieldFailed

theorem names_of_declared {entries : List ClassEntry} {batch : List ClassDeclaration}
    (declared : List.Forall₂ (fun entry declaration =>
      declareClass registry entry = .ok declaration) entries batch) :
    batch.map (·.name) = entries.map (·.name) := by
  induction declared with
  | nil => rfl
  | cons first _ induction =>
      rcases declareClass_eq_ok_iff.mp first with ⟨fields, -, rfl⟩
      rw [List.map_cons, List.map_cons, induction]

/-- The declared names have their places. -/
theorem isSome_idOf?_of_declared {batch : List ClassDeclaration}
    (declared : List.Forall₂ (fun entry declaration =>
      declareClass registry entry = .ok declaration) manifest.classes batch) :
    ∀ declaration ∈ batch, ((named identity manifest).idOf? declaration.name).isSome = true := by
  intro declaration member
  rw [isSome_idOf?_named, ← names_of_declared declared]
  exact .inr (List.mem_map_of_mem member)

/-! ## The registry -/

theorem build_eq_ok_iff :
    build identity manifest = .ok registry ↔
      ∃ batch ids,
        List.Forall₂ (fun entry declaration =>
          declareClass (named identity manifest) entry = .ok declaration) manifest.classes batch ∧
        (named identity manifest).define batch = .ok (registry, ids) := by
  rw [build]
  simp only [← declareClasses_eq_ok_iff]
  cases declareClasses (named identity manifest) manifest.classes with
  | error failure => simp
  | ok batch =>
      simp only [Except.ok.injEq, exists_and_left, exists_eq_left']
      cases (named identity manifest).define batch with
      | error failure => simp
      | ok result => simp [Prod.ext_iff]

/-- Once all classes are declared, what is left to go wrong is their definition. -/
theorem exists_declared_of_build_eq_error {error : DefinitionError}
    (failed : build identity manifest = .error (.definition error)) :
    ∃ batch,
      List.Forall₂ (fun entry declaration =>
        declareClass (named identity manifest) entry = .ok declaration) manifest.classes batch ∧
      (named identity manifest).define batch = .error error := by
  rw [build] at failed
  cases outcome : declareClasses (named identity manifest) manifest.classes with
  | error failure =>
      rw [outcome] at failed
      cases failed
      rcases (collects_declareClasses _).exists_of_eq_error outcome with ⟨entry, -, entryFailed⟩
      rcases fieldType_of_declareClass entryFailed with ⟨field, reason, different⟩
      cases different
  | ok batch =>
      rw [outcome] at failed
      refine ⟨batch, declareClasses_eq_ok_iff.mp outcome, ?_⟩
      dsimp only at failed
      split at failed
      · next refused =>
          cases failed
          exact refused
      · cases failed

/-- A registry is built from declarations that it accepts. -/
theorem build_eq_ok_iff_accepts :
    build identity manifest = .ok registry ↔
      ∃ batch,
        List.Forall₂ (fun entry declaration =>
          declareClass (named identity manifest) entry = .ok declaration) manifest.classes batch ∧
        (named identity manifest).Accepts batch ∧
        batch.foldl Registry.store (named identity manifest) = registry := by
  rw [build_eq_ok_iff]
  simp only [Registry.define_eq_ok_iff_accepts]
  constructor
  · intro parts
    rcases parts with ⟨batch, ids, declared, accepted, stored, -⟩
    exact ⟨batch, declared, accepted, stored⟩
  · intro parts
    rcases parts with ⟨batch, declared, accepted, stored⟩
    exact ⟨batch, _, declared, accepted, stored, rfl⟩

theorem build_reachable (built : build identity manifest = .ok registry) :
    registry.Reachable := by
  rcases build_eq_ok_iff.mp built with ⟨batch, ids, -, defined⟩
  exact (named_reachable identity manifest).define defined

/-- Each class of the manifest is found by its full name, and it is defined. -/
theorem exists_definition_of_build (built : build identity manifest = .ok registry)
    {entry : ClassEntry} (member : entry ∈ manifest.classes) :
    ∃ id definition, registry.lookup? entry.name = some id ∧
      registry.definition? id = some definition := by
  rcases build_eq_ok_iff.mp built with ⟨batch, ids, declared, defined⟩
  rcases Registry.define_eq_ok_iff_accepts.mp defined with ⟨accepted, rfl, -⟩
  have indexed := (named_reachable identity manifest).wellFormed.indexed
  have declaredName : entry.name ∈ batch.map (·.name) := by
    rw [names_of_declared declared]
    exact List.mem_map_of_mem member
  rcases List.mem_map.mp declaredName with ⟨declaration, within, sameName⟩
  rcases Registry.exists_storedId_of_mem within (named identity manifest) with ⟨id, stored⟩
  refine ⟨id, _, ?_, indexed.definition?_foldl_store accepted.names_nodup _ stored⟩
  rw [← sameName]
  exact Registry.lookup?_of_nameOf? (indexed.foldl_store batch)
    (indexed.nameOf?_storedIds _ stored)

/-! ## An example

A class that mentions a later one and itself. -/

def nodeEntry : ClassEntry where
  name := "list.Node"
  parameters := ["T"]
  fields := [⟨"pair", "Pair<T, String>"⟩, ⟨"next", "Node<T>"⟩, ⟨"any", "Pair<?, T[]>"⟩]

def pairEntry : ClassEntry where
  name := "list.Pair"
  parameters := ["A", "B"]
  fields := [⟨"first", "A"⟩, ⟨"others", "List<B>"⟩]

def nodeManifest : Manifest :=
  ⟨.defaults, [nodeEntry, pairEntry]⟩

end Manifest

end FieldTypes
