import FieldTypes.Proofs.Manifest.Contents
import FieldTypes.Proofs.Registry.Extension
import FieldTypes.Proofs.Registry.Lookup

/-! A manifest with one more class at its end.  As long as no field type mentions the new
name, whole or cut short, the other classes are stored as before, and if the registry
cannot be built then the new class is the reason. -/

namespace FieldTypes

/-- No field type of the class mentions the name, neither in full nor by what follows its
last dot. -/
def ClassEntry.Omits (entry : ClassEntry) (name : String) : Prop :=
  ∀ field ∈ entry.fields, ∀ mentioned, Expression.Mentions field.type.toList mentioned →
    mentioned ≠ name ∧ mentioned.toList ≠ Expression.Scope.simpleName name.toList

namespace Manifest

/-- The class that a failure is about. -/
def BuildError.className : BuildError → String
  | .fieldType owner _ _ => owner
  | .definition error => error.className

def Unmentioned (manifest : Manifest) (name : String) : Prop :=
  ∀ entry ∈ manifest.classes, entry.Omits name

/-- It is enough that the end of the name is nowhere in the texts. -/
theorem unmentioned_of_not_isInfix {manifest : Manifest} {name : String}
    (absent : ∀ entry ∈ manifest.classes, ∀ field ∈ entry.fields,
      ¬ Expression.Scope.simpleName name.toList <:+: field.type.toList) :
    manifest.Unmentioned name := by
  intro entry member field inside mentioned mentions
  have within := mentions.isInfix
  refine ⟨?_, ?_⟩
  · rintro rfl
    have simple := Expression.Scope.simpleName_isSuffix mentioned.toList
    exact absent entry member field inside (simple.isInfix.trans within)
  · intro same
    exact absent entry member field inside (same ▸ within)

/-- The manifest with one more class. -/
def append (manifest : Manifest) (entry : ClassEntry) : Manifest :=
  { manifest with classes := manifest.classes ++ [entry] }

variable {identity : RegistryId} {manifest : Manifest} {registry : Registry} {entry : ClassEntry}

theorem named_append (identity : RegistryId) (manifest : Manifest) (entry : ClassEntry) :
    named identity (manifest.append entry) =
      ((named identity manifest).intern entry.name).1 := by
  rw [named, append, List.foldl_append]
  rfl

/-! ## Declarations -/

/-- A class that does not mention the new name is declared as before. -/
theorem declareClass_intern {name : String} (indexed : registry.Indexed) {other : ClassEntry}
    (known : (registry.idOf? other.name).isSome = true) (omits : other.Omits name)
    {declaration : ClassDeclaration} (declared : declareClass registry other = .ok declaration) :
    declareClass (registry.intern name).1 other = .ok declaration := by
  rw [declareClass_eq_ok_iff] at declared ⊢
  rcases declared with ⟨fields, read, rfl⟩
  refine ⟨fields, ?_, rfl⟩
  rw [declareFields_eq_ok_iff] at read ⊢
  rw [scopeOf, Registry.idOf?_intern_of_isSome known]
  refine forall₂_imp_of_mem ?_ read
  intro written member field parts
  rcases parts with ⟨type, parsed, rfl⟩
  refine ⟨type, Expression.parse_of_mentions ?_ parsed, rfl⟩
  intro mentioned inText
  rcases omits written member mentioned inText with ⟨different, notSimple⟩
  exact indexed.lookup?_intern different fun last =>
    notSimple (Registry.isLastPart_iff.mp last).symm

/-- With the earlier declarations made, all depends on the last one. -/
theorem declareClasses_append {entries : List ClassEntry} {batch : List ClassDeclaration}
    (declared : List.Forall₂ (fun entry declaration =>
      declareClass registry entry = .ok declaration) entries batch) :
    declareClasses registry (entries ++ [entry]) =
      (declareClass registry entry).map fun declaration => batch ++ [declaration] := by
  induction declared with
  | nil =>
      rw [List.nil_append, declareClasses]
      cases declareClass registry entry with
      | error failure => rfl
      | ok declaration => rfl
  | cons first _ induction =>
      rw [List.cons_append, declareClasses, first, induction]
      cases declareClass registry entry with
      | error failure => rfl
      | ok declaration => rfl

/-! ## The larger manifest -/

section

variable (built : build identity manifest = .ok registry)
  (unmentioned : manifest.Unmentioned entry.name)

include built unmentioned

/-- The earlier classes are declared and accepted as in the smaller manifest. -/
theorem exists_declared_append :
    ∃ batch, (named identity manifest).Accepts batch ∧
      (∀ declaration ∈ batch,
        ((named identity manifest).idOf? declaration.name).isSome = true) ∧
      batch.foldl Registry.store (named identity manifest) = registry ∧
      declareClasses (named identity (manifest.append entry)) (manifest.append entry).classes =
        (declareClass (named identity (manifest.append entry)) entry).map
          fun declaration => batch ++ [declaration] := by
  rcases build_eq_ok_iff_accepts.mp built with ⟨batch, declared, accepted, stored⟩
  refine ⟨batch, accepted, isSome_idOf?_of_declared declared, stored, declareClasses_append ?_⟩
  rw [named_append]
  refine forall₂_imp_of_mem ?_ declared
  intro other member declaration otherDeclared
  refine declareClass_intern (named_reachable identity manifest).wellFormed.indexed ?_
    (unmentioned other member) otherDeclared
  rw [isSome_idOf?_named]
  exact .inr (List.mem_map_of_mem member)

theorem growsTo_of_build_append {grown : Registry}
    (grownBuilt : build identity (manifest.append entry) = .ok grown) :
    registry.GrowsTo grown := by
  rcases exists_declared_append built unmentioned with ⟨batch, accepted, known, rfl, declared⟩
  rcases build_eq_ok_iff_accepts.mp grownBuilt with ⟨whole, wholeDeclared, wholeAccepted, rfl⟩
  rw [declareClasses_eq_ok_iff.mpr wholeDeclared] at declared
  cases last : declareClass (named identity (manifest.append entry)) entry with
  | error failure =>
      rw [last] at declared
      cases declared
  | ok declaration =>
      rw [last] at declared
      cases declared
      refine Registry.GrowsTo.foldl_store_append known ?_
        (named_reachable identity manifest).wellFormed.indexed
        (named_reachable identity (manifest.append entry)).wellFormed.indexed
        accepted.fresh wholeAccepted.fresh
      rw [named_append]
      exact .intern _ entry.name

/-- A failure is one to declare the new class or one to define it. -/
theorem className_of_build_append {error : BuildError}
    (failed : build identity (manifest.append entry) = .error error) :
    error.className = entry.name := by
  rcases exists_declared_append built unmentioned with ⟨batch, accepted, known, -, declared⟩
  rw [build, declared] at failed
  cases last : declareClass (named identity (manifest.append entry)) entry with
  | error failure =>
      rw [last] at failed
      cases failed
      rcases fieldType_of_declareClass last with ⟨field, reason, rfl⟩
      rfl
  | ok declaration =>
      rcases declareClass_eq_ok_iff.mp last with ⟨fields, -, rfl⟩
      rw [last, named_append] at failed
      have stillAccepted := accepted.intern known entry.name
      dsimp only [Except.map] at failed
      split at failed
      · next failure refused =>
          cases failed
          exact stillAccepted.className_of_define_append refused
      · cases failed

end

end Manifest

/-! ## The other classes -/

/-- Two registries share the class of a name: they have it under the same id, with the
same names and the same types of fields. -/
def Registry.ShareClass (left right : Registry) (name : String) : Prop :=
  ∃ id definition, left.idOf? name = some id ∧ left.definition? id = some definition ∧
    right.idOf? name = some id ∧ right.definition? id = some (definition.moveTo right.identity)

theorem Registry.GrowsTo.shareClass_copy {left grown : Registry} (growth : left.GrowsTo grown)
    (indexed : left.Indexed) (grownIndexed : grown.Indexed) {name : String} {id : ClassId}
    {definition : ClassDefinition} (known : left.idOf? name = some id)
    (defined : left.definition? id = some definition) (identity : RegistryId) :
    left.ShareClass (grown.copy identity) name := by
  refine ⟨id, definition, known, defined, ?_, ?_⟩
  · rw [idOf?_copy, grownIndexed.idOf?_iff]
    exact growth.nameOf?_eq (indexed.idOf?_iff.mp known)
  · rw [definition?_copy, growth.definition?_eq defined, Option.map_some]
    rfl

namespace Manifest

variable {first : RegistryId} {manifest : Manifest} {left : Registry} {entry : ClassEntry}

/-- One more class that no field type mentions leaves the other classes as they are.  If
the registry cannot be built with it, then it is the class that the error is about. -/
theorem build_append_unmentioned (built : build first manifest = .ok left)
    (unmentioned : manifest.Unmentioned entry.name) (second : RegistryId) :
    (∀ right, build second (manifest.append entry) = .ok right →
      ∀ other ∈ manifest.classes, left.ShareClass right other.name) ∧
    ∀ error, build second (manifest.append entry) = .error error →
      error.className = entry.name := by
  -- The identity takes no part in building, and with the same one the smaller registry
  -- grows to be the larger.
  rw [build_copy first second]
  constructor
  · intro right rightBuilt other member
    cases grownBuilt : build first (manifest.append entry) with
    | error failure =>
        rw [grownBuilt] at rightBuilt
        cases rightBuilt
    | ok grown =>
        rw [grownBuilt] at rightBuilt
        cases rightBuilt
        rcases List.mem_iff_getElem?.mp member with ⟨index, place⟩
        rcases definition?_entry built place with ⟨declaration, -, defined⟩
        exact (growsTo_of_build_append built unmentioned grownBuilt).shareClass_copy
          (build_reachable built).wellFormed.indexed
          (build_reachable grownBuilt).wellFormed.indexed (idOf?_entry built place) defined second
  · intro error failed
    exact className_of_build_append built unmentioned (map_eq_error_iff.mp failed)

/-! A tree whose leaves hold nodes of the list. -/

def leafEntry : ClassEntry where
  name := "tree.Leaf"
  parameters := ["T"]
  fields := [⟨"node", "Node<T>"⟩, ⟨"leaf", "Leaf<T[]>"⟩]

theorem unmentioned_leaf : nodeManifest.Unmentioned leafEntry.name := by
  apply unmentioned_of_not_isInfix
  decide +kernel

theorem build_append_unmentioned_of_leaf :
    build ⟨0⟩ nodeManifest = .ok nodeRegistry ∧ nodeManifest.Unmentioned leafEntry.name ∧
      (build ⟨1⟩ (nodeManifest.append leafEntry)).toBool = true ∧
      (∀ right, build ⟨1⟩ (nodeManifest.append leafEntry) = .ok right →
        ∀ other ∈ nodeManifest.classes, nodeRegistry.ShareClass right other.name) ∧
      ∀ error, build ⟨1⟩ (nodeManifest.append leafEntry) = .error error →
        error.className = leafEntry.name :=
  ⟨build_nodeManifest, unmentioned_leaf, by decide +kernel,
    build_append_unmentioned build_nodeManifest unmentioned_leaf ⟨1⟩⟩

end Manifest

end FieldTypes
