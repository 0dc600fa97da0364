import FieldTypes.Proofs.Manifest.Registration
import FieldTypes.Proofs.Resolution.Renumbering
import Mathlib.Data.List.Perm.Basic

/-! The order of the classes in a manifest.  It decides which ids the classes get and
in which order they are read and checked; but the names are all known before any field
type is read, so one order leads to a registry if the other does, and the two
registries mirror each other. -/

namespace FieldTypes

variable {change : ClassId → ClassId} {left right : Registry}

namespace Manifest

/-! ## Declarations under other ids -/

section

variable (same : Registry.SameNames change left right)

include same

theorem scopeOf_renumber (entry : ClassEntry) :
    scopeOf right entry = (scopeOf left entry).renumber change := by
  rw [scopeOf, scopeOf, same.idOf?_eq, Expression.Scope.renumber, Option.map_map, Option.map_map]
  rfl

theorem declareFields_renumber {scope : Expression.Scope} {owner : String}
    {entries : List FieldEntry} {fields : List FieldDeclaration}
    (declared : declareFields left scope owner entries = .ok fields) :
    declareFields right (scope.renumber change) owner entries =
      .ok (fields.map (·.renumber change)) := by
  rw [declareFields_eq_ok_iff] at declared ⊢
  rw [List.forall₂_map_right_iff]
  apply declared.imp
  intro entry field parts
  rcases parts with ⟨type, read, rfl⟩
  exact ⟨type.renumber change, Expression.parse_renumber same read, rfl⟩

theorem declareClass_renumber {entry : ClassEntry} {declaration : ClassDeclaration}
    (declared : declareClass left entry = .ok declaration) :
    declareClass right entry = .ok (declaration.renumber change) := by
  rw [declareClass_eq_ok_iff] at declared ⊢
  rcases declared with ⟨fields, read, rfl⟩
  rw [scopeOf_renumber same]
  exact ⟨fields.map (·.renumber change), declareFields_renumber same read, rfl⟩

end

/-! ## The two registries -/

theorem map_renumber_builtIns (change : ClassId → ClassId) :
    Registry.builtIns.map (·.renumber change) = Registry.builtIns :=
  rfl

variable {first second : RegistryId} {manifest other : Manifest}

/-- Before any class is declared, the registries have the same names and the built-in
classes in common. -/
theorem exists_mirrors_named (perm : manifest.classes.Perm other.classes)
    (first second : RegistryId) :
    ∃ change, Registry.Mirrors change (named first manifest) (named second other) := by
  have names : ∀ name, ((named second other).idOf? name).isSome =
      ((named first manifest).idOf? name).isSome := by
    intro name
    rw [Bool.eq_iff_iff, isSome_idOf?_named, isSome_idOf?_named,
      (perm.map (·.name)).mem_iff]
  have same := Registry.sameNames_translation
    (named_reachable first manifest).wellFormed.indexed
    (named_reachable second other).wellFormed.indexed names
  refine ⟨_, (named_defines first manifest).mirrors (named_defines second other) ?_ same⟩
  rw [map_renumber_builtIns]

/-- With the classes in another order the registry is built as well, and the one
mirrors the other. -/
theorem exists_build_of_perm (perm : manifest.classes.Perm other.classes)
    (built : build first manifest = .ok left) (second : RegistryId) :
    ∃ right change, build second other = .ok right ∧ Registry.Mirrors change left right := by
  rcases exists_mirrors_named perm first second with ⟨change, mirrors⟩
  rcases build_eq_ok_iff.mp built with ⟨batch, ids, declared, defined⟩
  rcases Registry.define_eq_ok_iff_accepts.mp defined with ⟨accepted, rfl, -⟩
  have known : ∀ declaration ∈ batch,
      ((named first manifest).idOf? declaration.name).isSome = true :=
    isSome_idOf?_of_declared declared
  -- The same entries make the same declarations under the ids of the other registry; the
  -- other order of entries then only puts these declarations in another order.
  have renumbered : List.Forall₂ (fun entry declaration =>
      declareClass (named second other) entry = .ok declaration)
      manifest.classes (batch.map (·.renumber change)) := by
    rw [List.forall₂_map_right_iff]
    exact declared.imp fun _ _ => declareClass_renumber mirrors.toSameNames
  rcases List.perm_comp_forall₂ perm.symm renumbered with ⟨others, otherDeclared, reordered⟩
  refine ⟨_, change, build_eq_ok_iff.mpr ⟨others, _, otherDeclared,
    Registry.define_eq_ok_iff_accepts.mpr ⟨?_, rfl, rfl⟩⟩, ?_⟩
  · exact accepted.mirror reordered.symm known mirrors
  · exact mirrors.foldl_store reordered.symm known accepted.fresh

end Manifest

/-! ## What they tell -/

namespace Registry

/-- Two registries tell the same about the class of a name, under whatever ids: its
type parameters, its fields with their types as text, and for all texts that can be
type arguments, what the fields resolve to or why they do not. -/
def TellAlike (left right : Registry) (name : String) : Prop :=
  ∃ leftId leftClass rightId rightClass,
    (left.lookup? name = some leftId ∧ left.definition? leftId = some leftClass) ∧
    (right.lookup? name = some rightId ∧ right.definition? rightId = some rightClass) ∧
    leftClass.parameters = rightClass.parameters ∧
    leftClass.fields.map (·.name) = rightClass.fields.map (·.name) ∧
    (leftClass.fields.map fun field => left.declaredText field.type) =
      (rightClass.fields.map fun field => right.declaredText field.type) ∧
    ∀ texts,
      ((∃ arguments, List.Forall₂ left.Denotes texts arguments) ↔
        ∃ arguments, List.Forall₂ right.Denotes texts arguments) ∧
      ∀ leftArguments rightArguments,
        List.Forall₂ left.Denotes texts leftArguments →
        List.Forall₂ right.Denotes texts rightArguments →
        left.resolutionTexts leftId leftArguments = right.resolutionTexts rightId rightArguments

theorem Mirrors.forall₂_denotes (mirrors : Mirrors change left right) {texts : List String}
    {arguments : List ResolvedType} (denote : List.Forall₂ left.Denotes texts arguments) :
    List.Forall₂ right.Denotes texts (arguments.map (·.renumber change)) := by
  rw [List.forall₂_map_right_iff]
  exact denote.imp fun _ _ denotes => denotes.renumber mirrors

theorem Mirrors.tellAlike {back : ClassId → ClassId} (mirrors : Mirrors change left right)
    (mirrorsBack : Mirrors back right left) (leftFormed : left.WellFormed)
    (rightFormed : right.WellFormed) {name : String} {id : ClassId}
    {definition : ClassDefinition} (found : left.lookup? name = some id)
    (defined : left.definition? id = some definition) : TellAlike left right name := by
  refine ⟨id, definition, change id, definition.renumber change right.identity,
    ⟨found, defined⟩, ⟨?_, ?_⟩, rfl, ?_, ?_, ?_⟩
  · rw [mirrors.lookup?_eq, found, Option.map_some]
  · rw [mirrors.definition?_eq, defined, Option.map_some]
  · rw [ClassDefinition.renumber, List.map_map]
    rfl
  · rw [ClassDefinition.renumber, List.map_map]
    apply List.map_congr_left
    intro field _
    exact (mirrors.declaredText_renumber field.type).symm
  · intro texts
    refine ⟨⟨?_, ?_⟩, ?_⟩
    · intro parts
      rcases parts with ⟨arguments, denote⟩
      exact ⟨_, mirrors.forall₂_denotes denote⟩
    · -- The way back is a mirror of its own, under its own change of ids.
      intro parts
      rcases parts with ⟨arguments, denote⟩
      exact ⟨_, mirrorsBack.forall₂_denotes denote⟩
    · intro leftArguments rightArguments leftDenote rightDenote
      have same : leftArguments.map (·.renumber change) = rightArguments :=
        List.right_unique_forall₂' (fun _ _ _ first second => first.unique second)
          (mirrors.forall₂_denotes leftDenote) rightDenote
      rw [← same]
      exact (resolutionTexts_renumber mirrors leftFormed rightFormed defined leftArguments).symm

end Registry

namespace Manifest

variable {manifest : Manifest} {classes : List ClassEntry}

/-- The order of its classes decides neither whether the registry of a manifest can be
built nor what it tells about any of them. -/
theorem build_in_any_order (perm : manifest.classes.Perm classes) (first second : RegistryId) :
    ((∃ left, build first manifest = .ok left) ↔
      ∃ right, build second { manifest with classes } = .ok right) ∧
    ∀ left right, build first manifest = .ok left →
      build second { manifest with classes } = .ok right →
      ∀ entry ∈ manifest.classes, Registry.TellAlike left right entry.name := by
  have forth : manifest.classes.Perm ({ manifest with classes } : Manifest).classes := perm
  refine ⟨⟨?_, ?_⟩, ?_⟩
  · intro parts
    rcases parts with ⟨left, built⟩
    rcases exists_build_of_perm forth built second with ⟨right, change, otherBuilt, -⟩
    exact ⟨right, otherBuilt⟩
  · intro parts
    rcases parts with ⟨right, built⟩
    rcases exists_build_of_perm forth.symm built first with ⟨left, change, otherBuilt, -⟩
    exact ⟨left, otherBuilt⟩
  · intro left right leftBuilt rightBuilt entry member
    rcases exists_build_of_perm forth leftBuilt second with ⟨found, change, foundBuilt, mirrors⟩
    rcases exists_build_of_perm forth.symm rightBuilt first with
      ⟨foundBack, changeBack, foundBackBuilt, mirrorsBack⟩
    cases foundBuilt.symm.trans rightBuilt
    cases foundBackBuilt.symm.trans leftBuilt
    rcases exists_definition_of_build leftBuilt member with ⟨id, definition, lookup, defined⟩
    exact mirrors.tellAlike mirrorsBack (build_reachable leftBuilt).wellFormed
      (build_reachable rightBuilt).wellFormed lookup defined

/-- The two classes may as well come in the other order. -/
theorem build_in_any_order_of_node :
    nodeManifest.classes.Perm [pairEntry, nodeEntry] ∧
      (build ⟨0⟩ nodeManifest).toBool = true ∧
      ((∃ left, build ⟨0⟩ nodeManifest = .ok left) ↔
        ∃ right, build ⟨1⟩ { nodeManifest with classes := [pairEntry, nodeEntry] } = .ok right) ∧
      ∀ left right, build ⟨0⟩ nodeManifest = .ok left →
        build ⟨1⟩ { nodeManifest with classes := [pairEntry, nodeEntry] } = .ok right →
        ∀ entry ∈ nodeManifest.classes, Registry.TellAlike left right entry.name :=
  have perm : nodeManifest.classes.Perm [pairEntry, nodeEntry] := .swap _ _ _
  ⟨perm, by decide +kernel, build_in_any_order perm ⟨0⟩ ⟨1⟩⟩

end Manifest

end FieldTypes
