import FieldTypes.Proofs.CommandLine.Reports
import FieldTypes.Proofs.Manifest.Contents

/-! What the check of a manifest lists: each of its classes once, in the order of the manifest,
as the registry stores it. -/

namespace FieldTypes

namespace CommandLine

open Text

/-- How an entry is listed, in lines and in JSON: the class that is stored for it, under the
names in the entry, and each field with the text of its stored type. -/
inductive Lists (registry : Registry) (entry : ClassEntry) : List String × Json → Prop
  | stored {definition : ClassDefinition} :
      registry.definition? definition.id = some definition → registry.Represents entry definition →
      Lists registry entry
        ( (if entry.parameters = [] then "class " ++ entry.name
            else "class " ++ entry.name ++ "<" ++ ", ".intercalate entry.parameters ++ ">") ::
            definition.fields.map fun field =>
              "  " ++ field.name ++ ": " ++ registry.declaredText field.type,
          .object
            [ ("name", .text entry.name),
              ("type_params", .list (entry.parameters.map .text)),
              ("fields", .list (definition.fields.map fun field => .object
                [ ("name", .text field.name),
                  ("declared", .text (registry.declaredText field.type)) ])) ] )

/-- The outcome lists entries, each once and in their order.  In front of them stands the path
of the manifest, and at the end of the lines their number. -/
def ListsEntries (registry : Registry) (config? : Option String) (entries : List ClassEntry)
    (asJson : Bool) (outcome : Outcome) : Prop :=
  ∃ listed, List.Forall₂ (Lists registry) entries listed ∧
    outcome.PutsOut asJson
      (("config: " ++ config?.getD "(none)") ::
        listed.flatMap Prod.fst ++ ["ok: " ++ toString entries.length ++ " classes"])
      (.object
        [ ("config", config?.elim .null .text),
          ("classes", .list (listed.map Prod.snd)) ])

/-! ## The classes of a report -/

theorem commaSeparated_eq_intercalate (texts : List String) :
    commaSeparated texts = ", ".intercalate texts := by
  induction texts with
  | nil => rfl
  | cons text rest induction =>
      cases rest with
      | nil => rfl
      | cons next later =>
          rw [commaSeparated, induction, String.intercalate_cons_cons]

namespace CheckReport

theorem classHeading_eq (entry : ClassSummary) :
    classHeading entry =
      if entry.parameters = [] then "class " ++ entry.name
      else "class " ++ entry.name ++ "<" ++ ", ".intercalate entry.parameters ++ ">" := by
  simp only [classHeading, List.isEmpty_iff, commaSeparated_eq_intercalate]

theorem lists_summary {registry : Registry} {entry : ClassEntry} {definition : ClassDefinition}
    (defined : registry.definition? definition.id = some definition)
    (represents : registry.Represents entry definition) :
    Lists registry entry
      (classLines (summary registry definition), classJson (summary registry definition)) := by
  have listed := Lists.stored defined represents
  rw [← represents.name_eq, ← represents.parameters_eq] at listed
  simpa only [classLines, classHeading_eq, classJson, summary, List.map_map,
    Function.comp_def] using listed

theorem json_eq (report : CheckReport) :
    report.json = .object
      [ ("config", report.config?.elim .null .text),
        ("classes", .list (report.classes.map classJson)) ] := by
  rw [json]
  cases report.config? with
  | none => rfl
  | some path => rfl

/-- A report puts out its classes and nothing more. -/
theorem listsEntries_reported {registry : Registry} {entries : List ClassEntry}
    {report : CheckReport}
    (lists : List.Forall₂ (fun entry summary =>
      Lists registry entry (classLines summary, classJson summary)) entries report.classes)
    (code : Nat) (asJson : Bool) :
    ListsEntries registry report.config? entries asJson
      (.reported code asJson report.lines report.json) := by
  refine ⟨report.classes.map fun summary => (classLines summary, classJson summary),
    List.forall₂_map_right_iff.mpr lists, ?_⟩
  rw [json_eq, List.flatMap_map, List.map_map, lists.length_eq]
  exact Outcome.putsOut_reported code asJson report.lines _

/-! ## The registry of the report -/

theorem summary_copy (identity : RegistryId) (registry : Registry) (definition : ClassDefinition) :
    summary (registry.copy identity) (definition.moveTo identity) =
      summary registry definition := by
  have names : (registry.copy identity).displayName = registry.displayName := by
    funext id
    rw [Registry.displayName, Registry.nameOf?_copy, Registry.displayName]
  rw [summary, summary, ClassDefinition.moveTo, List.map_map]
  simp only [Registry.declaredText, names, Function.comp_def]

/-- What is listed is the same for every registry that is built from the manifest. -/
theorem make_copy (config? : Option String) (manifest : Manifest) (identity : RegistryId)
    (registry : Registry) :
    make config? manifest (registry.copy identity) = make config? manifest registry := by
  rw [make, make]
  congr 1
  apply List.filterMap_congr
  intro entry _
  rw [Registry.lookup?_copy]
  cases registry.lookup? entry.name with
  | none => rfl
  | some id =>
      rw [Option.bind_some, Option.bind_some, Registry.definition?_copy, Option.map_map,
        Function.comp_def]
      simp only [summary_copy]

end CheckReport

end CommandLine

namespace Manifest

open CommandLine

variable {identity : RegistryId} {manifest : Manifest} {registry : Registry}

/-- Every class is on the list, since it was built. -/
theorem lists_make (built : build identity manifest = .ok registry) (config? : Option String) :
    List.Forall₂ (fun entry summary => Lists registry entry
        (CheckReport.classLines summary, CheckReport.classJson summary))
      manifest.classes (CheckReport.make config? manifest registry).classes := by
  apply forall₂_filterMap
  intro entry member
  rcases List.mem_iff_getElem?.mp member with ⟨index, place⟩
  rcases exists_represents built place with ⟨definition, defined, same, represents⟩
  have found : registry.lookup? entry.name = some ⟨17 + index⟩ := by
    rw [Registry.lookup?, idOf?_entry built place]
  refine ⟨summary registry definition, ?_, CheckReport.lists_summary (same ▸ defined) represents⟩
  rw [found, Option.bind_some, defined, Option.map_some]

/-- A registry that is built stores the manifest, and so each of its classes is listed
once, in the order of the manifest. -/
theorem build_stores_manifest (built : build identity manifest = .ok registry)
    (config? : Option String) (options : Options) :
    StoredIn registry manifest ∧ (manifest.classes.map (·.name)).Nodup ∧
      ((Command.check options).run config? manifest).2.code = 0 ∧
      ListsEntries registry config? manifest.classes options.json
        ((Command.check options).run config? manifest).2 := by
  have run : ((Command.check options).run config? manifest).2 =
      .reported 0 options.json (CheckReport.make config? manifest registry).lines
        (CheckReport.make config? manifest registry).json := by
    rw [Command.run, build_copy identity ⟨0⟩, built,
      ← CheckReport.make_copy config? manifest ⟨0⟩ registry]
    rfl
  refine ⟨storedIn_of_build built, (names_nodup_of_build built).of_append_right, ?_, ?_⟩
  · rw [run, Outcome.code_reported]
  · rw [run]
    exact CheckReport.listsEntries_reported (lists_make built config?) 0 options.json

theorem build_stores_manifest_of_node :
    build ⟨0⟩ nodeManifest = .ok nodeRegistry ∧ StoredIn nodeRegistry nodeManifest ∧
      (nodeManifest.classes.map (·.name)).Nodup ∧
      ((Command.check ⟨none, true⟩).run none nodeManifest).2.code = 0 ∧
      ListsEntries nodeRegistry none nodeManifest.classes true
        ((Command.check ⟨none, true⟩).run none nodeManifest).2 :=
  ⟨build_nodeManifest, build_stores_manifest build_nodeManifest none ⟨none, true⟩⟩

end Manifest

end FieldTypes
