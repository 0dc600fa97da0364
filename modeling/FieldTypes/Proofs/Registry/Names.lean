import FieldTypes.Proofs.Registry.Mirror

/-! The names of a registry, in the order of their ids.  A class is found by way of the
interned names alone. -/

namespace FieldTypes.Registry

variable {registry grown : Registry} {name : String}

/-! ## Names in a row -/

theorem nameOf?_eq_getElem? (registry : Registry) (id : ClassId) :
    registry.nameOf? id = (registry.slots.map (·.name))[id.index]? := by
  rw [nameOf?, List.getElem?_map]

theorem Indexed.names_eq (indexed : registry.Indexed) (grownIndexed : grown.Indexed)
    (same : ∀ name, grown.idOf? name = registry.idOf? name) :
    grown.slots.map (·.name) = registry.slots.map (·.name) := by
  apply List.ext_getElem?
  intro index
  have names := indexed.nameOf?_eq grownIndexed same ⟨index⟩
  rwa [nameOf?_eq_getElem?, nameOf?_eq_getElem?] at names

theorem names_intern_of_unknown (unknown : registry.idOf? name = none) :
    (registry.intern name).1.slots.map (·.name) = registry.slots.map (·.name) ++ [name] := by
  rw [intern_of_unknown unknown, List.map_append, List.map_singleton]

theorem names_store (registry : Registry) (declaration : ClassDeclaration) :
    (registry.store declaration).slots.map (·.name) =
      (registry.intern declaration.name).1.slots.map (·.name) := by
  apply List.ext_getElem?
  intro index
  rw [← nameOf?_eq_getElem? _ ⟨index⟩, ← nameOf?_eq_getElem? _ ⟨index⟩, nameOf?_store]

theorem Indexed.names_intern (indexed : registry.Indexed) (name : String) :
    (registry.intern name).1.slots.map (·.name) =
      registry.slots.map (·.name) ++ [name].filter (· ∉ registry.slots.map (·.name)) := by
  by_cases known : name ∈ registry.slots.map (·.name)
  · rcases Option.isSome_iff_exists.mp (indexed.mem_names_iff.mp known) with ⟨id, found⟩
    rw [intern_of_known found, List.filter_cons_of_neg (by simpa using known), List.filter_nil,
      List.append_nil]
  · have unknown : registry.idOf? name = none := by
      rwa [indexed.mem_names_iff, Option.not_isSome_iff_eq_none] at known
    rw [names_intern_of_unknown unknown, List.filter_cons_of_pos (by simpa using known),
      List.filter_nil]

section

variable {α : Type} {step : Registry → α → Registry} {nameOf : α → String}
  (keeps : ∀ {registry : Registry}, registry.Indexed → ∀ element, (step registry element).Indexed)
  (adds : ∀ registry element, (step registry element).slots.map (·.name) =
    (registry.intern (nameOf element)).1.slots.map (·.name))
  {elements : List α} (indexed : registry.Indexed)

include keeps adds indexed

/-- However names are added one after the other, those that are new line up in their order. -/
theorem Indexed.names_foldl (nodup : (elements.map nameOf).Nodup) :
    (elements.foldl step registry).slots.map (·.name) =
      registry.slots.map (·.name) ++
        (elements.map nameOf).filter (· ∉ registry.slots.map (·.name)) := by
  induction elements generalizing registry with
  | nil => rw [List.foldl_nil, List.map_nil, List.filter_nil, List.append_nil]
  | cons element rest induction =>
      rcases List.nodup_cons.mp nodup with ⟨notAgain, restNodup⟩
      have grown := (adds registry element).trans (indexed.names_intern (nameOf element))
      -- The name that has just been added is none of those to come.
      have later : (rest.map nameOf).filter (· ∉ (step registry element).slots.map (·.name)) =
          (rest.map nameOf).filter (· ∉ registry.slots.map (·.name)) := by
        apply List.filter_congr
        intro name member
        have different : name ≠ nameOf element := fun same => notAgain (same ▸ member)
        rw [grown, decide_eq_decide, List.mem_append, List.mem_filter, List.mem_singleton]
        simp only [different, false_and, or_false]
      rw [List.foldl_cons, induction (keeps indexed element) restNodup, later, grown,
        List.append_assoc, ← List.filter_append, List.map_cons, List.singleton_append]

theorem Indexed.names_foldl_of_nodup
    (nodup : (registry.slots.map (·.name) ++ elements.map nameOf).Nodup) :
    (elements.foldl step registry).slots.map (·.name) =
      registry.slots.map (·.name) ++ elements.map nameOf := by
  have apart : ∀ name ∈ elements.map nameOf, name ∉ registry.slots.map (·.name) :=
    fun _ new known => List.disjoint_of_nodup_append nodup known new
  rw [indexed.names_foldl keeps adds nodup.of_append_right,
    List.filter_eq_self.mpr (by simpa using apart)]

end

/-- When every name has a class, the classes stand in a row like the names. -/
theorem WellFormed.names_definitions (wellFormed : registry.WellFormed)
    (defined : ∀ id, (registry.nameOf? id).isSome = true → registry.isDefined id = true) :
    registry.definitions.map (·.name) = registry.slots.map (·.name) := by
  rw [definitions, List.map_filterMap, ← List.filterMap_eq_map]
  apply List.filterMap_congr
  intro slot member
  rcases List.mem_iff_getElem?.mp member with ⟨index, found⟩
  have named : registry.nameOf? ⟨index⟩ = some slot.name := by rw [nameOf?, found, Option.map_some]
  have stored : registry.definition? ⟨index⟩ = slot.definition? := by
    rw [definition?, found, Option.bind_some]
  have present := defined ⟨index⟩ (Option.isSome_of_eq_some named)
  rw [isDefined, stored, Option.isSome_iff_exists] at present
  rcases present with ⟨definition, present⟩
  have same := (wellFormed.holds (stored.trans present)).nameOf?_eq
  rw [present, Option.map_some, ← same, named]
  rfl

/-! ## Looking up -/

/-- Registries with the same ids for names give the same answers. -/
theorem Indexed.lookup?_eq_of_idOf?_eq (indexed : registry.Indexed)
    (grownIndexed : grown.Indexed) (same : ∀ name, grown.idOf? name = registry.idOf? name)
    (name : String) : grown.lookup? name = registry.lookup? name := by
  have names : SameNames id registry grown :=
    { left_indexed := indexed
      right_indexed := grownIndexed
      idOf?_eq := by simp [same]
      unnamed := fun unnamed => ⟨rfl, by rwa [indexed.nameOf?_eq grownIndexed same]⟩ }
  rw [names.lookup?_eq, Option.map_id_fun, id]

end FieldTypes.Registry
