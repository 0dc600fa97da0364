import FieldTypes.Proofs.Registry.Invariant

/-! Every fault of a batch: repeated classes of the whole batch come first, and then
the declarations with their own faults.  A batch is stored if it has no faults, and
otherwise the first of them is reported. -/

namespace FieldTypes.Registry

variable {registry : Registry} {batch : List ClassDeclaration}

/-! ## Faults of a batch -/

/-- The number of type parameters of a class that is defined already or in the
batch. -/
def arityWith? (registry : Registry) (batch : List ClassDeclaration) (id : ClassId) :
    Option Nat :=
  (registry.arity? id).or (((registry.planned batch).lookup id).map (·.parameters.length))

def faults (registry : Registry) (batch : List ClassDeclaration) : List DefinitionError :=
  registry.duplicateClasses batch ++
    batch.flatMap (ClassDeclaration.faults (registry.arityWith? batch) registry.diagnosticName)

/-- What is asked of a batch, without any order. -/
structure Accepts (registry : Registry) (batch : List ClassDeclaration) : Prop where
  names_nodup : (batch.map (·.name)).Nodup
  undefined : ∀ declaration ∈ batch, ∀ id,
    registry.idOf? declaration.name = some id → registry.definition? id = none
  fit : ∀ declaration ∈ batch, declaration.Fits (registry.arityWith? batch)

theorem Accepts.fresh (accepted : registry.Accepts batch) : registry.Fresh batch :=
  ⟨accepted.names_nodup, accepted.undefined⟩

/-- In the batch first or in the registry first: the two look-ups meet on different
ids, because no planned id is defined. -/
theorem Fresh.parameterCount?_planned (fresh : registry.Fresh batch) :
    registry.parameterCount? (registry.planned batch) = registry.arityWith? batch := by
  funext id
  rw [parameterCount?, arityWith?, arity?]
  cases found : (registry.planned batch).lookup id with
  | none => simp
  | some declaration =>
      have entry : (id, declaration) ∈ registry.planned batch := by
        rcases List.lookup_eq_some_iff.mp found with ⟨before, after, split, -⟩
        simp [split]
      simp [fresh.planned_undefined _ entry]

/-! ## Batches -/

/-- The whole of a definition: its first fault, or the stored batch. -/
theorem define_eq_report :
    registry.define batch =
      report (registry.faults batch)
        (batch.foldl store registry, (registry.planned batch).map (·.1)) := by
  rw [define, faults, report_append, plan_eq_report]
  cases duplicates : registry.duplicateClasses batch with
  | cons error later => rfl
  | nil =>
      have entries : ((registry.planned batch).map (·.1)).zip batch =
          registry.planned batch :=
        (List.zip_of_prod rfl (map_snd_planned registry batch)).symm
      rw [report_nil, report_nil]
      dsimp only
      rw [entries, checkClasses_eq_report,
        (duplicateClasses_eq_nil_iff.mp duplicates).parameterCount?_planned]
      cases batch.flatMap
          (ClassDeclaration.faults (registry.arityWith? batch) registry.diagnosticName) with
      | cons error later => rfl
      | nil => rfl

/-- A batch without faults is one that is fit to be stored. -/
theorem faults_eq_nil_iff : registry.faults batch = [] ↔ registry.Accepts batch := by
  rw [faults, List.append_eq_nil_iff, List.flatMap_eq_nil_iff, duplicateClasses_eq_nil_iff]
  simp only [ClassDeclaration.faults_eq_nil_iff]
  exact ⟨fun parts => ⟨parts.1.1, parts.1.2, parts.2⟩,
    fun accepted => ⟨⟨accepted.names_nodup, accepted.undefined⟩, accepted.fit⟩⟩

/-- A batch is stored if its names and its references are in order, each class under
the id that was planned for it.  Otherwise the first fault is reported, in the order
in which the faults of a batch are listed. -/
theorem define_reports_first_fault (registry : Registry) (batch : List ClassDeclaration) :
    ((∃ grown ids, registry.define batch = .ok (grown, ids)) ↔ registry.Accepts batch) ∧
      (∀ grown ids, registry.define batch = .ok (grown, ids) →
        ids = (registry.planned batch).map (·.1)) ∧
      ∀ error, registry.define batch = .error error ↔
        (registry.faults batch).head? = some error := by
  rw [define_eq_report, ← faults_eq_nil_iff]
  refine ⟨⟨?_, ?_⟩, ?_, fun error => report_eq_error_iff⟩
  · intro stored
    rcases stored with ⟨grown, ids, outcome⟩
    exact (report_eq_ok_iff.mp outcome).1
  · intro none
    exact ⟨_, _, report_eq_ok_iff.mpr ⟨none, rfl⟩⟩
  · intro grown ids outcome
    exact (congrArg Prod.snd (report_eq_ok_iff.mp outcome).2).symm

end FieldTypes.Registry
