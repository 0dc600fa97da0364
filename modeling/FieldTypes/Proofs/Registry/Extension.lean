import FieldTypes.Proofs.Registry.Order

/-! A batch with more classes at its end, and a registry with more names.  What was in
order stays so, and a fault can only lie in what has been added. -/

namespace FieldTypes

/-! ## Faults name their class -/

/-- The class that a definition error is about. -/
def DefinitionError.className : DefinitionError → String
  | .duplicateClass name => name
  | .duplicateParameter owner _ | .duplicateField owner _ | .unknownClass owner _ _
  | .undeclaredVariable owner _ _ | .arityMismatch owner _ _ _ _ => owner

theorem DeclaredType.className_of_nodeFault? {arity? : ClassId → Option Nat}
    {nameOf : ClassId → String} {owner : ClassDeclaration} {field : String}
    {node : DeclaredType} {error : DefinitionError}
    (fault : node.nodeFault? arity? nameOf owner field = some error) :
    error.className = owner.name := by
  cases node with
  | plain id =>
      rw [nodeFault?] at fault
      split at fault
      · cases fault
      · cases fault
        rfl
  | parameterized raw arguments =>
      rw [nodeFault?] at fault
      split at fault
      · cases fault
        rfl
      · split at fault
        · cases fault
        · cases fault
          rfl
  | typeVariable name =>
      rw [nodeFault?] at fault
      split at fault
      · cases fault
      · cases fault
        rfl
  | primitive _ | array _ | anyWildcard | extendsWildcard _ | superWildcard _ => cases fault

theorem ClassDeclaration.className_of_mem_faults {arity? : ClassId → Option Nat}
    {nameOf : ClassId → String} {declaration : ClassDeclaration} {error : DefinitionError}
    (member : error ∈ declaration.faults arity? nameOf) :
    error.className = declaration.name := by
  rcases mem_faults_iff.mp member with ⟨_, -, rfl⟩ | ⟨_, -, rfl⟩ | ⟨field, -, node, -, fault⟩
  · rfl
  · rfl
  · exact DeclaredType.className_of_nodeFault? fault

/-! ## Longer batches -/

theorem withEarlier_append {α : Type} (first second : List α) :
    withEarlier (first ++ second) =
      withEarlier first ++ (withEarlier second).map fun part => (first ++ part.1, part.2) := by
  induction first with
  | nil => simp [withEarlier]
  | cons element rest induction =>
      rw [List.cons_append, withEarlier, induction, withEarlier, List.map_append, List.map_map,
        List.cons_append]
      rfl

namespace Registry

variable {registry grown : Registry} {batch others first second : List ClassDeclaration}
  {name : String}

theorem duplicateClasses_append :
    registry.duplicateClasses (first ++ second) =
      registry.duplicateClasses first ++
        registry.duplicatesAfter (first.map (·.name)) second := by
  rw [duplicateClasses, withEarlier_append, List.filterMap_append, List.filterMap_map,
    duplicateClasses, duplicatesAfter, Function.comp_def]
  simp only [List.map_append, List.mem_append, or_assoc]

/-- A longer batch has the same plan as far as the shorter one goes. -/
theorem exists_planned_append (registry : Registry) (first second : List ClassDeclaration) :
    ∃ later, registry.planned (first ++ second) = registry.planned first ++ later := by
  rw [planned, withEarlier_append, List.map_append]
  exact ⟨_, rfl⟩

theorem arityWith?_append {id : ClassId} {count : Nat}
    (known : registry.arityWith? first id = some count) :
    registry.arityWith? (first ++ second) id = some count := by
  rcases exists_planned_append registry first second with ⟨later, whole⟩
  rw [arityWith?] at known
  rw [arityWith?, whole, List.lookup_append]
  cases defined : registry.arity? id with
  | some other => rwa [defined, Option.some_or] at known
  | none =>
      rw [defined, Option.none_or, Option.map_eq_some_iff] at known
      rcases known with ⟨declaration, found, rfl⟩
      rw [found, Option.some_or, Option.none_or, Option.map_some]

/-- A declaration at the end of a batch that is in order can only go wrong itself. -/
theorem Accepts.className_of_define_append (accepted : registry.Accepts batch)
    {declaration : ClassDeclaration} {error : DefinitionError}
    (failed : registry.define (batch ++ [declaration]) = .error error) :
    error.className = declaration.name := by
  have unrepeated := duplicateClasses_eq_nil_iff.mpr accepted.fresh
  have faultless : batch.flatMap (ClassDeclaration.faults
      (registry.arityWith? (batch ++ [declaration])) registry.diagnosticName) = [] := by
    rw [List.flatMap_eq_nil_iff]
    intro earlier member
    rw [ClassDeclaration.faults_eq_nil_iff]
    exact (accepted.fit earlier member).mono fun _ _ => arityWith?_append
  rw [define_eq_report, report_eq_error_iff, faults, duplicateClasses_append, unrepeated,
    List.nil_append, List.flatMap_append, faultless, List.nil_append,
    duplicatesAfter_cons] at failed
  have reported := List.mem_of_head? failed
  rcases List.mem_append.mp reported with duplicate | fault
  · rcases List.mem_append.mp duplicate with here | none
    · split at here
      · rw [List.mem_singleton.mp here]
        rfl
      · cases here
    · cases none
  · rw [List.flatMap_singleton] at fault
    exact ClassDeclaration.className_of_mem_faults fault

/-! ## More names -/

section

variable (known : ∀ declaration ∈ batch, (registry.idOf? declaration.name).isSome = true)

include known

/-- A batch of known names has the same plan when another name is interned. -/
theorem planned_intern (name : String) :
    (registry.intern name).1.planned batch = registry.planned batch := by
  rw [planned, planned]
  apply List.map_congr_left
  intro part member
  have partKnown := (forall_mem_withEarlier_iff batch _).mpr known part member
  rw [plannedId, idOf?_intern_of_isSome partKnown, plannedId]
  rcases Option.isSome_iff_exists.mp partKnown with ⟨id, found⟩
  rw [found, Option.getD_some, Option.getD_some]

theorem Accepts.intern (accepted : registry.Accepts batch) (name : String) :
    (registry.intern name).1.Accepts batch where
  names_nodup := accepted.names_nodup
  undefined := by
    intro declaration member id found
    rw [idOf?_intern_of_isSome (known declaration member)] at found
    rw [definition?_intern]
    exact accepted.undefined declaration member id found
  fit := by
    have same : (registry.intern name).1.arityWith? batch = registry.arityWith? batch := by
      funext id
      rw [arityWith?, arityWith?, planned_intern known, arity?, definition?_intern, arity?]
    rw [same]
    exact accepted.fit

/-- A longer batch in a larger registry leaves what the shorter one would have left, and
more. -/
theorem GrowsTo.foldl_store_append (growth : registry.GrowsTo grown) (indexed : registry.Indexed)
    (grownIndexed : grown.Indexed) (fresh : registry.Fresh batch)
    (grownFresh : grown.Fresh (batch ++ others)) :
    (batch.foldl Registry.store registry).GrowsTo
      ((batch ++ others).foldl Registry.store grown) := by
  have names : ∀ {id name}, (batch.foldl Registry.store registry).nameOf? id = some name →
      ((batch ++ others).foldl Registry.store grown).nameOf? id = some name := by
    intro id name named
    rw [indexed.nameOf?_eq (indexed.foldl_store batch) (idOf?_foldl_store_of_known known)] at named
    exact nameOf?_foldl_store (growth.nameOf?_eq named) _
  refine ⟨?_, names, ?_⟩
  · rw [identity_foldl_store, identity_foldl_store, growth.identity_eq]
  · intro id definition defined
    rw [indexed.definition?_foldl_store_eq_some_iff fresh.names_nodup
      fresh.storedIds_undefined] at defined
    rw [grownIndexed.definition?_foldl_store_eq_some_iff grownFresh.names_nodup
      grownFresh.storedIds_undefined]
    rcases defined with earlier | ⟨declaration, member, found, rfl⟩
    · exact .inl (growth.definition?_eq earlier)
    · refine .inr ⟨declaration, List.mem_append_left _ member, ?_, by rw [growth.identity_eq]⟩
      rw [(indexed.foldl_store batch).idOf?_iff] at found
      exact (grownIndexed.foldl_store _).idOf?_iff.mpr (names found)

end

end Registry

end FieldTypes
