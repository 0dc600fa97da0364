import FieldTypes.Proofs.Registry.Admission

/-! What the checks of a batch report.  The faults of a declaration stand in one list,
in the order in which a reader goes through it: its repeated names, and then the nodes
of its field types, from the outside in.  A check reports the first of them, and it
passes if there is none. -/

namespace FieldTypes

/-- Every element together with those that stand before it. -/
def withEarlier {α : Type} : List α → List (List α × α)
  | [] => []
  | first :: rest => ([], first) :: (withEarlier rest).map fun part => (first :: part.1, part.2)

theorem map_snd_withEarlier {α : Type} (elements : List α) :
    (withEarlier elements).map (·.2) = elements := by
  induction elements with
  | nil => rfl
  | cons first rest induction =>
      rw [withEarlier, List.map_cons, List.map_map]
      exact congrArg _ induction

theorem forall_mem_withEarlier_iff {α : Type} (elements : List α) (holds : α → Prop) :
    (∀ part ∈ withEarlier elements, holds part.2) ↔ ∀ element ∈ elements, holds element := by
  rw [← List.forall_mem_map (f := fun part : List α × α => part.2), map_snd_withEarlier]

/-- Nothing is repeated if nothing is like what stands before it. -/
theorem nodup_map_iff_withEarlier {α : Type} {elements : List α} {nameOf : α → String} :
    (elements.map nameOf).Nodup ↔
      ∀ part ∈ withEarlier elements, nameOf part.2 ∉ part.1.map nameOf := by
  induction elements with
  | nil => simp [withEarlier]
  | cons first rest induction =>
      have others := forall_mem_withEarlier_iff rest fun element =>
        nameOf element ≠ nameOf first
      have apart : nameOf first ∉ rest.map nameOf ↔
          ∀ element ∈ rest, nameOf element ≠ nameOf first := by simp
      rw [List.map_cons, List.nodup_cons, withEarlier, List.forall_mem_cons,
        List.forall_mem_map, induction, apart, ← others]
      simp [not_or, imp_and, forall_and]

/-- The names that stand earlier in the list as well. -/
def repeats (names : List String) : List String :=
  (withEarlier names).filterMap fun part => if part.2 ∈ part.1 then some part.2 else none

/-- The result of a check: the first fault, or the value if there is none. -/
def report {α : Type} (faults : List DefinitionError) (value : α) :
    Except DefinitionError α :=
  match faults.head? with
  | some error => .error error
  | none => .ok value

section

variable {α : Type} {first second : List DefinitionError} {value : α}

@[simp] theorem report_nil : report [] value = .ok value :=
  rfl

@[simp] theorem report_cons {error : DefinitionError} {later : List DefinitionError} :
    report (error :: later) value = .error error :=
  rfl

/-- Checks in a row report their faults in a row. -/
theorem report_append :
    report (first ++ second) value =
      match report first () with
      | .error error => .error error
      | .ok () => report second value := by
  cases first with
  | nil => rfl
  | cons error later => rfl

theorem map_report {α β : Type} (transform : α → β) (faults : List DefinitionError)
    (value : α) : (report faults value).map transform = report faults (transform value) := by
  cases faults with
  | nil => rfl
  | cons error later => rfl

theorem report_eq_error_iff {error : DefinitionError} :
    report first value = .error error ↔ first.head? = some error := by
  cases first with
  | nil => simp
  | cons other later => simp

theorem report_eq_ok_iff {result : α} :
    report first value = .ok result ↔ first = [] ∧ value = result := by
  cases first with
  | nil => simp
  | cons other later => simp

end

/-! ## Faults of field types -/

namespace DeclaredType

/-- What is wrong with one node, given the number of type parameters of each class
in sight. -/
def nodeFault? (arity? : ClassId → Option Nat) (nameOf : ClassId → String)
    (owner : ClassDeclaration) (field : String) : DeclaredType → Option DefinitionError
  | .plain id =>
      if (arity? id).isSome then none
      else some (.unknownClass owner.name field (nameOf id))
  | .parameterized raw arguments =>
      match arity? raw with
      | none => some (.unknownClass owner.name field (nameOf raw))
      | some expected =>
          if expected = arguments.length then none
          else some (.arityMismatch owner.name field (nameOf raw) expected arguments.length)
  | .typeVariable name =>
      if name ∈ owner.parameters then none
      else some (.undeclaredVariable owner.name field name)
  | .primitive _ | .array _ | .anyWildcard | .extendsWildcard _ | .superWildcard _ => none

def faults (arity? : ClassId → Option Nat) (nameOf : ClassId → String)
    (owner : ClassDeclaration) (field : String) (type : DeclaredType) :
    List DefinitionError :=
  type.nodes.filterMap (nodeFault? arity? nameOf owner field)

variable {arity? : ClassId → Option Nat} {nameOf : ClassId → String}
  {owner : ClassDeclaration} {field : String}

theorem nodeFault?_eq_none_iff {node : DeclaredType} :
    node.nodeFault? arity? nameOf owner field = none ↔
      node.NodeFits arity? owner.parameters := by
  cases node with
  | plain id => simp [nodeFault?, NodeFits, Option.isSome_iff_ne_none]
  | parameterized raw arguments =>
      rw [nodeFault?, NodeFits]
      cases arity? raw with
      | none => simp
      | some expected => simp
  | typeVariable name => simp [nodeFault?, NodeFits]
  | primitive _ | array _ | anyWildcard | extendsWildcard _ | superWildcard _ =>
      simp [nodeFault?, NodeFits]

theorem faults_eq_nil_iff {type : DeclaredType} :
    type.faults arity? nameOf owner field = [] ↔ type.Fits arity? owner.parameters := by
  rw [faults, List.filterMap_eq_nil_iff]
  exact forall₂_congr fun node _ => nodeFault?_eq_none_iff

end DeclaredType

/-- The faults of one declaration. -/
def ClassDeclaration.faults (arity? : ClassId → Option Nat) (nameOf : ClassId → String)
    (declaration : ClassDeclaration) : List DefinitionError :=
  (repeats declaration.parameters).map (.duplicateParameter declaration.name) ++
    (repeats (declaration.fields.map (·.name))).map (.duplicateField declaration.name) ++
    declaration.fields.flatMap fun field =>
      field.type.faults arity? nameOf declaration field.name

/-- A fault of a declaration is a repeated name or lies in a node of a field type. -/
theorem ClassDeclaration.mem_faults_iff {arity? : ClassId → Option Nat}
    {nameOf : ClassId → String} {declaration : ClassDeclaration} {error : DefinitionError} :
    error ∈ declaration.faults arity? nameOf ↔
      (∃ parameter ∈ repeats declaration.parameters,
        .duplicateParameter declaration.name parameter = error) ∨
      (∃ field ∈ repeats (declaration.fields.map (·.name)),
        .duplicateField declaration.name field = error) ∨
      ∃ field ∈ declaration.fields, ∃ node ∈ field.type.nodes,
        node.nodeFault? arity? nameOf declaration field.name = some error := by
  rw [ClassDeclaration.faults, List.mem_append, List.mem_append, List.mem_map, List.mem_map,
    List.mem_flatMap, or_assoc]
  simp only [DeclaredType.faults, List.mem_filterMap]

/-! ## Repeated names -/

/-- The search for a repeated name stops at the first one. -/
theorem firstRepeat?_eq_head? {seen names : List String} :
    firstRepeat? seen names =
      ((withEarlier names).filterMap fun part =>
        if part.2 ∈ seen ∨ part.2 ∈ part.1 then some part.2 else none).head? := by
  induction names generalizing seen with
  | nil => rfl
  | cons name rest induction =>
      rw [firstRepeat?, withEarlier, List.filterMap_cons, List.filterMap_map, Function.comp_def]
      by_cases repeated : name ∈ seen
      · simp [repeated]
      · simp [repeated, induction, or_left_comm, or_assoc]

theorem firstRepeat?_nil (names : List String) :
    firstRepeat? [] names = (repeats names).head? := by
  rw [firstRepeat?_eq_head?, repeats]
  simp

theorem repeats_eq_nil_iff {names : List String} : repeats names = [] ↔ names.Nodup := by
  rw [← List.map_id names, nodup_map_iff_withEarlier, repeats, List.filterMap_eq_nil_iff]
  simp

theorem ClassDeclaration.faults_eq_nil_iff {arity? : ClassId → Option Nat}
    {nameOf : ClassId → String} {declaration : ClassDeclaration} :
    declaration.faults arity? nameOf = [] ↔ declaration.Fits arity? := by
  rw [ClassDeclaration.faults, List.append_eq_nil_iff, List.append_eq_nil_iff,
    List.map_eq_nil_iff, List.map_eq_nil_iff, repeats_eq_nil_iff, repeats_eq_nil_iff,
    List.flatMap_eq_nil_iff]
  simp only [DeclaredType.faults_eq_nil_iff]
  exact ⟨fun parts => ⟨parts.1.1, parts.1.2, parts.2⟩,
    fun fits => ⟨⟨fits.parameters_nodup, fits.fieldNames_nodup⟩, fits.types_fit⟩⟩

namespace Registry

variable {registry : Registry}

/-! ## The checks report faults -/

mutual
theorem checkType_eq_report (registry : Registry) (batch : List (ClassId × ClassDeclaration))
    (owner : ClassDeclaration) (field : String) : ∀ type : DeclaredType,
      registry.checkType batch owner field type =
        report (type.faults (registry.parameterCount? batch) registry.diagnosticName owner field)
          ()
  | .primitive _ | .anyWildcard => rfl
  | .plain id => by
      rw [checkType, DeclaredType.faults, DeclaredType.nodes]
      cases known : registry.parameterCount? batch id with
      | none => simp [DeclaredType.nodeFault?, known]
      | some expected => simp [DeclaredType.nodeFault?, known]
  | .parameterized raw arguments => by
      rw [checkType, DeclaredType.faults, DeclaredType.nodes, List.filterMap_cons,
        DeclaredType.nodeFault?, checkTypes_eq_report registry batch owner field arguments]
      cases registry.parameterCount? batch raw with
      | none => rfl
      | some expected =>
          dsimp only
          by_cases length : expected = arguments.length
          · rw [if_pos length, if_pos length]
          · rw [if_neg length, if_neg length, report_cons]
  | .array component =>
      checkType_eq_report registry batch owner field component
  | .typeVariable name => by
      rw [checkType, DeclaredType.faults, DeclaredType.nodes]
      by_cases declared : name ∈ owner.parameters
      · simp [DeclaredType.nodeFault?, declared]
      · simp [DeclaredType.nodeFault?, declared]
  | .extendsWildcard bound => checkType_eq_report registry batch owner field bound
  | .superWildcard bound => checkType_eq_report registry batch owner field bound

theorem checkTypes_eq_report (registry : Registry) (batch : List (ClassId × ClassDeclaration))
    (owner : ClassDeclaration) (field : String) : ∀ types : List DeclaredType,
      registry.checkTypes batch owner field types =
        report ((DeclaredType.allNodes types).filterMap (DeclaredType.nodeFault?
          (registry.parameterCount? batch) registry.diagnosticName owner field)) ()
  | [] => rfl
  | type :: rest => by
      rw [checkTypes, DeclaredType.allNodes, List.filterMap_append,
        checkType_eq_report registry batch owner field type,
        checkTypes_eq_report registry batch owner field rest, DeclaredType.faults]
      exact report_append.symm
end

section

variable {entries : List (ClassId × ClassDeclaration)} {owner : ClassDeclaration}

theorem checkFields_eq_report : ∀ {fields : List FieldDeclaration},
    registry.checkFields entries owner fields =
      report (fields.flatMap fun field => field.type.faults (registry.parameterCount? entries)
        registry.diagnosticName owner field.name) ()
  | [] => rfl
  | field :: rest => by
      rw [checkFields, List.flatMap_cons, checkType_eq_report, checkFields_eq_report]
      exact report_append.symm

theorem checkClass_eq_report :
    registry.checkClass entries owner =
      report (owner.faults (registry.parameterCount? entries) registry.diagnosticName) () := by
  rw [checkClass, ClassDeclaration.faults, firstRepeat?_nil, firstRepeat?_nil,
    checkFields_eq_report]
  cases repeats owner.parameters with
  | cons parameter _ => rfl
  | nil =>
      cases repeats (owner.fields.map (·.name)) with
      | cons field _ => rfl
      | nil => rfl

theorem checkClasses_eq_report : ∀ {declarations : List ClassDeclaration},
    registry.checkClasses entries declarations =
      report (declarations.flatMap (ClassDeclaration.faults (registry.parameterCount? entries)
        registry.diagnosticName)) ()
  | [] => rfl
  | declaration :: rest => by
      rw [checkClasses, List.flatMap_cons, checkClass_eq_report, checkClasses_eq_report]
      exact report_append.symm

/-- The checks pass exactly when all declarations fit. -/
theorem checkClasses_eq_ok_iff {declarations : List ClassDeclaration} :
    registry.checkClasses entries declarations = .ok () ↔
      ∀ declaration ∈ declarations, declaration.Fits (registry.parameterCount? entries) := by
  rw [checkClasses_eq_report, report_eq_ok_iff, List.flatMap_eq_nil_iff]
  simp only [ClassDeclaration.faults_eq_nil_iff, and_true]

end

end Registry

end FieldTypes
