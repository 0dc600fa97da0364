import FieldTypes.Proofs.CommandLine.Reports
import FieldTypes.Proofs.Manifest.Consistency
import FieldTypes.Proofs.Resolution.Renumbering

/-! What the exit code tells about a request to resolve a class.  Two stands for type
arguments that cannot be understood, zero for a class whose fields all resolve, and one
for everything else; of several faults at once, the first in this order counts: no
registry, no such class, type arguments, their number, wildcards. -/

namespace FieldTypes.CommandLine

variable {registry : Registry} {arguments : List String}

/-! ## Type arguments -/

/-- A text that can be a type argument: it stands for a type, and not for a primitive. -/
def IsTypeArgument (registry : Registry) (text : String) : Prop :=
  ∃ type, registry.Denotes text type ∧ type.isPrimitive = false

theorem typeArgument_eq_ok_iff {text : String} {type : ResolvedType} :
    typeArgument registry text = .ok type ↔
      registry.Denotes text type ∧ type.isPrimitive = false := by
  rw [typeArgument, Registry.Denotes]
  cases Expression.parse registry .empty text with
  | error failure => simp
  | ok declared =>
      simp only [Except.ok.injEq, exists_eq_left']
      cases registry.concretize declared with
      | error failure => simp
      | ok found =>
          dsimp only
          rw [Except.ok.injEq]
          split
          · next primitive =>
              refine iff_of_false (by simp) ?_
              rintro ⟨rfl, reference⟩
              cases primitive.symm.trans reference
          · next reference =>
              rw [Except.ok.injEq]
              refine ⟨fun same => ⟨same, ?_⟩, fun both => both.1⟩
              rw [← same]
              exact (Bool.not_eq_true _).mp reference

theorem collects_typeArguments (registry : Registry) :
    Collects (fun text => (typeArgument registry text).mapError (text, ·))
      (typeArguments registry) where
  nil_eq := rfl
  cons_eq text rest := by
    rw [typeArguments]
    cases typeArgument registry text with
    | error fault => rfl
    | ok type => rfl

theorem typeArguments_eq_ok_iff {types : List ResolvedType} :
    typeArguments registry arguments = .ok types ↔
      List.Forall₂ (fun text type => registry.Denotes text type ∧ type.isPrimitive = false)
        arguments types := by
  rw [(collects_typeArguments registry).eq_ok_iff]
  simp only [mapError_eq_ok_iff, typeArgument_eq_ok_iff]

theorem exists_of_typeArguments_eq_error {failure : String × ArgumentFault}
    (failed : typeArguments registry arguments = .error failure) :
    ∃ text ∈ arguments, ¬ IsTypeArgument registry text := by
  rcases (collects_typeArguments registry).exists_of_eq_error failed with
    ⟨text, member, textFailed⟩
  refine ⟨text, member, fun parts => ?_⟩
  rcases parts with ⟨type, denotes⟩
  cases textFailed.symm.trans (mapError_eq_ok_iff.mpr (typeArgument_eq_ok_iff.mpr denotes))

/-! ## Reports -/

theorem hasErrors_make_eq_false_iff {resolver : Resolver}
    (holds : resolver.registry.Holds resolver.definition.id resolver.definition) :
    (ResolveReport.make resolver).hasErrors = false ↔
      ∀ field ∈ resolver.definition.fields, field.type.containsWildcard = false := by
  rw [ResolveReport.hasErrors, ResolveReport.make, List.any_map, List.any_eq_false]
  apply forall₂_congr
  intro field own
  have outcome := resolver.resolve_own_field holds own
  rw [Function.comp_apply, ResolveReport.fieldLine]
  split at outcome
  · next wild =>
      rw [outcome, wild]
      exact iff_of_false (by simp) (by simp)
  · next tame =>
      rcases outcome with ⟨type, resolved⟩
      rw [resolved]
      exact iff_of_true (by simp) ((Bool.not_eq_true _).mp tame)

/-! ## Outcomes -/

/-- The outcome is a report with one entry for each field of the class, in their order, under
the types that the arguments stand for. -/
def ReportsFields (registry : Registry) (definition : ClassDefinition) (arguments : List String)
    (asJson : Bool) (outcome : Outcome) : Prop :=
  ∃ (resolver : Resolver) (shown : List (String × Text.Json)),
    resolver.registry = registry ∧ resolver.definition = definition ∧
    List.Forall₂ registry.Denotes arguments resolver.arguments ∧
    List.Forall₂ (Tells resolver) definition.fields (ResolveReport.make resolver).fields ∧
    List.Forall₂ (Shown resolver) definition.fields shown ∧
    outcome.PutsOutClass asJson definition.name
      (Outline.inRegistry registry resolver.classType)
      (registry.resolvedText resolver.classType) shown

/-- How the request to resolve a class ends when the class is found. -/
inductive Answers (registry : Registry) (definition : ClassDefinition) (arguments : List String)
    (asJson : Bool) : Outcome → Prop
  | refused {message : String} : (∃ text ∈ arguments, ¬ IsTypeArgument registry text) →
      Answers registry definition arguments asJson (.refusal message)
  | mismatched {message : String} : (∀ text ∈ arguments, IsTypeArgument registry text) →
      arguments.length ≠ definition.parameters.length →
      Answers registry definition arguments asJson (.fault asJson message)
  | reported {resolver : Resolver} : (∀ text ∈ arguments, IsTypeArgument registry text) →
      arguments.length = definition.parameters.length →
      resolver.registry = registry → resolver.definition = definition →
      List.Forall₂ registry.Denotes arguments resolver.arguments →
      Answers registry definition arguments asJson
        (.reported (if (ResolveReport.make resolver).hasErrors then 1 else 0) asJson
          (ResolveReport.make resolver).lines (ResolveReport.make resolver).json)

theorem answers_resolved {className : String} {id : ClassId} {definition : ClassDefinition}
    (found : registry.lookup? className = some id)
    (defined : registry.definition? id = some definition) (asJson : Bool) :
    Answers registry definition arguments asJson
      (resolved className arguments asJson registry).2 := by
  rw [resolved, found]
  dsimp only
  split
  · next text fault failed => exact .refused (exists_of_typeArguments_eq_error failed)
  · next types passed =>
      have denoted := typeArguments_eq_ok_iff.mp passed
      have all : ∀ text ∈ arguments, IsTypeArgument registry text := by
        intro text member
        rcases exists_mem_of_forall₂ denoted member with ⟨type, -, holds⟩
        exact ⟨type, holds⟩
      split
      · next error failed =>
          refine .mismatched all fun length => ?_
          rw [Registry.resolver, defined] at failed
          dsimp only at failed
          rw [dif_pos (denoted.length_eq.symm.trans length)] at failed
          cases failed
      · next resolver made =>
          rcases (Registry.resolver_eq_ok_iff defined).mp made with
            ⟨sameRegistry, sameDefinition, rfl, length⟩
          exact .reported all (denoted.length_eq.trans length) sameRegistry sameDefinition
            (denoted.imp fun _ _ both => both.1)

namespace Answers

variable {definition : ClassDefinition} {asJson : Bool} {outcome : Outcome}

theorem code_eq_zero_iff (answers : Answers registry definition arguments asJson outcome)
    (holds : registry.Holds definition.id definition) :
    outcome.code = 0 ↔ (∀ text ∈ arguments, IsTypeArgument registry text) ∧
      arguments.length = definition.parameters.length ∧
      ∀ field ∈ definition.fields, field.type.containsWildcard = false := by
  cases answers with
  | refused refused =>
      rcases refused with ⟨text, member, notArgument⟩
      exact iff_of_false (by simp) fun parts => notArgument (parts.1 text member)
  | mismatched _ different => exact iff_of_false (by simp) fun parts => different parts.2.1
  | reported all length sameRegistry sameDefinition _ =>
      subst sameRegistry sameDefinition
      rw [Outcome.code_reported, and_iff_right all, and_iff_right length,
        ← hasErrors_make_eq_false_iff holds]
      simp

theorem code_eq_two_iff (answers : Answers registry definition arguments asJson outcome) :
    outcome.code = 2 ↔ ∃ text ∈ arguments, ¬ IsTypeArgument registry text := by
  cases answers with
  | refused refused => exact iff_of_true rfl refused
  | mismatched all _ =>
      refine iff_of_false (by simp) fun parts => ?_
      rcases parts with ⟨text, member, notArgument⟩
      exact notArgument (all text member)
  | reported all _ _ _ _ =>
      refine iff_of_false (by rw [Outcome.code_reported]; split <;> decide) fun parts => ?_
      rcases parts with ⟨text, member, notArgument⟩
      exact notArgument (all text member)

theorem code_le_two (answers : Answers registry definition arguments asJson outcome) :
    outcome.code ≤ 2 := by
  cases answers with
  | refused _ => exact Nat.le_refl 2
  | mismatched _ _ => simp
  | reported _ _ _ _ _ =>
      rw [Outcome.code_reported]
      split <;> decide

/-- A report is put out whenever the arguments fit, and a message otherwise. -/
theorem report_or_message (answers : Answers registry definition arguments asJson outcome) :
    ((∀ text ∈ arguments, IsTypeArgument registry text) ∧
        arguments.length = definition.parameters.length ∧
        ReportsFields registry definition arguments asJson outcome) ∨
      (¬ ((∀ text ∈ arguments, IsTypeArgument registry text) ∧
        arguments.length = definition.parameters.length)) ∧
        ∃ message, outcome = .fault asJson message ∨ outcome = .refusal message := by
  cases answers with
  | refused refused =>
      rcases refused with ⟨text, member, notArgument⟩
      exact .inr ⟨fun parts => notArgument (parts.1 text member), _, .inr rfl⟩
  | mismatched _ different => exact .inr ⟨fun parts => different parts.2, _, .inl rfl⟩
  | @reported resolver all length sameRegistry sameDefinition denoted =>
      subst sameRegistry sameDefinition
      have tells := tells_make resolver
      rcases exists_putsOutClass_of_tells tells _ asJson with ⟨shown, fields, putsOut⟩
      exact .inl ⟨all, length, resolver, shown, rfl, rfl, denoted, tells, fields, putsOut⟩

end Answers

section

variable (className : String) (arguments : List String) (options : Options)
  (config? : Option String) (manifest : Manifest)

/-- The class is found, or there is a fault before any type argument is looked at. -/
theorem run_resolve_cases :
    let outcome := ((Command.resolve className arguments options).run config? manifest).2
    (∃ registry id definition, manifest.build ⟨0⟩ = .ok registry ∧
      registry.lookup? className = some id ∧ registry.definition? id = some definition ∧
      Answers registry definition arguments options.json outcome) ∨
    (¬ ∃ registry id, manifest.build ⟨0⟩ = .ok registry ∧
      registry.lookup? className = some id) ∧
      ∃ message, outcome = .fault options.json message := by
  rw [Command.run]
  cases built : manifest.build ⟨0⟩ with
  | error failure => exact .inr ⟨by simp, _, rfl⟩
  | ok registry =>
      cases found : registry.lookup? className with
      | none =>
          refine .inr ⟨by simp [found], "unknown class `" ++ className ++ "`", ?_⟩
          dsimp only
          rw [resolved, found]
      | some id =>
          rcases Option.isSome_iff_exists.mp (Manifest.isDefined_of_lookup? built found) with
            ⟨definition, defined⟩
          exact .inl ⟨registry, id, definition, rfl, found, defined,
            answers_resolved found defined options.json⟩

/-- There is only one class that the request can be about. -/
theorem exists_found_iff {registry : Registry} {id : ClassId} {definition : ClassDefinition}
    (built : manifest.build ⟨0⟩ = .ok registry) (found : registry.lookup? className = some id)
    (defined : registry.definition? id = some definition)
    {holds : Registry → ClassDefinition → Prop} :
    (∃ registry id definition, manifest.build ⟨0⟩ = .ok registry ∧
      registry.lookup? className = some id ∧ registry.definition? id = some definition ∧
      holds registry definition) ↔ holds registry definition := by
  constructor
  · rintro ⟨_, _, _, otherBuilt, otherFound, otherDefined, parts⟩
    cases built.symm.trans otherBuilt
    cases found.symm.trans otherFound
    cases defined.symm.trans otherDefined
    exact parts
  · intro parts
    exact ⟨registry, id, definition, built, found, defined, parts⟩

/-- The exit code of a request to resolve a class, and what a report has in it. -/
theorem resolve_exit_code :
    let outcome := ((Command.resolve className arguments options).run config? manifest).2
    (outcome.code = 0 ↔ ∃ registry id definition, manifest.build ⟨0⟩ = .ok registry ∧
      registry.lookup? className = some id ∧ registry.definition? id = some definition ∧
      (∀ text ∈ arguments, IsTypeArgument registry text) ∧
      arguments.length = definition.parameters.length ∧
      ∀ field ∈ definition.fields, field.type.containsWildcard = false) ∧
    (outcome.code = 2 ↔ ∃ registry id, manifest.build ⟨0⟩ = .ok registry ∧
      registry.lookup? className = some id ∧
      ∃ text ∈ arguments, ¬ IsTypeArgument registry text) ∧
    (outcome.code ≠ 0 → outcome.code ≠ 2 → outcome.code = 1) ∧
    ((∃ registry id definition, manifest.build ⟨0⟩ = .ok registry ∧
        registry.lookup? className = some id ∧ registry.definition? id = some definition ∧
        (∀ text ∈ arguments, IsTypeArgument registry text) ∧
        arguments.length = definition.parameters.length ∧
        ReportsFields registry definition arguments options.json outcome) ∨
      (¬ ∃ registry id definition, manifest.build ⟨0⟩ = .ok registry ∧
        registry.lookup? className = some id ∧ registry.definition? id = some definition ∧
        (∀ text ∈ arguments, IsTypeArgument registry text) ∧
        arguments.length = definition.parameters.length) ∧
        ∃ message, outcome = .fault options.json message ∨ outcome = .refusal message) := by
  intro outcome
  rcases run_resolve_cases className arguments options config? manifest with
    ⟨registry, id, definition, built, found, defined, answers⟩ | ⟨notFound, message, failed⟩
  · have holds := (Manifest.build_reachable built).wellFormed.holds defined
    rw [← holds.id_eq] at holds
    refine ⟨?_, ?_, ?_, ?_⟩
    · rw [answers.code_eq_zero_iff holds, exists_found_iff className manifest built found defined]
    · rw [answers.code_eq_two_iff]
      constructor
      · intro refused
        exact ⟨registry, id, built, found, refused⟩
      · rintro ⟨_, _, otherBuilt, -, refused⟩
        cases built.symm.trans otherBuilt
        exact refused
    · have bound : outcome.code ≤ 2 := answers.code_le_two
      intro notZero notTwo
      omega
    · rw [exists_found_iff className manifest built found defined,
        exists_found_iff className manifest built found defined]
      exact answers.report_or_message
  · have code : outcome.code = 1 :=
      (congrArg Outcome.code failed).trans (Outcome.code_fault _ _)
    refine ⟨iff_of_false (by omega) ?_, iff_of_false (by omega) ?_, fun _ _ => code,
      .inr ⟨?_, message, .inl failed⟩⟩
    · rintro ⟨registry, id, -, built, found, -⟩
      exact notFound ⟨registry, id, built, found⟩
    · rintro ⟨registry, id, built, found, -⟩
      exact notFound ⟨registry, id, built, found⟩
    · rintro ⟨registry, id, -, built, found, -⟩
      exact notFound ⟨registry, id, built, found⟩

end

end FieldTypes.CommandLine
