import FieldTypes.Proofs.Resolution.Progress

/-! What a substitution gives when it succeeds, form by form.  A result has the
shape of the declared type as far as this has no variables, and it stands only on
the classes and the variables that the type mentions. -/

namespace FieldTypes

namespace Registry

variable {registry : Registry} {bound? : String → Option ResolvedType} {place : Place}

theorem substituteAll_eq_ok_iff {types : List DeclaredType} {results : List ResolvedType} :
    registry.substituteAll bound? place types = .ok results ↔
      List.Forall₂ (fun type result => registry.substitute bound? place type = .ok result)
        types results :=
  (collects_substituteAll registry bound? place).eq_ok_iff

theorem substitute_typeVariable_eq_ok_iff {name : String} {result : ResolvedType} :
    registry.substitute bound? place (.typeVariable name) = .ok result ↔
      bound? name = some result := by
  rw [substitute]
  cases bound? name with
  | none => simp
  | some type => simp

theorem substitute_array_eq_ok_iff {component : DeclaredType} {result : ResolvedType} :
    registry.substitute bound? place (.array component) = .ok result ↔
      ∃ inner, registry.substitute bound? place component = .ok inner ∧
        result = .array inner := by
  rw [substitute]
  cases registry.substitute bound? place component with
  | error failure => simp [Except.map]
  | ok inner => simp [Except.map, eq_comm]

theorem substitute_parameterized_eq_ok_iff {raw : ClassId} {arguments : List DeclaredType}
    {result : ResolvedType} :
    registry.substitute bound? place (.parameterized raw arguments) = .ok result ↔
      registry.arity? raw = some arguments.length ∧
        ∃ inner, List.Forall₂
            (fun type result => registry.substitute bound? place type = .ok result)
            arguments inner ∧
          result = .parameterized raw inner := by
  rw [substitute, arity?]
  cases registry.definition? raw with
  | none => simp
  | some definition =>
      simp only [Option.map_some, Option.some.injEq, ← substituteAll_eq_ok_iff]
      split
      · next length =>
          rw [and_iff_right length]
          cases registry.substituteAll bound? place arguments with
          | error failure => simp [Except.map]
          | ok inner => simp [Except.map, eq_comm]
      · next different => simp [different]

/-- What was found before is found again with more classes and more variables in
sight, wherever the type is said to stand. -/
theorem substitute_mono {grown : Registry} {larger? : String → Option ResolvedType}
    (classes : ∀ id count, registry.arity? id = some count → grown.arity? id = some count)
    (bindings : ∀ name result, bound? name = some result → larger? name = some result)
    (elsewhere : Place) {type : DeclaredType} {result : ResolvedType}
    (passed : registry.substitute bound? place type = .ok result) :
    grown.substitute larger? elsewhere type = .ok result := by
  induction type generalizing result with
  | primitive kind => exact passed
  | plain id => exact passed
  | typeVariable name =>
      rw [substitute_typeVariable_eq_ok_iff] at passed ⊢
      exact bindings name result passed
  | array component induction =>
      rw [substitute_array_eq_ok_iff] at passed ⊢
      rcases passed with ⟨inner, found, rfl⟩
      exact ⟨inner, induction found, rfl⟩
  | parameterized raw arguments induction =>
      rw [substitute_parameterized_eq_ok_iff] at passed ⊢
      rcases passed with ⟨arity, inner, each, rfl⟩
      exact ⟨classes raw _ arity, inner,
        forall₂_imp_of_mem (fun argument member _ => induction argument member) each, rfl⟩
  | anyWildcard | extendsWildcard _ _ | superWildcard _ _ => cases passed

/-- A result has nothing of the place. -/
theorem substitute_elsewhere (elsewhere : Place) {type : DeclaredType} {result : ResolvedType}
    (passed : registry.substitute bound? place type = .ok result) :
    registry.substitute bound? elsewhere type = .ok result :=
  substitute_mono (fun _ _ known => known) (fun _ _ found => found) elsewhere passed

/-- Two substitutions in a type that fits differ in the place that they complain
about, if at all. -/
theorem substitute_agree_of_fits {parameters : List String} {type : DeclaredType}
    (fits : type.Fits registry.arity? parameters)
    (bound : ∀ name ∈ parameters, ∃ argument, bound? name = some argument)
    (first second : Place) :
    (∃ result, registry.substitute bound? first type = .ok result ∧
      registry.substitute bound? second type = .ok result) ∨
    (registry.substitute bound? first type = .error (.wildcard first) ∧
      registry.substitute bound? second type = .error (.wildcard second)) := by
  have firstOutcome := @substitute_of_fits registry bound? first _ _ fits bound
  have secondOutcome := @substitute_of_fits registry bound? second _ _ fits bound
  split at firstOutcome
  · next wild =>
      rw [if_pos wild] at secondOutcome
      exact .inr ⟨firstOutcome, secondOutcome⟩
  · rcases firstOutcome with ⟨result, passed⟩
    exact .inl ⟨result, passed, substitute_elsewhere second passed⟩

end Registry

end FieldTypes
