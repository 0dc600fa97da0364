import FieldTypes.Proofs.Expression.Completeness
import FieldTypes.Proofs.Expression.Naming

/-! Field types are read as the grammar has them, with the names of a scope and of
a registry. -/

namespace FieldTypes.Expression

open Text

section

variable {names : String → Meaning → Prop} {meaning? : String → Option Meaning}
  (agree : ∀ name meaning, names name meaning ↔ meaning? name = some meaning)
  {text : List Char} {type : DeclaredType}

include agree

theorem readWhole_eq_ok_iff :
    readWhole meaning? text = .ok type ↔
      DerivesWhole names text type ∧ type.depth ≤ maximalDepth := by
  have complete := fun name meaning => (agree name meaning).mp
  constructor
  · intro found
    have derived := derivesWhole_of_readWhole (fun name meaning => (agree name meaning).mpr) found
    refine ⟨derived, Nat.le_of_not_lt fun deep => ?_⟩
    rcases readWhole_tooDeep_of_derivesWhole complete derived deep with ⟨place, failed⟩
    cases found.symm.trans failed
  · intro parts
    rcases parts with ⟨derived, shallow⟩
    exact readWhole_of_derivesWhole complete derived shallow

end

variable {registry : Registry} {scope : Scope} {text : String} {type : DeclaredType}

theorem parse_eq_ok_iff_readWhole :
    parse registry scope text = .ok type ↔
      readWhole (scope.meaning? registry) text.toList = .ok type := by
  unfold parse
  cases readWhole (scope.meaning? registry) text.toList with
  | error failure => exact iff_of_false (fun equal => by cases equal) (by simp)
  | ok found =>
      constructor
      · intro equal
        exact congrArg _ (Except.ok.inj equal)
      · intro equal
        exact congrArg _ (Except.ok.inj equal)

theorem names_agree (registry : Registry) (scope : Scope) (name : String) (meaning : Meaning) :
    scope.Names registry name meaning ↔ scope.meaning? registry name = some meaning :=
  Scope.names_iff

theorem parse_eq_ok_iff :
    parse registry scope text = .ok type ↔
      DerivesWhole (scope.Names registry) text.toList type ∧ type.depth ≤ maximalDepth :=
  parse_eq_ok_iff_readWhole.trans (readWhole_eq_ok_iff (names_agree registry scope))

/-- Exactly the texts of the grammar are accepted, each as the type that it derives,
as long as that type is not too deep.  Depth is the only other ground on which a
text of the grammar is refused, and the refusal says so. -/
theorem parse_follows_grammar (registry : Registry) (scope : Scope) (text : String)
    (type : DeclaredType) :
    (parse registry scope text = .ok type ↔
      DerivesWhole (scope.Names registry) text.toList type ∧ type.depth ≤ maximalDepth) ∧
    (DerivesWhole (scope.Names registry) text.toList type ∧ maximalDepth < type.depth →
      ∃ offset, parse registry scope text = .error ⟨offset, .tooDeep⟩) := by
  refine ⟨parse_eq_ok_iff, ?_⟩
  intro parts
  rcases parts with ⟨derived, deep⟩
  rcases readWhole_tooDeep_of_derivesWhole
      (fun name meaning => (names_agree registry scope name meaning).mp) derived deep with
    ⟨place, failed⟩
  refine ⟨byteOffset text.toList place, ?_⟩
  rw [parse, failed]
  rfl

end FieldTypes.Expression
