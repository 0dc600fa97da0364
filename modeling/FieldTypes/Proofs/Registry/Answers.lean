import FieldTypes.Proofs.Registry.Ownership

/-! The answers to requests, in the order in which these come.  A batch is refused as a
whole: a request that is refused leaves no trace, and the others are answered as if it had
never been made. -/

namespace FieldTypes

namespace Registry

/-- The ids that a request hands out, or the fault for which a batch is refused. -/
def answer (registry : Registry) : Change → Except DefinitionError (List ClassId)
  | .intern name => .ok [(registry.intern name).2]
  | .define batch => (registry.define batch).map (·.2)

def answers (registry : Registry) :
    List Change → List (Except DefinitionError (List ClassId))
  | [] => []
  | request :: rest => registry.answer request :: (registry.change request).answers rest

end Registry

namespace Workspace

/-- What a request is answered, if it is put to a registry that is there. -/
def answer? (workspace : Workspace) : Request → Option (Except DefinitionError (List ClassId))
  | .createEmpty _ | .createBuiltIn _ | .copy .. => none
  | .intern name className => workspace.registry? name |>.map (·.answer (.intern className))
  | .define name batch => workspace.registry? name |>.map (·.answer (.define batch))

def isRefusal : Option (Except DefinitionError (List ClassId)) → Bool
  | some (.error _) => true
  | some (.ok _) | none => false

def answers (workspace : Workspace) :
    List Request → List (Option (Except DefinitionError (List ClassId)))
  | [] => []
  | request :: rest => workspace.answer? request :: (workspace.perform request).answers rest

/-- A run without the requests that are refused in it. -/
def granted (workspace : Workspace) : List Request → List Request
  | [] => []
  | request :: rest =>
      if isRefusal (workspace.answer? request) then (workspace.perform request).granted rest
      else request :: (workspace.perform request).granted rest

variable {workspace : Workspace} {request : Request}

/-- Nothing is refused but a batch with a fault. -/
theorem exists_fault_of_isRefusal (refused : isRefusal (workspace.answer? request) = true) :
    ∃ name batch registry error, request = .define name batch ∧
      workspace.registry? name = some registry ∧ registry.define batch = .error error := by
  cases request with
  | createEmpty _ | createBuiltIn _ | copy _ _ => cases refused
  | intern name className =>
      rw [answer?] at refused
      cases found : workspace.registry? name with
      | none =>
          rw [found] at refused
          cases refused
      | some registry =>
          rw [found] at refused
          cases refused
  | define name batch =>
      rw [answer?] at refused
      cases found : workspace.registry? name with
      | none =>
          rw [found] at refused
          cases refused
      | some registry =>
          rw [found, Option.map_some, Registry.answer] at refused
          cases outcome : registry.define batch with
          | error error => exact ⟨name, batch, registry, error, rfl, found, outcome⟩
          | ok result =>
              rw [outcome] at refused
              cases refused

theorem perform_of_isRefusal (refused : isRefusal (workspace.answer? request) = true) :
    workspace.perform request = workspace := by
  rcases exists_fault_of_isRefusal refused with ⟨name, batch, registry, error, rfl, found, failed⟩
  rw [perform, define, found]
  simp only [failed]

/-- Refused requests can be left out. -/
theorem foldl_perform_granted (workspace : Workspace) (requests : List Request) :
    (workspace.granted requests).foldl perform workspace =
      requests.foldl perform workspace := by
  induction requests generalizing workspace with
  | nil => rfl
  | cons request rest induction =>
      rw [granted, List.foldl_cons]
      split
      · next refused => rw [perform_of_isRefusal refused, induction]
      · rw [List.foldl_cons, induction]

theorem answers_granted (workspace : Workspace) (requests : List Request) :
    workspace.answers (workspace.granted requests) =
      (workspace.answers requests).filter (!isRefusal ·) := by
  induction requests generalizing workspace with
  | nil => rfl
  | cons request rest induction =>
      rw [granted, answers]
      split
      · next refused =>
          rw [perform_of_isRefusal refused, induction, List.filter_cons_of_neg]
          rw [refused]
          exact Bool.false_ne_true
      · next accepted =>
          rw [answers, induction, List.filter_cons_of_pos]
          rw [Bool.not_eq_true] at accepted
          rw [accepted]
          rfl

end Workspace

end FieldTypes
