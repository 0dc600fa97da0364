import Mathlib.Data.List.Forall2
import Mathlib.Data.List.Perm.Basic

/-! Lists whose elements each have a result of their own.  Much of the program goes through
a list, collects the results and stops at the first element that has none; what such a walk
comes to is the same whatever the elements are. -/

namespace FieldTypes

/-! ## Related lists -/

section

variable {α β : Type} {relation first second : α → β → Prop} {lefts : List α} {rights : List β}

theorem forall₂_imp_of_mem (each : ∀ left ∈ lefts, ∀ right, first left right → second left right)
    (related : List.Forall₂ first lefts rights) : List.Forall₂ second lefts rights :=
  ((List.forall₂_and_left (p := fun left => ∀ right, first left right → second left right)
    lefts rights).mpr ⟨each, related⟩).imp fun _ right both => both.1 right both.2

theorem exists_mem_of_forall₂ (related : List.Forall₂ relation lefts rights) {left : α}
    (member : left ∈ lefts) : ∃ right ∈ rights, relation left right := by
  induction related with
  | nil => cases member
  | cons first _ induction =>
      rcases List.mem_cons.mp member with rfl | member
      · exact ⟨_, List.mem_cons_self, first⟩
      · rcases induction member with ⟨right, within, holds⟩
        exact ⟨right, List.mem_cons_of_mem _ within, holds⟩

/-- Two lists give the same results if and only if they do in each place. -/
theorem map_eq_map_iff_forall₂ {γ : Type} {transform : α → γ} {other : β → γ} :
    lefts.map transform = rights.map other ↔
      List.Forall₂ (fun left right => transform left = other right) lefts rights := by
  rw [← List.forall₂_eq_eq_eq, List.forall₂_map_left_iff, List.forall₂_map_right_iff]

theorem forall₂_ofFn_iff {count : Nat} {left : Fin count → α} {right : Fin count → β} :
    List.Forall₂ relation (List.ofFn left) (List.ofFn right) ↔
      ∀ place, relation (left place) (right place) := by
  rw [List.forall₂_iff_get, and_iff_right (List.length_ofFn.trans List.length_ofFn.symm)]
  constructor
  · intro each place
    simpa using each place.val (by simp) (by simp)
  · intro each index within _
    simpa using each ⟨index, by simpa using within⟩

theorem forall₂_filterMap {transform : α → Option β} {elements : List α}
    (each : ∀ element ∈ elements, ∃ result, transform element = some result ∧
      relation element result) :
    List.Forall₂ relation elements (elements.filterMap transform) := by
  induction elements with
  | nil => exact .nil
  | cons first rest induction =>
      rcases List.forall_mem_cons.mp each with ⟨⟨result, found, related⟩, others⟩
      rw [List.filterMap_cons_some found]
      exact .cons related (induction others)

/-- What each element has of its own goes with it, in whatever order the elements stand. -/
theorem zip_perm_of_map_some {property? : α → Option β} {others : List α}
    {otherRights : List β} (perm : lefts.Perm others)
    (here : rights.map some = lefts.map property?)
    (there : otherRights.map some = others.map property?) :
    (rights.zip lefts).Perm (otherRights.zip others) := by
  have pairs : ∀ {elements : List α} {properties : List β},
      properties.map some = elements.map property? →
        (properties.zip elements).map (Prod.map some id) =
          elements.map fun element => (property? element, element) := by
    intro elements properties same
    rw [← List.zip_map_left, same, ← List.zip_map', List.map_id']
  have injective : Function.Injective (Prod.map (some : β → Option β) (id : α → α)) := by
    intro left right equal
    rw [Prod.map, Prod.map, Prod.mk.injEq, Option.some.injEq] at equal
    exact Prod.ext equal.1 equal.2
  rw [← List.map_perm_map_iff injective, pairs here, pairs there]
  exact perm.map _

/-- Where the second list has a result at every place at which the first has one, and the
same, the results of the first are among those of the second in their order. -/
theorem filterMap_sublist_filterMap {transform : α → Option β} {elements others : List α}
    (each : ∀ (index : Nat) result, elements[index]?.bind transform = some result →
      others[index]?.bind transform = some result) :
    (elements.filterMap transform).Sublist (others.filterMap transform) := by
  induction elements generalizing others with
  | nil => exact List.nil_sublist _
  | cons first rest induction =>
      cases others with
      | nil =>
          have none : (first :: rest).filterMap transform = [] := by
            rw [List.filterMap_eq_nil_iff]
            intro element member
            rcases List.mem_iff_getElem?.mp member with ⟨index, found⟩
            rw [Option.eq_none_iff_forall_ne_some]
            intro result present
            cases each index result (by rw [found, Option.bind_some, present])
          rw [none, List.filterMap_nil]
      | cons other more =>
          have later := induction fun index result => each (index + 1) result
          cases here : transform first with
          | none =>
              rw [List.filterMap_cons_none here]
              exact later.trans ((List.sublist_cons_self other more).filterMap transform)
          | some result =>
              have there : transform other = some result := each 0 result here
              rw [List.filterMap_cons_some here, List.filterMap_cons_some there]
              exact later.cons_cons result

end

/-! ## Results in a row -/

section

variable {failure α β : Type}

theorem map_eq_error_iff {transform : α → β} {result : Except failure α} {error : failure} :
    result.map transform = .error error ↔ result = .error error := by
  cases result with
  | error found => simp [Except.map]
  | ok value => simp [Except.map]

theorem mapError_eq_ok_iff {other : Type} {transform : failure → other}
    {result : Except failure α} {found : α} :
    result.mapError transform = .ok found ↔ result = .ok found := by
  cases result with
  | error error => simp [Except.mapError]
  | ok value => simp [Except.mapError]

/-- A walk through a list that has a result for each element, or the error of the first
element without one. -/
structure Collects (each : α → Except failure β) (all : List α → Except failure (List β)) :
    Prop where
  nil_eq : all [] = .ok []
  cons_eq : ∀ first rest, all (first :: rest) =
    match each first with
    | .error error => .error error
    | .ok result => (all rest).map (result :: ·)

namespace Collects

variable {each : α → Except failure β} {all : List α → Except failure (List β)}
  {elements : List α}

theorem eq_ok_iff (collects : Collects each all) {results : List β} :
    all elements = .ok results ↔
      List.Forall₂ (fun element result => each element = .ok result) elements results := by
  induction elements generalizing results with
  | nil => rw [collects.nil_eq, List.forall₂_nil_left_iff, Except.ok.injEq, eq_comm]
  | cons first rest induction =>
      rw [collects.cons_eq, List.forall₂_cons_left_iff]
      cases each first with
      | error error => simp
      | ok result =>
          simp only [Except.ok.injEq, ← induction]
          cases all rest with
          | error error => simp [Except.map]
          | ok later => simp [Except.map, eq_comm]

/-- Another walk comes to the same if it does at every element. -/
theorem map_eq (collects : Collects each all) {γ : Type} {other : γ → Except failure β}
    {allOthers : List γ → Except failure (List β)} (others : Collects other allOthers)
    {change : α → γ} (same : ∀ element ∈ elements, other (change element) = each element) :
    allOthers (elements.map change) = all elements := by
  induction elements with
  | nil => rw [List.map_nil, collects.nil_eq, others.nil_eq]
  | cons first rest induction =>
      rcases List.forall_mem_cons.mp same with ⟨here, later⟩
      rw [List.map_cons, collects.cons_eq, others.cons_eq, here, induction later]

theorem exists_of_eq_error (collects : Collects each all) {error : failure}
    (failed : all elements = .error error) : ∃ element ∈ elements, each element = .error error := by
  induction elements with
  | nil =>
      rw [collects.nil_eq] at failed
      cases failed
  | cons first rest induction =>
      rw [collects.cons_eq] at failed
      split at failed
      · next here =>
          cases failed
          exact ⟨first, List.mem_cons_self, here⟩
      · rcases induction (map_eq_error_iff.mp failed) with ⟨later, member, laterFailed⟩
        exact ⟨later, List.mem_cons_of_mem _ member, laterFailed⟩

/-- The error is that of the first element with a fault, if the faults are where the errors
are. -/
theorem eq_error_iff (collects : Collects each all) {fault? : α → Option failure}
    (faults : ∀ element ∈ elements, ∀ error,
      each element = .error error ↔ fault? element = some error) {error : failure} :
    all elements = .error error ↔ elements.findSome? fault? = some error := by
  induction elements with
  | nil => simp [collects.nil_eq]
  | cons first rest induction =>
      rcases List.forall_mem_cons.mp faults with ⟨here, later⟩
      rw [collects.cons_eq, List.findSome?_cons]
      cases outcome : each first with
      | error other => rw [(here other).mp outcome, Except.error.injEq, Option.some.injEq]
      | ok result =>
          have none : fault? first = none := by
            rw [Option.eq_none_iff_forall_ne_some]
            intro other present
            cases outcome.symm.trans ((here other).mpr present)
          rw [none, ← induction later]
          exact map_eq_error_iff

/-- The error is that of the first element that fails, if a test tells which ones do. -/
theorem eq_error_iff_find? (collects : Collects each all) {fails : α → Bool}
    (tested : ∀ element ∈ elements,
      (∃ error, each element = .error error) ↔ fails element = true) {error : failure} :
    all elements = .error error ↔
      ∃ element, elements.find? fails = some element ∧ each element = .error error := by
  induction elements with
  | nil => simp [collects.nil_eq]
  | cons first rest induction =>
      rcases List.forall_mem_cons.mp tested with ⟨here, later⟩
      rw [collects.cons_eq]
      cases outcome : each first with
      | error other =>
          rw [List.find?_cons_of_pos (here.mp ⟨other, outcome⟩)]
          simp [outcome]
      | ok result =>
          have passes : ¬ fails first = true := by
            rw [← here, outcome]
            simp
          rw [List.find?_cons_of_neg passes, ← induction later]
          exact map_eq_error_iff

/-- All results are there if each is. -/
theorem exists_eq_ok (collects : Collects each all)
    (results : ∀ element ∈ elements, ∃ result, each element = .ok result) :
    ∃ found, all elements = .ok found := by
  cases outcome : all elements with
  | ok found => exact ⟨found, rfl⟩
  | error error =>
      rcases collects.exists_of_eq_error outcome with ⟨element, member, failed⟩
      rcases results element member with ⟨result, passed⟩
      cases failed.symm.trans passed

/-- Where only one error can occur, it does not matter which element has it. -/
theorem eq_error (collects : Collects each all) {error : failure}
    (outcomes : ∀ element ∈ elements, each element = .error error ∨
      ∃ result, each element = .ok result)
    (failing : ∃ element ∈ elements, each element = .error error) :
    all elements = .error error := by
  cases outcome : all elements with
  | ok results =>
      rcases failing with ⟨element, member, failed⟩
      rcases exists_mem_of_forall₂ (collects.eq_ok_iff.mp outcome) member with
        ⟨result, -, passed⟩
      cases failed.symm.trans passed
  | error other =>
      rcases collects.exists_of_eq_error outcome with ⟨element, member, failed⟩
      rcases outcomes element member with same | ⟨result, passed⟩
      · cases failed.symm.trans same
        rfl
      · cases failed.symm.trans passed

end Collects

end

end FieldTypes
