import FieldTypes.Proofs.Expression.Naming
import FieldTypes.Proofs.Registry.Growth
import FieldTypes.Proofs.Registry.Mirror

/-! What a name means in a registry.  All interned names count, whether their classes are
defined or not: the full name first, then the package that is always imported, and then the
last part of a full name, if no other name ends in it.  So an answer changes only with a new
name that is the name asked for or ends in it, and not at all for a full name. -/

namespace FieldTypes.Registry

variable {registry grown : Registry} {name part full simple new : String} {id : ClassId}

/-! ## Parts of a name -/

/-- The last of the parts into which its dots divide the name. -/
def IsLastPart (part full : String) : Prop :=
  (full.toList.splitOn '.').getLast? = some part.toList

theorem getLast?_splitOn (full : List Char) :
    (full.splitOn '.').getLast? = some (Expression.Scope.simpleName full) := by
  generalize cut : Expression.Scope.simpleName full = simple
  rcases Expression.Scope.simpleName_eq_iff.mp cut with ⟨dotless, rfl | ⟨front, rfl⟩⟩
  · rw [List.splitOn_eq_singleton dotless, List.getLast?_singleton]
  · rw [List.splitOn_append_cons_self, List.splitOn_eq_singleton dotless,
      List.getLast?_concat]

theorem isLastPart_iff :
    IsLastPart part full ↔ Expression.Scope.simpleName full.toList = part.toList := by
  rw [IsLastPart, getLast?_splitOn, Option.some.injEq]

/-- For a name without dots, to end in it and to have it for the last part is the same. -/
theorem endsIn_iff (dotless : '.' ∉ simple.toList) :
    EndsIn simple full ↔ '.' ∈ full.toList ∧ IsLastPart simple full := by
  rw [isLastPart_iff, Expression.Scope.simpleName_eq_iff]
  constructor
  · rintro ⟨front, whole⟩
    refine ⟨?_, dotless, .inr ⟨front, whole.symm⟩⟩
    rw [← whole]
    simp
  · rintro ⟨dotted, -, whole | ⟨front, whole⟩⟩
    · exact absurd (whole ▸ dotted) dotless
    · exact ⟨front, whole.symm⟩

theorem isLastPart_imported (dotless : '.' ∉ simple.toList) :
    IsLastPart simple ("java.lang." ++ simple) := by
  have ends : EndsIn simple ("java.lang." ++ simple) := by
    refine ⟨"java.lang".toList, ?_⟩
    rw [String.toList_append]
    rfl
  exact ((endsIn_iff dotless).mp ends).2

/-! ## What a name means -/

def IsInterned (registry : Registry) (name : String) : Prop :=
  ∃ id, registry.nameOf? id = some name

theorem Indexed.isInterned_iff (indexed : registry.Indexed) :
    registry.IsInterned name ↔ (registry.idOf? name).isSome = true := by
  rw [Option.isSome_iff_exists]
  exact exists_congr fun _ => indexed.idOf?_iff.symm

theorem Indexed.idOf?_eq_none_iff (indexed : registry.Indexed) :
    registry.idOf? name = none ↔ ¬ registry.IsInterned name := by
  rw [indexed.isInterned_iff, Option.not_isSome_iff_eq_none]

/-- The full name of the class has a package, and the simple name is its last part. -/
def IsCalled (registry : Registry) (simple : String) (id : ClassId) : Prop :=
  ∃ full, registry.nameOf? id = some full ∧ '.' ∈ full.toList ∧ IsLastPart simple full

/-- The class that a name means.  Each rule yields to those before it. -/
inductive Finds (registry : Registry) (name : String) (id : ClassId) : Prop
  | full : registry.nameOf? id = some name → Finds registry name id
  | imported : ¬ registry.IsInterned name → '.' ∉ name.toList →
      registry.nameOf? id = some ("java.lang." ++ name) → Finds registry name id
  | only : ¬ registry.IsInterned name → ¬ registry.IsInterned ("java.lang." ++ name) →
      '.' ∉ name.toList → (∀ other, registry.IsCalled name other ↔ other = id) →
      Finds registry name id

theorem Indexed.onlySimple?_eq_some_iff_isCalled (indexed : registry.Indexed)
    (dotless : '.' ∉ simple.toList) :
    registry.onlySimple? simple = some id ↔
      ∀ other, registry.IsCalled simple other ↔ other = id := by
  rw [indexed.onlySimple?_eq_some_iff]
  simp only [endsIn_iff dotless]
  constructor
  · rintro ⟨full, known, ends, alone⟩ other
    constructor
    · rintro ⟨otherFull, named, otherEnds⟩
      have otherKnown := indexed.idOf?_iff.mpr named
      rw [alone otherFull (Option.isSome_of_eq_some otherKnown) otherEnds, known] at otherKnown
      exact (Option.some.inj otherKnown).symm
    · rintro rfl
      exact ⟨full, indexed.idOf?_iff.mp known, ends⟩
  · intro only
    rcases (only id).mpr rfl with ⟨full, named, ends⟩
    refine ⟨full, indexed.idOf?_iff.mpr named, ends, ?_⟩
    intro other known otherEnds
    rcases indexed.isInterned_iff.mpr known with ⟨otherId, otherNamed⟩
    have same := (only otherId).mp ⟨other, otherNamed, otherEnds⟩
    rw [same, named] at otherNamed
    exact (Option.some.inj otherNamed).symm

theorem finds_iff_of_isInterned (known : registry.IsInterned name) :
    registry.Finds name id ↔ registry.nameOf? id = some name := by
  refine ⟨fun finds => ?_, .full⟩
  cases finds with
  | full named => exact named
  | imported unknown | only unknown => exact absurd known unknown

theorem finds_iff_of_imported (unknown : ¬ registry.IsInterned name)
    (dotless : '.' ∉ name.toList) (known : registry.IsInterned ("java.lang." ++ name)) :
    registry.Finds name id ↔ registry.nameOf? id = some ("java.lang." ++ name) := by
  refine ⟨fun finds => ?_, .imported unknown dotless⟩
  cases finds with
  | full named => exact absurd ⟨id, named⟩ unknown
  | imported _ _ named => exact named
  | only _ notImported => exact absurd known notImported

theorem finds_iff_of_not_imported (unknown : ¬ registry.IsInterned name)
    (dotless : '.' ∉ name.toList) (notImported : ¬ registry.IsInterned ("java.lang." ++ name)) :
    registry.Finds name id ↔ ∀ other, registry.IsCalled name other ↔ other = id := by
  refine ⟨fun finds => ?_, .only unknown notImported dotless⟩
  cases finds with
  | full named => exact absurd ⟨id, named⟩ unknown
  | imported _ _ named => exact absurd ⟨id, named⟩ notImported
  | only _ _ _ alone => exact alone

theorem Indexed.lookup?_eq_some_iff (indexed : registry.Indexed) :
    registry.lookup? name = some id ↔ registry.Finds name id := by
  -- The cases are the rules at which the search can end; each leaves one way to find anything.
  rw [lookup?]
  cases known : registry.idOf? name with
  | some found =>
      rw [finds_iff_of_isInterned ⟨found, indexed.idOf?_iff.mp known⟩, ← indexed.idOf?_iff, known]
  | none =>
      have unknown := indexed.idOf?_eq_none_iff.mp known
      dsimp only
      split
      · next contained =>
          have dotted : '.' ∈ name.toList := by simpa using contained
          refine iff_of_false (by simp) fun finds => ?_
          cases finds with
          | full named => exact unknown ⟨id, named⟩
          | imported _ dotless | only _ _ dotless => exact dotless dotted
      · next notContained =>
          have dotless : '.' ∉ name.toList := by simpa using notContained
          cases imported : registry.idOf? ("java.lang." ++ name) with
          | some found =>
              rw [finds_iff_of_imported unknown dotless ⟨found, indexed.idOf?_iff.mp imported⟩,
                ← indexed.idOf?_iff, imported]
          | none =>
              rw [finds_iff_of_not_imported unknown dotless
                (indexed.idOf?_eq_none_iff.mp imported)]
              exact indexed.onlySimple?_eq_some_iff_isCalled dotless

/-! ## New names -/

section

variable (growth : registry.GrowsTo grown) (grownIndexed : grown.Indexed)

include growth grownIndexed

theorem GrowsTo.isCalled_iff
    (old : ∀ new, grown.IsInterned new → IsLastPart simple new → registry.IsInterned new)
    (other : ClassId) : grown.IsCalled simple other ↔ registry.IsCalled simple other := by
  constructor
  · rintro ⟨full, named, dotted, last⟩
    rcases old full ⟨other, named⟩ last with ⟨id, before⟩
    rw [grownIndexed.eq_of_nameOf? named (growth.nameOf?_eq before)]
    exact ⟨full, before, dotted, last⟩
  · rintro ⟨full, named, ends⟩
    exact ⟨full, growth.nameOf?_eq named, ends⟩

variable (indexed : registry.Indexed)

include indexed

/-- A name that is not new has the id that it had. -/
theorem GrowsTo.idOf?_eq_of_old (old : grown.IsInterned name → registry.IsInterned name) :
    grown.idOf? name = registry.idOf? name := by
  cases known : registry.idOf? name with
  | some id => exact growth.idOf?_eq indexed grownIndexed known
  | none =>
      rw [indexed.idOf?_eq_none_iff] at known
      rw [grownIndexed.idOf?_eq_none_iff]
      exact fun later => known (old later)

theorem GrowsTo.onlySimple?_eq (dotless : '.' ∉ simple.toList)
    (old : ∀ new, grown.IsInterned new → IsLastPart simple new → registry.IsInterned new) :
    grown.onlySimple? simple = registry.onlySimple? simple := by
  apply Option.ext
  intro id
  rw [grownIndexed.onlySimple?_eq_some_iff_isCalled dotless,
    indexed.onlySimple?_eq_some_iff_isCalled dotless]
  simp only [growth.isCalled_iff grownIndexed old]

/-- Only a new name that is the name itself, or ends in it, changes what a name means. -/
theorem GrowsTo.lookup?_eq
    (old : ∀ new, grown.IsInterned new → name = new ∨ IsLastPart name new →
      registry.IsInterned new) :
    grown.lookup? name = registry.lookup? name := by
  have sameId : grown.idOf? name = registry.idOf? name :=
    growth.idOf?_eq_of_old grownIndexed indexed fun later => old name later (.inl rfl)
  rw [lookup?, lookup?, sameId]
  cases registry.idOf? name with
  | some id => rfl
  | none =>
      dsimp only
      split
      · rfl
      · next notContained =>
          have dotless : '.' ∉ name.toList := by simpa using notContained
          have sameImported := growth.idOf?_eq_of_old grownIndexed indexed
            fun later => old _ later (.inr (isLastPart_imported dotless))
          rw [sameImported, growth.onlySimple?_eq grownIndexed indexed dotless
            fun new known last => old new known (.inr last)]

end

theorem Indexed.isInterned_intern (indexed : registry.Indexed) :
    (registry.intern new).1.IsInterned name ↔ name = new ∨ registry.IsInterned name := by
  rw [(indexed.intern new).isInterned_iff, indexed.isInterned_iff, isSome_idOf?_intern,
    or_comm]

/-- Another name is found as before, unless it is what follows the last dot of the new
one. -/
theorem Indexed.lookup?_intern (indexed : registry.Indexed) (different : name ≠ new)
    (notSimple : ¬ IsLastPart name new) :
    (registry.intern new).1.lookup? name = registry.lookup? name := by
  apply (GrowsTo.intern registry new).lookup?_eq (indexed.intern new) indexed
  intro other known ends
  rcases indexed.isInterned_intern.mp known with rfl | before
  · exact absurd ends (not_or.mpr ⟨different, notSimple⟩)
  · exact before

/-- A name means the class that has it in full, or else the class that has it behind
`java.lang`, or else the only class that has it for the last part of its full name, where
names without a class count as well.  A name that is interned can change this only for itself
and for its own last part, however it comes to be interned, and never for a full name. -/
theorem Reachable.lookup?_finds (reachable : registry.Reachable) (name : String) :
    (∀ id, registry.lookup? name = some id ↔ registry.Finds name id) ∧
    (∀ new, (registry.intern new).1.lookup? name ≠ registry.lookup? name →
      name = new ∨ IsLastPart name new) ∧
    ∀ requests : List Change,
      ((requests.foldl Registry.change registry).lookup? name ≠ registry.lookup? name →
        ∃ new, (requests.foldl Registry.change registry).IsInterned new ∧
          ¬ registry.IsInterned new ∧ (name = new ∨ IsLastPart name new)) ∧
      ∀ id, registry.nameOf? id = some name →
        (requests.foldl Registry.change registry).lookup? name = some id := by
  have indexed := reachable.wellFormed.indexed
  refine ⟨fun id => indexed.lookup?_eq_some_iff, ?_, ?_⟩
  · intro new changed
    by_contra neither
    rw [not_or] at neither
    exact changed (indexed.lookup?_intern neither.1 neither.2)
  · intro requests
    rcases reachable.wellFormed.foldl_change requests with ⟨grownFormed, growth⟩
    constructor
    · intro changed
      by_contra none
      refine changed (growth.lookup?_eq grownFormed.indexed indexed fun new known ends => ?_)
      by_contra unknown
      exact none ⟨new, known, unknown, ends⟩
    · intro id named
      exact lookup?_of_nameOf? grownFormed.indexed (growth.nameOf?_eq named)

/-- A second class that is called a child makes the simple name ambiguous, and a class of just
this name takes it over. -/
theorem lookup?_finds_of_child :
    family.Reachable ∧ family.lookup? "Child" = some ⟨17⟩ ∧
      (family.intern "other.Child").1.lookup? "Child" = none ∧
      (family.intern "Child").1.lookup? "Child" = some ⟨19⟩ ∧
      (∀ id, family.lookup? "Child" = some id ↔ family.Finds "Child" id) ∧
      (∀ new, (family.intern new).1.lookup? "Child" ≠ family.lookup? "Child" →
        "Child" = new ∨ IsLastPart "Child" new) ∧
      ∀ requests : List Change,
        ((requests.foldl change family).lookup? "Child" ≠ family.lookup? "Child" →
          ∃ new, (requests.foldl change family).IsInterned new ∧ ¬ family.IsInterned new ∧
            ("Child" = new ∨ IsLastPart "Child" new)) ∧
        ∀ id, family.nameOf? id = some "Child" →
          (requests.foldl change family).lookup? "Child" = some id :=
  ⟨family_reachable, by decide +kernel, by decide +kernel, by decide +kernel,
    Reachable.lookup?_finds family_reachable "Child"⟩

end FieldTypes.Registry
