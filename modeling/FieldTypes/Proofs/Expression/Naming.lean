import FieldTypes.Proofs.Expression.Grammar

/-! What names mean, and that a scope looks them up accordingly. -/

namespace FieldTypes.Expression.Scope

variable {scope : Scope} {registry : Registry} {name : String} {id : ClassId}
  {meaning : Meaning}

/-- The simple name is the end of a full name from which its last dot, if any,
has just been cut off. -/
theorem simpleName_eq_iff {full simple : List Char} :
    simpleName full = simple ↔
      '.' ∉ simple ∧ (full = simple ∨ ∃ front, full = front ++ '.' :: simple) := by
  constructor
  · intro equal
    subst equal
    have parts := List.takeWhile_append_dropWhile (p := (· != '.')) (l := full.reverse)
    constructor
    · intro member
      have kept := List.all_eq_true.mp
        (List.all_takeWhile (p := (· != '.')) (l := full.reverse)) _ (List.mem_reverse.mp member)
      simp at kept
    · cases dropped : full.reverse.dropWhile (· != '.') with
      | nil =>
          left
          rw [dropped, List.append_nil] at parts
          rw [simpleName, parts, List.reverse_reverse]
      | cons first later =>
          right
          have head := List.head?_dropWhile_not (· != '.') full.reverse
          rw [dropped] at head
          have dot : first = '.' := by simpa using head
          rw [dropped, dot] at parts
          refine ⟨later.reverse, ?_⟩
          calc full = full.reverse.reverse := full.reverse_reverse.symm
            _ = (full.reverse.takeWhile (· != '.') ++ '.' :: later).reverse := by rw [parts]
            _ = later.reverse ++ '.' :: simpleName full := by simp [simpleName]
  · intro parts
    rcases parts with ⟨dotless, whole⟩
    have all : ∀ character ∈ simple.reverse, (character != '.') = true := by
      intro character member
      rw [bne_iff_ne]
      intro equal
      subst equal
      exact dotless (List.mem_reverse.mp member)
    have cut : ∃ tail, full.reverse = simple.reverse ++ tail ∧
        tail.takeWhile (· != '.') = [] := by
      rcases whole with rfl | ⟨front, rfl⟩
      · exact ⟨[], by simp, rfl⟩
      · exact ⟨'.' :: front.reverse, by simp, by simp⟩
    rcases cut with ⟨tail, reversed, stops⟩
    rw [simpleName, reversed, List.takeWhile_append_of_pos all, stops, List.append_nil,
      List.reverse_reverse]

theorem own?_eq_some_iff : scope.own? name = some id ↔ scope.IsOwnName name id := by
  rw [own?, IsOwnName]
  cases scope.ownClass? with
  | none => simp
  | some own =>
      rcases own with ⟨full, ownId⟩
      simp only [Bool.or_eq_true, decide_eq_true_eq, Option.some.injEq, Prod.mk.injEq]
      constructor
      · intro found
        split at found
        · next named =>
            refine ⟨full, ⟨rfl, Option.some.inj found⟩, ?_⟩
            rcases named with equal | simple
            · exact .inl equal
            · rcases simpleName_eq_iff.mp simple.symm with ⟨dotless, equal | front⟩
              · exact .inl (String.toList_inj.mp equal).symm
              · exact .inr ⟨dotless, front⟩
        · cases found
      · intro parts
        rcases parts with ⟨_, ⟨rfl, rfl⟩, named⟩
        rw [if_pos]
        rcases named with equal | ⟨dotless, front⟩
        · exact .inl equal
        · exact .inr (simpleName_eq_iff.mpr ⟨dotless, .inr front⟩).symm

theorem names_iff :
    scope.Names registry name meaning ↔ scope.meaning? registry name = some meaning := by
  rw [meaning?]
  cases keyword : Primitive.ofKeyword? name with
  | some kind =>
      have isKeyword := Primitive.ofKeyword?_eq_some_iff.mp keyword
      rw [Option.some.injEq]
      constructor
      · intro named
        cases named with
        | keyword same =>
            exact congrArg _ (Primitive.keyword_injective (isKeyword.trans same.symm))
        | parameter none | own none | other none => exact absurd isKeyword (none kind)
      · intro equal
        subst equal
        exact .keyword isKeyword
  | none =>
      have noKeyword : ∀ kind : Primitive, kind.keyword ≠ name := by
        intro kind same
        rw [Primitive.ofKeyword?_eq_some_iff.mpr same] at keyword
        cases keyword
      dsimp only
      split
      · next contained =>
          have declared : name ∈ scope.parameters := by simpa using contained
          rw [Option.some.injEq]
          constructor
          · intro named
            cases named with
            | keyword same => exact absurd same (noKeyword _)
            | parameter => rfl
            | own _ undeclared | other _ undeclared => exact absurd declared undeclared
          · intro equal
            subst equal
            exact .parameter noKeyword declared
      · next notContained =>
          have undeclared : name ∉ scope.parameters := by simpa using notContained
          cases own : scope.own? name with
          | some ownId =>
              have isOwn := own?_eq_some_iff.mp own
              rw [Option.some.injEq]
              constructor
              · intro named
                cases named with
                | keyword same => exact absurd same (noKeyword _)
                | parameter _ declared => exact absurd declared undeclared
                | own _ _ same =>
                    exact congrArg _ (Option.some.inj (own.symm.trans (own?_eq_some_iff.mpr same)))
                | other _ _ notOwn => exact absurd isOwn (notOwn ownId)
              · intro equal
                subst equal
                exact .own noKeyword undeclared isOwn
          | none =>
              have notOwn : ∀ other, ¬ scope.IsOwnName name other := by
                intro other isOwn
                rw [own?_eq_some_iff.mpr isOwn] at own
                cases own
              dsimp only
              rw [Option.map_eq_some_iff]
              constructor
              · intro named
                cases named with
                | keyword same => exact absurd same (noKeyword _)
                | parameter _ declared => exact absurd declared undeclared
                | own _ _ isOwn => exact absurd isOwn (notOwn _)
                | other _ _ _ found => exact ⟨_, found, rfl⟩
              · intro parts
                rcases parts with ⟨found, lookup, rfl⟩
                exact .other noKeyword undeclared notOwn lookup

end FieldTypes.Expression.Scope
