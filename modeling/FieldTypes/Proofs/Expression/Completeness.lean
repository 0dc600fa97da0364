import FieldTypes.Proofs.Expression.Readers
import FieldTypes.Proofs.Expression.Soundness

/-! Whatever is derived is read, unless it is too deep, and then that is what is
said about it.  The one limit on open brackets and the other on finished types are
followed through a derivation together. -/

namespace FieldTypes.Expression

open Text DeclaredType

section Depth

variable {α β : Type} {levels outerLevels depth outerDepth : Nat}
  {result expected : Except Failure α} {outer outerExpected : Except Failure β}

/-- The depth down to which every type is read when so many brackets may open. -/
def deepest (levels : Nat) : Nat :=
  min maximalDepth (levels + 1)

/-- What is shallow enough gives the expected result.  All else is too deep, and
nothing is before its time. -/
def Answers (levels depth : Nat) (result expected : Except Failure α) : Prop :=
  depth ≤ maximalDepth ∧ result = expected ∨
    deepest levels < depth ∧ ∃ place, result = .error ⟨place, .tooDeep⟩

theorem answers_tooDeep {place : List Char} (deep : maximalDepth < depth)
    (failed : result = .error ⟨place, .tooDeep⟩) : Answers levels depth result expected :=
  .inr ⟨Nat.lt_of_le_of_lt (Nat.min_le_left ..) deep, place, failed⟩

/-- A part answers for the whole when the whole passes on that the part is too
deep and does something with everything else. -/
theorem Answers.lift (answers : Answers levels depth result expected)
    (deeper : deepest levels < depth → deepest outerLevels < outerDepth)
    (passes : ∀ failure, result = .error failure → outer = .error failure)
    (goesOn : depth ≤ maximalDepth → result = expected →
      Answers outerLevels outerDepth outer outerExpected) :
    Answers outerLevels outerDepth outer outerExpected := by
  rcases answers with ⟨shallow, read⟩ | ⟨deep, place, failed⟩
  · exact goesOn shallow read
  · exact .inr ⟨deeper deep, place, passes _ failed⟩

theorem Answers.of_le (answers : Answers maximalDepth depth result expected)
    (shallow : depth ≤ maximalDepth) : result = expected := by
  rcases answers with ⟨_, read⟩ | ⟨deep, -⟩
  · exact read
  · rw [deepest, Nat.min_eq_left (Nat.le_succ _)] at deep
    exact absurd shallow (Nat.not_le_of_lt deep)

theorem Answers.of_lt (answers : Answers maximalDepth depth result expected)
    (deep : maximalDepth < depth) : ∃ place, result = .error ⟨place, .tooDeep⟩ := by
  rcases answers with ⟨shallow, -⟩ | ⟨-, failed⟩
  · exact absurd shallow (Nat.not_le_of_lt deep)
  · exact failed

theorem deepest_succ_lt (deep : deepest levels < depth) :
    deepest (levels + 1) < depth + 1 := by
  unfold deepest at *
  omega

theorem deepest_zero_lt (deep : 1 < depth) : deepest 0 < depth := by
  unfold deepest maximalDepth
  omega

end Depth

/-! ## What stands in front -/

variable {names : String → Meaning → Prop} {text rest : List Char}

/-- Every phrase begins with a name or with a question mark. -/
theorem Derives.head {phrase : Phrase} (derived : Derives names phrase text rest) :
    ∃ first later, skipBlank text = first :: later ∧
      (startsSegment first = true ∨ first = '?') := by
  induction derived with
  | bare skips here _ | applied skips here _ _ _ _ _ =>
      rcases here.exists_head with ⟨first, later, rfl, starts⟩
      exact ⟨first, later, skips.skipBlank_cons (not_isBlank_of_startsSegment starts),
        .inl starts⟩
  | unbounded skips | extendsBound skips _ _ _ _ _ | superBound skips _ _ _ _ _ =>
      exact ⟨'?', _, skips.skipBlank_cons (by decide), .inr rfl⟩
  | array _ _ _ induction | reference _ _ induction | last _ induction
    | more _ _ _ induction _ => exact induction

theorem not_startsSegment_of_isPunctuation {mark : Char} (punctuation : isPunctuation mark = true) :
    startsSegment mark = false :=
  not_belongsToName_of_isPunctuation punctuation true

theorem Derives.skipBlank_ne_close {phrase : Phrase} (derived : Derives names phrase text rest)
    (after : List Char) : skipBlank text ≠ '>' :: after := by
  intro closes
  rcases derived.head with ⟨first, later, visible, starts | rfl⟩
  · rcases List.cons.inj (visible.symm.trans closes) with ⟨rfl, -⟩
    rw [not_startsSegment_of_isPunctuation (by decide)] at starts
    cases starts
  · cases visible.symm.trans closes

theorem Derives.skipBlank_ne_question {type : DeclaredType}
    (derived : Derives names (.type type) text rest) (after : List Char) :
    skipBlank text ≠ '?' :: after := by
  intro question
  rcases derived.type_head with ⟨first, later, visible, starts⟩
  rcases List.cons.inj (visible.symm.trans question) with ⟨rfl, -⟩
  rw [not_startsSegment_of_isPunctuation (by decide)] at starts
  cases starts

theorem NameAt.skipBlank_eq {start name : List Char} (here : NameAt start name rest)
    (skips : Skips text start) : skipBlank text = name ++ rest := by
  rcases here.exists_head with ⟨first, later, rfl, starts⟩
  rw [skips.skipBlank_cons (not_isBlank_of_startsSegment starts), here.split]

/-- The keyword is found in front of white space. -/
theorem keyword?_of_isBlank {word start : List Char} {space : Char}
    (blank : isBlank space = true) :
    keyword? word (word ++ space :: start) = some (space :: start) :=
  keyword?_eq_some_iff.mpr ⟨rfl, by simpa using not_continuesSegment_of_isBlank blank⟩

theorem keyword?_eq_none {first next : Char} {word later : List Char} (different : next ≠ first) :
    keyword? (first :: word) (next :: later) = none := by
  rw [keyword?, if_neg different]

/-! ## Phrases -/

/-- How a phrase is read in front of the rest that it leaves.  Behind a type come
its array dimensions, behind an argument a comma or the closing bracket, and behind
arguments the closing bracket. -/
def Phrase.IsRead (meaning? : String → Option Meaning) (levels : Nat) (text rest : List Char) :
    Phrase → Prop
  | .type derived =>
      NameEnds rest → (∀ inside, skipBlank rest ≠ '<' :: inside) →
        Answers levels derived.depth (outcome (typeWithin meaning? levels text))
          (outcome (dimensions derived rest))
  | .argument derived =>
      ∀ mark after, skipBlank rest = mark :: after → mark = ',' ∨ mark = '>' →
        Answers levels derived.depth
          (outcome (Expression.argument (typeWithin meaning? levels) text))
          (.ok (derived, mark :: after))
  | .arguments derived =>
      ∀ after, skipBlank rest = '>' :: after →
        Answers levels (greatestDepth derived)
          (outcome (Expression.arguments (typeWithin meaning? levels) text))
          (.ok (derived, after))

variable {meaning? : String → Option Meaning} {levels : Nat} {name : List Char}

theorem outcome_typeWithin {type : DeclaredType}
    (found : outcome (element meaning? (oneFurther meaning? levels) text) = .ok (type, rest)) :
    outcome (typeWithin meaning? levels text) = outcome (dimensions type rest) := by
  rw [typeWithin_eq]
  exact outcome_withDimensions found

theorem outcome_typeWithin_of_error {failure : Failure}
    (failed : outcome (element meaning? (oneFurther meaning? levels) text) = .error failure) :
    outcome (typeWithin meaning? levels text) = .error failure := by
  rw [typeWithin_eq]
  exact outcome_withDimensions_of_error failed

theorem isRead_bare {meaning : Meaning} (named : skipBlank text = name ++ rest)
    (dotted : DottedName name) (meant : meaning? (String.ofList name) = some meaning) :
    (Phrase.type meaning.bareType).IsRead meaning? levels text rest := by
  intro ends unopened
  have made : applied (String.ofList name) (meaning? (String.ofList name)) none =
      .ok meaning.bareType := by
    rw [meant]
    cases meaning <;> rfl
  refine .inl ⟨?_, ?_⟩
  · cases meaning <;> exact Nat.le_of_ble_eq_true rfl
  · exact outcome_typeWithin
      (outcome_element named dotted ends (outcome_typeArguments_none unopened) made)

theorem one_le_greatestDepth_of_derives {phrase : Phrase} {arguments : List DeclaredType}
    (derived : Derives names phrase text rest) (listed : phrase = .arguments arguments) :
    1 ≤ greatestDepth arguments := by
  cases derived with
  | last | more =>
      cases listed
      rw [greatestDepth]
      exact Nat.le_trans (one_le_depth _) (Nat.le_max_left ..)
  | bare | applied | array | reference | unbounded | extendsBound | superBound => cases listed

theorem isRead_applied {id : ClassId} {arguments : List DeclaredType}
    {afterName inside afterArguments : List Char} (named : skipBlank text = name ++ afterName)
    (dotted : DottedName name) (meant : meaning? (String.ofList name) = some (.classNamed id))
    (opened : Skips afterName ('<' :: inside))
    (derived : Derives names (.arguments arguments) inside afterArguments)
    (closed : Skips afterArguments ('>' :: rest))
    (induction : ∀ levels,
      (Phrase.arguments arguments).IsRead meaning? levels inside afterArguments) :
    (Phrase.type (.parameterized id arguments)).IsRead meaning? levels text rest := by
  intro _ _
  have ends := nameEnds_of_skips opened (by decide)
  have opening := opened.skipBlank_cons (by decide)
  have closing := closed.skipBlank_cons (by decide)
  have positive := one_le_greatestDepth_of_derives derived rfl
  rw [depth]
  cases levels with
  | zero =>
      refine .inr ⟨deepest_zero_lt (by omega), inside, outcome_typeWithin_of_error ?_⟩
      exact outcome_element_of_error named dotted ends (outcome_typeArguments_innermost opening)
  | succ levels =>
      have bracket : outcome (typeArguments (some (typeWithin meaning? levels)) afterName) =
          bracketed (outcome (Expression.arguments (typeWithin meaning? levels) inside)) :=
        outcome_typeArguments_some opening derived.skipBlank_ne_close
      have fails : ∀ failure, outcome (typeArguments (some (typeWithin meaning? levels)) afterName)
          = .error failure → outcome (typeWithin meaning? (levels + 1) text) = .error failure :=
        fun failure failed => outcome_typeWithin_of_error
          (outcome_element_of_error named dotted ends failed)
      apply (induction levels _ closing).lift deepest_succ_lt
      · intro failure failed
        rw [failed] at bracket
        exact fails failure bracket
      · intro shallow found
        rw [found, bracketed] at bracket
        split at bracket
        · next deep => exact answers_tooDeep deep (fails _ bracket)
        · next notDeep =>
            refine .inl ⟨Nat.le_of_not_lt notDeep, outcome_typeWithin ?_⟩
            apply outcome_element named dotted ends bracket
            rw [meant]
            rfl

theorem isRead_array {component : DeclaredType} {afterComponent inside : List Char}
    (opened : Skips afterComponent ('[' :: inside)) (closed : Skips inside (']' :: rest))
    (induction : (Phrase.type component).IsRead meaning? levels text afterComponent) :
    (Phrase.type (.array component)).IsRead meaning? levels text rest := by
  intro _ _
  have opening := opened.skipBlank_cons (by decide)
  have next : outcome (dimensions component afterComponent) = _ :=
    outcome_dimensions_next opening (closed.skipBlank_cons (by decide))
  have ends := nameEnds_of_skips opened (by decide)
  rw [depth]
  apply (induction ends (by simp [opening])).lift Nat.lt_succ_of_lt (fun _ failed => failed)
  intro shallow found
  rw [found, next]
  split
  · next deep => exact answers_tooDeep deep rfl
  · next notDeep => exact .inl ⟨Nat.le_of_not_lt notDeep, rfl⟩

/-- Behind an argument neither brackets nor dimensions follow. -/
theorem answers_reference {type : DeclaredType} {mark : Char} {after : List Char}
    (notPrimitive : ∀ kind, type ≠ .primitive kind) (next : skipBlank rest = mark :: after)
    (separates : mark = ',' ∨ mark = '>')
    (induction : (Phrase.type type).IsRead meaning? levels text rest) :
    Answers levels type.depth (outcome (reference (typeWithin meaning? levels) text))
      (.ok (type, mark :: after)) := by
  have punctuation : isPunctuation mark = true := by
    rcases separates with rfl | rfl <;> decide
  have unopened : ∀ bracket inside, bracket = '<' ∨ bracket = '[' →
      skipBlank rest ≠ bracket :: inside := by
    intro bracket inside other opened
    rcases List.cons.inj (next.symm.trans opened) with ⟨rfl, -⟩
    rcases separates with rfl | rfl <;> rcases other with other | other <;> cases other
  have ends := nameEnds_of_skips (skips_of_skipBlank next) punctuation
  refine (induction ends fun inside => unopened '<' inside (.inl rfl)).lift id
    (fun _ failed => outcome_reference_of_error failed) ?_
  intro shallow found
  rw [outcome_dimensions_done fun inside => unopened '[' inside (.inr rfl), next] at found
  exact .inl ⟨shallow, outcome_reference found notPrimitive⟩

theorem isRead_reference {type : DeclaredType} (noMark : ∀ after, skipBlank text ≠ '?' :: after)
    (notPrimitive : ∀ kind, type ≠ .primitive kind)
    (induction : (Phrase.type type).IsRead meaning? levels text rest) :
    (Phrase.argument type).IsRead meaning? levels text rest := by
  intro mark after next separates
  rw [argument_of_ne_question noMark]
  exact answers_reference notPrimitive next separates induction

theorem isRead_unbounded (question : skipBlank text = '?' :: rest) :
    (Phrase.argument .anyWildcard).IsRead meaning? levels text rest := by
  intro mark after next separates
  have notWord : mark ≠ 'e' ∧ mark ≠ 's' := by
    rcases separates with rfl | rfl <;> decide
  refine .inl ⟨by decide, ?_⟩
  rw [← next]
  apply outcome_argument_unbounded question <;> rw [next]
  · exact keyword?_eq_none notWord.1
  · exact keyword?_eq_none notWord.2

/-- A wildcard around a bound is one level deeper than the bound. -/
theorem answers_bounded {wildcard : DeclaredType → DeclaredType} {bound : DeclaredType}
    {found : Except Failure (DeclaredType × List Char)}
    (adds : (wildcard bound).depth = bound.depth + 1)
    (answers : Answers levels bound.depth found (.ok (bound, rest))) :
    Answers levels (wildcard bound).depth (bounded wildcard found)
      (.ok (wildcard bound, rest)) := by
  apply answers.lift (fun deep => by omega)
  · intro failure failed
    rw [failed]
    rfl
  · intro shallow read
    rw [read, bounded]
    split
    · next deep => exact answers_tooDeep deep rfl
    · next notDeep => exact .inl ⟨Nat.le_of_not_lt notDeep, rfl⟩

theorem isRead_extendsBound {bound : DeclaredType} {mark start : List Char}
    {space : Char} (question : skipBlank text = '?' :: mark)
    (keyword : Skips mark ("extends".toList ++ space :: start)) (blank : isBlank space = true)
    (notPrimitive : ∀ kind, bound ≠ .primitive kind)
    (induction : (Phrase.type bound).IsRead meaning? levels (space :: start) rest) :
    (Phrase.argument (.extendsWildcard bound)).IsRead meaning? levels text rest := by
  intro next after follows separates
  have word := keyword.skipBlank_cons (by decide)
  rw [outcome_argument_extends question (by rw [word]; exact keyword?_of_isBlank blank)]
  exact answers_bounded (by rw [depth])
    (answers_reference notPrimitive follows separates induction)

theorem isRead_superBound {bound : DeclaredType} {mark start : List Char}
    {space : Char} (question : skipBlank text = '?' :: mark)
    (keyword : Skips mark ("super".toList ++ space :: start)) (blank : isBlank space = true)
    (notPrimitive : ∀ kind, bound ≠ .primitive kind)
    (induction : (Phrase.type bound).IsRead meaning? levels (space :: start) rest) :
    (Phrase.argument (.superWildcard bound)).IsRead meaning? levels text rest := by
  intro next after follows separates
  have word := keyword.skipBlank_cons (by decide)
  rw [outcome_argument_super question (by rw [word]; exact keyword?_eq_none (by decide))
    (by rw [word]; exact keyword?_of_isBlank blank)]
  exact answers_bounded (by rw [depth])
    (answers_reference notPrimitive follows separates induction)

theorem isRead_last {argument : DeclaredType}
    (induction : (Phrase.argument argument).IsRead meaning? levels text rest) :
    (Phrase.arguments [argument]).IsRead meaning? levels text rest := by
  intro after closed
  rw [greatestDepth, greatestDepth, Nat.max_zero]
  refine (induction '>' after closed (.inr rfl)).lift id
    (fun _ failed => outcome_arguments_of_error failed) ?_
  intro shallow found
  exact .inl ⟨shallow, outcome_arguments_last found (skipBlank_cons (by decide))⟩

theorem isRead_more {argument : DeclaredType} {arguments : List DeclaredType}
    {afterArgument next : List Char} (comma : Skips afterArgument (',' :: next))
    (first : (Phrase.argument argument).IsRead meaning? levels text afterArgument)
    (others : (Phrase.arguments arguments).IsRead meaning? levels next rest) :
    (Phrase.arguments (argument :: arguments)).IsRead meaning? levels text rest := by
  intro after closed
  rw [greatestDepth]
  refine (first ',' next (comma.skipBlank_cons (by decide)) (.inl rfl)).lift
    (fun deep => Nat.lt_of_lt_of_le deep (Nat.le_max_left ..))
    (fun _ failed => outcome_arguments_of_error failed) ?_
  intro firstShallow firstFound
  rw [outcome_arguments_more firstFound (skipBlank_cons (by decide))]
  refine (others after closed).lift
    (fun deep => Nat.lt_of_lt_of_le deep (Nat.le_max_right ..)) ?_ ?_
  · intro failure failed
    rw [failed]
    rfl
  · intro shallow found
    rw [found]
    exact .inl ⟨Nat.max_le.mpr ⟨firstShallow, shallow⟩, rfl⟩

section

variable (complete : ∀ name meaning, names name meaning → meaning? name = some meaning)

include complete

theorem Derives.isRead {phrase : Phrase} (derived : Derives names phrase text rest) :
    ∀ levels {other}, skipBlank other = skipBlank text →
      phrase.IsRead meaning? levels other rest := by
  induction derived with
  | bare skips here named =>
      intro levels other same
      exact isRead_bare (same.trans (here.skipBlank_eq skips)) here.dotted (complete _ _ named)
  | applied skips here named opened inner closed induction =>
      intro levels other same
      exact isRead_applied (same.trans (here.skipBlank_eq skips)) here.dotted
        (complete _ _ named) opened inner closed fun levels => induction levels rfl
  | array _ opened closed induction =>
      intro levels other same
      exact isRead_array opened closed (induction levels same)
  | reference inner notPrimitive induction =>
      intro levels other same
      exact isRead_reference (same ▸ inner.skipBlank_ne_question) notPrimitive
        (induction levels same)
  | unbounded skips =>
      intro levels other same
      exact isRead_unbounded (same.trans (skips.skipBlank_cons (by decide)))
  | extendsBound skips keyword blank _ notPrimitive induction =>
      intro levels other same
      exact isRead_extendsBound (same.trans (skips.skipBlank_cons (by decide))) keyword blank
        notPrimitive (induction levels (Skips.cons blank (.refl _)).skipBlank_eq)
  | superBound skips keyword blank _ notPrimitive induction =>
      intro levels other same
      exact isRead_superBound (same.trans (skips.skipBlank_cons (by decide))) keyword blank
        notPrimitive (induction levels (Skips.cons blank (.refl _)).skipBlank_eq)
  | last _ induction =>
      intro levels other same
      exact isRead_last (induction levels same)
  | more _ comma _ first others =>
      intro levels other same
      exact isRead_more comma (first levels same) (others levels rfl)

/-- At the end of a text no more dimensions follow. -/
theorem DerivesWhole.answers {type : DeclaredType} (derived : DerivesWhole names text type) :
    Answers maximalDepth type.depth (outcome (typeWithin meaning? maximalDepth text))
      (.ok (type, [])) := by
  rcases derived with ⟨rest, derived, ended⟩
  have blank : skipBlank rest = [] := ended.skipBlank_eq
  have ends : NameEnds rest := by
    rcases ended with ⟨spaces, allBlank, rfl⟩
    rw [List.append_nil]
    intro next first
    exact belongsToName_false_of_isBlank (allBlank next (List.mem_of_mem_head? first))
  have read := derived.isRead complete maximalDepth rfl ends (by simp [blank])
  rwa [outcome_dimensions_done (by simp [blank]), blank] at read

theorem readWhole_of_derivesWhole {type : DeclaredType} (derived : DerivesWhole names text type)
    (shallow : type.depth ≤ maximalDepth) : readWhole meaning? text = .ok type := by
  rcases outcome_eq_ok_iff.mp ((derived.answers complete).of_le shallow) with
    ⟨within, found⟩
  unfold readWhole
  rw [found]
  rfl

theorem readWhole_tooDeep_of_derivesWhole {type : DeclaredType}
    (derived : DerivesWhole names text type) (deep : maximalDepth < type.depth) :
    ∃ place, readWhole meaning? text = .error ⟨place, .tooDeep⟩ := by
  rcases (derived.answers complete).of_lt deep with ⟨place, failed⟩
  refine ⟨place, ?_⟩
  unfold readWhole
  rw [outcome_eq_error_iff.mp failed]

end

end FieldTypes.Expression
