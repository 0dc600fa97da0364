import FieldTypes.Proofs.Expression.Mentions

/-! A type that a text begins with is read in the same way when the text ends behind it. -/

namespace FieldTypes.Expression

open Text

section

variable {names : String → Meaning → Prop} {text rest after : List Char}

theorem Skips.truncate (skips : Skips (text ++ after) (rest ++ after)) : Skips text rest := by
  rcases skips with ⟨blank, allBlank, whole⟩
  rw [← List.append_assoc] at whole
  exact ⟨blank, allBlank, List.append_cancel_right whole⟩

theorem NameAt.truncate {name : List Char} (here : NameAt (text ++ after) name (rest ++ after)) :
    NameAt text name rest where
  split := by
    have whole := here.split
    rw [← List.append_assoc] at whole
    exact List.append_cancel_right whole
  dotted := here.dotted
  longest := fun longer isPrefix =>
    here.longest longer (isPrefix.trans (List.prefix_append text after))

/-- A phrase is there whatever comes after its rest. -/
theorem Derives.truncate {phrase : Phrase} {whole left : List Char}
    (derived : Derives names phrase whole left) :
    ∀ {text rest}, whole = text ++ after → left = rest ++ after →
      Derives names phrase text rest := by
  induction derived with
  | bare skips here named =>
      rintro text rest rfl rfl
      rcases (List.suffix_append rest after).trans here.isSuffix with ⟨start, rfl⟩
      exact .bare skips.truncate here.truncate named
  | applied skips here named opened inner closed induction =>
      rintro text rest rfl rfl
      have afterArguments := (List.suffix_append rest after).trans closed.isSuffix_tail
      have inside := afterArguments.trans inner.isSuffix
      have afterName := inside.trans opened.isSuffix_tail
      have start := afterName.trans here.isSuffix
      rcases afterArguments with ⟨afterArguments, rfl⟩
      rcases inside with ⟨inside, rfl⟩
      rcases afterName with ⟨afterName, rfl⟩
      rcases start with ⟨start, rfl⟩
      exact .applied skips.truncate here.truncate named (Skips.truncate opened)
        (induction rfl rfl) (Skips.truncate closed)
  | array component opened closed induction =>
      rintro text rest rfl rfl
      have inside := (List.suffix_append rest after).trans closed.isSuffix_tail
      have afterComponent := inside.trans opened.isSuffix_tail
      rcases inside with ⟨inside, rfl⟩
      rcases afterComponent with ⟨afterComponent, rfl⟩
      exact .array (induction rfl rfl) (Skips.truncate opened) (Skips.truncate closed)
  | reference _ notPrimitive induction =>
      rintro text rest rfl rfl
      exact .reference (induction rfl rfl) notPrimitive
  | unbounded mark =>
      rintro text rest rfl rfl
      exact .unbounded (Skips.truncate mark)
  | extendsBound mark word blank bound notPrimitive induction =>
      rintro text rest rfl rfl
      have start := (List.suffix_append rest after).trans bound.isSuffix
      have behindMark := start.trans word.isSuffix_word
      rcases start with ⟨start, rfl⟩
      rcases behindMark with ⟨behindMark, rfl⟩
      exact .extendsBound (Skips.truncate mark) (Skips.truncate word) blank
        (induction rfl rfl) notPrimitive
  | superBound mark word blank bound notPrimitive induction =>
      rintro text rest rfl rfl
      have start := (List.suffix_append rest after).trans bound.isSuffix
      have behindMark := start.trans word.isSuffix_word
      rcases start with ⟨start, rfl⟩
      rcases behindMark with ⟨behindMark, rfl⟩
      exact .superBound (Skips.truncate mark) (Skips.truncate word) blank
        (induction rfl rfl) notPrimitive
  | last _ induction =>
      rintro text rest rfl rfl
      exact .last (induction rfl rfl)
  | more _ comma others first later =>
      rintro text rest rfl rfl
      have next := (List.suffix_append rest after).trans others.isSuffix
      have afterArgument := next.trans comma.isSuffix_tail
      rcases next with ⟨next, rfl⟩
      rcases afterArgument with ⟨afterArgument, rfl⟩
      exact .more (first rfl rfl) (Skips.truncate comma) (later rfl rfl)

end

/-! ## Depths -/

section

variable {text : List Char} {meaning? : String → Option Meaning}
  {inner? : Option (Reader DeclaredType)}

theorem typeArguments_shallow {read : Read (Option (List DeclaredType)) (text.length + 1)}
    {arguments : List DeclaredType} (found : typeArguments inner? text = .ok read)
    (present : read.value = some arguments) :
    DeclaredType.greatestDepth arguments + 1 ≤ maximalDepth := by
  unfold typeArguments at found
  split at found
  · cases found
    cases present
  · split at found
    · cases found
    · split at found
      · cases found
      · split at found
        · cases found
        · split at found
          · cases found
          · next shallow =>
              cases found
              cases present
              exact Nat.le_of_not_lt shallow

theorem element_shallow {read : Read DeclaredType text.length}
    (found : element meaning? inner? text = .ok read) : read.value.depth ≤ maximalDepth := by
  unfold element at found
  split at found
  · cases found
  · split at found
    · cases found
    · next arguments argumentsFound =>
        split at found
        · cases found
        · next type made =>
            cases found
            rw [← depth_of_applied made]
            cases present : arguments.value with
            | none => decide
            | some types => exact typeArguments_shallow argumentsFound present

theorem dimensions_shallow : ∀ {text : List Char} {type : DeclaredType}
    {read : Read DeclaredType (text.length + 1)}, type.depth ≤ maximalDepth →
      dimensions type text = .ok read → read.value.depth ≤ maximalDepth := by
  intro text type read shallow found
  rw [dimensions] at found
  split at found
  · cases found
    exact shallow
  · next opened opening =>
      split at found
      · cases found
      · next closed closing =>
          split at found
          · cases found
          · next arrayShallow =>
              have shorter := Nat.lt_trans closed.within opened.within
              dsimp only at found
              split at found
              · cases found
              · next whole wholeFound =>
                  have bounded := dimensions_shallow (by
                    rw [DeclaredType.depth]
                    exact Nat.le_of_not_lt arrayShallow) wholeFound
                  cases found
                  exact bounded
termination_by text => text.length

/-- What is read is never too deep. -/
theorem typeWithin_shallow {levels : Nat} {read : Read DeclaredType text.length}
    (found : typeWithin meaning? levels text = .ok read) : read.value.depth ≤ maximalDepth := by
  rw [typeWithin_eq] at found
  unfold withDimensions at found
  split at found
  · cases found
  · next base baseFound =>
      split at found
      · cases found
      · next whole wholeFound =>
          cases found
          exact dimensions_shallow (element_shallow baseFound) wholeFound

end

/-! ## Types in front of a text -/

theorem findsTypes_names (registry : Registry) (scope : Scope) (levels : Nat) :
    FindsTypes (scope.Names registry) (typeWithin (scope.meaning? registry) levels) :=
  findsTypes_typeWithin (fun name meaning => (names_agree registry scope name meaning).mpr) levels

/-- The text in front of what is left behind a type is that type alone. -/
theorem parse_front {registry : Registry} {scope : Scope} {text rest : List Char}
    {read : Read DeclaredType text.length}
    (found : typeWithin (scope.meaning? registry) maximalDepth text = .ok read)
    (unread : Skips read.rest rest) :
    ∃ before, text = before ++ rest ∧
      parse registry scope (String.ofList before) = .ok read.value := by
  rcases findsTypes_names registry scope _ found with ⟨middle, derived, skips⟩
  rcases skips.trans unread with ⟨blank, allBlank, rfl⟩
  rcases (List.suffix_append blank rest).trans derived.isSuffix with ⟨before, rfl⟩
  refine ⟨before, rfl, parse_eq_ok_iff.mpr ⟨?_, typeWithin_shallow found⟩⟩
  rw [String.toList_ofList]
  exact ⟨blank, derived.truncate rfl rfl, blank, allBlank, (List.append_nil blank).symm⟩

end FieldTypes.Expression
