import FieldTypes.Proofs.Expression.Tokens

/-! Whatever is read has a derivation.  A reader may pass over white space behind
a phrase, so a derivation ends somewhere before the rest that the reader leaves. -/

namespace FieldTypes.Expression

open Text

variable {names : String → Meaning → Prop} {text rest : List Char}

/-! ## White space in front of a phrase -/

theorem NameAt.exists_head {name : List Char} (here : NameAt text name rest) :
    ∃ first later, text = first :: later ∧ startsSegment first = true := by
  rcases here with ⟨rfl, dotted, -⟩
  cases dotted with
  | segment only =>
      rcases only with ⟨first, later, rfl, starts, -⟩
      exact ⟨first, later ++ rest, rfl, starts⟩
  | dotted only _ =>
      rcases only with ⟨first, later, rfl, starts, -⟩
      exact ⟨first, _, rfl, starts⟩

theorem NameAt.skips_of_skipBlank_eq {name start other : List Char}
    (here : NameAt start name rest) (skips : Skips text start)
    (same : skipBlank other = skipBlank text) : Skips other start := by
  rcases here.exists_head with ⟨first, later, rfl, starts⟩
  exact skips_of_skipBlank
    (same.trans (skips.skipBlank_cons (not_isBlank_of_startsSegment starts)))

theorem Skips.mark_of_skipBlank_eq {mark : Char} {other : List Char}
    (skips : Skips text (mark :: rest)) (visible : isBlank mark = false)
    (same : skipBlank other = skipBlank text) : Skips other (mark :: rest) :=
  skips_of_skipBlank (same.trans (skips.skipBlank_cons visible))

/-- White space in front of a phrase is no part of what it derives. -/
theorem Derives.of_skipBlank_eq {phrase : Phrase} (derived : Derives names phrase text rest) :
    ∀ {other}, skipBlank other = skipBlank text → Derives names phrase other rest := by
  induction derived with
  | bare skips here named =>
      intro other same
      exact .bare (here.skips_of_skipBlank_eq skips same) here named
  | applied skips here named opened inner closed _ =>
      intro other same
      exact .applied (here.skips_of_skipBlank_eq skips same) here named opened inner closed
  | array _ opened closed induction =>
      intro other same
      exact .array (induction same) opened closed
  | reference _ notPrimitive induction =>
      intro other same
      exact .reference (induction same) notPrimitive
  | unbounded skips =>
      intro other same
      exact .unbounded (skips.mark_of_skipBlank_eq (by decide) same)
  | extendsBound skips keyword space bound notPrimitive _ =>
      intro other same
      exact .extendsBound (skips.mark_of_skipBlank_eq (by decide) same) keyword space bound
        notPrimitive
  | superBound skips keyword space bound notPrimitive _ =>
      intro other same
      exact .superBound (skips.mark_of_skipBlank_eq (by decide) same) keyword space bound
        notPrimitive
  | last _ induction =>
      intro other same
      exact .last (induction same)
  | more _ comma arguments induction _ =>
      intro other same
      exact .more (induction same) comma arguments

/-- The first visible character of a type starts a name. -/
theorem Derives.type_head {type : DeclaredType}
    (derived : Derives names (.type type) text rest) :
    ∃ first later, skipBlank text = first :: later ∧ startsSegment first = true := by
  generalize equal : Phrase.type type = phrase at derived
  induction derived generalizing type with
  | bare skips here _ | applied skips here _ _ _ _ _ =>
      rcases here.exists_head with ⟨first, later, rfl, starts⟩
      exact ⟨first, later, skips.skipBlank_cons (not_isBlank_of_startsSegment starts), starts⟩
  | array _ _ _ induction => exact induction rfl
  | reference | unbounded | extendsBound | superBound | last | more => cases equal

/-- Behind a keyword a type needs white space, for otherwise the keyword would run
on into its name. -/
theorem Derives.exists_space {type : DeclaredType}
    (derived : Derives names (.type type) text rest)
    (stops : ∀ next ∈ text.head?, continuesSegment next = false) :
    ∃ space start, text = space :: start ∧ isBlank space = true ∧
      Derives names (.type type) start rest := by
  rcases derived.type_head with ⟨first, later, visible, starts⟩
  cases text with
  | nil => cases visible
  | cons space start =>
      cases blank : isBlank space with
      | true =>
          refine ⟨space, start, rfl, blank, derived.of_skipBlank_eq ?_⟩
          exact (Skips.cons blank (.refl start)).skipBlank_eq.symm
      | false =>
          rw [skipBlank_cons blank] at visible
          rcases List.cons.inj visible with ⟨rfl, rfl⟩
          have continues := continuesSegment_of_startsSegment starts
          rw [stops space (by simp)] at continues
          cases continues

/-! ## Readers -/

/-- A reader that finds nothing but types. -/
def FindsTypes (names : String → Meaning → Prop) (inner : Reader DeclaredType) : Prop :=
  ∀ {text : List Char} {read : Read DeclaredType text.length}, inner text = .ok read →
    ∃ middle, Derives names (.type read.value) text middle ∧ Skips middle read.rest

section

variable {inner : Reader DeclaredType} (finds : FindsTypes names inner)

include finds

theorem derives_of_reference {read : Read DeclaredType text.length}
    (found : reference inner text = .ok read) :
    (∀ kind, read.value ≠ .primitive kind) ∧
      ∃ middle, Derives names (.type read.value) text middle ∧ Skips middle read.rest := by
  unfold reference at found
  split at found
  · cases found
  · cases found
  · next other notPrimitive innerFound =>
      cases found
      refine ⟨fun kind equal => ?_, finds innerFound⟩
      exact notPrimitive kind read.rest read.within (by rw [← equal])

omit finds in
theorem boundedBy_eq_ok {wildcard : DeclaredType → DeclaredType} {limit : Nat}
    {bound read : Read DeclaredType limit} (found : boundedBy wildcard bound = .ok read) :
    (wildcard bound.value).depth ≤ maximalDepth ∧ read = bound.map wildcard := by
  unfold boundedBy at found
  split at found
  · cases found
  · next shallow =>
      cases found
      exact ⟨Nat.le_of_not_lt shallow, rfl⟩

theorem derives_of_argument {read : Read DeclaredType text.length}
    (found : argument inner text = .ok read) :
    ∃ middle, Derives names (.argument read.value) text middle ∧ Skips middle read.rest := by
  unfold argument at found
  split at found
  · rcases derives_of_reference finds found with ⟨notPrimitive, middle, derived, skips⟩
    exact ⟨middle, .reference derived notPrimitive, skips⟩
  · next mark marked =>
      have question := skips_of_skipBlank (skipBlank_of_symbol? marked)
      split at found
      · next start upper =>
          rcases keyword?_eq_some_iff.mp upper with ⟨keyword, stops⟩
          split at found
          · cases found
          · next bound boundFound =>
              rcases derives_of_reference finds boundFound with
                ⟨notPrimitive, middle, derived, skips⟩
              rcases derived.exists_space stops with ⟨space, later, rfl, blank, derived⟩
              rcases boundedBy_eq_ok found with ⟨-, rfl⟩
              exact ⟨middle, .extendsBound question (skips_of_skipBlank keyword) blank
                derived notPrimitive, skips⟩
      · split at found
        · next start lower =>
            rcases keyword?_eq_some_iff.mp lower with ⟨keyword, stops⟩
            split at found
            · cases found
            · next bound boundFound =>
                rcases derives_of_reference finds boundFound with
                  ⟨notPrimitive, middle, derived, skips⟩
                rcases derived.exists_space stops with ⟨space, later, rfl, blank, derived⟩
                rcases boundedBy_eq_ok found with ⟨-, rfl⟩
                exact ⟨middle, .superBound question (skips_of_skipBlank keyword) blank
                  derived notPrimitive, skips⟩
        · cases found
          exact ⟨mark.rest, .unbounded question, skips_skipBlank mark.rest⟩

theorem derives_of_arguments : ∀ {text : List Char}
    {read : Read (List DeclaredType) text.length}, arguments inner text = .ok read →
      ∃ middle, Derives names (.arguments read.value) text middle ∧
        Skips middle ('>' :: read.rest) := by
  intro text read found
  rw [arguments] at found
  split at found
  · cases found
  · next first firstFound =>
      rcases derives_of_argument finds firstFound with
        ⟨afterFirst, firstDerived, firstSkips⟩
      split at found
      · next comma separated =>
          have commaSkips := skips_of_skipBlank (skipBlank_of_symbol? separated)
          have shorter := Nat.lt_trans comma.within first.within
          dsimp only at found
          split at found
          · cases found
          · next others othersFound =>
              rcases derives_of_arguments othersFound with ⟨middle, derived, skips⟩
              cases found
              exact ⟨middle, .more firstDerived (firstSkips.trans commaSkips) derived, skips⟩
      · split at found
        · next close closed =>
            cases found
            exact ⟨afterFirst, .last firstDerived,
              firstSkips.trans (skips_of_skipBlank (skipBlank_of_symbol? closed))⟩
        · cases found
termination_by text => text.length

end

/-- The types that may stand one bracket further in are types. -/
def FindsInner (names : String → Meaning → Prop) (inner? : Option (Reader DeclaredType)) :
    Prop :=
  ∀ inner, inner? = some inner → FindsTypes names inner

theorem derives_of_typeArguments {inner? : Option (Reader DeclaredType)}
    (finds : FindsInner names inner?)
    {read : Read (Option (List DeclaredType)) (text.length + 1)}
    (found : typeArguments inner? text = .ok read) :
    (read.value = none ∧ read.rest = text) ∨
      ∃ arguments inside middle, read.value = some arguments ∧ Skips text ('<' :: inside) ∧
        Derives names (.arguments arguments) inside middle ∧
        Skips middle ('>' :: read.rest) := by
  unfold typeArguments at found
  split at found
  · cases found
    exact .inl ⟨rfl, rfl⟩
  · next opened opening =>
      cases inner? with
      | none => cases found
      | some inner =>
          dsimp only at found
          split at found
          · cases found
          · split at found
            · cases found
            · next list listFound =>
                rcases derives_of_arguments (finds inner rfl) listFound with
                  ⟨middle, derived, skips⟩
                split at found
                · cases found
                · cases found
                  exact .inr ⟨list.value, opened.rest, middle, rfl,
                    skips_of_skipBlank (skipBlank_of_symbol? opening), derived, skips⟩

/-- Each way to make a type out of a name agrees with what the name means. -/
theorem applied_eq_ok {name : String} {meaning : Option Meaning}
    {arguments : Option (List DeclaredType)} {type : DeclaredType}
    (made : applied name meaning arguments = .ok type) :
    (∃ known, meaning = some known ∧ arguments = none ∧ type = known.bareType) ∨
      ∃ id list, meaning = some (.classNamed id) ∧ arguments = some list ∧
        type = .parameterized id list := by
  unfold applied at made
  split at made <;> cases made
  · exact .inl ⟨_, rfl, rfl, rfl⟩
  · exact .inl ⟨_, rfl, rfl, rfl⟩
  · exact .inl ⟨_, rfl, rfl, rfl⟩
  · exact .inr ⟨_, _, rfl, rfl, rfl⟩

theorem depth_of_applied {name : String} {meaning : Option Meaning}
    {arguments : Option (List DeclaredType)} {type : DeclaredType}
    (made : applied name meaning arguments = .ok type) :
    (arguments.map (DeclaredType.greatestDepth · + 1)).getD 1 = type.depth := by
  rcases applied_eq_ok made with ⟨known, -, rfl, rfl⟩ | ⟨id, list, -, rfl, rfl⟩
  · cases known <;> rw [Meaning.bareType, DeclaredType.depth] <;> rfl
  · rw [DeclaredType.depth]
    rfl

section

variable {meaning? : String → Option Meaning}
  (sound : ∀ name meaning, meaning? name = some meaning → names name meaning)

include sound

theorem derives_of_element {inner? : Option (Reader DeclaredType)}
    (finds : FindsInner names inner?) {read : Read DeclaredType text.length}
    (found : element meaning? inner? text = .ok read) :
    Derives names (.type read.value) text read.rest := by
  unfold element at found
  split at found
  · cases found
  · next name nameFound =>
      have here := nameAt_of_readName nameFound
      split at found
      · cases found
      · next arguments argumentsFound =>
          split at found
          · cases found
          · next type made =>
              cases found
              rcases applied_eq_ok made with ⟨known, meant, none, rfl⟩ |
                ⟨id, list, meant, some, rfl⟩
              · rcases derives_of_typeArguments finds argumentsFound with
                  ⟨-, restEqual⟩ | ⟨_, _, _, present, -⟩
                · show Derives names (.type known.bareType) text arguments.rest
                  rw [restEqual]
                  apply Derives.bare (skips_skipBlank text) here
                  apply sound
                  rw [String.ofList_toList, meant]
                · rw [none] at present
                  cases present
              · rcases derives_of_typeArguments finds argumentsFound with
                  ⟨absent, -⟩ | ⟨arguments, inside, middle, present, opened, derived, closed⟩
                · rw [some] at absent
                  cases absent
                · cases some.symm.trans present
                  refine .applied (skips_skipBlank text) here (sound _ _ ?_) opened derived closed
                  rw [String.ofList_toList, meant]

omit sound in
theorem derives_of_dimensions : ∀ {text start : List Char} {type : DeclaredType}
    {read : Read DeclaredType (text.length + 1)}, Derives names (.type type) start text →
      dimensions type text = .ok read →
      ∃ middle, Derives names (.type read.value) start middle ∧ Skips middle read.rest := by
  intro text start type read derived found
  rw [dimensions] at found
  split at found
  · cases found
    exact ⟨text, derived, skips_skipBlank text⟩
  · next opened opening =>
      split at found
      · cases found
      · next closed closing =>
          split at found
          · cases found
          · have shorter := Nat.lt_trans closed.within opened.within
            dsimp only at found
            split at found
            · cases found
            · next whole wholeFound =>
                have array := derives_of_dimensions
                  (.array derived (skips_of_skipBlank (skipBlank_of_symbol? opening))
                    (skips_of_skipBlank (skipBlank_of_symbol? closing))) wholeFound
                cases found
                exact array
termination_by text => text.length

theorem findsTypes_withDimensions {inner? : Option (Reader DeclaredType)}
    (finds : FindsInner names inner?) :
    FindsTypes names (withDimensions (element meaning? inner?)) := by
  intro text read found
  unfold withDimensions at found
  split at found
  · cases found
  · next base baseFound =>
      split at found
      · cases found
      · next whole wholeFound =>
          cases found
          exact derives_of_dimensions (derives_of_element sound finds baseFound) wholeFound

theorem findsTypes_typeWithin : ∀ levels, FindsTypes names (typeWithin meaning? levels)
  | 0 => findsTypes_withDimensions sound (by simp [FindsInner])
  | levels + 1 => findsTypes_withDimensions sound (by
      intro inner equal
      rw [← Option.some.inj equal]
      exact findsTypes_typeWithin levels)

theorem derivesWhole_of_readWhole {type : DeclaredType}
    (found : readWhole meaning? text = .ok type) : DerivesWhole names text type := by
  unfold readWhole at found
  split at found
  · cases found
  · next read readFound =>
      split at found
      · next ended =>
          cases found
          rcases findsTypes_typeWithin sound _ readFound with ⟨middle, derived, skips⟩
          exact ⟨middle, derived, skips.trans (skips_of_skipBlank ended)⟩
      · cases found

end

end FieldTypes.Expression
