import FieldTypes.Proofs.Text.Classes
import FieldTypes.Proofs.Expression.Grammar
import FieldTypes.Expression.Parser

/-! The readers that look at characters themselves: white space, single symbols,
keywords and names.  Everything above them is said in terms of what they leave. -/

namespace FieldTypes.Expression

open Text

variable {text rest : List Char} {character : Char}

/-! ## White space -/

theorem Skips.refl (text : List Char) : Skips text text :=
  ⟨[], by simp, rfl⟩

theorem Skips.trans {middle : List Char} (first : Skips text middle)
    (second : Skips middle rest) : Skips text rest := by
  rcases first with ⟨before, beforeBlank, rfl⟩
  rcases second with ⟨after, afterBlank, rfl⟩
  refine ⟨before ++ after, ?_, (List.append_assoc ..).symm⟩
  intro character member
  rcases List.mem_append.mp member with early | late
  · exact beforeBlank character early
  · exact afterBlank character late

theorem Skips.cons (blank : isBlank character = true) (skips : Skips text rest) :
    Skips (character :: text) rest :=
  .trans ⟨[character], by simpa using blank, rfl⟩ skips

theorem skips_skipBlank (text : List Char) : Skips text (skipBlank text) :=
  ⟨text.takeWhile isBlank, fun _ member => (List.all_eq_true.mp List.all_takeWhile) _ member,
    List.takeWhile_append_dropWhile.symm⟩

theorem Skips.skipBlank_eq (skips : Skips text rest) : skipBlank text = skipBlank rest := by
  rcases skips with ⟨blank, allBlank, rfl⟩
  exact List.dropWhile_append_of_pos allBlank

theorem skipBlank_cons (visible : isBlank character = false) :
    skipBlank (character :: rest) = character :: rest := by
  rw [skipBlank, List.dropWhile_cons_of_neg (by simp [visible])]

theorem Skips.skipBlank_cons (skips : Skips text (character :: rest))
    (visible : isBlank character = false) : skipBlank text = character :: rest := by
  rw [skips.skipBlank_eq, Expression.skipBlank_cons visible]

theorem skips_of_skipBlank (next : skipBlank text = rest) : Skips text rest :=
  next ▸ skips_skipBlank text

/-! ## Symbols -/

theorem skipBlank_of_symbol? {mark : Read Unit text.length}
    (found : symbol? character text = some mark) :
    skipBlank text = character :: mark.rest := by
  unfold symbol? at found
  split at found
  · cases found
  · next next rest after =>
      split at found
      · next equal =>
          subst equal
          cases found
          exact after
      · cases found

theorem symbol?_of_skipBlank (next : skipBlank text = character :: rest) :
    ∃ within, symbol? character text = some ⟨(), rest, within⟩ := by
  have shorter := length_skipBlank_le text
  rw [next, List.length_cons] at shorter
  refine ⟨by omega, ?_⟩
  unfold symbol?
  split
  · next ended =>
      rw [ended] at next
      cases next
  · next first later after =>
      rcases List.cons.inj (after.symm.trans next) with ⟨rfl, rfl⟩
      exact if_pos rfl

theorem symbol?_eq_none (other : ∀ rest, skipBlank text ≠ character :: rest) :
    symbol? character text = none := by
  cases found : symbol? character text with
  | none => rfl
  | some mark => exact absurd (skipBlank_of_symbol? found) (other mark.rest)

/-! ## Keywords -/

/-- The keyword, and then no character that would make it a longer word. -/
theorem keyword?_eq_some_iff : ∀ {word text rest : List Char},
    keyword? word text = some rest ↔
      text = word ++ rest ∧ ∀ next ∈ rest.head?, continuesSegment next = false
  | [], [], rest => by
      rw [keyword?, Option.some.injEq, List.nil_append]
      constructor
      · intro equal
        subst equal
        exact ⟨rfl, by simp⟩
      · exact fun both => both.1
  | [], next :: later, rest => by
      rw [keyword?, List.nil_append]
      split
      · next runsOn =>
          apply iff_of_false (by simp)
          intro parts
          rcases parts with ⟨rfl, stops⟩
          rw [stops next (by simp)] at runsOn
          cases runsOn
      · next stops =>
          rw [Option.some.injEq]
          constructor
          · intro equal
            subst equal
            exact ⟨rfl, by simpa using stops⟩
          · exact fun both => both.1
  | expected :: word, [], rest => by simp [keyword?]
  | expected :: word, next :: later, rest => by
      rw [keyword?, List.cons_append, List.cons.injEq]
      split
      · next equal => rw [keyword?_eq_some_iff, and_iff_right equal]
      · next different => exact iff_of_false (by simp) fun both => different both.1.1

/-! ## Names -/

/-- No character at the front that would make a name longer. -/
def NameEnds (rest : List Char) : Prop :=
  ∀ next ∈ rest.head?, belongsToName false next = false

theorem nameEnds_nil : NameEnds [] := by
  simp [NameEnds]

theorem nameEnds_punctuation (mark : isPunctuation character = true) :
    NameEnds (character :: rest) := by
  simpa [NameEnds] using not_belongsToName_of_isPunctuation mark false

theorem belongsToName_false_of_isBlank (blank : isBlank character = true) :
    belongsToName false character = false := by
  have notDot : character ≠ '.' := by
    intro equal
    subst equal
    revert blank
    decide
  simp [belongsToName, not_continuesSegment_of_isBlank blank, notDot]

/-- A name ends before white space and before punctuation. -/
theorem nameEnds_of_skips (skips : Skips text (character :: rest))
    (mark : isPunctuation character = true) : NameEnds text := by
  rcases skips with ⟨blank, allBlank, rfl⟩
  cases blank with
  | nil => exact nameEnds_punctuation mark
  | cons first later =>
      simpa [NameEnds] using belongsToName_false_of_isBlank (allBlank first List.mem_cons_self)

theorem splitName_cons_of_belongs {segmentStarts : Bool}
    (belongs : belongsToName segmentStarts character = true) :
    splitName segmentStarts (character :: rest) =
      (character :: (splitName (character == '.') rest).1,
        (splitName (character == '.') rest).2) := by
  rw [splitName, if_pos belongs]

theorem splitName_cons_of_not_belongs {segmentStarts : Bool}
    (foreign : belongsToName segmentStarts character = false) :
    splitName segmentStarts (character :: rest) = ([], character :: rest) := by
  rw [splitName, if_neg (by simp [foreign])]

theorem splitName_of_nameEnds (ends : NameEnds rest) : splitName false rest = ([], rest) := by
  cases rest with
  | nil => rfl
  | cons next later => exact splitName_cons_of_not_belongs (ends next (by simp))

/-- Inside a segment, the splitting goes on through the rest of the segment. -/
theorem splitName_continues : ∀ {later : List Char} (rest : List Char),
    (∀ character ∈ later, continuesSegment character = true) →
      splitName false (later ++ rest) =
        (later ++ (splitName false rest).1, (splitName false rest).2)
  | [], rest, _ => rfl
  | character :: later, rest, all => by
      rcases List.forall_mem_cons.mp all with ⟨continues, others⟩
      have belongs : belongsToName false character = true := by
        simp [belongsToName, continues]
      rw [List.cons_append, splitName_cons_of_belongs belongs,
        beq_eq_false_iff_ne.mpr (ne_dot_of_continuesSegment continues),
        splitName_continues rest others]
      rfl

theorem splitName_segment {segment : List Char} (isSegment : Segment segment)
    (rest : List Char) :
    splitName true (segment ++ rest) =
      (segment ++ (splitName false rest).1, (splitName false rest).2) := by
  rcases isSegment with ⟨first, later, rfl, starts, continues⟩
  have notDot := ne_dot_of_continuesSegment (continuesSegment_of_startsSegment starts)
  rw [List.cons_append, splitName_cons_of_belongs (by exact starts),
    beq_eq_false_iff_ne.mpr notDot, splitName_continues rest continues]
  rfl

/-- After a dotted name the splitting stands where a segment may go on. -/
theorem splitName_dotted {name : List Char} (dotted : DottedName name) (rest : List Char) :
    splitName true (name ++ rest) =
      (name ++ (splitName false rest).1, (splitName false rest).2) := by
  induction dotted with
  | segment only => exact splitName_segment only rest
  | @dotted first later segment _ induction =>
      have dot : belongsToName false '.' = true := by decide
      rw [List.append_assoc, splitName_segment segment, List.cons_append,
        splitName_cons_of_belongs dot, beq_self_eq_true, induction]
      simp only [List.append_assoc, List.cons_append]

theorem Segment.ne_nil {segment : List Char} (isSegment : Segment segment) :
    segment ≠ [] := by
  rcases isSegment with ⟨first, later, rfl, -⟩
  exact List.cons_ne_nil first later

theorem Segment.append_one {segment : List Char} (isSegment : Segment segment)
    (continues : continuesSegment character = true) : Segment (segment ++ [character]) := by
  rcases isSegment with ⟨first, later, rfl, starts, all⟩
  refine ⟨first, later ++ [character], rfl, starts, ?_⟩
  simpa [or_imp, forall_and] using ⟨all, continues⟩

/-- What a splitting takes is a dotted name, if anything is taken and no dot is
last.  The segment that has been read so far goes before what is taken next. -/
theorem splitName_taken : ∀ text : List Char,
    (∀ segment, Segment segment →
      (segment ++ (splitName false text).1).getLast? = some '.' ∨
        DottedName (segment ++ (splitName false text).1)) ∧
      ((splitName true text).1 = [] ∨ (splitName true text).1.getLast? = some '.' ∨
        DottedName (splitName true text).1)
  | [] => ⟨fun segment isSegment => .inr (by simpa [splitName] using .segment isSegment),
      .inl rfl⟩
  | character :: later => by
      rcases splitName_taken later with ⟨within, atStart⟩
      constructor
      · intro segment isSegment
        cases belongs : belongsToName false character with
        | false =>
            rw [splitName_cons_of_not_belongs belongs, List.append_nil]
            exact .inr (.segment isSegment)
        | true =>
            rw [splitName_cons_of_belongs belongs]
            by_cases dot : character = '.'
            · subst dot
              rw [beq_self_eq_true]
              rcases atStart with none | last | dotted
              · left
                simp [none]
              · left
                simp [List.getLast?_append, List.getLast?_cons, last]
              · exact .inr (.dotted isSegment dotted)
            · have continues : continuesSegment character = true := by
                simpa [belongsToName, dot] using belongs
              rw [beq_eq_false_iff_ne.mpr dot, List.append_cons]
              exact within _ (isSegment.append_one continues)
      · cases starts : startsSegment character with
        | false => exact .inl (by rw [splitName_cons_of_not_belongs (by exact starts)])
        | true =>
            have notDot := ne_dot_of_continuesSegment (continuesSegment_of_startsSegment starts)
            rw [splitName_cons_of_belongs (by exact starts), beq_eq_false_iff_ne.mpr notDot]
            exact .inr (within [character] ⟨character, [], rfl, starts, by simp⟩)

theorem DottedName.ne_nil {name : List Char} (dotted : DottedName name) : name ≠ [] := by
  cases dotted with
  | segment only => exact only.ne_nil
  | dotted first _ => exact List.append_ne_nil_of_left_ne_nil first.ne_nil _

theorem DottedName.getLast?_ne {name : List Char} (dotted : DottedName name) :
    name.getLast? ≠ some '.' := by
  induction dotted with
  | segment only =>
      rcases only with ⟨first, later, rfl, starts, continues⟩
      intro last
      have member := List.mem_of_getLast? last
      rcases List.mem_cons.mp member with equal | inLater
      · exact ne_dot_of_continuesSegment (continuesSegment_of_startsSegment starts) equal.symm
      · exact ne_dot_of_continuesSegment (continues _ inLater) rfl
  | @dotted first later _ laterDotted induction =>
      cases later with
      | nil => exact absurd rfl laterDotted.ne_nil
      | cons next more => simpa [List.getLast?_append, List.getLast?_cons] using induction

theorem nameAt_of_readName {read : Read String text.length}
    (found : readName text = .ok read) : NameAt text read.value.toList read.rest := by
  unfold readName at found
  split at found
  · cases found
  · next first taken rest split =>
      split at found
      · cases found
      · next complete =>
          cases found
          have whole := splitName_append true text
          have name := (splitName_taken text).2
          rw [split] at whole name
          rw [String.toList_ofList]
          refine ⟨whole.symm, ?_, ?_⟩
          · rcases name with none | last | dotted
            · cases none
            · exact absurd last complete
            · exact dotted
          · intro longer before dotted
            rcases before with ⟨more, rfl⟩
            rw [splitName_dotted dotted] at split
            have taken : longer ++ (splitName false more).1 = first :: taken :=
              congrArg Prod.fst split
            rw [← taken, List.length_append]
            exact Nat.le_add_right ..

/-- A dotted name is read whole when nothing after it could make it longer. -/
theorem readName_of_dotted {name : List Char} (dotted : DottedName name)
    (ends : NameEnds rest) :
    ∃ within, readName (name ++ rest) = .ok ⟨String.ofList name, rest, within⟩ := by
  have taken : splitName true (name ++ rest) = (name, rest) := by
    rw [splitName_dotted dotted, splitName_of_nameEnds ends, List.append_nil]
  have positive := List.length_pos_iff.mpr dotted.ne_nil
  refine ⟨by rw [List.length_append]; omega, ?_⟩
  unfold readName
  split
  · next after split =>
      rcases Prod.mk.inj (split.symm.trans taken) with ⟨rfl, rfl⟩
      exact absurd rfl dotted.ne_nil
  · next first more after split =>
      rcases Prod.mk.inj (split.symm.trans taken) with ⟨rfl, rfl⟩
      exact if_neg dotted.getLast?_ne

theorem nameAt_of_dotted {name : List Char} (dotted : DottedName name) (ends : NameEnds rest) :
    NameAt (name ++ rest) name rest := by
  rcases readName_of_dotted dotted ends with ⟨within, found⟩
  have here := nameAt_of_readName found
  rwa [String.toList_ofList] at here

/-- Whether the reader of names takes the whole text. -/
def isName (name : String) : Bool :=
  match readName name.toList with
  | .error _ => false
  | .ok read => read.rest.isEmpty

theorem isName_iff {name : String} : isName name = true ↔ DottedName name.toList := by
  constructor
  · intro whole
    unfold isName at whole
    split at whole
    · cases whole
    · next read found =>
        have here := nameAt_of_readName found
        rw [here.split, List.isEmpty_iff.mp whole, List.append_nil]
        exact here.dotted
  · intro dotted
    have whole := readName_of_dotted dotted nameEnds_nil
    rw [List.append_nil] at whole
    rcases whole with ⟨within, found⟩
    rw [isName, found]
    rfl

end FieldTypes.Expression
