import FieldTypes.Expression.Name
import FieldTypes.Text.Blank

/-! White space never belongs to a name, and neither does punctuation.  For the
Unicode properties this is read off their ranges. -/

namespace FieldTypes.Text

/-- No range of the one set meets a range of the other. -/
def apart (left right : List CodeRange) : Bool :=
  left.all fun range => right.all fun other =>
    range.last < other.first || other.last < range.first

theorem exists_contains_of_inRanges : ∀ {ranges : List CodeRange} {code : Nat},
    inRanges ranges code = true → ∃ range ∈ ranges, range.contains code = true
  | [], _, found => by cases found
  | range :: later, code, found => by
      rw [inRanges] at found
      split at found
      · cases found
      · next reached =>
          rcases Bool.or_eq_true_iff.mp found with within | further
          · refine ⟨range, List.mem_cons_self, ?_⟩
            rw [CodeRange.contains, within, Bool.and_true, decide_eq_true_iff]
            exact Nat.le_of_not_lt reached
          · rcases exists_contains_of_inRanges further with ⟨other, member, contains⟩
            exact ⟨other, List.mem_cons_of_mem range member, contains⟩

theorem inRanges_eq_false_of_apart {left right : List CodeRange} {code : Nat}
    (separate : apart left right = true) (member : inRanges left code = true) :
    inRanges right code = false := by
  rw [← Bool.not_eq_true]
  intro other
  rcases exists_contains_of_inRanges member with ⟨range, inLeft, rangeContains⟩
  rcases exists_contains_of_inRanges other with ⟨next, inRight, nextContains⟩
  have disjoint := List.all_eq_true.mp (List.all_eq_true.mp separate range inLeft)
    next inRight
  simp only [CodeRange.contains, Bool.and_eq_true, Bool.or_eq_true,
    decide_eq_true_eq] at rangeContains nextContains disjoint
  omega

theorem not_isAlphabetic_of_isBlank {character : Char} (blank : isBlank character = true) :
    isAlphabetic character = false :=
  inRanges_eq_false_of_apart (by decide +kernel) blank

theorem not_isNumeric_of_isBlank {character : Char} (blank : isBlank character = true) :
    isNumeric character = false :=
  inRanges_eq_false_of_apart (by decide +kernel) blank

end FieldTypes.Text

namespace FieldTypes.Expression

open Text

variable {character : Char}

theorem continuesSegment_of_startsSegment (starts : startsSegment character = true) :
    continuesSegment character = true := by
  simp only [startsSegment, Bool.or_eq_true] at starts
  simp only [continuesSegment, Bool.or_eq_true]
  rcases starts with (letter | underscore) | dollar
  · exact .inl (.inl (.inl letter))
  · exact .inl (.inr underscore)
  · exact .inr dollar

theorem not_continuesSegment_of_isBlank (blank : isBlank character = true) :
    continuesSegment character = false := by
  have notUnderscore : character ≠ '_' := by
    intro equal
    subst equal
    revert blank
    decide
  have notDollar : character ≠ '$' := by
    intro equal
    subst equal
    revert blank
    decide
  simp only [continuesSegment, not_isAlphabetic_of_isBlank blank,
    not_isNumeric_of_isBlank blank, beq_eq_false_iff_ne.mpr notUnderscore,
    beq_eq_false_iff_ne.mpr notDollar, Bool.or_self]

theorem not_isBlank_of_continuesSegment (continues : continuesSegment character = true) :
    isBlank character = false := by
  rw [← Bool.not_eq_true]
  intro blank
  rw [not_continuesSegment_of_isBlank blank] at continues
  cases continues

theorem not_isBlank_of_startsSegment (starts : startsSegment character = true) :
    isBlank character = false :=
  not_isBlank_of_continuesSegment (continuesSegment_of_startsSegment starts)

theorem ne_dot_of_continuesSegment (continues : continuesSegment character = true) :
    character ≠ '.' := by
  intro equal
  subst equal
  revert continues
  decide

/-- The characters that stand between names. -/
def punctuation : List Char :=
  ['<', '>', ',', '?', '[', ']']

def isPunctuation (character : Char) : Bool :=
  punctuation.contains character

theorem not_belongsToName_of_isPunctuation (mark : isPunctuation character = true)
    (segmentStarts : Bool) : belongsToName segmentStarts character = false := by
  have all : punctuation.all (fun mark => !belongsToName true mark && !belongsToName false mark)
      = true := by decide
  have foreign := List.all_eq_true.mp all character (List.contains_iff_mem.mp mark)
  simp only [Bool.and_eq_true, Bool.not_eq_true'] at foreign
  cases segmentStarts with
  | true => exact foreign.1
  | false => exact foreign.2

end FieldTypes.Expression
