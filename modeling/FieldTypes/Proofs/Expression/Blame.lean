import FieldTypes.Proofs.Sequences
import FieldTypes.Proofs.Expression.ScanTypes
import FieldTypes.Proofs.Expression.Truncation

/-! Where a fault of a text is said to be, there is what it names.  Each reader is followed to
every place where it fails, and what holds there holds in every longer text with the same end. -/

namespace FieldTypes.Expression

open Text

/-- What a cause says about the text, given what stands in front of its place and what stands
there and behind. -/
def Cause.PointsAt (registry : Registry) (scope : Scope) (before rest : List Char) :
    Cause → Prop
  | .unexpectedEnd => rest = []
  | .unexpectedCharacter character => rest.head? = some character
  | .unknownType name =>
      (∃ after, NameAt rest name.toList after) ∧ (∀ kind : Primitive, kind.keyword ≠ name) ∧
        name ∉ scope.parameters ∧ (∀ id, ¬ scope.IsOwnName name id) ∧
        registry.lookup? name = none
  | .primitiveArgument kind | .argumentsOnPrimitive kind =>
      ∃ after, NameAt rest kind.keyword.toList after
  | .argumentsOnVariable name =>
      (∃ after, NameAt rest name.toList after) ∧ name ∈ scope.parameters
  | .emptyArguments => before.getLast? = some '>'
  | .trailingInput =>
      (∃ next ∈ rest.head?, isBlank next = false) ∧
        ∃ type, parse registry scope (String.ofList before) = .ok type
  | .tooDeep => True

/-! ## Faults inside of a text -/

variable {registry : Registry} {scope : Scope} {text rest whole : List Char}
  {failure : Failure}

/-- The failure points at what it names, and not at what is left behind a type. -/
structure Blames (registry : Registry) (scope : Scope) (text : List Char) (failure : Failure) :
    Prop where
  points : ∃ before, text = before ++ failure.rest ∧
    failure.cause.PointsAt registry scope before failure.rest
  inside : failure.cause ≠ .trailingInput

theorem Blames.of_suffix (blames : Blames registry scope text failure)
    (suffix : text <:+ whole) : Blames registry scope whole failure := by
  rcases suffix with ⟨front, rfl⟩
  rcases blames with ⟨⟨before, rfl, points⟩, inside⟩
  refine ⟨⟨front ++ before, (List.append_assoc ..).symm, ?_⟩, inside⟩
  cases cause : failure.cause with
  | trailingInput => exact absurd cause inside
  | emptyArguments =>
      rw [cause] at points
      rw [Cause.PointsAt, List.getLast?_append, points, Option.some_or]
  | unexpectedEnd | unexpectedCharacter _ | unknownType _ | primitiveArgument _
    | argumentsOnVariable _ | argumentsOnPrimitive _ | tooDeep =>
      rw [cause] at points
      exact points

theorem blames_unexpected (suffix : rest <:+ text) :
    Blames registry scope text (.unexpected rest) := by
  rcases suffix with ⟨before, rfl⟩
  cases rest with
  | nil => exact ⟨⟨before, rfl, rfl⟩, nofun⟩
  | cons character later => exact ⟨⟨before, rfl, rfl⟩, nofun⟩

theorem blames_tooDeep (suffix : rest <:+ text) :
    Blames registry scope text ⟨rest, .tooDeep⟩ := by
  rcases suffix with ⟨before, rfl⟩
  exact ⟨⟨before, rfl, trivial⟩, nofun⟩

theorem blames_readName (failed : readName text = .error failure) :
    Blames registry scope text failure := by
  have ended := outcome_eq_error_iff.mpr failed
  rw [Scan.outcome_readName] at ended
  split at ended
  · cases ended
    exact blames_unexpected ⟨_, splitName_append true text⟩
  · cases ended

/-- A primitive is read from its keyword. -/
theorem Derives.nameAt_of_primitive {kind : Primitive}
    (derived : Derives (scope.Names registry) (.type (.primitive kind)) text rest) :
    ∃ after, NameAt (skipBlank text) kind.keyword.toList after := by
  generalize equal : Phrase.type (.primitive kind) = phrase at derived
  cases derived with
  | @bare _ start name _ meaning skips here named =>
      have meant : meaning = .primitive kind := by
        cases meaning <;> cases equal
        rfl
      subst meant
      cases named with
      | keyword same =>
          rcases here.exists_head with ⟨first, later, rfl, starts⟩
          rw [skips.skipBlank_cons (not_isBlank_of_startsSegment starts), same,
            String.toList_ofList]
          exact ⟨rest, here⟩
  | applied | array | reference | unbounded | extendsBound | superBound | last | more =>
      cases equal

/-- A name without a meaning is none of those that a text may use. -/
theorem Scope.unknown_of_meaning? {name : String}
    (missing : scope.meaning? registry name = none) :
    (∀ kind : Primitive, kind.keyword ≠ name) ∧ name ∉ scope.parameters ∧
      (∀ id, ¬ scope.IsOwnName name id) ∧ registry.lookup? name = none := by
  have unnamed : ∀ meaning, ¬ scope.Names registry name meaning := by
    intro meaning named
    cases missing.symm.trans (Scope.names_iff.mp named)
  have notKeyword : ∀ kind : Primitive, kind.keyword ≠ name :=
    fun kind same => unnamed _ (.keyword same)
  have notParameter : name ∉ scope.parameters :=
    fun member => unnamed _ (.parameter notKeyword member)
  have notOwn : ∀ id, ¬ scope.IsOwnName name id :=
    fun id own => unnamed _ (.own notKeyword notParameter own)
  refine ⟨notKeyword, notParameter, notOwn, ?_⟩
  cases found : registry.lookup? name with
  | none => rfl
  | some id => exact absurd (.other notKeyword notParameter notOwn found) (unnamed _)

theorem pointsAt_of_applied {before after : List Char} {name : String}
    {arguments : Option (List DeclaredType)} {cause : Cause}
    (unusable : applied name (scope.meaning? registry name) arguments = .error cause)
    (here : NameAt rest name.toList after) :
    cause.PointsAt registry scope before rest ∧ cause ≠ .trailingInput := by
  unfold applied at unusable
  split at unusable <;> cases unusable
  · next missing => exact ⟨⟨⟨after, here⟩, Scope.unknown_of_meaning? missing⟩, nofun⟩
  · next kind _ meant =>
      cases Scope.names_iff.mpr meant with
      | keyword same =>
          subst same
          exact ⟨⟨after, here⟩, nofun⟩
  · next variableName _ meant =>
      cases Scope.names_iff.mpr meant with
      | parameter _ member => exact ⟨⟨⟨after, here⟩, member⟩, nofun⟩

/-! ## Readers -/

/-- A reader that fails only where it finds a fault. -/
def BlamesFaults (registry : Registry) (scope : Scope) (reader : Reader DeclaredType) : Prop :=
  ∀ ⦃text : List Char⦄ ⦃failure : Failure⦄, reader text = .error failure →
    Blames registry scope text failure

section

variable {inner : Reader DeclaredType} (finds : FindsTypes (scope.Names registry) inner)
  (blames : BlamesFaults registry scope inner)

include finds blames

theorem blames_reference (failed : reference inner text = .error failure) :
    Blames registry scope text failure := by
  unfold reference at failed
  split at failed
  · next innerFailed =>
      cases failed
      exact blames innerFailed
  · next kind after within found =>
      cases failed
      rcases finds found with ⟨middle, derived, -⟩
      rcases skipBlank_suffix text with ⟨before, whole⟩
      exact ⟨⟨before, whole.symm, derived.nameAt_of_primitive⟩, nofun⟩
  · cases failed

omit blames in
theorem blames_boundedBy {wildcard : DeclaredType → DeclaredType} {start : List Char} {limit : Nat}
    {bound : Read DeclaredType start.length} (enough : start.length ≤ limit)
    (found : reference inner start = .ok bound)
    (failed : boundedBy wildcard (bound.widen enough) = .error failure) :
    Blames registry scope start failure := by
  rcases derives_of_reference finds found with ⟨-, middle, derived, skips⟩
  unfold boundedBy at failed
  split at failed
  · cases failed
    exact blames_tooDeep (skips.isSuffix.trans derived.isSuffix)
  · cases failed

theorem blames_argument (failed : argument inner text = .error failure) :
    Blames registry scope text failure := by
  unfold argument at failed
  split at failed
  · exact blames_reference finds blames failed
  · next mark marked =>
      have bounds : ∀ {keyword start : List Char},
          keyword? keyword (skipBlank mark.rest) = some start → start <:+ text := by
        intro keyword start word
        rw [keyword?_eq_some_iff] at word
        exact (word.1 ▸ List.suffix_append keyword start).trans ((skipBlank_suffix _).trans
          (suffix_behind_symbol? marked))
      split at failed
      · next start upper =>
          split at failed
          · next boundFailed =>
              cases failed
              exact (blames_reference finds blames boundFailed).of_suffix (bounds upper)
          · next bound boundFound =>
              exact (blames_boundedBy finds _ boundFound failed).of_suffix (bounds upper)
      · split at failed
        · next start lower =>
            split at failed
            · next boundFailed =>
                cases failed
                exact (blames_reference finds blames boundFailed).of_suffix (bounds lower)
            · next bound boundFound =>
                exact (blames_boundedBy finds _ boundFound failed).of_suffix (bounds lower)
        · cases failed

theorem blames_arguments : ∀ {text : List Char} {failure : Failure},
    arguments inner text = .error failure → Blames registry scope text failure := by
  intro text failure failed
  rw [arguments] at failed
  split at failed
  · next firstFailed =>
      cases failed
      exact blames_argument finds blames firstFailed
  · next first firstFound =>
      rcases derives_of_argument finds firstFound with ⟨middle, derived, skips⟩
      have inside := skips.isSuffix.trans derived.isSuffix
      split at failed
      · next comma separated =>
          have shorter := Nat.lt_trans comma.within first.within
          dsimp only at failed
          split at failed
          · next othersFailed =>
              cases failed
              exact (blames_arguments othersFailed).of_suffix
                ((suffix_behind_symbol? separated).trans inside)
          · cases failed
      · split at failed
        · cases failed
        · cases failed
          exact blames_unexpected ((skipBlank_suffix _).trans inside)
termination_by text => text.length

end

section

variable {inner? : Option (Reader DeclaredType)}
  (finds : FindsInner (scope.Names registry) inner?)
  (blames : ∀ inner, inner? = some inner → BlamesFaults registry scope inner)

include finds blames

theorem blames_typeArguments (failed : typeArguments inner? text = .error failure) :
    Blames registry scope text failure := by
  unfold typeArguments at failed
  split at failed
  · cases failed
  · next opened opening =>
      have inside := suffix_behind_symbol? opening
      cases inner? with
      | none =>
          cases failed
          exact blames_tooDeep inside
      | some inner =>
          dsimp only at failed
          split at failed
          · next closed closing =>
              cases failed
              rcases (suffix_of_symbol? closing).trans inside with ⟨before, whole⟩
              exact ⟨⟨before ++ ['>'], whole.symm.trans (List.append_cons ..),
                List.getLast?_concat⟩, by simp⟩
          · split at failed
            · next listFailed =>
                cases failed
                exact (blames_arguments (finds inner rfl) (blames inner rfl)
                  listFailed).of_suffix inside
            · next list listFound =>
                split at failed
                · cases failed
                  rcases derives_of_arguments (finds inner rfl) listFound with
                    ⟨middle, derived, closed⟩
                  exact blames_tooDeep
                    (closed.isSuffix_tail.trans (derived.isSuffix.trans inside))
                · cases failed

theorem blames_element
    (failed : element (scope.meaning? registry) inner? text = .error failure) :
    Blames registry scope text failure := by
  have visible := skipBlank_suffix text
  unfold element at failed
  split at failed
  · next nameFailed =>
      cases failed
      exact (blames_readName nameFailed).of_suffix visible
  · next name nameFound =>
      have here := nameAt_of_readName nameFound
      split at failed
      · next argumentsFailed =>
          cases failed
          exact (blames_typeArguments finds blames argumentsFailed).of_suffix
            (here.isSuffix.trans visible)
      · next arguments argumentsFound =>
          split at failed
          · next cause unusable =>
              cases failed
              rcases visible with ⟨before, whole⟩
              rcases pointsAt_of_applied unusable here with ⟨points, inside⟩
              exact ⟨⟨before, whole.symm, points⟩, inside⟩
          · cases failed

omit finds blames in
theorem blames_dimensions : ∀ {text : List Char} {type : DeclaredType} {failure : Failure},
    dimensions type text = .error failure → Blames registry scope text failure := by
  intro text type failure failed
  rw [dimensions] at failed
  split at failed
  · cases failed
  · next opened opening =>
      have inside := suffix_behind_symbol? opening
      split at failed
      · cases failed
        exact blames_unexpected ((skipBlank_suffix _).trans inside)
      · next closed closing =>
          have behind := (suffix_behind_symbol? closing).trans inside
          split at failed
          · cases failed
            exact blames_tooDeep behind
          · have shorter := Nat.lt_trans closed.within opened.within
            dsimp only at failed
            split at failed
            · next laterFailed =>
                cases failed
                exact (blames_dimensions laterFailed).of_suffix behind
            · cases failed
termination_by text => text.length

theorem blamesFaults_withDimensions :
    BlamesFaults registry scope (withDimensions (element (scope.meaning? registry) inner?)) := by
  intro text failure failed
  unfold withDimensions at failed
  split at failed
  · next baseFailed =>
      cases failed
      exact blames_element finds blames baseFailed
  · next base baseFound =>
      split at failed
      · next dimensionsFailed =>
          cases failed
          have derived := derives_of_element
            (fun name meaning => (names_agree registry scope name meaning).mpr) finds baseFound
          exact (blames_dimensions dimensionsFailed).of_suffix derived.isSuffix
      · cases failed

end

theorem blamesFaults_typeWithin (registry : Registry) (scope : Scope) : ∀ levels,
    BlamesFaults registry scope (typeWithin (scope.meaning? registry) levels)
  | 0 => blamesFaults_withDimensions nofun nofun
  | levels + 1 => by
      refine blamesFaults_withDimensions ?_ ?_
      · intro inner same
        rw [← Option.some.inj same]
        exact findsTypes_names registry scope levels
      · intro inner same
        rw [← Option.some.inj same]
        exact blamesFaults_typeWithin registry scope levels

/-- Behind a type that the text begins with, something else is left. -/
theorem pointsAt_of_readWhole
    (failed : readWhole (scope.meaning? registry) text = .error failure) :
    ∃ before, text = before ++ failure.rest ∧
      failure.cause.PointsAt registry scope before failure.rest := by
  unfold readWhole at failed
  split at failed
  · next typeFailed =>
      cases failed
      exact (blamesFaults_typeWithin registry scope _ typeFailed).points
  · next read found =>
      split at failed
      · cases failed
      · next next later unread =>
          cases failed
          rcases parse_front found (skips_of_skipBlank unread) with ⟨before, whole, alone⟩
          have visible : isBlank next = false := by
            have first := List.head?_dropWhile_not isBlank read.rest
            rw [show read.rest.dropWhile isBlank = next :: later from unread] at first
            simpa using first
          exact ⟨before, whole, ⟨next, rfl, visible⟩, read.value, alone⟩

/-! ## Errors as callers see them -/

theorem byteLength_eq_utf8ByteSize (text : List Char) :
    byteLength text = (String.ofList text).utf8ByteSize := by
  induction text with
  | nil => rfl
  | cons character later induction =>
      rw [byteLength, induction, String.ofList_cons, String.utf8ByteSize_append,
        String.utf8ByteSize_singleton]

/-- The place of an error is a boundary between characters of the text, or its end, and what
the error names is there.  A scan of the text, which halts at any cut through a character, gets
to the same error. -/
theorem parse_error_points_at_its_cause {error : Error} {text : String}
    (failed : parse registry scope text = .error error) :
    scan (maximalDepth + 1) registry scope text = .error (.refused error) ∧
      String.Pos.Raw.IsValid text ⟨error.offset⟩ ∧
      ∃ before rest : String, text = before ++ rest ∧ error.offset = before.utf8ByteSize ∧
        error.cause.PointsAt registry scope before.toList rest.toList := by
  refine ⟨by rw [scan_eq_parse, failed]; rfl, ?_⟩
  unfold parse at failed
  cases read : readWhole (scope.meaning? registry) text.toList with
  | ok type =>
      rw [read] at failed
      cases failed
  | error failure =>
      rw [read] at failed
      cases failed
      rcases pointsAt_of_readWhole read with ⟨before, whole, points⟩
      have split : text = String.ofList before ++ String.ofList failure.rest := by
        rw [← String.ofList_append, ← whole, String.ofList_toList]
      have offset : (failure.inText text.toList).offset = (String.ofList before).utf8ByteSize := by
        rw [← byteLength_eq_utf8ByteSize, whole]
        exact byteOffset_append before failure.rest
      refine ⟨String.Pos.Raw.isValid_iff_exists_append.mpr ⟨_, _, split, ?_⟩,
        _, _, split, offset, ?_⟩
      · exact congrArg String.Pos.Raw.mk offset
      · rwa [String.toList_ofList, String.toList_ofList]

theorem parse_error_points_behind_variable :
    parse (.empty ⟨0⟩) ⟨["Ä"], none⟩ "Ä[ ] ß" = .error ⟨6, .trailingInput⟩ ∧
      String.Pos.Raw.IsValid "Ä[ ] ß" ⟨6⟩ ∧
      ∃ before rest : String, "Ä[ ] ß" = before ++ rest ∧ 6 = before.utf8ByteSize ∧
        Cause.trailingInput.PointsAt (.empty ⟨0⟩) ⟨["Ä"], none⟩ before.toList rest.toList := by
  have failed : parse (.empty ⟨0⟩) ⟨["Ä"], none⟩ "Ä[ ] ß" = .error ⟨6, .trailingInput⟩ := by
    decide +kernel
  exact ⟨failed, (parse_error_points_at_its_cause failed).2⟩

end FieldTypes.Expression
