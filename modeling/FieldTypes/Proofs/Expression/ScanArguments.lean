import FieldTypes.Proofs.Expression.ScanTokens

/-! What a scan makes of type arguments, given a scan for the types inside that ends as their
reader does wherever it may be called.  It ends as the reader of arguments does, and it closes
every bracket that it has opened. -/

namespace FieldTypes.Expression

open Text

/-- Both are unread parts of the text, and the same comes next in them behind white space. -/
structure Faces (text rest other : List Char) : Prop where
  rest_suffix : rest <:+ text
  other_suffix : other <:+ text
  same : skipBlank other = skipBlank rest

section

variable {text rest other : List Char} {character : Char}

theorem Faces.refl (suffix : rest <:+ text) : Faces text rest rest :=
  ⟨suffix, suffix, rfl⟩

theorem skipBlank_skipBlank (text : List Char) : skipBlank (skipBlank text) = skipBlank text :=
  (skips_skipBlank text).skipBlank_eq.symm

theorem Faces.skipBlank (faces : Faces text rest other) :
    Faces text rest (Text.skipBlank other) where
  rest_suffix := faces.rest_suffix
  other_suffix := (Text.skipBlank_suffix other).trans faces.other_suffix
  same := (skipBlank_skipBlank other).trans faces.same

theorem Faces.skipBlank_suffix (faces : Faces text rest other) : Text.skipBlank rest <:+ other :=
  faces.same ▸ Text.skipBlank_suffix other

theorem byteLength_skipBlank_le (text : List Char) :
    byteLength (skipBlank text) ≤ byteLength text :=
  byteLength_le_of_suffix (skipBlank_suffix text)

variable {mark : Read Unit rest.length}

theorem suffix_of_symbol? (found : symbol? character rest = some mark) :
    character :: mark.rest <:+ rest :=
  skipBlank_of_symbol? found ▸ skipBlank_suffix rest

theorem suffix_behind_symbol? (found : symbol? character rest = some mark) :
    mark.rest <:+ rest :=
  (List.suffix_cons character mark.rest).trans (suffix_of_symbol? found)

theorem Faces.behind (faces : Faces text rest other) (found : symbol? character rest = some mark) :
    Faces text mark.rest mark.rest :=
  .refl ((suffix_behind_symbol? found).trans faces.rest_suffix)

theorem Faces.symbol_suffix (faces : Faces text rest other)
    (found : symbol? character rest = some mark) : character :: mark.rest <:+ other :=
  skipBlank_of_symbol? found ▸ faces.skipBlank_suffix

theorem Faces.behind_suffix (faces : Faces text rest other)
    (found : symbol? character rest = some mark) : mark.rest <:+ other :=
  (List.suffix_cons _ _).trans (faces.symbol_suffix found)

/-- Behind a symbol less is ahead. -/
theorem Faces.byteLength_lt (faces : Faces text rest other)
    (found : symbol? character rest = some mark) : byteLength mark.rest < byteLength other :=
  byteLength_lt_of_cons_suffix (faces.symbol_suffix found)

end

/-- A scan from the start on ends as a reader does: with the same fault, or with the value and
in front of what the reader leaves. -/
def Settles {Value Result : Type} {limit : Nat} (text start : List Char) (nesting : Nat)
    (measure : Value → Result) (result : Except Failure (Read Value limit))
    (ending : Except Halt (Result × Cursor)) : Prop :=
  match result with
  | .error failure => ending = .error (.refused (failure.inText text))
  | .ok read => read.rest <:+ start ∧
      ending = .ok (measure read.value, cursorAt text read.rest nesting)

/-- The same, except that one of the two may already have passed more white space. -/
def SettlesNear {Value Result : Type} {limit : Nat} (text start : List Char) (nesting : Nat)
    (measure : Value → Result) (result : Except Failure (Read Value limit))
    (ending : Except Halt (Result × Cursor)) : Prop :=
  match result with
  | .error failure => ending = .error (.refused (failure.inText text))
  | .ok read => ∃ next, next <:+ start ∧ Faces text read.rest next ∧
      ending = .ok (measure read.value, cursorAt text next nesting)

theorem Settles.of_suffix {Value Result : Type} {limit : Nat} {text start earlier : List Char}
    {nesting : Nat} {measure : Value → Result} {result : Except Failure (Read Value limit)}
    {ending : Except Halt (Result × Cursor)}
    (settles : Settles text start nesting measure result ending) (suffix : start <:+ earlier) :
    Settles text earlier nesting measure result ending := by
  cases result with
  | error failure => exact settles
  | ok read => exact ⟨settles.1.trans suffix, settles.2⟩

def measured (type : DeclaredType) : DeclaredType × Nat :=
  (type, type.depth)

def allMeasured (types : List DeclaredType) : List DeclaredType × Nat :=
  (types, DeclaredType.greatestDepth types)

/-- A scan that ends as a reader does wherever less than the limit is ahead. -/
def Agrees (text : List Char) (limit nesting : Nat) (scan : Scan (DeclaredType × Nat))
    (reader : Reader DeclaredType) : Prop :=
  ∀ {rest other : List Char}, Faces text rest other → byteLength other < limit →
    Settles text other nesting measured (reader rest) (scan (cursorAt text other nesting))

namespace Scan

variable {text rest other : List Char} {limit nesting : Nat}
  {scan : Scan (DeclaredType × Nat)} {inner : Reader DeclaredType}

/-! ## Arguments -/

section

variable (agrees : Agrees text limit nesting scan inner)

include agrees

theorem settles_reference (faces : Faces text rest other) (near : byteLength other < limit) :
    Settles text other nesting measured (Expression.reference inner rest)
      (reference text scan (cursorAt text other nesting)) := by
  have step := agrees faces.skipBlank (Nat.lt_of_le_of_lt (byteLength_skipBlank_le other) near)
  rw [reference, bind_of_ok (skipBlanks_cursorAt faces.other_suffix), get_bind]
  unfold Expression.reference
  split
  · next failure failed =>
      rw [failed] at step
      exact bind_of_error step _
  · next kind after within found =>
      rw [found] at step
      rw [bind_of_ok step.2, faces.same]
      rfl
  · next read notPrimitive found =>
      rw [found] at step
      refine ⟨step.1.trans (skipBlank_suffix other), ?_⟩
      rw [bind_of_ok step.2]
      rcases read with ⟨type, after, within⟩
      cases type with
      | primitive kind => exact absurd rfl (notPrimitive kind after within)
      | plain _ | parameterized _ _ | array _ | typeVariable _ | anyWildcard
        | extendsWildcard _ | superWildcard _ => rfl

theorem settles_bounded {keyword : String} {place start : List Char}
    (word : place = keyword.toList ++ start) (suffix : place <:+ text)
    (near : byteLength place < limit) (wildcard : DeclaredType → DeclaredType) :
    Settles text place nesting (fun bound => (wildcard bound, bound.depth + 1))
      (Expression.reference inner start)
      (bounded text scan keyword wildcard (cursorAt text place nesting)) := by
  subst word
  have shorter := byteLength_le_of_suffix (List.suffix_append keyword.toList start)
  have step := settles_reference agrees
    (Faces.refl ((List.suffix_append _ _).trans suffix)) (Nat.lt_of_le_of_lt shorter near)
  rw [bounded, bind_of_ok (pass_cursorAt suffix)]
  cases found : Expression.reference inner start with
  | error failure =>
      rw [found] at step
      exact bind_of_error step _
  | ok read =>
      rw [found] at step
      rw [bind_of_ok step.2]
      exact ⟨step.1.trans (List.suffix_append _ _), rfl⟩

omit agrees in
theorem wildcard_cursorAt (suffix : rest <:+ text) :
    wildcard text scan (cursorAt text rest nesting) =
      (if (keyword? "extends".toList (skipBlank rest)).isSome then
          bounded text scan "extends" .extendsWildcard
        else if (keyword? "super".toList (skipBlank rest)).isSome then
          bounded text scan "super" .superWildcard
        else return (.anyWildcard, 1)) (cursorAt text (skipBlank rest) nesting) := by
  rw [wildcard, bind_of_ok (skipBlanks_cursorAt suffix),
    bind_of_ok (unread_cursorAt ((skipBlank_suffix rest).trans suffix))]

/-- A wildcard with a bound, which must not get too deep around it. -/
theorem settles_boundedArgument {keyword : String} {wildcard : DeclaredType → DeclaredType}
    (deeper : ∀ bound, (wildcard bound).depth = bound.depth + 1) {place start : List Char}
    (word : place = keyword.toList ++ start) (suffix : place <:+ text)
    (near : byteLength place < limit) {wider : Nat}
    {result : Except Failure (Read DeclaredType wider)}
    (failing : ∀ failure, Expression.reference inner start = .error failure →
      result = .error failure)
    (passing : ∀ bound, Expression.reference inner start = .ok bound →
      ∃ enough : start.length ≤ wider, result = boundedBy wildcard (bound.widen enough)) :
    Settles text place nesting measured result
      ((bounded text scan keyword wildcard >>= fun found =>
        checkDepth found.2 >>= fun _ => pure found) (cursorAt text place nesting)) := by
  have step := settles_bounded agrees word suffix near wildcard
  cases found : Expression.reference inner start with
  | error failure =>
      rw [found] at step
      rw [failing failure found]
      exact bind_of_error step _
  | ok bound =>
      rw [found] at step
      rcases passing bound found with ⟨enough, rfl⟩
      rw [bind_of_ok step.2]
      dsimp only
      unfold boundedBy checkDepth
      rw [Read.widen, deeper]
      split
      · exact bind_of_error (refuse_cursorAt .tooDeep) _
      · refine ⟨step.1, ?_⟩
        rw [measured, Read.map, deeper]
        rfl

theorem settles_argument (faces : Faces text rest other) (near : byteLength other < limit) :
    Settles text other nesting measured (Expression.argument inner rest)
      (argument text scan (cursorAt text other nesting)) := by
  unfold Expression.argument
  split
  · next missing =>
      rw [argument, bind_of_ok (eat_of_symbol?_eq_none faces.other_suffix faces.same missing)]
      exact (settles_reference agrees faces.skipBlank
        (Nat.lt_of_le_of_lt (byteLength_skipBlank_le other) near)).of_suffix
          (skipBlank_suffix other)
  · next mark marked =>
      have behind := (faces.behind marked).skipBlank
      have inside := (skipBlank_suffix mark.rest).trans (faces.behind_suffix marked)
      have nearer := Nat.lt_of_le_of_lt (byteLength_skipBlank_le mark.rest)
        (Nat.lt_trans (faces.byteLength_lt marked) near)
      rw [argument, bind_of_ok (eat_of_symbol? faces.other_suffix faces.same marked),
        if_pos rfl, bind_congr_start (wildcard_cursorAt behind.rest_suffix)]
      split
      · next start upper =>
          rcases keyword?_eq_some_iff.mp upper with ⟨word, -⟩
          rw [if_pos (Option.isSome_of_eq_some upper)]
          refine (settles_boundedArgument agrees (fun _ => by rw [DeclaredType.depth]) word
            behind.other_suffix nearer ?_ ?_).of_suffix inside
          · intro failure failed
            rw [failed]
          · intro bound found
            rw [found]
            exact ⟨_, rfl⟩
      · next noUpper =>
          rw [if_neg (Option.not_isSome_iff_eq_none.mpr noUpper)]
          split
          · next start lower =>
              rcases keyword?_eq_some_iff.mp lower with ⟨word, -⟩
              rw [if_pos (Option.isSome_of_eq_some lower)]
              refine (settles_boundedArgument agrees (fun _ => by rw [DeclaredType.depth]) word
                behind.other_suffix nearer ?_ ?_).of_suffix inside
              · intro failure failed
                rw [failed]
              · intro bound found
                rw [found]
                exact ⟨_, rfl⟩
          · next noLower =>
              rw [if_neg (Option.not_isSome_iff_eq_none.mpr noLower)]
              exact ⟨inside, rfl⟩

end

/-- The end of the arguments: the scan closes a bracket and checks the depth. -/
def Closes (text start : List Char) (nesting : Nat) (before : List DeclaredType × Nat)
    {limit : Nat} (result : Except Failure (Read (List DeclaredType) limit))
    (ending : Except Halt ((List DeclaredType × Nat) × Cursor)) : Prop :=
  match result with
  | .error failure => ending = .error (.refused (failure.inText text))
  | .ok read =>
      let depth := max before.2 (DeclaredType.greatestDepth read.value)
      read.rest <:+ start ∧
        ending =
          if maximalDepth < depth + 1 then
            .error (.refused (Failure.inText text ⟨read.rest, .tooDeep⟩))
          else .ok ((before.1 ++ read.value, depth), cursorAt text read.rest nesting)

section

variable (state : List DeclaredType × Nat) {value : DeclaredType} {place : List Char}
  {cursor : Cursor} {mark : Read Unit place.length}
  (first : argument text scan cursor = .ok (measured value, cursorAt text place (nesting + 1)))
  (here : Faces text place place)

include first here

theorem argumentsTurn_of_comma (separated : symbol? ',' place = some mark) :
    argumentsTurn text scan state cursor =
      .ok (.again (state.1 ++ [value], max state.2 value.depth),
        cursorAt text mark.rest (nesting + 1)) := by
  rw [argumentsTurn, bind_of_ok first, bind_of_ok (eat_of_symbol? here.other_suffix rfl separated)]
  rfl

theorem argumentsTurn_of_close (missing : symbol? ',' place = none)
    (closed : symbol? '>' place = some mark) :
    argumentsTurn text scan state cursor =
      (checkDepth (max state.2 value.depth + 1) >>= fun _ =>
        pure (.last (state.1 ++ [value], max state.2 value.depth)))
        (cursorAt text mark.rest nesting) := by
  rw [argumentsTurn, bind_of_ok first,
    bind_of_ok (eat_of_symbol?_eq_none here.other_suffix rfl missing),
    if_neg Bool.false_ne_true,
    bind_of_ok (expect_of_symbol? here.skipBlank.other_suffix here.skipBlank.same closed _)]
  rfl

end

theorem closes_arguments (agrees : Agrees text limit (nesting + 1) scan inner) :
    ∀ {rest other : List Char} (state : List DeclaredType × Nat), Faces text rest other →
      byteLength other < limit →
      Closes text other nesting state (Expression.arguments inner rest)
        (loop text (argumentsTurn text scan) state (cursorAt text other (nesting + 1))) := by
  intro rest other state faces near
  have first := settles_argument agrees faces near
  rw [Expression.arguments]
  split
  · next failure failed =>
      rw [failed] at first
      exact loop_of_error (bind_of_error first _)
  · next found firstFound =>
      rw [firstFound] at first
      rcases first with ⟨behind, first⟩
      have here := Faces.refl (behind.trans faces.other_suffix)
      split
      · next comma separated =>
          have shorter := Nat.lt_trans comma.within found.within
          have less : byteLength comma.rest < byteLength other :=
            Nat.lt_of_lt_of_le (here.byteLength_lt separated) (byteLength_le_of_suffix behind)
          have progress : (cursorAt text comma.rest (nesting + 1)).ahead text <
              (cursorAt text other (nesting + 1)).ahead text := by
            rw [ahead_cursorAt (here.behind separated).other_suffix,
              ahead_cursorAt faces.other_suffix]
            exact less
          have later := closes_arguments agrees
            (state.1 ++ [found.value], max state.2 found.value.depth) (here.behind separated)
            (Nat.lt_trans less near)
          rw [loop_of_again (argumentsTurn_of_comma state first here separated) progress]
          dsimp only
          split
          · next failure failed =>
              rw [failed] at later
              exact later
          · next others othersFound =>
              rw [othersFound] at later
              refine ⟨later.1.trans ((here.behind_suffix separated).trans behind), ?_⟩
              rw [later.2, DeclaredType.greatestDepth, Nat.max_assoc]
              dsimp only
              rw [List.append_assoc]
              rfl
      · next missing =>
          split
          · next close closed =>
              have turned := argumentsTurn_of_close state first here missing closed
              refine ⟨(here.behind_suffix closed).trans behind, ?_⟩
              rw [DeclaredType.greatestDepth, DeclaredType.greatestDepth, Nat.max_zero]
              split
              · next deep =>
                  rw [checkDepth, if_pos deep, bind_of_error (refuse_cursorAt .tooDeep)] at turned
                  exact loop_of_error turned
              · next shallow =>
                  rw [checkDepth, if_neg shallow] at turned
                  exact loop_of_last turned
          · next unclosed =>
              apply loop_of_error
              rw [argumentsTurn, bind_of_ok first,
                bind_of_ok (eat_of_symbol?_eq_none here.other_suffix rfl missing)]
              exact bind_of_error (expect_of_symbol?_eq_none here.skipBlank.other_suffix
                here.skipBlank.same unclosed) _
termination_by rest => rest.length

/-- There is a reader for the types inside exactly if another bracket may open. -/
theorem settles_typeArguments {inner? : Option (Reader DeclaredType)}
    (innermost : inner? = none ↔ maximalDepth ≤ nesting)
    (agrees : ∀ inner, inner? = some inner → Agrees text limit (nesting + 1) scan inner)
    (faces : Faces text rest other) (near : byteLength other < limit) :
    SettlesNear text other nesting (Option.map allMeasured)
      (Expression.typeArguments inner? rest)
      (typeArguments text scan (cursorAt text other nesting)) := by
  unfold Expression.typeArguments
  split
  · next missing =>
      rw [typeArguments, bind_of_ok (eat_of_symbol?_eq_none faces.other_suffix faces.same missing)]
      exact ⟨skipBlank other, skipBlank_suffix other, faces.skipBlank, rfl⟩
  · next opened opening =>
      have behind := faces.behind opening
      have less := faces.byteLength_lt opening
      rw [typeArguments, bind_of_ok (eat_of_symbol? faces.other_suffix faces.same opening),
        if_pos rfl, get_bind]
      cases inner? with
      | none =>
          rw [if_pos (by exact innermost.mp rfl)]
          exact refuse_cursorAt .tooDeep
      | some inner =>
          have shallow : ¬ maximalDepth ≤ nesting := by
            intro deep
            cases innermost.mpr deep
          rw [if_neg (by exact shallow)]
          dsimp only
          split
          · next closed closing =>
              rw [bind_of_ok (eat_of_symbol? behind.other_suffix rfl closing), if_pos rfl]
              exact refuse_cursorAt .emptyArguments
          · next missing =>
              have read := closes_arguments (agrees inner rfl) ([], 0) behind.skipBlank
                (Nat.lt_of_le_of_lt (byteLength_skipBlank_le _) (Nat.lt_trans less near))
              have deeper : (modify fun cursor => { cursor with nesting := cursor.nesting + 1 } :
                  Scan Unit) (cursorAt text (skipBlank opened.rest) nesting) =
                    .ok ((), cursorAt text (skipBlank opened.rest) (nesting + 1)) := rfl
              rw [bind_of_ok (eat_of_symbol?_eq_none behind.other_suffix rfl missing),
                if_neg Bool.false_ne_true, bind_of_ok deeper]
              split
              · next failure failed =>
                  rw [failed] at read
                  exact bind_of_error read _
              · next found listFound =>
                  rw [listFound] at read
                  rcases read with ⟨inside, ended⟩
                  have suffix := inside.trans
                    ((skipBlank_suffix _).trans (faces.behind_suffix opening))
                  rw [Nat.zero_max] at ended
                  split
                  · next deep =>
                      rw [if_pos deep] at ended
                      exact bind_of_error ended _
                  · next shallow =>
                      rw [if_neg shallow] at ended
                      refine ⟨found.rest, suffix, .refl (suffix.trans faces.other_suffix), ?_⟩
                      exact bind_of_ok ended _

end Scan

end FieldTypes.Expression
